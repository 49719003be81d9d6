import WebhostBilling.Store.Queries

/-!
# Invoice numbers

The settings an invoice number is made of.  `InvoiceNumberingSettings` carries what
`invoiceNumberingSettingsSchema` checks, so a value of it is one that the schema accepts; `parse` is
the schema.  A number says which number of which sequence it is (`formatInvoiceNumber_inj`).
-/

namespace WebhostBilling

open Store

namespace Settings

def isUpperLetter (c : Char) : Bool := 'A' ≤ c ∧ c ≤ 'Z'

def isUpperAlphanumeric (c : Char) : Bool := isUpperLetter c ∨ ('0' ≤ c ∧ c ≤ '9')

/-- `/^[A-Z][A-Z0-9]{1,9}$/`. -/
def isNumberPrefix (text : String) : Bool :=
  match text.toList with
  | [] => false
  | first :: rest =>
    isUpperLetter first ∧ rest.all isUpperAlphanumeric = true ∧ 1 ≤ rest.length ∧ rest.length ≤ 9

def numberingAccepted (numberPrefix : String) (nextNumber padding : ℕ) : Bool :=
  isNumberPrefix numberPrefix = true ∧ 1 ≤ nextNumber ∧ nextNumber ≤ 999999999999 ∧
    4 ≤ padding ∧ padding ≤ 12 ∧ (toString nextNumber).length ≤ padding

structure InvoiceNumberingSettings where
  numberPrefix : String
  nextNumber : ℕ
  padding : ℕ
  accepted : numberingAccepted numberPrefix nextNumber padding = true
deriving DecidableEq

namespace InvoiceNumberingSettings

/-- `invoiceNumberingSettingsSchema.safeParse` of a prefix in capital letters. -/
def parse (numberPrefix : String) (nextNumber padding : ℕ) : Option InvoiceNumberingSettings :=
  if h : numberingAccepted numberPrefix nextNumber padding = true then
    some ⟨numberPrefix, nextNumber, padding, h⟩
  else none

theorem parse_eq_some {numberPrefix : String} {nextNumber padding : ℕ}
    {settings : InvoiceNumberingSettings}
    (h : parse numberPrefix nextNumber padding = some settings) :
    settings.numberPrefix = numberPrefix ∧ settings.nextNumber = nextNumber ∧
      settings.padding = padding := by
  rw [parse] at h
  split at h
  · rw [← Option.some.inj h]
    exact ⟨rfl, rfl, rfl⟩
  · cases h

/-- `DEFAULT_BUSINESS_SETTINGS.invoiceNumbering`. -/
def default : InvoiceNumberingSettings := ⟨"INV", 1001, 6, by decide +kernel⟩

def advance (settings : InvoiceNumberingSettings) : Option InvoiceNumberingSettings :=
  parse settings.numberPrefix (settings.nextNumber + 1) settings.padding

theorem nextNumber_advance {settings settings' : InvoiceNumberingSettings}
    (h : settings.advance = some settings') : settings'.nextNumber = settings.nextNumber + 1 :=
  (parse_eq_some h).2.1

theorem dash_notMem_numberPrefix (settings : InvoiceNumberingSettings) :
    '-' ∉ settings.numberPrefix.toList := by
  intro hmem
  have haccepted := settings.accepted
  simp only [numberingAccepted, decide_eq_true_eq] at haccepted
  have hletters := haccepted.1
  rw [isNumberPrefix] at hletters
  split at hletters
  · cases hletters
  · rename_i first rest heq
    simp only [decide_eq_true_eq, List.all_eq_true] at hletters
    rw [heq, List.mem_cons] at hmem
    rcases hmem with rfl | hmem
    · exact absurd hletters.1 (by decide)
    · exact absurd (hletters.2.1 '-' hmem) (by decide)

end InvoiceNumberingSettings

/-- `String.prototype.padStart`. -/
def padStart (text : String) (length : ℕ) (fill : Char) : String :=
  String.ofList (text.toList.leftpad length fill)

def formatInvoiceNumber (settings : InvoiceNumberingSettings) : String :=
  settings.numberPrefix ++ "-" ++ padStart (toString settings.nextNumber) settings.padding '0'

theorem formatInvoiceNumber_inj {settings settings' : InvoiceNumberingSettings}
    (h : formatInvoiceNumber settings = formatInvoiceNumber settings') :
    settings.numberPrefix = settings'.numberPrefix ∧
      settings.nextNumber = settings'.nextNumber := by
  have hlist := congrArg String.toList h
  simp only [formatInvoiceNumber, padStart, String.toList_append, String.toList_ofList,
    List.append_assoc, Nat.toString_eq_repr, Nat.toList_repr] at hlist
  obtain ⟨hletters, hnumber⟩ := append_cons_inj settings.dash_notMem_numberPrefix
    settings'.dash_notMem_numberPrefix hlist
  exact ⟨String.toList_inj.1 hletters, leftpad_toDigits_inj hnumber⟩

example : formatInvoiceNumber .default = "INV-001001" := by decide +kernel

end Settings

end WebhostBilling
