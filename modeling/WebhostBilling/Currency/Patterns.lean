import WebhostBilling.Json.Numbers

/-!
# The patterns of currency data

The regular expressions that the currency code matches texts with, in TypeScript and in SQL.  All of
them describe texts of printable ASCII characters, so a text that matches has as many bytes as code
units, and is quoted as it is.
-/

namespace WebhostBilling

open Json

namespace Currency

/-! ## Classes of characters -/

def isUpper (c : CodeUnit) : Bool := 0x41 ≤ c ∧ c ≤ 0x5A

def isLower (c : CodeUnit) : Bool := 0x61 ≤ c ∧ c ≤ 0x7A

/-- `[A-Za-z0-9]` -/
def isAlphanumeric (c : CodeUnit) : Bool := isUpper c || isLower c || isDigit c

/-- `[A-Za-z0-9._:-]` -/
def isVersionUnit (c : CodeUnit) : Bool :=
  isAlphanumeric c || c = point || c = 0x5F || c = colon || c = minus

/-- `[ -~]` -/
def isPrintable (c : CodeUnit) : Bool := blank ≤ c ∧ c ≤ 0x7E

/-- `[!-~]` -/
def isVisible (c : CodeUnit) : Bool := 0x21 ≤ c ∧ c ≤ 0x7E

/-- `[0-9a-f]` -/
def isLowerHex (c : CodeUnit) : Bool := isDigit c || decide (0x61 ≤ c ∧ c ≤ 0x66)

/-- `[0-9a-fA-F]` -/
def isHex (c : CodeUnit) : Bool := isLowerHex c || decide (0x41 ≤ c ∧ c ≤ 0x46)

variable {c : CodeUnit} {t : Text} {ps : List (CodeUnit → Bool)}

theorem isPlain_of_isVersionUnit (h : isVersionUnit c = true) :
    isPlain c = true := by
  rw [isPlain, decide_eq_true_eq]
  simp only [isVersionUnit, isAlphanumeric, isUpper, isLower, isDigit, Bool.or_eq_true,
    decide_eq_true_eq, UInt16.le_iff_toNat_le, ← UInt16.toNat_inj] at h
  simp only [UInt16.le_iff_toNat_le, UInt16.lt_iff_toNat_lt, ne_eq, ← UInt16.toNat_inj]
  have hunits : point.toNat = 0x2E ∧ colon.toNat = 0x3A ∧ minus.toNat = 0x2D ∧
      blank.toNat = 0x20 ∧ quotationMark.toNat = 0x22 ∧ reverseSolidus.toNat = 0x5C := by decide
  simp only [hunits, UInt16.reduceToNat] at h ⊢
  omega

theorem isVersionUnit_of_isHex (h : isHex c = true) : isVersionUnit c = true := by
  simp only [isHex, isLowerHex, isVersionUnit, isAlphanumeric, isUpper, isLower, isDigit,
    Bool.or_eq_true, decide_eq_true_eq, UInt16.le_iff_toNat_le, UInt16.reduceToNat] at h ⊢
  omega

theorem utf8Length_of_plain (h : ∀ c ∈ t, isPlain c = true) : utf8Length t = t.length :=
  utf8Length_of_ascii fun c hc => by
    have hplain := h c hc
    rw [isPlain, decide_eq_true_eq] at hplain
    exact hplain.2.1

/-! ## Versions -/

/-- `/^[A-Za-z0-9][A-Za-z0-9._:-]*$/` -/
def matchesVersion : Text → Bool
  | [] => false
  | c :: cs => isAlphanumeric c && cs.all isVersionUnit

theorem isVersionUnit_of_isAlphanumeric (h : isAlphanumeric c = true) :
    isVersionUnit c = true := by
  simp only [isVersionUnit, h, Bool.true_or]

theorem isVersionUnit_of_matchesVersion (h : matchesVersion t = true) :
    ∀ c ∈ t, isVersionUnit c = true := by
  cases t with
  | nil => exact fun c hc => absurd hc List.not_mem_nil
  | cons c cs =>
    rw [matchesVersion, Bool.and_eq_true, List.all_eq_true] at h
    exact List.forall_mem_cons.2 ⟨isVersionUnit_of_isAlphanumeric h.1, h.2⟩

theorem isPlain_of_matchesVersion (h : matchesVersion t = true) :
    ∀ c ∈ t, isPlain c = true :=
  fun c hc => isPlain_of_isVersionUnit (isVersionUnit_of_matchesVersion h c hc)

/-- `isVersion` and `isRevision`: a version of at most 64 code units. -/
def isVersion (t : Text) : Bool := 1 ≤ t.length ∧ t.length ≤ 64 ∧ matchesVersion t = true

/-- `octet_length(t) BETWEEN 1 AND 64 AND t ~ '^[A-Za-z0-9]' AND t !~ '[^A-Za-z0-9._:-]'` -/
def isSqlVersion (t : Text) : Bool :=
  (1 ≤ utf8Length t ∧ utf8Length t ≤ 64) ∧ t.head?.any isAlphanumeric = true ∧
    t.all isVersionUnit = true

theorem head_and_all_iff (t : Text) :
    (t.head?.any isAlphanumeric = true ∧ t.all isVersionUnit = true) ↔ matchesVersion t = true := by
  cases t with
  | nil => simp [matchesVersion]
  | cons c cs =>
    simp only [List.head?_cons, Option.any_some, List.all_cons, matchesVersion, Bool.and_eq_true]
    exact ⟨fun h => ⟨h.1, h.2.2⟩, fun h => ⟨h.1, isVersionUnit_of_isAlphanumeric h.1, h.2⟩⟩

theorem isSqlVersion_eq (t : Text) : isSqlVersion t = isVersion t := by
  rw [isSqlVersion, isVersion, decide_eq_decide, head_and_all_iff]
  refine ⟨fun ⟨hbytes, hmatches⟩ => ?_, fun ⟨hlow, hhigh, hmatches⟩ => ?_⟩
  · rw [utf8Length_of_plain (isPlain_of_matchesVersion hmatches)] at hbytes
    exact ⟨hbytes.1, hbytes.2, hmatches⟩
  · rw [utf8Length_of_plain (isPlain_of_matchesVersion hmatches)]
    exact ⟨⟨hlow, hhigh⟩, hmatches⟩

/-! ## Identifiers -/

def matchesClasses : List (CodeUnit → Bool) → Text → Bool
  | [], [] => true
  | p :: ps, c :: cs => p c && matchesClasses ps cs
  | _, _ => false

theorem length_of_matchesClasses (h : matchesClasses ps t = true) : t.length = ps.length := by
  induction ps generalizing t with
  | nil =>
    cases t with
    | nil => rfl
    | cons c cs => cases h
  | cons p ps ih =>
    cases t with
    | nil => cases h
    | cons c cs =>
      rw [matchesClasses, Bool.and_eq_true] at h
      rw [List.length_cons, List.length_cons, ih h.2]

theorem forall_of_matchesClasses {ps : List (CodeUnit → Bool)} {q : CodeUnit → Prop}
    (hq : ∀ p ∈ ps, ∀ c, p c = true → q c) {t : Text} (h : matchesClasses ps t = true) :
    ∀ c ∈ t, q c := by
  induction ps generalizing t with
  | nil =>
    cases t with
    | nil => exact fun c hc => absurd hc List.not_mem_nil
    | cons c cs => cases h
  | cons p ps ih =>
    cases t with
    | nil => exact fun c hc => absurd hc List.not_mem_nil
    | cons c cs =>
      rw [matchesClasses, Bool.and_eq_true] at h
      rw [List.forall_mem_cons] at hq
      exact List.forall_mem_cons.2 ⟨hq.1 c h.1, ih hq.2 h.2⟩

def isDash (c : CodeUnit) : Bool := c = minus

/-- `[1-8]` -/
def isUuidVersion (c : CodeUnit) : Bool := 0x31 ≤ c ∧ c ≤ 0x38

/-- `[89ab]` -/
def isLowerVariant (c : CodeUnit) : Bool := c = 0x38 ∨ c = 0x39 ∨ c = 0x61 ∨ c = 0x62

/-- `[89abAB]` -/
def isVariant (c : CodeUnit) : Bool := isLowerVariant c || decide (c = 0x41 ∨ c = 0x42)

def uuidClasses (hex variant : CodeUnit → Bool) : List (CodeUnit → Bool) :=
  List.replicate 8 hex ++ isDash :: (List.replicate 4 hex ++ isDash :: isUuidVersion ::
    (List.replicate 3 hex ++ isDash :: variant :: (List.replicate 3 hex ++ isDash ::
      List.replicate 12 hex)))

def nilUuid : Text := text "00000000-0000-0000-0000-000000000000"

def maxUuid : Text := text "ffffffff-ffff-ffff-ffff-ffffffffffff"

/-- `serverUuid` -/
def serverUuid (t : Text) : Bool :=
  matchesClasses (uuidClasses isLowerHex isLowerVariant) t || t = nilUuid || t = maxUuid

/-- `requestUuid` -/
def requestUuid (t : Text) : Bool :=
  matchesClasses (uuidClasses isHex isVariant) t || t = nilUuid || t = maxUuid

theorem uuid_units {hex variant : CodeUnit → Bool} (hhex : ∀ c, hex c = true → isHex c = true)
    (hvariant : ∀ c, variant c = true → isHex c = true)
    (h : (matchesClasses (uuidClasses hex variant) t || t = nilUuid || t = maxUuid) = true) :
    t.length = 36 ∧ ∀ c ∈ t, isVersionUnit c = true := by
  rw [Bool.or_eq_true, Bool.or_eq_true, decide_eq_true_eq, decide_eq_true_eq] at h
  rcases h with (hmatches | rfl) | rfl
  · refine ⟨length_of_matchesClasses hmatches, forall_of_matchesClasses ?_ hmatches⟩
    have hversion : ∀ c, isUuidVersion c = true → isHex c = true := by
      intro c hc
      simp only [isUuidVersion, isHex, isLowerHex, isDigit, Bool.or_eq_true, decide_eq_true_eq,
        UInt16.le_iff_toNat_le, UInt16.reduceToNat] at hc ⊢
      omega
    intro p hp c hc
    simp only [uuidClasses, List.mem_append, List.mem_cons, List.mem_replicate] at hp
    by_cases hdash : p = isDash
    · subst hdash
      rw [isDash, decide_eq_true_eq] at hc
      subst hc
      decide
    · refine isVersionUnit_of_isHex ?_
      have hcases : p = hex ∨ p = isUuidVersion ∨ p = variant := by grind
      rcases hcases with rfl | rfl | rfl
      · exact hhex c hc
      · exact hversion c hc
      · exact hvariant c hc
  · exact ⟨rfl, List.all_eq_true.1 (by decide)⟩
  · exact ⟨rfl, List.all_eq_true.1 (by decide)⟩

theorem isHex_of_isLowerHex (h : isLowerHex c = true) : isHex c = true := by
  rw [isHex, h, Bool.true_or]

theorem isHex_of_isVariant (h : isVariant c = true) : isHex c = true := by
  simp only [isVariant, isLowerVariant, Bool.or_eq_true, decide_eq_true_eq] at h
  rcases h with (rfl | rfl | rfl | rfl) | rfl | rfl <;> rfl

theorem serverUuid_units (h : serverUuid t = true) :
    t.length = 36 ∧ ∀ c ∈ t, isVersionUnit c = true :=
  uuid_units (fun _ => isHex_of_isLowerHex)
    (fun c hc => isHex_of_isVariant (by rw [isVariant, hc, Bool.true_or])) h

theorem requestUuid_units (h : requestUuid t = true) :
    t.length = 36 ∧ ∀ c ∈ t, isVersionUnit c = true :=
  uuid_units (fun _ hc => hc) (fun _ => isHex_of_isVariant) h

end Currency

end WebhostBilling
