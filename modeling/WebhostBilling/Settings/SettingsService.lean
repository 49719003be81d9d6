import WebhostBilling.Concurrency.Threads
import WebhostBilling.Database.Schema
import WebhostBilling.Settings.InvoiceNumbering

/-!
# The settings service

A save is one transaction of several statements: it takes row locks, reads what it merges with,
takes the advisory lock on the currency, checks the currency, and writes, which is seen when it
commits. `patch` locks the row of the invoice numbers before it reads it, `update` does not.

A row is kept as what its schema makes of its value; `none` is a row that is not there, or that the
schema does not accept, which every reader treats alike.
-/

namespace WebhostBilling

open Store Concurrency

namespace Settings

/-! ## Rows and requests -/

structure BusinessLocalizationSettings where
  currency : String
  timeZone : String

/-- `DEFAULT_BUSINESS_SETTINGS`, the currency and the time zone. -/
def defaultLocalization : BusinessLocalizationSettings := ⟨"BDT", "Asia/Dhaka"⟩

/-- The stored settings and the invoices. -/
structure SettingsStore where
  /-- `billing.invoice-numbering`. -/
  invoiceNumbering : Option InvoiceNumberingSettings := none
  /-- `business.localization`. -/
  localization : Option BusinessLocalizationSettings := none
  /-- The currency of `business.currency-selection`. -/
  currencySelection : Option String := none
  invoices : List String := []
  /-- Some transaction has the lock on the row `automation.renewal-policy`. -/
  renewalLocked : Bool := false
  /-- Some transaction has the lock on the row `billing.invoice-numbering`. -/
  numberingLocked : Bool := false
  currencyLocked : Bool := false

structure InvoiceNumberingPatch where
  numberPrefix : Option String := none
  nextNumber : Option ℕ := none
  padding : Option ℕ := none

structure BusinessSettings where
  currency : String
  timeZone : String
  invoiceNumbering : InvoiceNumberingSettings

structure PatchBusinessSettingsRequest where
  localization : Option BusinessLocalizationSettings := none
  confirmCurrency : Bool := false
  invoiceNumbering : Option InvoiceNumberingPatch := none
  renewalAutomation : Bool := false
  otherTab : Bool := false

inductive SettingsRequest
  | update (settings : BusinessSettings)
  | patch (input : PatchBusinessSettingsRequest)

inductive SettingKey
  | renewal
  | localization
  | invoiceNumbering
  | other
deriving DecidableEq

/-- What a step is told from outside: that the transaction is aborted, because its connection is
lost or because of a field that is not modelled here, and which currencies are supported. -/
structure SettingsWorld where
  aborted : Bool := false
  /-- `Intl.supportedValuesOf('currency')`. -/
  supportedCurrencies : List String := ["BDT", "USD", "EUR"]

/-! ## Reading -/

def SettingsStore.numbering (s : SettingsStore) : InvoiceNumberingSettings :=
  s.invoiceNumbering.getD .default

/-- The currency in force: the selection, or else the localization. -/
def SettingsStore.businessCurrency (s : SettingsStore) : String :=
  s.currencySelection.getD (s.localization.getD defaultLocalization).currency

/-- The part of `overview` that a patch is merged with. -/
def SettingsStore.overview (s : SettingsStore) : BusinessSettings where
  currency := s.businessCurrency
  timeZone := (s.localization.getD defaultLocalization).timeZone
  invoiceNumbering := s.numbering

/-! ## Invoices -/

def exhausted : Failure := .error "Invoice numbering range has been exhausted."

def allocateInvoiceNumber (s : SettingsStore) : Except Failure (SettingsStore × String) := do
  let next ← orThrow exhausted s.numbering.advance
  return ({ s with invoiceNumbering := some next }, formatInvoiceNumber s.numbering)

def createInvoiceTransaction (s : SettingsStore) : Except Failure (SettingsStore × String) := do
  let (s, invoiceNumber) ← allocateInvoiceNumber s
  require (invoiceNumber ∉ s.invoices) .uniqueConstraint
  return ({ s with invoices := s.invoices ++ [invoiceNumber] }, invoiceNumber)

inductive InvoiceState
  | writing
  | done (result : Except Failure String)

def transactionAborted : Failure := .error "P2028"

variable (w : SettingsWorld)

def createInvoiceStep (s : SettingsStore) :
    InvoiceState → Option (SettingsStore × InvoiceState)
  | .writing =>
    if w.aborted = true then some (s, .done (.error transactionAborted))
    else if s.numberingLocked = true then none
    else match createInvoiceTransaction s with
      | .ok (s', invoiceNumber) => some (s', .done (.ok invoiceNumber))
      | .error e => some (s, .done (.error e))
  | .done _ => none

def createInvoice : Operation SettingsStore SettingsWorld where
  Request := Unit
  Local := InvoiceState
  start _ := .writing
  step := createInvoiceStep

/-! ## Saving -/

def invalid (message : String) : Failure := .application .unprocessableEntity message

def currencyLockedFailure : Failure := invalid "The business currency is locked."

def confirmBeforeSaving : Failure := invalid "Confirm the business currency before saving it."

def unsupportedCurrency : Failure := invalid "Select a supported business currency."

def numberDoesNotFit : Failure :=
  invalid "Next invoice number does not fit the configured padding"

/-- `Object.keys(input.invoiceNumbering).length`. -/
def InvoiceNumberingPatch.isEmpty (input : InvoiceNumberingPatch) : Bool :=
  input.numberPrefix.isNone && input.nextNumber.isNone && input.padding.isNone

def SettingsRequest.keys : SettingsRequest → List SettingKey
  | .update _ => [.renewal, .localization, .invoiceNumbering, .other]
  | .patch input =>
    (if input.localization.isSome then [.localization] else []) ++
    (if input.localization.isSome || input.renewalAutomation then [.renewal] else []) ++
    (if input.invoiceNumbering.any (!·.isEmpty) then [.invoiceNumbering] else []) ++
    if input.otherTab then [.other] else []

def SettingsRequest.locksNumbering : SettingsRequest → Bool
  | .update _ => false
  | .patch input => decide (.invoiceNumbering ∈ (SettingsRequest.patch input).keys)

def SettingsRequest.locksRenewal (request : SettingsRequest) : Bool :=
  .renewal ∈ request.keys

def SettingsRequest.confirmsCurrency : SettingsRequest → Bool
  | .update _ => false
  | .patch input => input.confirmCurrency

def SettingsRequest.submittedNumber : SettingsRequest → Option ℕ
  | .update settings => some settings.invoiceNumbering.nextNumber
  | .patch input => input.invoiceNumbering.bind (·.nextNumber)

/-- `{ ...current, ...input }`, as the schema accepts it. -/
def InvoiceNumberingPatch.merge (input : InvoiceNumberingPatch)
    (current : InvoiceNumberingSettings) : Option InvoiceNumberingSettings :=
  InvoiceNumberingSettings.parse (input.numberPrefix.getD current.numberPrefix)
    (input.nextNumber.getD current.nextNumber) (input.padding.getD current.padding)

def SettingsRequest.settings (s : SettingsStore) :
    SettingsRequest → Except Failure BusinessSettings
  | .update settings => .ok settings
  | .patch input => do
    let current := s.overview
    let localization := input.localization.getD ⟨current.currency, current.timeZone⟩
    let invoiceNumbering ← orThrow numberDoesNotFit
      ((input.invoiceNumbering.getD {}).merge current.invoiceNumbering)
    return ⟨localization.currency, localization.timeZone, invoiceNumbering⟩

inductive SaveState
  | lockingRenewal (request : SettingsRequest)
  | lockingNumbering (request : SettingsRequest)
  | merging (request : SettingsRequest)
  | lockingCurrency (request : SettingsRequest) (settings : BusinessSettings)
  | readingCurrency (request : SettingsRequest) (settings : BusinessSettings)
  /-- `current` and `selection` are what was read of the currency. -/
  | checkingCurrency (request : SettingsRequest) (settings : BusinessSettings) (current : String)
      (selection : Option String)
  | writing (request : SettingsRequest) (settings : BusinessSettings)
      (confirmedCurrency : Option String)
  | done (result : Except Failure Unit)

/-- `currencyIsLocked`. -/
def currencyIsLocked (s : SettingsStore) (currency : String) (selection : Option String) : Bool :=
  selection.isSome || currency ≠ defaultLocalization.currency || s.invoices ≠ []

/-- The checks of `persist` on the currency, and the currency that they confirm. -/
def checkCurrency (s : SettingsStore) (request : SettingsRequest) (settings : BusinessSettings)
    (current : String) (selection : Option String) :
    Except Failure (Option String) := do
  let isLocked := currencyIsLocked s current selection
  require (settings.currency ≠ current → isLocked = false) currencyLockedFailure
  require (settings.currency ≠ current → request.confirmsCurrency = true)
    confirmBeforeSaving
  require (settings.currency ≠ current → settings.currency ∈ w.supportedCurrencies)
    unsupportedCurrency
  return if isLocked = false ∧ request.confirmsCurrency = true then
    some settings.currency else none

/-- What `persist` writes. -/
def writeSettings (request : SettingsRequest) (settings : BusinessSettings)
    (confirmedCurrency : Option String) (s : SettingsStore) : SettingsStore :=
  let keys := request.keys
  { s with
    localization :=
      if .localization ∈ keys then some ⟨settings.currency, settings.timeZone⟩ else s.localization
    invoiceNumbering :=
      if .invoiceNumbering ∈ keys then some settings.invoiceNumbering else s.invoiceNumbering
    currencySelection := confirmedCurrency <|> s.currencySelection }

def SettingsRequest.locksCurrency (request : SettingsRequest) : Bool :=
  .localization ∈ request.keys

/-- The save has the lock on the row `automation.renewal-policy`. -/
def SaveState.holdsRenewal : SaveState → Bool
  | .lockingRenewal _ | .done _ => false
  | .lockingNumbering request | .merging request | .lockingCurrency request _
  | .readingCurrency request _ | .checkingCurrency request _ _ _ | .writing request _ _ =>
    request.locksRenewal

/-- The save has the lock on the row `billing.invoice-numbering`. -/
def SaveState.holdsNumbering : SaveState → Bool
  | .lockingRenewal _ | .lockingNumbering _ | .done _ => false
  | .merging request | .lockingCurrency request _ | .readingCurrency request _
  | .checkingCurrency request _ _ _ | .writing request _ _ => request.locksNumbering

def SaveState.holdsCurrency : SaveState → Bool
  | .lockingRenewal _ | .lockingNumbering _ | .merging _ | .lockingCurrency _ _ | .done _ => false
  | .readingCurrency _ _ | .checkingCurrency _ _ _ _ => true
  | .writing request _ _ => request.locksCurrency

def SaveState.release (l : SaveState) (s : SettingsStore) : SettingsStore :=
  { s with
    renewalLocked := s.renewalLocked && !l.holdsRenewal
    numberingLocked := s.numberingLocked && !l.holdsNumbering
    currencyLocked := s.currencyLocked && !l.holdsCurrency }

def saveStatement (s : SettingsStore) :
    SaveState → Except Failure (Option (SettingsStore × SaveState))
  | .lockingRenewal request =>
    if request.locksRenewal = false then return some (s, .lockingNumbering request)
    else if s.renewalLocked = true then return none
    else return some ({ s with renewalLocked := true }, .lockingNumbering request)
  | .lockingNumbering request =>
    if request.locksNumbering = false then return some (s, .merging request)
    else if s.numberingLocked = true then return none
    else return some ({ s with numberingLocked := true }, .merging request)
  | .merging request => do
    let settings ← request.settings s
    if request.locksCurrency = true then return some (s, .lockingCurrency request settings)
    else return some (s, .writing request settings none)
  | .lockingCurrency request settings =>
    if s.currencyLocked = true then return none
    else return some ({ s with currencyLocked := true }, .readingCurrency request settings)
  | .readingCurrency request settings =>
    return some (s, .checkingCurrency request settings s.businessCurrency s.currencySelection)
  | .checkingCurrency request settings current selection => do
    let confirmedCurrency ← checkCurrency w s request settings current selection
    return some (s, .writing request settings confirmedCurrency)
  | .writing request settings confirmedCurrency =>
    -- The write of the row of the numbers waits for whoever else has its lock.
    if .invoiceNumbering ∈ request.keys ∧ request.locksNumbering = false ∧
        s.numberingLocked = true then return none
    else
      let s := writeSettings request settings confirmedCurrency s
      return some ((SaveState.writing request settings confirmedCurrency).release s, .done (.ok ()))
  | .done _ => return none

def saveStep (s : SettingsStore) (l : SaveState) :
    Option (SettingsStore × SaveState) :=
  match (do require (w.aborted = false) transactionAborted; saveStatement w s l), l with
  | _, .done _ => none
  | .ok out, _ => out
  | .error e, _ => some (l.release s, .done (.error e))

/-- `update` and `patch`. -/
def save : Operation SettingsStore SettingsWorld where
  Request := SettingsRequest
  Local := SaveState
  start request := .lockingRenewal request
  step := saveStep

/-! ## The automation policy -/

/-- How far `RenewalAutomationService.update` is. -/
inductive PolicyState
  | lockingRenewal (timeZone : String)
  | reading (timeZone : String)
  | writing (localization : BusinessLocalizationSettings)
  | done (result : Except Failure Unit)

def updatePolicyStep (s : SettingsStore) :
    PolicyState → Option (SettingsStore × PolicyState)
  | .lockingRenewal timeZone =>
    if w.aborted = true then some (s, .done (.error transactionAborted))
    else if s.renewalLocked = true then none
    else some ({ s with renewalLocked := true }, .reading timeZone)
  | .reading timeZone =>
    if w.aborted = true then
      some ({ s with renewalLocked := false }, .done (.error transactionAborted))
    else some (s, .writing ⟨(s.localization.getD defaultLocalization).currency, timeZone⟩)
  | .writing localization =>
    if w.aborted = true then
      some ({ s with renewalLocked := false }, .done (.error transactionAborted))
    else some ({ s with localization := some localization, renewalLocked := false }, .done (.ok ()))
  | .done _ => none

/-- `RenewalAutomationService.update`: the business takes over the time zone of the policy. -/
def updatePolicy : Operation SettingsStore SettingsWorld where
  Request := String
  Local := PolicyState
  start timeZone := .lockingRenewal timeZone
  step := updatePolicyStep

inductive SettingsOperation
  | createInvoice
  | save
  | updatePolicy

def settingsOperations : SettingsOperation → Operation SettingsStore SettingsWorld
  | .createInvoice => createInvoice
  | .save => save
  | .updatePolicy => updatePolicy

end Settings

end WebhostBilling
