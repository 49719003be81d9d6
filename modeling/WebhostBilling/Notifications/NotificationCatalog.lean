import WebhostBilling.Database.Rows

/-!
# The catalogue of notifications

Every notification has a key of the catalogue, which says who it is for and over which channels it
goes out.
-/

namespace WebhostBilling

namespace Notification

inductive NotificationKey
  | clientEmailVerification
  | clientPasswordReset
  | clientWelcome
  | clientSecurityChange
  | clientOrderReceived
  | clientOrderApproved
  | clientInvoiceIssued
  | clientRenewalReminder
  | clientOverdueNotice
  | clientFinalWarning
  | clientPaymentReceipt
  | clientHostingReady
  | clientServiceSuspended
  | clientServiceRestored
  | clientDomainRegistered
  | clientDomainRenewed
  | clientDomainRenewalReminder
  | clientDomainExpiryWarning
  | clientSupportReply
  | clientUrgentSupport
  | clientPaymentAdjustment
  | adminInvoiceIssued
  | adminOverdueNotice
  | adminCustomerVerified
  | adminNewOrder
  | adminPaymentReview
  | adminPaymentConfirmed
  | adminPaymentAdjustment
  | adminSupportActivity
  | adminUrgentSupport
  | adminProvisioningProblem
  | adminDomainProblem
  | adminSecurityAlert
  | adminDeliveryFailure
  | adminAutomationFailure
  | adminDailySummary
deriving DecidableEq

structure NotificationDefinition where
  key : String
  audience : UserRole
  label : String
  description : String
  path : String
  whatsApp : Bool
  /-- The e-mails about it are sent by the part of the system that it is about. -/
  existingEmail : Bool

def notificationDefinition : NotificationKey → NotificationDefinition
  | .clientEmailVerification => ⟨"client-email-verification", .customer, "Verify email",
    "Confirm your email address before accessing your account.", "/portal", false, true⟩
  | .clientPasswordReset => ⟨"client-password-reset", .customer, "Password reset",
    "Use the separately emailed secure reset link.", "/portal", false, true⟩
  | .clientWelcome => ⟨"client-welcome", .customer, "Welcome",
    "Your email is verified and your account is ready.", "/portal", false, false⟩
  | .clientSecurityChange => ⟨"client-security-change", .customer, "Account security changed",
    "Your account security settings changed. Review your account.", "/portal/profile", false, false⟩
  | .clientOrderReceived => ⟨"client-order-received", .customer, "Order received",
    "Your order has been received.", "/portal/orders", false, true⟩
  | .clientOrderApproved => ⟨"client-order-approved", .customer, "Order approved",
    "Your order is being processed.", "/portal/orders", false, true⟩
  | .clientInvoiceIssued => ⟨"client-invoice-issued", .customer, "Invoice issued",
    "An invoice is available in your portal.", "/portal/invoices", true, true⟩
  | .clientRenewalReminder => ⟨"client-renewal-reminder", .customer, "Renewal reminder",
    "Review your upcoming renewal and invoice.", "/portal/invoices", false, true⟩
  | .clientOverdueNotice => ⟨"client-overdue-notice", .customer, "Overdue notice",
    "An invoice is overdue. Review the balance in your portal.", "/portal/invoices", true, true⟩
  | .clientFinalWarning => ⟨"client-final-warning", .customer, "Final suspension warning",
    "An unpaid hosting renewal is approaching its configured suspension deadline.",
    "/portal/invoices", true, false⟩
  | .clientPaymentReceipt => ⟨"client-payment-receipt", .customer, "Payment receipt",
    "A verified payment has been recorded.", "/portal/invoices", false, true⟩
  | .clientHostingReady => ⟨"client-hosting-ready", .customer, "Hosting ready",
    "Your hosting service has been activated.", "/portal/services", false, true⟩
  | .clientServiceSuspended => ⟨"client-service-suspended", .customer, "Service suspended",
    "Your service suspension is confirmed. Review the service in your portal.",
    "/portal/services", true, true⟩
  | .clientServiceRestored => ⟨"client-service-restored", .customer, "Service restored",
    "Your service reactivation is confirmed.", "/portal/services", true, true⟩
  | .clientDomainRegistered => ⟨"client-domain-registered", .customer, "Domain registered",
    "Your domain registration has been confirmed.", "/portal/domains", false, false⟩
  | .clientDomainRenewed => ⟨"client-domain-renewed", .customer, "Domain renewed",
    "Your domain renewal has been confirmed.", "/portal/domains", false, false⟩
  | .clientDomainRenewalReminder =>
    ⟨"client-domain-renewal-reminder", .customer, "Domain renewal reminder",
    "Your domain expiry is approaching. Review renewal options.", "/portal/domains", false, false⟩
  | .clientDomainExpiryWarning =>
    ⟨"client-domain-expiry-warning", .customer, "Final domain expiry warning",
    "Your domain is approaching expiry. Review it promptly.", "/portal/domains", true, false⟩
  | .clientSupportReply => ⟨"client-support-reply", .customer, "Support reply",
    "A staff reply is available in your support ticket.", "/portal/support", false, true⟩
  | .clientUrgentSupport => ⟨"client-urgent-support", .customer, "Urgent support update",
    "An urgent support ticket needs your attention.", "/portal/support", true, true⟩
  | .clientPaymentAdjustment =>
    ⟨"client-payment-adjustment", .customer, "Refund or reversal recorded",
    "A payment adjustment was recorded. Review your invoice history.",
    "/portal/invoices", false, false⟩
  | .adminInvoiceIssued => ⟨"admin-invoice-issued", .admin, "Invoice issued",
    "A new customer invoice is available for review.", "/admin/invoices", true, false⟩
  | .adminOverdueNotice => ⟨"admin-overdue-notice", .admin, "Invoice overdue",
    "A customer invoice is overdue. Review its outstanding balance.",
    "/admin/invoices", true, false⟩
  | .adminCustomerVerified => ⟨"admin-customer-verified", .admin, "Customer verified",
    "A customer has completed email verification.", "/admin/customers", false, false⟩
  | .adminNewOrder => ⟨"admin-new-order", .admin, "New order",
    "A new order needs review.", "/admin/orders", false, false⟩
  | .adminPaymentReview => ⟨"admin-payment-review", .admin, "Payment verification needed",
    "A manual-payment claim needs verification. It is not proof of payment.",
    "/admin/payments", true, false⟩
  | .adminPaymentConfirmed => ⟨"admin-payment-confirmed", .admin, "Payment confirmed",
    "A verified payment has been recorded.", "/admin/payments", false, false⟩
  | .adminPaymentAdjustment => ⟨"admin-payment-adjustment", .admin, "Refund or reversal recorded",
    "A payment adjustment was recorded.", "/admin/payments", false, false⟩
  | .adminSupportActivity => ⟨"admin-support-activity", .admin, "Support activity",
    "A new ticket or customer reply needs attention.", "/admin/support", false, false⟩
  | .adminUrgentSupport => ⟨"admin-urgent-support", .admin, "Urgent support update",
    "An urgent support ticket needs attention.", "/admin/support", true, true⟩
  | .adminProvisioningProblem =>
    ⟨"admin-provisioning-problem", .admin, "Hosting operation needs attention",
    "A hosting operation failed or has an uncertain outcome. Review before retrying.",
    "/admin/automation", true, false⟩
  | .adminDomainProblem => ⟨"admin-domain-problem", .admin, "Domain operation needs attention",
    "A domain operation failed or has an uncertain outcome. Review before retrying.",
    "/admin/domains", true, false⟩
  | .adminSecurityAlert => ⟨"admin-security-alert", .admin, "Account security changed",
    "Your administrator account security changed. Review your account.", "/admin", true, false⟩
  | .adminDeliveryFailure =>
    ⟨"admin-delivery-failure", .admin, "Notification delivery needs attention",
    "A notification failed or has an uncertain outcome. Review the failed background job.",
    "/admin/automation", true, false⟩
  | .adminAutomationFailure => ⟨"admin-automation-failure", .admin, "Automation needs attention",
    "A background operation failed or requires reconciliation.", "/admin/automation", true, false⟩
  | .adminDailySummary => ⟨"admin-daily-summary", .admin, "Daily operations summary",
    "Review pending orders, overdue invoices, expiring domains and unresolved operations.",
    "/admin", false, false⟩

def notificationKeys : List NotificationKey :=
  [.clientEmailVerification, .clientPasswordReset, .clientWelcome, .clientSecurityChange,
    .clientOrderReceived, .clientOrderApproved, .clientInvoiceIssued, .clientRenewalReminder,
    .clientOverdueNotice, .clientFinalWarning, .clientPaymentReceipt, .clientHostingReady,
    .clientServiceSuspended, .clientServiceRestored, .clientDomainRegistered, .clientDomainRenewed,
    .clientDomainRenewalReminder, .clientDomainExpiryWarning, .clientSupportReply,
    .clientUrgentSupport, .clientPaymentAdjustment, .adminInvoiceIssued, .adminOverdueNotice,
    .adminCustomerVerified, .adminNewOrder, .adminPaymentReview, .adminPaymentConfirmed,
    .adminPaymentAdjustment, .adminSupportActivity, .adminUrgentSupport, .adminProvisioningProblem,
    .adminDomainProblem, .adminSecurityAlert, .adminDeliveryFailure, .adminAutomationFailure,
    .adminDailySummary]

/-- `notificationKeySchema.safeParse` -/
def notificationKeySchema (text : String) : Option NotificationKey :=
  notificationKeys.find? fun key => (notificationDefinition key).key = text

inductive NotificationChannel
  | email
  | whatsApp
deriving DecidableEq

inductive NotificationStatus
  | disabled
  | queued
  | previewed
  | suppressed
  | failed
  | submitting
  | accepted
  | unknown
deriving DecidableEq

def NotificationStatus.isFinal : NotificationStatus → Bool
  | .queued | .submitting => false
  | .disabled | .previewed | .suppressed | .failed | .accepted | .unknown => true

structure NotificationMetadata where
  invoiceId : Option RowId := none
  serviceId : Option RowId := none
  domainId : Option RowId := none
  ticketId : Option RowId := none
  paymentId : Option RowId := none
  suspensionDate : Option ℕ := none
  expiresAt : Option ℕ := none
  pendingOrders : ℕ := 0
  overdueInvoices : ℕ := 0
  failedOperations : ℕ := 0
  expiringDomains : ℕ := 0
  destinationFingerprint : Option String := none
  provider : Option String := none
  providerMessageId : Option String := none

inductive NotificationDeliveryMode
  | disabled
  | preview
  | live
deriving DecidableEq

/-- `normalizeNotificationPhone` keeps a `+`, a digit from 1 to 9 and 7 to 14 more digits. -/
def isInternationalPhone (phone : List Char) : Bool :=
  match phone with
  | '+' :: first :: rest =>
    '1' ≤ first ∧ first ≤ '9' ∧ 7 ≤ rest.length ∧ rest.length ≤ 14 ∧ rest.all Char.isDigit
  | _ => false

/-- `/^01[0-9]{9}$/` -/
def isBangladeshiPhone (phone : List Char) : Bool :=
  match phone with
  | '0' :: '1' :: rest => rest.length = 9 ∧ rest.all Char.isDigit
  | _ => false

/-- The characters that `\s` matches. -/
def isBlank (c : Char) : Bool :=
  (0x09 ≤ c.val ∧ c.val ≤ 0x0D) ∨ (0x2000 ≤ c.val ∧ c.val ≤ 0x200A) ∨
    c.val ∈ [0x20, 0xA0, 0x1680, 0x2028, 0x2029, 0x202F, 0x205F, 0x3000, 0xFEFF]

def isPhoneSeparator (c : Char) : Bool :=
  isBlank c ∨ c = '(' ∨ c = ')' ∨ c = '-'

def normalizeNotificationPhone (phone : Option String) (countryCode : Option String) :
    Option String :=
  match phone with
  | none | some "" => none
  | some phone =>
    let stripped := phone.toList.filter fun c => !isPhoneSeparator c
    let normalized :=
      if countryCode = some "BD" ∧ isBangladeshiPhone stripped then
        "+880".toList ++ stripped.tail
      else stripped
    if isInternationalPhone normalized then some (String.ofList normalized) else none

example : normalizeNotificationPhone (some "01711-000000") (some "BD") = some "+8801711000000" := by
  decide +kernel

end Notification

end WebhostBilling
