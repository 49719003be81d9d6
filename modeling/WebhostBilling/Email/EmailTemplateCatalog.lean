import WebhostBilling.Currency.DisplayedMoney
import WebhostBilling.Html.Templates

/-!
# Rendered e-mail

The templates of the catalog and the page they are put on.  Every text of a customer or of the staff
stands in a hole of the page and is escaped there, so that all the mails of a template have the tags
and attributes of one page.
-/

namespace WebhostBilling

open Json Html
open ResellbizLiveRegistrar (trim isSpace)

namespace EmailTemplateCatalog

inductive EmailTemplateKey
  | hostingCancellationRequested
  | customerEmailCode
  | emailVerification
  | passwordReset
  | orderReceived
  | orderApproved
  | paymentReceived
  | invoiceCreated
  | renewalReminder
  | overdueNotice
  | serviceProvisioned
  | serviceSuspended
  | serviceReactivated
  | ticketReply

/-- A moment in milliseconds. -/
abbrev Date := ℤ

structure CancellationModel where
  productName : Text
  serviceUrl : Text
  effectiveAt : Option Date

structure CodeModel where
  code : Text
  expiresAt : Date

structure LinkModel where
  actionUrl : Text
  expiresAt : Date

structure OrderModel where
  orderNumber : Text
  productName : Text
  requestedDomain : Text
  total : ℕ
  currency : Text
  orderUrl : Text

structure PaymentModel where
  invoiceNumber : Text
  amount : ℕ
  currency : Text
  balanceDue : ℕ
  invoiceUrl : Text

structure InvoiceModel where
  invoiceNumber : Text
  total : ℕ
  balanceDue : ℕ
  currency : Text
  dueAt : Date
  invoiceUrl : Text
  reminderNumber : Option ℕ

structure ServiceModel where
  productName : Text
  domain : Text
  serviceUrl : Text
  suspensionReason : Option Text

structure TicketModel where
  ticketNumber : Text
  subject : Text
  replyExcerpt : Text
  ticketUrl : Text

def Fields : EmailTemplateKey → Type
  | .hostingCancellationRequested => CancellationModel
  | .customerEmailCode => CodeModel
  | .emailVerification | .passwordReset => LinkModel
  | .orderReceived | .orderApproved => OrderModel
  | .paymentReceived => PaymentModel
  | .invoiceCreated | .renewalReminder | .overdueNotice => InvoiceModel
  | .serviceProvisioned | .serviceSuspended | .serviceReactivated => ServiceModel
  | .ticketReply => TicketModel

structure EmailTemplateModel (key : EmailTemplateKey) where
  recipientName : Text
  fields : Fields key

structure EmailBranding where
  brandName : Text
  brandColor : Text
  fromAddress : Text
  replyToAddress : Option Text

structure TemplateContent where
  subject : Text
  lead : Text
  actionLabel : Text := []
  actionUrl : Text := []
  secondary : Text

/-- What `Intl` formats: a date, the time of a date, and the digits of a currency. -/
structure EmailRuntime where
  formatDate : Date → Text
  formatTime : Date → Text
  maximumFractionDigits : Text → Option ℕ

variable (rt : EmailRuntime)

/-! ## Contents -/

def formatDateTime (value : Date) : Text :=
  rt.formatDate value ++ text " at " ++ rt.formatTime value ++ text " UTC"

def formatMoney (amount : ℕ) (currency : Text) : Text :=
  Currency.formatMoney rt.maximumFractionDigits amount currency

def details (rows : List (String × Text)) : Text :=
  List.intercalate [lineFeed] (rows.map fun (label, value) => text label ++ text ": " ++ value)

def actionContent (subject lead actionLabel actionUrl secondary : Text) : TemplateContent :=
  { subject, lead, actionLabel, actionUrl, secondary }

def orderContent (model : OrderModel) (subject lead : Text) : TemplateContent :=
  actionContent subject lead (text "View order") model.orderUrl
    (details [("Domain", model.requestedDomain),
      ("Total", formatMoney rt model.total model.currency)])

def invoiceContent (subject lead : Text) (model : InvoiceModel) : TemplateContent :=
  actionContent subject lead (text "View invoice") model.invoiceUrl
    (details [("Total", formatMoney rt model.total model.currency),
      ("Balance due", formatMoney rt model.balanceDue model.currency),
      ("Due date", rt.formatDate model.dueAt)])

def serviceContent (subject lead : Text) (model : ServiceModel) (note : Text := []) :
    TemplateContent :=
  actionContent subject lead (text "View service") model.serviceUrl
    (List.intercalate [lineFeed] ([details [("Domain", model.domain)], note].filter (· ≠ [])))

def content : (key : EmailTemplateKey) → Fields key → TemplateContent
  | .hostingCancellationRequested, model =>
    actionContent (text "Hosting cancellation request received")
      (match model.effectiveAt with
        | some effectiveAt => text "We received your request to cancel " ++ model.productName ++
      text " at the end of the billing period (" ++ formatDateTime rt effectiveAt ++ text ")."
        | none => text "We received your request to cancel " ++ model.productName ++
      text " immediately. An administrator will review it.")
      (text "View service") model.serviceUrl
      (text "Existing invoices and domain renewals are handled separately.")
  | .customerEmailCode, model =>
    { subject := text "Your sign-in code"
      lead := text "Your Webhost Billing sign-in code is " ++ model.code ++ text "."
      secondary := text "This code expires " ++ formatDateTime rt model.expiresAt ++
        text ". If you did not try to sign in, you can ignore this email." }
  | .emailVerification, model =>
    actionContent (text "Verify your email address")
      (text "Confirm your email address to activate your customer account.")
      (text "Verify email") model.actionUrl
      (text "This link expires " ++ formatDateTime rt model.expiresAt ++ text ".")
  | .passwordReset, model =>
    actionContent (text "Reset your password")
      (text "A password reset was requested for your account. " ++
        text "If this was not you, you can ignore this message.")
      (text "Reset password") model.actionUrl
      (text "This link expires " ++ formatDateTime rt model.expiresAt ++ text ".")
  | .orderReceived, model =>
    orderContent rt model (text "Order " ++ model.orderNumber ++ text " received")
      (text "We received your order for " ++ model.productName ++ text ".")
  | .orderApproved, model =>
    orderContent rt model (text "Order " ++ model.orderNumber ++ text " approved")
      (text "Your order for " ++ model.productName ++
        text " has been approved and is moving to service setup.")
  | .paymentReceived, model =>
    actionContent (text "Payment received for invoice " ++ model.invoiceNumber)
      (text "Your verified payment has been recorded.") (text "View invoice") model.invoiceUrl
      (details [("Payment", formatMoney rt model.amount model.currency),
        ("Balance due", formatMoney rt model.balanceDue model.currency)])
  | .invoiceCreated, model =>
    invoiceContent rt (text "Invoice " ++ model.invoiceNumber ++ text " created")
      (text "A new invoice is ready for your review.") model
  | .renewalReminder, model =>
    invoiceContent rt (text "Renewal reminder for invoice " ++ model.invoiceNumber)
      (text "This is renewal reminder " ++ printNat (model.reminderNumber.getD 1) ++ text ".") model
  | .overdueNotice, model =>
    invoiceContent rt (text "Invoice " ++ model.invoiceNumber ++ text " is overdue")
      (text "Your invoice remains unpaid after its due date. " ++
        text "Please review it to avoid service interruption.") model
  | .serviceProvisioned, model =>
    serviceContent (model.productName ++ text " is ready")
      (text "Your hosting service has been provisioned and is now active.") model
  | .serviceSuspended, model =>
    serviceContent (model.productName ++ text " has been suspended")
      (text "Your hosting service is currently suspended.") model
      (match model.suspensionReason with
        | some (c :: reason) => text "Reason: " ++ c :: reason
        | _ => [])
  | .serviceReactivated, model =>
    serviceContent (model.productName ++ text " has been reactivated")
      (text "Your hosting service is active again.") model
  | .ticketReply, model =>
    actionContent (text "New reply on ticket " ++ model.ticketNumber)
      (text "There is a new reply to “" ++ model.subject ++ text "”.") (text "View ticket")
      model.ticketUrl model.replyExcerpt

/-! ## The page -/

/-- What the page escapes, in `replyAddress` the address for replies or else the sender's. -/
inductive TemplateField
  | brandName
  | brandColor
  | replyAddress
  | recipientName
  | subject
  | lead
  | actionLabel
  | actionUrl
  | secondary
deriving DecidableEq

def field (branding : EmailBranding) (recipientName : Text) (content : TemplateContent) :
    TemplateField → Text
  | .brandName => branding.brandName
  | .brandColor => branding.brandColor
  | .replyAddress => branding.replyToAddress.getD branding.fromAddress
  | .recipientName => recipientName
  | .subject => content.subject
  | .lead => content.lead
  | .actionLabel => content.actionLabel
  | .actionUrl => content.actionUrl
  | .secondary => content.secondary

def secondaryLayout : List (String ⊕ TemplateField) :=
  [.inl "<div style=\"margin:20px 0;padding:16px;",
    .inl "border-radius:12px;background:#f1f5f9;color:#334155;",
    .inl "white-space:pre-line\">",
    .inr .secondary,
    .inl "</div>"]

def actionLayout : List (String ⊕ TemplateField) :=
  [.inl "<p style=\"margin:24px 0\"><a href=\"",
    .inr .actionUrl,
    .inl "\" style=\"display:inline-block;border-radius:10px;",
    .inl "background:",
    .inr .brandColor,
    .inl ";color:#ffffff;padding:12px 20px;text-decoration:none;",
    .inl "font-weight:700\">",
    .inr .actionLabel,
    .inl "</a></p><p style=\"font-size:12px;color:#64748b;",
    .inl "word-break:break-all\">",
    .inr .actionUrl,
    .inl "</p>"]

def pageLayout (secondary action : List (String ⊕ TemplateField)) :
    List (String ⊕ TemplateField) :=
  [.inl "<!doctype html>\n<html lang=\"en\"><head><meta ",
    .inl "charset=\"utf-8\"><meta name=\"viewport\" ",
    .inl "content=\"width=device-width,initial-scale=1\"><style>",
    .inl "@media(max-width:600px)\x7b.email-card\x7b",
    .inl "width:100%!important\x7d.email-pad\x7bpadding:24px!important\x7d\x7d",
    .inl "</style></head>\n<body style=\"margin:0;",
    .inl "background:#f1f5f9;color:#0f172a;",
    .inl "font-family:Arial,sans-serif\"><div style=\"display:none;",
    .inl "max-height:0;overflow:hidden\">",
    .inr .lead,
    .inl "</div><table role=\"presentation\" width=\"100%\" ",
    .inl "cellspacing=\"0\" cellpadding=\"0\" ",
    .inl "style=\"background:#f1f5f9;padding:24px 12px\"><tr><td ",
    .inl "align=\"center\"><table role=\"presentation\" width=\"600\" ",
    .inl "class=\"email-card\" cellspacing=\"0\" cellpadding=\"0\" ",
    .inl "style=\"width:600px;max-width:100%;background:#ffffff;",
    .inl "border-radius:16px;overflow:hidden\"><tr><td ",
    .inl "class=\"email-pad\" style=\"padding:28px 36px;background:",
    .inr .brandColor,
    .inl ";color:#ffffff;font-size:20px;font-weight:700\">",
    .inr .brandName,
    .inl "</td></tr><tr><td class=\"email-pad\" style=\"padding:36px;",
    .inl "line-height:1.6\"><h1 style=\"margin:0 0 20px;",
    .inl "font-size:26px;line-height:1.25\">",
    .inr .subject,
    .inl "</h1><p>Hello ",
    .inr .recipientName,
    .inl ",</p><p>",
    .inr .lead,
    .inl "</p>"] ++
  secondary ++ action ++
  [.inl "<p style=\"margin-top:32px;color:#475569;font-size:14px\">",
    .inl "Need help? Contact <a href=\"mailto:",
    .inr .replyAddress,
    .inl "\">",
    .inr .replyAddress,
    .inl "</a>.</p><p style=\"color:#475569\">— ",
    .inr .brandName,
    .inl "</p></td></tr></table></td></tr></table></body></html>"]

def template (secondary action : Bool) : List (CodeUnit ⊕ TemplateField) :=
  (pageLayout (if secondary then secondaryLayout else [])
    (if action then actionLayout else [])).flatMap
    (Sum.elim (fun literal => (text literal).map .inl) fun field => [.inr field])

def hasSecondary (content : TemplateContent) : Bool := content.secondary ≠ []

def hasAction (content : TemplateContent) : Bool :=
  content.actionUrl ≠ [] ∧ content.actionLabel ≠ []

/-- `replace(/\n{3,}/g, '\n\n')`, after `feeds` line feeds. -/
def collapseLines (feeds : ℕ) : Text → Text
  | [] => []
  | c :: t =>
    if c = lineFeed then (if feeds < 2 then [lineFeed] else []) ++ collapseLines (feeds + 1) t
    else c :: collapseLines 0 t

def textLayout (branding : EmailBranding) (recipientName : Text) (content : TemplateContent) :
    Text :=
  collapseLines 0 (List.intercalate [lineFeed]
    [branding.brandName, [], text "Hello " ++ recipientName ++ text ",", [], content.lead,
      if hasSecondary content then lineFeed :: content.secondary else [],
      if hasAction content then lineFeed :: content.actionLabel ++ text ": " ++ content.actionUrl
        else [],
      [], text "Need help? Contact " ++ field branding recipientName content .replyAddress ++ text ".",
      [], text "— " ++ branding.brandName])

def htmlLayout (branding : EmailBranding) (recipientName : Text) (content : TemplateContent) :
    Text :=
  Html.render (field branding recipientName content)
    (template (hasSecondary content) (hasAction content))

/-- `replace(/[\r\n]+/g, ' ')` -/
def replaceBreaks (afterBreak : Bool) : Text → Text
  | [] => []
  | c :: t =>
    if c = carriageReturn ∨ c = lineFeed then
      (if afterBreak then [] else [blank]) ++ replaceBreaks true t
    else c :: replaceBreaks false t

def sanitizeSubject (value : Text) : Text := (trim (replaceBreaks false value)).take 255

structure RenderedTemplate where
  subject : Text
  text : Text
  html : Text

def render {key : EmailTemplateKey} (model : EmailTemplateModel key) (branding : EmailBranding) :
    RenderedTemplate :=
  let content := content rt key model.fields
  { subject := sanitizeSubject content.subject
    text := textLayout branding model.recipientName content
    html := htmlLayout branding model.recipientName content }

/-! ## What is read of it -/

/-- The page with the plain texts in its holes. -/
def page (branding : EmailBranding) (recipientName : Text) (content : TemplateContent) :
    Option (List Token) :=
  lex (field branding recipientName content) (template (hasSecondary content) (hasAction content))
    (.data [])

/-- The texts of the model that reach the page. -/
def texts : (key : EmailTemplateKey) → Fields key → List Text
  | .hostingCancellationRequested, model => [model.productName, model.serviceUrl]
  | .customerEmailCode, model => [model.code]
  | .emailVerification, model | .passwordReset, model => [model.actionUrl]
  | .orderReceived, model | .orderApproved, model =>
    [model.orderNumber, model.productName, model.requestedDomain, model.currency, model.orderUrl]
  | .paymentReceived, model => [model.invoiceNumber, model.currency, model.invoiceUrl]
  | .invoiceCreated, model | .renewalReminder, model | .overdueNotice, model =>
    [model.invoiceNumber, model.currency, model.invoiceUrl]
  | .serviceProvisioned, model | .serviceSuspended, model | .serviceReactivated, model =>
    [model.productName, model.domain, model.serviceUrl]
  | .ticketReply, model =>
    [model.ticketNumber, model.subject, model.replyExcerpt, model.ticketUrl]

/-- Only the mail with a code has nothing to follow. -/
def hasButton : EmailTemplateKey → Bool
  | .customerEmailCode => false
  | _ => true

theorem template_readable : ∀ secondary action,
    (∀ symbol ∈ template secondary action, symbol ≠ .inl ampersand) ∧
      (lex (fun _ => []) (template secondary action) (.data [])).isSome := by
  decide +kernel

@[simp]
theorem text_eq_nil_iff {s : String} : text s = [] ↔ s = "" := by
  have hunits : ∀ c, units c ≠ [] := by
    intro c
    unfold units
    split <;> simp
  rw [text, List.flatMap_eq_nil_iff]
  refine ⟨fun h => ?_, by rintro rfl; simp⟩
  exact String.toList_eq_nil_iff.1 (List.eq_nil_iff_forall_not_mem.2 fun c hc => hunits c (h c hc))

theorem intercalate_cons_ne_nil (separator : Text) {t : Text} (ht : t ≠ []) (ts : List Text) :
    List.intercalate separator (t :: ts) ≠ [] := by
  cases ts <;> simp [List.intercalate, ht]

theorem details_cons_ne_nil (row : String × Text) (rows : List (String × Text)) :
    details (row :: rows) ≠ [] :=
  intercalate_cons_ne_nil _ (by simp) _

theorem content_parts {key : EmailTemplateKey} {fields : Fields key} (h : [] ∉ texts key fields) :
    hasSecondary (content rt key fields) = true ∧
      hasAction (content rt key fields) = hasButton key := by
  cases key <;>
    simp_all [texts, content, hasSecondary, hasAction, hasButton, actionContent, orderContent,
      invoiceContent, serviceContent, details_cons_ne_nil, intercalate_cons_ne_nil]

theorem replaceBreaks_line {value : Text} {afterBreak : Bool} {c : CodeUnit}
    (hc : c ∈ replaceBreaks afterBreak value) : c ≠ carriageReturn ∧ c ≠ lineFeed := by
  have hblank : blank ≠ carriageReturn ∧ blank ≠ lineFeed := by decide
  induction value generalizing afterBreak with
  | nil => cases hc
  | cons d t ih =>
    rw [replaceBreaks] at hc
    split at hc
    · cases afterBreak <;> grind
    · grind

theorem sanitizeSubject_line {value : Text} {c : CodeUnit} (hc : c ∈ sanitizeSubject value) :
    c ≠ carriageReturn ∧ c ≠ lineFeed := by
  have htrim := List.mem_of_mem_take hc
  rw [trim, List.mem_reverse] at htrim
  have hvalue := List.mem_reverse.1 (List.dropWhile_subset _ htrim)
  exact replaceBreaks_line (List.dropWhile_subset _ hvalue)

/-- **Rendered e-mail is inert**: the mails of a template have one skeleton of tags, each page is
read with the plain text in every hole, and the subject is one line. -/
theorem rendered_email_is_inert {key : EmailTemplateKey} (model model' : EmailTemplateModel key)
    (branding branding' : EmailBranding) :
    let mail := render rt model branding
    let mail' := render rt model' branding'
    ([] ∉ texts key model.fields → [] ∉ texts key model'.fields →
      ∃ tokens tokens', read mail.html = some tokens ∧ read mail'.html = some tokens' ∧
        page branding model.recipientName (content rt key model.fields) = some tokens ∧
        skeleton tokens = skeleton tokens') ∧
    carriageReturn ∉ mail.subject ∧ lineFeed ∉ mail.subject ∧ mail.subject.length ≤ 255 := by
  refine ⟨fun h h' => ?_, fun hc => (sanitizeSubject_line hc).1 rfl,
    fun hc => (sanitizeSubject_line hc).2 rfl, List.length_take_le ..⟩
  obtain ⟨hplain, hread⟩ := template_readable true (hasButton key)
  obtain ⟨tokens, htokens, hmail⟩ := exists_read hplain hread
    (field branding model.recipientName (content rt key model.fields))
  obtain ⟨tokens', htokens', hmail'⟩ := exists_read hplain hread
    (field branding' model'.recipientName (content rt key model'.fields))
  simp only [page, render, htmlLayout, content_parts rt h, content_parts rt h']
  refine ⟨tokens, tokens', hmail, hmail', htokens, Option.some.inj ?_⟩
  rw [← Option.map_some, ← Option.map_some, ← htokens, ← htokens']
  exact lex_skeleton _ _ _ rfl

def plainRuntime : EmailRuntime where
  formatDate _ := text "04/05/2026"
  formatTime _ := text "09:30"
  maximumFractionDigits _ := some 2

def reply (subject replyExcerpt : Text) : EmailTemplateModel .ticketReply where
  recipientName := text "Rahim"
  fields := ⟨text "T-7", subject, replyExcerpt, text "https://portal.example/tickets/7"⟩

def shop (brandColor : Text) : EmailBranding :=
  ⟨text "Shop", brandColor, text "billing@shop.example", none⟩

/-- Markup in the subject of a ticket and in the colour. -/
theorem reply_is_inert :
    let mail := render plainRuntime
      (reply (text "</p><script>") (text "\"><img src=x>")) (shop (text "red\"><b>"))
    let mail' := render plainRuntime (reply (text "a") (text "b")) (shop (text "red"))
    ∃ tokens tokens', read mail.html = some tokens ∧ read mail'.html = some tokens' ∧
      skeleton tokens = skeleton tokens' := by
  obtain ⟨tokens, tokens', hread, hread', -, hskeleton⟩ :=
    (rendered_email_is_inert plainRuntime
      (reply (text "</p><script>") (text "\"><img src=x>")) (reply (text "a") (text "b"))
      (shop (text "red\"><b>")) (shop (text "red"))).1 (by decide) (by decide)
  exact ⟨tokens, tokens', hread, hread', hskeleton⟩

end EmailTemplateCatalog

end WebhostBilling
