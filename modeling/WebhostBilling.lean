import WebhostBilling.Auth.EndedAccess
import WebhostBilling.Auth.Enrolment
import WebhostBilling.Auth.LoginChallenges
import WebhostBilling.Auth.PasswordChanges
import WebhostBilling.Auth.PasswordResets
import WebhostBilling.Auth.SupportAccess
import WebhostBilling.Auth.TotpSecrets
import WebhostBilling.Currency.CanonicalContexts
import WebhostBilling.Currency.CanonicalIntents
import WebhostBilling.Currency.DecimalRates
import WebhostBilling.Currency.PolicyHistory
import WebhostBilling.Currency.PolicyTransitions
import WebhostBilling.Email.EmailTemplateCatalog
import WebhostBilling.Email.SentEmails
import WebhostBilling.Gateways.Observations
import WebhostBilling.Gateways.SettlementConfirmation
import WebhostBilling.Invoices.InvoicePdf
import WebhostBilling.Notifications.ProjectionRuns
import WebhostBilling.Notifications.SubmittedNotifications
import WebhostBilling.Observability.Redaction
import WebhostBilling.Orders.ClosedOrders
import WebhostBilling.Orders.Completion
import WebhostBilling.Orders.Fulfilment
import WebhostBilling.Orders.OrderAmounts
import WebhostBilling.Orders.RepeatedPurchases
import WebhostBilling.Orders.StatusChanges
import WebhostBilling.Outbox.PublicationRace
import WebhostBilling.Payments.RepeatedSubmissions
import WebhostBilling.Products.SellableProducts
import WebhostBilling.Registrar.CheckedCredentials
import WebhostBilling.Registrar.CreatedContacts
import WebhostBilling.Registrar.DomainObservations
import WebhostBilling.Registrar.ResellerIdentities
import WebhostBilling.Registrar.SentRegistrations
import WebhostBilling.Renewal.RunCounters
import WebhostBilling.Reports.CsvExport
import WebhostBilling.Reports.InvoiceAging
import WebhostBilling.Servers.TestedConnections
import WebhostBilling.Services.EndedAddOns
import WebhostBilling.Services.FinalCancellations
import WebhostBilling.Services.ServerCapacity
import WebhostBilling.Settings.BusinessCurrency
import WebhostBilling.Settings.InvoiceNumbers
import WebhostBilling.Tickets.TicketRecipients
