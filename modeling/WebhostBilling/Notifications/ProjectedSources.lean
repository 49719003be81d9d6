import Mathlib.Data.List.Nodup
import WebhostBilling.Notifications.NotificationProjectionService

/-!
# Sources are projected once

A projection appends entries and requests for their delivery (`Emits`), and marks its sources.  Each
of its writes keeps `Projected`: the marked sources differ, whatever is recorded under a source's
own key was emitted when the source was marked, and a recipient has at most one entry of a source on
a channel.  No entry about a failed entry is about another such entry.
-/

namespace WebhostBilling

open Store Store.Table Concurrency Notification NotificationDeliveryService

namespace NotificationProjectionService

section

variable {environment : WorkerEnvironment} {before : SourceKey → SourceKey → Bool}
  {w : ProjectionWorld} {s s' s'' : ProjectionStore} {now : ℕ}

def audienceOf (key : NotificationKey) : UserRole := (notificationDefinition key).audience

/-! ## What emitting appends -/

def isRequest (row : SourceRow) : Prop :=
  ∃ createdAt payload,
    row = .outbox createdAt createdAt .notificationDeliveryRequested payload .pending

structure Emits (s s' : ProjectionStore) (added : List ProjectedEntry) : Prop where
  entries : s'.entries.rows = s.entries.rows ++ added
  rows : ∃ requests, s'.rows.rows = s.rows.rows ++ requests ∧ ∀ row ∈ requests, isRequest row
  users : s'.users = s.users
  sources : s'.sources = s.sources
  startedAt : s'.startedAt = s.startedAt
  projecting : s'.projecting = s.projecting

theorem Emits.refl : Emits s s [] :=
  ⟨(List.append_nil _).symm, ⟨[], (List.append_nil _).symm, nofun⟩, rfl, rfl, rfl, rfl⟩

variable {emission : Emission} {added : List ProjectedEntry} {entry : ProjectedEntry}
  {source : Source} {reads : SourceReads}

theorem Emits.trans {added' : List ProjectedEntry} (h : Emits s s' added)
    (h' : Emits s' s'' added') : Emits s s'' (added ++ added') := by
  obtain ⟨requests, hrows, hrequests⟩ := h.rows
  obtain ⟨requests', hrows', hrequests'⟩ := h'.rows
  refine ⟨?_, ⟨requests ++ requests', ?_, ?_⟩, h'.users.trans h.users, h'.sources.trans h.sources,
    h'.startedAt.trans h.startedAt, h'.projecting.trans h.projecting⟩
  · rw [h'.entries, h.entries, List.append_assoc]
  · rw [hrows', hrows, List.append_assoc]
  · intro row hrow
    rcases List.mem_append.1 hrow with hrow | hrow
    · exact hrequests row hrow
    · exact hrequests' row hrow

theorem createEntry_emits (now : ℕ) (entry : ProjectedEntry) (s : ProjectionStore) :
    Emits s (createEntry now entry s) [] ∧ createEntry now entry s = s ∨
      (s.entries.any fun _ other => entry.clashes other) = false ∧
        Emits s (createEntry now entry s) [entry] := by
  unfold createEntry
  split
  · exact .inl ⟨Emits.refl, rfl⟩
  · rename_i hfree
    refine .inr ⟨Bool.eq_false_of_not_eq_true hfree, rfl, ?_, rfl, rfl, rfl, rfl⟩
    split
    · exact ⟨_, rfl, fun row hrow => ⟨now, _, List.mem_singleton.1 hrow⟩⟩
    · exact ⟨[], (List.append_nil _).symm, nofun⟩

theorem createEntries_emits (now : ℕ) (entries : List ProjectedEntry) (s : ProjectionStore) :
    ∃ added, Emits s (createEntries now entries s) added ∧ added.Sublist entries := by
  induction entries generalizing s with
  | nil => exact ⟨[], Emits.refl, List.Sublist.refl _⟩
  | cons entry entries ih =>
    obtain ⟨added, hadded, hsublist⟩ := ih (createEntry now entry s)
    rcases createEntry_emits now entry s with ⟨hfirst, -⟩ | ⟨-, hfirst⟩
    · exact ⟨[] ++ added, hfirst.trans hadded, hsublist.cons entry⟩
    · exact ⟨[entry] ++ added, hfirst.trans hadded, hsublist.cons_cons entry⟩

theorem mem_emittedEntries {users : Table Recipient}
    (h : entry ∈ emittedEntries environment emission users) :
    entry.key = emission.key ∧ entry.sourceKey = emission.sourceKey ∧ entry.completedAt = none ∧
      (entry.status = .suppressed ∨ entry.status = .queued ∨ entry.status = .disabled) ∧
      ∃ recipient, users.get? entry.userId = some recipient ∧
        recipient.user.role = audienceOf emission.key := by
  simp only [emittedEntries] at h
  split at h
  · exact nomatch h
  · obtain ⟨⟨id, recipient⟩, hmem, hentry⟩ := List.mem_flatMap.1 h
    obtain ⟨channel, -, rfl⟩ := List.mem_map.1 hentry
    obtain ⟨hrow, hrecipient⟩ := mem_select.1 hmem
    refine ⟨rfl, rfl, rfl, ?_, recipient, hrow, (of_decide_eq_true hrecipient).1⟩
    show initialStatus environment channel recipient = _ ∨
        initialStatus environment channel recipient = _
      ∨ initialStatus environment channel recipient = _
    unfold initialStatus
    split
    · exact .inl rfl
    · split
      · exact .inr (.inl rfl)
      · exact .inr (.inr rfl)

theorem length_channelsOf (definition : NotificationDefinition) :
    (channelsOf definition).length ≤ 2 := by
  unfold channelsOf
  split <;> split <;> simp

theorem length_flatMap_le {α β : Type} {xs : List α} {f : α → List β} {n : ℕ}
    (h : ∀ x ∈ xs, (f x).length ≤ n) : (xs.flatMap f).length ≤ n * xs.length := by
  induction xs with
  | nil => exact Nat.zero_le _
  | cons x xs ih =>
    have hx := h x List.mem_cons_self
    have hxs := ih fun y hy => h y (List.mem_cons_of_mem x hy)
    rw [List.flatMap_cons, List.length_append, List.length_cons, Nat.mul_succ]
    omega

theorem length_emittedEntries (emission : Emission) (users : Table Recipient) :
    (emittedEntries environment emission users).length ≤ 2 * users.size := by
  simp only [emittedEntries]
  split
  · exact Nat.zero_le _
  · have hselect : (users.select fun id recipient => isRecipient (notificationDefinition emission.key)
        emission.target id recipient).length ≤ users.size := by
      rw [Table.select, List.length_map, Table.size, ← List.length_zipIdx (l := users.rows)]
      exact List.length_filter_le _ _
    refine (length_flatMap_le fun recipient _ => ?_).trans (Nat.mul_le_mul_left 2 hselect)
    rw [List.length_map]
    exact length_channelsOf _

/-! ## What a source emits -/

def sharedKey : EntryKey → UserRole → Option NotificationKey
  | .domainRenewed _, .customer => some .clientDomainRenewed
  | .domainProblem _, .admin => some .adminDomainProblem
  | .invoiceCreated _, .customer => some .clientInvoiceIssued
  | .invoiceCreated _, .admin => some .adminInvoiceIssued
  | .overdueNotice _, .customer => some .clientOverdueNotice
  | .overdueNotice _, .admin => some .adminOverdueNotice
  | .domainRegistered _, .customer => some .clientDomainRegistered
  | .registrarProblem _, .admin => some .adminDomainProblem
  | .domainExpiryFinal _ _, .customer => some .clientDomainExpiryWarning
  | .domainExpiry _ _ _, .customer => some .clientDomainRenewalReminder
  | .finalWarning _ _, .customer => some .clientFinalWarning
  | _, _ => none

def EmittedFrom (source : Source) (emission : Emission) : Prop :=
  sharedKey emission.sourceKey (audienceOf emission.key) = some emission.key ∨
    emission.sourceKey = .source source.key

/-- At most one notification for the customers, and one for the administrators. -/
structure EmitsOnce (source : Source) (emissions : List Emission) : Prop where
  length : emissions.length ≤ 2
  apart : emissions.Pairwise fun a b => audienceOf a.key ≠ audienceOf b.key
  emitted : ∀ emission ∈ emissions, EmittedFrom source emission

theorem emitsOnce_nil : EmitsOnce source [] :=
  ⟨Nat.zero_le 2, List.Pairwise.nil, fun _ h => absurd h List.not_mem_nil⟩

theorem emitsOnce_singleton (h : EmittedFrom source emission) : EmitsOnce source [emission] :=
  ⟨by simp, List.pairwise_singleton _ _, by simpa using h⟩

theorem emitsOnce_pair {client admin : Emission} (hclient : EmittedFrom source client)
    (hadmin : EmittedFrom source admin) (hcustomers : audienceOf client.key = .customer)
    (hadministrators : audienceOf admin.key = .admin) : EmitsOnce source [client, admin] :=
  ⟨by simp, by simp [hcustomers, hadministrators], by simpa using ⟨hclient, hadmin⟩⟩

theorem emitsOnce_toCustomer {key : NotificationKey} {sourceKey : EntryKey}
    {metadata : NotificationMetadata} {customerId : Option RowId}
    (h : EmittedFrom source ⟨key, sourceKey, { customerId := customerId }, metadata⟩) :
    EmitsOnce source (toCustomer key sourceKey metadata customerId) := by
  cases customerId with
  | none => exact emitsOnce_nil
  | some customerId => exact emitsOnce_singleton h

theorem auditEmissions_once {action : AuditAction} {entityId : RowId} {metadata : AuditMetadata} :
    EmitsOnce source (auditEmissions source action entityId metadata reads) := by
  cases action with
  | authEmailVerified =>
    simp only [auditEmissions]
    split
    · exact emitsOnce_pair (.inr rfl) (.inr rfl) rfl rfl
    · exact emitsOnce_nil
  | authPasswordResetCompleted | authTwoFactorEnabled | authTwoFactorDisabled
  | authTwoFactorRecoveryCodesRegenerated =>
    simp only [auditEmissions]
    split
    · exact emitsOnce_singleton (.inr rfl)
    · exact emitsOnce_nil
  | customerPasswordChanged => exact emitsOnce_toCustomer (.inr rfl)
  | manualPaymentSubmittedByCustomer =>
    simp only [auditEmissions]
    split
    · exact emitsOnce_singleton (.inr rfl)
    · exact emitsOnce_nil
  | manualPaymentRefundedByAdmin | manualPaymentReversedByAdmin =>
    simp only [auditEmissions]
    split
    · exact emitsOnce_pair (.inr rfl) (.inr rfl) rfl rfl
    · exact emitsOnce_nil
  | ticketCreatedByCustomer => exact emitsOnce_singleton (.inr rfl)
  | ticketUpdatedByAdmin =>
    simp only [auditEmissions]
    split
    · split
      · exact emitsOnce_pair (.inr rfl) (.inr rfl) rfl rfl
      · exact emitsOnce_nil
    · exact emitsOnce_nil
  | domainActionConfirmed =>
    simp only [auditEmissions]
    split
    · exact emitsOnce_toCustomer (.inl rfl)
    · exact emitsOnce_nil
  | domainActionOutcomeUncertain | domainActionReadUncertain | domainActionNotSubmitted =>
    exact emitsOnce_singleton (.inl rfl)
  | other _ => exact emitsOnce_nil

theorem outboxEmissions_once {eventType : OutboxEventType} {payload : SourcePayload} :
    EmitsOnce source (outboxEmissions source eventType payload reads) := by
  unfold outboxEmissions
  split
  · exact emitsOnce_singleton (.inr rfl)
  · exact emitsOnce_singleton (.inr rfl)
  · exact emitsOnce_singleton (.inr rfl)
  · split
    · split
      · exact emitsOnce_pair (.inl rfl) (.inl rfl) rfl rfl
      · exact emitsOnce_nil
    · exact emitsOnce_nil
  · split
    · split
      · exact emitsOnce_pair (.inl rfl) (.inl rfl) rfl rfl
      · exact emitsOnce_nil
    · exact emitsOnce_nil
  · split
    · split
      · exact emitsOnce_singleton (.inr rfl)
      · exact emitsOnce_nil
    · exact emitsOnce_nil
  · split
    · split
      · exact emitsOnce_singleton (.inr rfl)
      · exact emitsOnce_nil
    · exact emitsOnce_nil
  · split
    · split
      · split
        · exact emitsOnce_singleton (.inr rfl)
        · exact emitsOnce_nil
      · split
        · exact emitsOnce_singleton (.inr rfl)
        · exact emitsOnce_nil
      · exact emitsOnce_nil
    · exact emitsOnce_nil
  · exact emitsOnce_nil

theorem registrarEmissions_once {code : RegistrarEvidenceCode} {operationId : RowId} :
    EmitsOnce source (registrarEmissions code operationId reads) := by
  unfold registrarEmissions
  split
  · split <;> exact emitsOnce_singleton (.inl rfl)
  · exact emitsOnce_nil

theorem emissions_once (s : ProjectionStore) (source : Source) (reads : SourceReads) :
    EmitsOnce source (emissions s source reads) := by
  unfold emissions
  split
  · exact auditEmissions_once
  · exact outboxEmissions_once
  · exact registrarEmissions_once
  · exact emitsOnce_singleton (.inr rfl)
  · exact emitsOnce_singleton (.inr rfl)
  · exact emitsOnce_singleton (.inr rfl)
  · exact emitsOnce_singleton (.inr rfl)
  · exact emitsOnce_singleton (.inr rfl)
  · exact emitsOnce_nil

theorem emissions_failedNotification (h : source.kind = .failedNotification) :
    emissions s source reads = [⟨.adminDeliveryFailure, .source source.key, {}, {}⟩] := by
  obtain ⟨kind, id, createdAt⟩ := source
  obtain rfl : kind = .failedNotification := h
  rfl

/-- What holds of a reminder, an expiry warning and a final warning holds of the whole calendar. -/
theorem forall_calendarEmissions {p : Emission → Prop}
    (hreminder : ∀ id expiry day recipient metadata,
      p ⟨.clientDomainRenewalReminder, .domainExpiry id expiry day, recipient, metadata⟩)
    (hexpiry : ∀ id expiry recipient metadata,
      p ⟨.clientDomainExpiryWarning, .domainExpiryFinal id expiry, recipient, metadata⟩)
    (hfinal : ∀ id date recipient metadata,
      p ⟨.clientFinalWarning, .finalWarning id date, recipient, metadata⟩)
    (h : emission ∈ calendarEmissions environment w) : p emission := by
  rcases List.mem_append.1 h with h | h
  · obtain ⟨domain, -, h⟩ := List.mem_flatMap.1 h
    unfold domainEmission at h
    split at h
    · obtain rfl := List.mem_singleton.1 h
      exact hreminder _ _ _ _ _
    · split at h
      · obtain rfl := List.mem_singleton.1 h
        exact hexpiry _ _ _ _
      · exact nomatch h
  · split at h
    · obtain ⟨invoice, -, h⟩ := List.mem_flatMap.1 h
      unfold invoiceEmission at h
      split at h
      · obtain rfl := List.mem_singleton.1 h
        exact hfinal _ _ _ _
      · exact nomatch h
    · exact nomatch h

theorem calendarEmissions_shared (h : emission ∈ calendarEmissions environment w) :
    sharedKey emission.sourceKey (audienceOf emission.key) = some emission.key := by
  refine forall_calendarEmissions
    (p := fun emission => sharedKey emission.sourceKey (audienceOf emission.key) = some emission.key)
    ?_ ?_ ?_ h <;> intros <;> rfl

/-! ## The invariant -/

abbrev Current := Option (SourceKey × List NotificationKey)

/-- **The invariant** of the entries and the marked sources. -/
structure Projected (current : Current) (s : ProjectionStore) : Prop where
  nodup : s.sources.Nodup
  marked : ∀ id entry key, s.entries.get? id = some entry → entry.sourceKey = .source key →
    key ∈ s.sources ∨ ∃ keys, current = some (key, keys) ∧ entry.key ∈ keys
  audience : ∀ id entry, s.entries.get? id = some entry →
    ∃ recipient, s.users.get? entry.userId = some recipient ∧
      recipient.user.role = audienceOf entry.key
  shared : ∀ id entry, s.entries.get? id = some entry →
    sharedKey entry.sourceKey (audienceOf entry.key) = some entry.key ∨
      ∃ key, entry.sourceKey = .source key
  once : ∀ i j entry other, s.entries.get? i = some entry → s.entries.get? j = some other →
    entry.sourceKey = other.sourceKey → entry.userId = other.userId →
    entry.channel = other.channel → i = j
  reports : ∀ id entry reported, s.entries.get? id = some entry →
    entry.sourceKey = .source (.row .failedNotification reported) →
    entry.key = .adminDeliveryFailure ∧
      ∃ failed, s.entries.get? reported = some failed ∧ isFailureKey failed.key = false

structure Allowed (current : Current) (s : ProjectionStore) (key : NotificationKey)
    (sourceKey : EntryKey) : Prop where
  emitted : sharedKey sourceKey (audienceOf key) = some key ∨
    ∃ source keys, current = some (source, keys) ∧ sourceKey = .source source ∧ key ∈ keys ∧
      source ∉ s.sources ∧ ∀ x ∈ keys, ∀ y ∈ keys, audienceOf x = audienceOf y → x = y
  reports : ∀ reported, sourceKey = .source (.row .failedNotification reported) →
    key = .adminDeliveryFailure ∧
      ∃ failed, s.entries.get? reported = some failed ∧ isFailureKey failed.key = false

variable {current : Current}

theorem sharedKey_source {key : SourceKey} {role : UserRole} : sharedKey
    (.source key) role = none := by
  cases role <;> rfl

theorem Emits.get?_of_some (h : Emits s s' added) {id : RowId}
    (hentry : s.entries.get? id = some entry) :
    s'.entries.get? id = some entry := by
  rw [Table.get?, h.entries, List.getElem?_append_left (lt_size_of_get? hentry)]
  exact hentry

theorem Allowed.mono {key : NotificationKey} {sourceKey : EntryKey}
    (h : Allowed current s key sourceKey) (hemits : Emits s s' added) :
    Allowed current s' key sourceKey := by
  refine ⟨?_, fun reported hreported => ?_⟩
  · rw [hemits.sources]
    exact h.emitted
  · obtain ⟨hkey, failed, hfailed, hreportable⟩ := h.reports reported hreported
    exact ⟨hkey, failed, hemits.get?_of_some hfailed, hreportable⟩

theorem Emits.get?_cases (h : Emits s s' [entry]) {id : RowId}
    {row : ProjectedEntry} (hrow : s'.entries.get? id = some row) :
    (id = s.entries.size ∧ row = entry) ∨ s.entries.get? id = some row := by
  have hinsert : s'.entries = s.entries.insert entry := by
    cases hentries : s'.entries with
    | mk rows => exact congrArg Table.mk (by rw [← h.entries, hentries])
  rw [hinsert] at hrow
  exact get?_insert_cases hrow

theorem Projected.entry_created (h : Projected current s)
    (hallowed : Allowed current s entry.key entry.sourceKey)
    (huser : ∃ recipient, s.users.get? entry.userId = some recipient ∧
      recipient.user.role = audienceOf entry.key) :
    Projected current (createEntry now entry s) := by
  rcases createEntry_emits now entry s with ⟨-, hsame⟩ | ⟨hfree, hemits⟩
  · rw [hsame]
    exact h
  -- No other entry of the source is there for the recipient and the channel.
  have hunique : ∀ j other, s.entries.get? j = some other → entry.sourceKey = other.sourceKey →
      entry.userId = other.userId → entry.channel = other.channel → False := by
    intro j other hother hsource huserId hchannel
    obtain ⟨recipient, hrecipient, hrole⟩ := huser
    obtain ⟨recipient', hrecipient', hrole'⟩ := h.audience j other hother
    rw [← huserId, hrecipient, Option.some.injEq] at hrecipient'
    have haudience : audienceOf other.key = audienceOf entry.key := by
      rw [← hrole', ← hrecipient', hrole]
    have hkey : other.key = entry.key := by
      rcases hallowed.emitted with hshared | ⟨source, keys, hcurrent, hsourceKey, hmem, hnew, hapart⟩
      · rcases h.shared j other hother with hshared' | ⟨key, hkey⟩
        · rw [← hsource, haudience, hshared, Option.some.injEq] at hshared'
          exact hshared'.symm
        · rw [hsource, hkey, sharedKey_source] at hshared
          exact nomatch hshared
      · rcases h.marked j other source hother (hsource ▸ hsourceKey) with hmarked |
            ⟨keys', hcurrent', hmem'⟩
        · exact absurd hmarked hnew
        · rw [hcurrent, Option.some.injEq, Prod.mk.injEq] at hcurrent'
          obtain ⟨-, rfl⟩ := hcurrent'
          exact hapart _ hmem' _ hmem haudience
    have hclash := any_eq_false.1 hfree j other hother
    exact of_decide_eq_false hclash ⟨hsource.symm, huserId.symm, hkey, hchannel.symm⟩
  refine ⟨?_, fun id row key hrow hkey => ?_, fun id row hrow => ?_, fun id row hrow => ?_,
    fun i j row other hrow hother hsource huserId hchannel => ?_,
    fun id row reported hrow hreported => ?_⟩
  · rw [hemits.sources]
    exact h.nodup
  · rw [hemits.sources]
    rcases hemits.get?_cases hrow with ⟨-, rfl⟩ | hrow
    · rcases hallowed.emitted with hshared | ⟨source, keys, hcurrent, hsourceKey, hmem, -, -⟩
      · rw [hkey, sharedKey_source] at hshared
        exact nomatch hshared
      · obtain rfl := EntryKey.source.inj (hkey.symm.trans hsourceKey)
        exact .inr ⟨keys, hcurrent, hmem⟩
    · exact h.marked id row key hrow hkey
  · rw [hemits.users]
    rcases hemits.get?_cases hrow with ⟨-, rfl⟩ | hrow
    · exact huser
    · exact h.audience id row hrow
  · rcases hemits.get?_cases hrow with ⟨-, rfl⟩ | hrow
    · rcases hallowed.emitted with hshared | ⟨source, -, -, hsourceKey, -⟩
      · exact .inl hshared
      · exact .inr ⟨source, hsourceKey⟩
    · exact h.shared id row hrow
  · rcases hemits.get?_cases hrow with ⟨hi, hnew⟩ | hold
    · rcases hemits.get?_cases hother with ⟨hj, -⟩ | hold'
      · rw [hi, hj]
      · rw [hnew] at hsource huserId hchannel
        exact (hunique j other hold' hsource huserId hchannel).elim
    · rcases hemits.get?_cases hother with ⟨-, hnew⟩ | hold'
      · rw [hnew] at hsource huserId hchannel
        exact (hunique i row hold hsource.symm huserId.symm hchannel.symm).elim
      · exact h.once i j row other hold hold' hsource huserId hchannel
  · have hreport : row.key = .adminDeliveryFailure ∧
        ∃ failed, s.entries.get? reported = some failed ∧ isFailureKey failed.key = false := by
      rcases hemits.get?_cases hrow with ⟨-, rfl⟩ | hrow
      · exact hallowed.reports reported hreported
      · exact h.reports id row reported hrow hreported
    obtain ⟨hkey, failed, hfailed, hreportable⟩ := hreport
    exact ⟨hkey, failed, hemits.get?_of_some hfailed, hreportable⟩

theorem Projected.entries_created (h : Projected current s) {entries : List ProjectedEntry}
    (hentries : ∀ entry ∈ entries, Allowed current s entry.key entry.sourceKey ∧
      ∃ recipient, s.users.get? entry.userId = some recipient ∧
        recipient.user.role = audienceOf entry.key) :
    Projected current (createEntries now entries s) := by
  induction entries generalizing s with
  | nil => exact h
  | cons entry entries ih =>
    obtain ⟨hallowed, huser⟩ := hentries entry List.mem_cons_self
    obtain ⟨added, hemits⟩ : ∃ added, Emits s (createEntry now entry s) added := by
      rcases createEntry_emits now entry s with ⟨hemits, -⟩ | ⟨-, hemits⟩
      · exact ⟨_, hemits⟩
      · exact ⟨_, hemits⟩
    refine ih (h.entry_created hallowed huser) fun other hother => ?_
    obtain ⟨hallowed', huser'⟩ := hentries other (List.mem_cons_of_mem entry hother)
    rw [hemits.users]
    exact ⟨hallowed'.mono hemits, huser'⟩

theorem Projected.emitted (h : Projected current s)
    (hallowed : Allowed current s emission.key emission.sourceKey) :
    Projected current (emit environment now emission s) := by
  refine h.entries_created fun entry hentry => ?_
  obtain ⟨hkey, hsourceKey, -, -, huser⟩ := mem_emittedEntries hentry
  rw [hkey, hsourceKey]
  exact ⟨hallowed, huser⟩

def EmittedBy (environment : WorkerEnvironment) (emissions : List Emission) (users : Table Recipient)
    (entry : ProjectedEntry) : Prop :=
  ∃ emission ∈ emissions, entry ∈ emittedEntries environment emission users

variable (environment) in
theorem emitAll_emits (now : ℕ) (emissions : List Emission) (s : ProjectionStore) :
    ∃ added, Emits s (emitAll environment now emissions s) added ∧
      (∀ entry ∈ added, EmittedBy environment emissions s.users entry) ∧
      added.length ≤ 2 * s.users.size * emissions.length := by
  induction emissions generalizing s with
  | nil => exact ⟨[], Emits.refl, fun _ h => absurd h List.not_mem_nil, Nat.zero_le _⟩
  | cons emission emissions ih =>
    obtain ⟨first, hfirst, hsublist⟩ :=
      createEntries_emits now (emittedEntries environment emission s.users) s
    obtain ⟨rest, hrest, hemitted, hlength⟩ := ih (emit environment now emission s)
    rw [show (emit environment now emission s).users = s.users from hfirst.users] at hemitted hlength
    refine ⟨first ++ rest, hfirst.trans hrest, fun entry hentry => ?_, ?_⟩
    · rcases List.mem_append.1 hentry with hentry | hentry
      · exact ⟨emission, List.mem_cons_self, hsublist.subset hentry⟩
      · obtain ⟨other, hother, hentry⟩ := hemitted entry hentry
        exact ⟨other, List.mem_cons_of_mem emission hother, hentry⟩
    · have hlt := hsublist.length_le.trans (length_emittedEntries emission s.users)
      rw [List.length_append, List.length_cons, Nat.mul_succ]
      omega

theorem Projected.all_emitted {current : Current} (h : Projected current s)
    {emissions : List Emission}
    (hallowed : ∀ emission ∈ emissions, Allowed current s emission.key emission.sourceKey) :
    Projected current (emitAll environment now emissions s) := by
  induction emissions generalizing s with
  | nil => exact h
  | cons emission emissions ih =>
    obtain ⟨added, hemits, -⟩ :=
      createEntries_emits now (emittedEntries environment emission s.users) s
    refine ih (h.emitted (hallowed emission List.mem_cons_self)) fun other hother => ?_
    exact (hallowed other (List.mem_cons_of_mem emission hother)).mono hemits

/-! ## Sources that were listed -/

def Listed (s : ProjectionStore) (source : Source) : Prop :=
  if source.kind = .failedNotification then
    ∃ entry, s.entries.get? source.id = some entry ∧ isFailureKey entry.key = false
  else ∃ row, s.rows.get? source.id = some row ∧ row.isBusiness = true

variable {id startedAt : ℕ}

theorem mem_sourceIf {p : Bool} {kind : SourceKind} {createdAt : Option ℕ}
    (h : source ∈ sourceIf p kind id createdAt startedAt) :
    source.kind = kind ∧ source.id = id ∧ p = true := by
  cases createdAt with
  | none => exact nomatch h
  | some createdAt =>
    rw [sourceIf] at h
    split at h
    · rename_i hp
      obtain rfl := List.mem_singleton.1 h
      exact ⟨rfl, rfl, hp.2⟩
    · exact nomatch h

theorem mem_rowSources {row : SourceRow} (h : source ∈ rowSources startedAt id row) :
    source.kind ≠ .failedNotification ∧ source.id = id ∧ row.isBusiness = true := by
  cases row with
  | audit _ _ entityId metadata | hosting _ _ | email _ _ _ _ | automation _ _ | registrar _ _ _ =>
    rw [rowSources] at h
    obtain ⟨hkind, hid, -⟩ := mem_sourceIf h
    exact ⟨by rw [hkind]; exact nofun, hid, rfl⟩
  | outbox createdAt updatedAt eventType payload status =>
    rcases List.mem_append.1 h with h | h
    · obtain ⟨hkind, hid, hprojected⟩ := mem_sourceIf h
      refine ⟨by rw [hkind]; exact nofun, hid, ?_⟩
      cases eventType <;> first | rfl | exact nomatch hprojected
    · obtain ⟨hkind, hid, hfailed⟩ := mem_sourceIf h
      exact ⟨by rw [hkind]; exact nofun, hid, decide_eq_true (of_decide_eq_true hfailed).2⟩

theorem mem_entrySources (h : source ∈ entrySources startedAt id entry) :
    source.kind = .failedNotification ∧ source.id = id ∧ isFailureKey entry.key = false := by
  obtain ⟨hkind, hid, hfailed⟩ := mem_sourceIf h
  exact ⟨hkind, hid, (of_decide_eq_true hfailed).2⟩

theorem listed_of_eligible (h : source ∈ eligible s) : Listed s source := by
  unfold Listed
  rcases List.mem_append.1 h with h | h
  · obtain ⟨⟨row, id⟩, hrow, h⟩ := List.mem_flatMap.1 h
    obtain ⟨hkind, rfl, hbusiness⟩ := mem_rowSources h
    rw [if_neg hkind]
    exact ⟨row, List.mem_zipIdx_iff_getElem?.1 hrow, hbusiness⟩
  · obtain ⟨⟨entry, id⟩, hentry, h⟩ := List.mem_flatMap.1 h
    obtain ⟨hkind, rfl, hreportable⟩ := mem_entrySources h
    rw [if_pos hkind]
    exact ⟨entry, List.mem_zipIdx_iff_getElem?.1 hentry, hreportable⟩

theorem mem_batch (h : source ∈ batch before s) :
    source ∈ eligible s ∧ source.key ∉ s.sources := by
  have hpending := (List.mem_insertionSort _).1 (List.mem_of_mem_take h)
  obtain ⟨heligible, hnew⟩ := List.mem_filter.1 hpending
  exact ⟨heligible, of_decide_eq_true hnew⟩

/-! ## What leaves the projected entries -/

def ProjectedEntry.identity (entry : ProjectedEntry) :
    RowId × NotificationKey × EntryKey × NotificationChannel :=
  (entry.userId, entry.key, entry.sourceKey, entry.channel)

/-- A row may have changed, and `f` of it is the same. -/
def Same {α β : Type} (f : α → β) (old new : α) : Prop := f new = f old

theorem same_refl {α β : Type} {f : α → β} (a : α) : Same f a a := rfl

structure Leaves (s s' : ProjectionStore) : Prop where
  sources : s'.sources = s.sources
  entries : s'.entries.map ProjectedEntry.identity = s.entries.map ProjectedEntry.identity
  users : Table.Grows (Same fun recipient => recipient.user.role) s.users s'.users
  rows : Table.Grows (Same SourceRow.isBusiness) s.rows s'.rows

theorem Leaves.refl : Leaves s s :=
  ⟨rfl, rfl, Grows.refl same_refl _, Grows.refl same_refl _⟩

theorem Leaves.get? (h : Leaves s s') {id : RowId} (hentry : s'.entries.get? id = some entry) :
    ∃ old, s.entries.get? id = some old ∧ entry.identity = old.identity := by
  have hid : (s'.entries.map ProjectedEntry.identity).get? id = some entry.identity := by
    rw [get?_map, hentry, Option.map_some]
  rw [h.entries, get?_map, Option.map_eq_some_iff] at hid
  obtain ⟨old, hold, heq⟩ := hid
  exact ⟨old, hold, heq.symm⟩

theorem Leaves.get?_old (h : Leaves s s') {id : RowId} (hentry : s.entries.get? id = some entry) :
    ∃ new, s'.entries.get? id = some new ∧ new.identity = entry.identity := by
  have hid : (s.entries.map ProjectedEntry.identity).get? id = some entry.identity := by
    rw [get?_map, hentry, Option.map_some]
  rw [← h.entries, get?_map, Option.map_eq_some_iff] at hid
  exact hid

theorem identity_eq {other : ProjectedEntry} (h : entry.identity = other.identity) :
    entry.userId = other.userId ∧ entry.key = other.key ∧ entry.sourceKey = other.sourceKey ∧
      entry.channel = other.channel := by
  simpa only [ProjectedEntry.identity, Prod.mk.injEq] using h

variable {marked : List SourceKey} {sources : List Source}

theorem Projected.left (h : Projected current s) (hleaves : Leaves s s') :
    Projected current s' := by
  refine ⟨?_, fun id entry key hentry hkey => ?_, fun id entry hentry => ?_,
    fun id entry hentry => ?_, fun i j entry other hentry hother hsource huser hchannel => ?_,
    fun id entry reported hentry hreported => ?_⟩
  · rw [hleaves.sources]
    exact h.nodup
  · obtain ⟨old, hold, hid⟩ := hleaves.get? hentry
    obtain ⟨-, hkeys, hsource, -⟩ := identity_eq hid
    rw [hleaves.sources, hkeys]
    exact h.marked id old key hold (hsource ▸ hkey)
  · obtain ⟨old, hold, hid⟩ := hleaves.get? hentry
    obtain ⟨huser, hkeys, -, -⟩ := identity_eq hid
    obtain ⟨recipient, hrecipient, hrole⟩ := h.audience id old hold
    obtain ⟨recipient', hrecipient', hrole'⟩ := hleaves.users _ _ hrecipient
    rw [huser, hkeys]
    exact ⟨recipient', hrecipient', hrole'.trans hrole⟩
  · obtain ⟨old, hold, hid⟩ := hleaves.get? hentry
    obtain ⟨-, hkeys, hsource, -⟩ := identity_eq hid
    rw [hkeys, hsource]
    exact h.shared id old hold
  · obtain ⟨old, hold, hid⟩ := hleaves.get? hentry
    obtain ⟨old', hold', hid'⟩ := hleaves.get? hother
    obtain ⟨huser₁, -, hsource₁, hchannel₁⟩ := identity_eq hid
    obtain ⟨huser₂, -, hsource₂, hchannel₂⟩ := identity_eq hid'
    exact h.once i j old old' hold hold' (hsource₁.symm.trans (hsource.trans hsource₂))
      (huser₁.symm.trans (huser.trans huser₂)) (hchannel₁.symm.trans (hchannel.trans hchannel₂))
  · obtain ⟨old, hold, hid⟩ := hleaves.get? hentry
    obtain ⟨-, hkeys, hsource, -⟩ := identity_eq hid
    obtain ⟨hkey, failed, hfailed, hreportable⟩ := h.reports id old reported hold (hsource ▸ hreported)
    obtain ⟨failed', hfailed', hid'⟩ := hleaves.get?_old hfailed
    refine ⟨hkeys.trans hkey, failed', hfailed', ?_⟩
    rw [(identity_eq hid').2.1]
    exact hreportable

theorem Listed.left (h : Listed s source) (hleaves : Leaves s s') :
    Listed s' source := by
  unfold Listed at h ⊢
  split at h
  · rename_i hkind
    obtain ⟨entry, hentry, hreportable⟩ := h
    obtain ⟨new, hnew, hid⟩ := hleaves.get?_old hentry
    rw [if_pos hkind]
    exact ⟨new, hnew, by rw [(identity_eq hid).2.1]; exact hreportable⟩
  · rename_i hkind
    obtain ⟨row, hrow, hbusiness⟩ := h
    obtain ⟨new, hnew, hsame⟩ := hleaves.rows _ _ hrow
    rw [if_neg hkind]
    exact ⟨new, hnew, hsame.trans hbusiness⟩

theorem businessChange_leaves (change : BusinessChange) : Leaves s (businessChange s change) := by
  cases change with
  | insert row =>
    rw [businessChange]
    split
    · exact ⟨rfl, rfl, Grows.refl same_refl _, grows_insert same_refl _ _⟩
    · exact Leaves.refl
  | update id row =>
    refine ⟨rfl, rfl, Grows.refl same_refl _,
      grows_updateWhere same_refl fun rowId old _ hrow => ?_⟩
    obtain ⟨-, hold, hnew, -⟩ := of_decide_eq_true hrow
    exact hnew.trans hold.symm
  | addUser recipient =>
    exact ⟨rfl, rfl, grows_insert same_refl _ _, Grows.refl same_refl _⟩

theorem isBusiness_dispatched (status : OutboxStatus) (updatedAt : ℕ) (row : SourceRow) :
    (row.dispatched status updatedAt).isBusiness = row.isBusiness := by
  cases row <;> rfl

theorem deliveryChange_leaves (change : DeliveryChange) : Leaves s (deliveryChange s change) := by
  cases change with
  | entry id status completedAt =>
    exact ⟨rfl, map_update_eq fun _ _ => rfl, Grows.refl same_refl _,
      Grows.refl same_refl _⟩
  | request id status updatedAt =>
    exact ⟨rfl, rfl, Grows.refl same_refl _, grows_updateWhere same_refl
      fun _ row _ _ => isBusiness_dispatched status updatedAt row⟩
  | user id recipient =>
    exact ⟨rfl, rfl, grows_update same_refl fun _ _ => rfl, Grows.refl same_refl _⟩

/-! ## A run -/

structure Marks (s s' : ProjectionStore) (added : List ProjectedEntry) (marked : List SourceKey) :
    Prop where
  emits : Emits { s with sources := s'.sources } s' added
  sources : s'.sources = s.sources ++ marked

theorem Emits.with_sources (h : Emits s s' added) (sources : List SourceKey) :
    Emits { s with sources := sources } { s' with sources := sources } added :=
  ⟨h.entries, h.rows, h.users, rfl, h.startedAt, h.projecting⟩

theorem Emits.marks (h : Emits s s' added) : Marks s s' added [] :=
  ⟨⟨h.entries, h.rows, h.users, rfl, h.startedAt, h.projecting⟩, by rw [h.sources, List.append_nil]⟩

theorem Emits.marks_source (h : Emits s s' added) (key : SourceKey) :
    Marks s { s' with sources := s'.sources ++ [key] } added [key] :=
  ⟨h.with_sources _, by rw [h.sources]⟩

theorem Marks.trans {added' : List ProjectedEntry} {marked' : List SourceKey}
    (h : Marks s s' added marked) (h' : Marks s' s'' added' marked') :
    Marks s s'' (added ++ added') (marked ++ marked') :=
  ⟨(h.emits.with_sources s''.sources).trans h'.emits,
    by rw [h'.sources, h.sources, List.append_assoc]⟩

theorem Projected.starting (h : Projected none s) (current : Current) : Projected current s where
  nodup := h.nodup
  marked id entry key hentry hkey := by
    rcases h.marked id entry key hentry hkey with hmarked | ⟨_, hnone, -⟩
    · exact .inl hmarked
    · exact nomatch hnone
  audience := h.audience
  shared := h.shared
  once := h.once
  reports := h.reports

theorem Projected.source_marked {key : SourceKey} {keys : List NotificationKey}
    (h : Projected (some (key, keys)) s) (hnew : key ∉ s.sources) :
    Projected none { s with sources := s.sources ++ [key] } where
  nodup := List.Nodup.append h.nodup (List.nodup_singleton key)
    (List.disjoint_singleton.2 hnew)
  marked id entry key' hentry hkey := by
    rcases h.marked id entry key' hentry hkey with hmarked | ⟨_, heq, -⟩
    · exact .inl (List.mem_append_left _ hmarked)
    · obtain ⟨rfl, -⟩ := Prod.mk.inj (Option.some.inj heq)
      exact .inl (List.mem_append_right _ (List.mem_singleton_self key))
  audience := h.audience
  shared := h.shared
  once := h.once
  reports := h.reports

theorem EmitsOnce.apart_keys {emissions : List Emission} (h : EmitsOnce source emissions) :
    ∀ x ∈ emissions.map Emission.key, ∀ y ∈ emissions.map Emission.key,
      audienceOf x = audienceOf y → x = y := by
  intro x hx y hy haudience
  obtain ⟨a, ha, rfl⟩ := List.mem_map.1 hx
  obtain ⟨b, hb, rfl⟩ := List.mem_map.1 hy
  have hnodup : (emissions.map fun emission => audienceOf emission.key).Nodup :=
    List.pairwise_map.2 h.apart
  rw [List.inj_on_of_nodup_map hnodup ha hb haudience]

theorem emitted_allowed (hlisted : Listed s source) (hnew : source.key ∉ s.sources)
    (reads : SourceReads) (hemission : emission ∈ emissions s source reads) :
    Allowed (some (source.key, (emissions s source reads).map Emission.key)) s emission.key
      emission.sourceKey := by
  have honce := emissions_once s source reads
  refine ⟨?_, fun reported hreported => ?_⟩
  · rcases honce.emitted emission hemission with hshared | hsource
    · exact .inl hshared
    · exact .inr ⟨_, _, rfl, hsource, List.mem_map_of_mem hemission, hnew, honce.apart_keys⟩
  · rcases honce.emitted emission hemission with hshared | hsource
    · rw [hreported, sharedKey_source] at hshared
      exact nomatch hshared
    · have hkey : source.key = .row .failedNotification reported :=
        EntryKey.source.inj (hsource.symm.trans hreported)
      obtain ⟨hkind, hid⟩ := SourceKey.row.inj hkey
      rw [emissions_failedNotification hkind] at hemission
      obtain rfl := List.mem_singleton.1 hemission
      rw [Listed, if_pos hkind, hid] at hlisted
      exact ⟨rfl, hlisted⟩

theorem projectSource_ok (h : projectSource environment w source s = .ok s') :
    source.key ∉ s.sources ∧ ∃ added, Marks s s' added [source.key] ∧
      (∀ entry ∈ added, EmittedBy environment (emissions s source (w.reads source)) s.users entry) ∧
      added.length ≤ 4 * s.users.size ∧
      s' = { emitAll environment w.now (emissions s source (w.reads source)) s with
        sources := s.sources ++ [source.key] } := by
  obtain ⟨added, hemits, hemitted, hlength⟩ :=
    emitAll_emits environment w.now (emissions s source (w.reads source)) s
  simp only [projectSource] at h
  obtain ⟨_, hrequire, h⟩ := bind_eq_ok.1 h
  have hnew := require_eq_ok.1 hrequire
  rw [hemits.sources] at hnew
  have hs' := Except.ok.inj h
  rw [hemits.sources] at hs'
  refine ⟨hnew, added, ?_, hemitted, ?_, hs'.symm⟩
  · rw [← hs']
    have hmarks := hemits.marks_source source.key
    rw [hemits.sources] at hmarks
    exact hmarks
  · have honce := (emissions_once s source (w.reads source)).length
    calc added.length ≤ 2 * s.users.size * (emissions s source (w.reads source)).length := hlength
      _ ≤ 2 * s.users.size * 2 := Nat.mul_le_mul_left _ honce
      _ = 4 * s.users.size := by omega

theorem Marks.listed (h : Marks s s' added marked) (hlisted : Listed s source) :
    Listed s' source := by
  unfold Listed at hlisted ⊢
  split at hlisted
  · rename_i hkind
    obtain ⟨entry, hentry, hreportable⟩ := hlisted
    rw [if_pos hkind]
    exact ⟨entry, h.emits.get?_of_some hentry, hreportable⟩
  · rename_i hkind
    obtain ⟨row, hrow, hbusiness⟩ := hlisted
    obtain ⟨requests, hrows, -⟩ := h.emits.rows
    rw [if_neg hkind]
    refine ⟨row, ?_, hbusiness⟩
    rw [Table.get?, hrows, List.getElem?_append_left (lt_size_of_get? hrow)]
    exact hrow

theorem Projected.source_projected (h : Projected none s)
    (hlisted : Listed s source) (hok : projectSource environment w source s = .ok s') :
    Projected none s' := by
  obtain ⟨hnew, -, -, -, -, hs'⟩ := projectSource_ok hok
  have hemitted : Projected (some (source.key, (emissions s source (w.reads source)).map Emission.key))
      (emitAll environment w.now (emissions s source (w.reads source)) s) :=
    (h.starting _).all_emitted fun emission hemission => emitted_allowed hlisted hnew _ hemission
  obtain ⟨added, hemits, -⟩ :=
    emitAll_emits environment w.now (emissions s source (w.reads source)) s
  have hmarked := hemitted.source_marked (by rw [hemits.sources]; exact hnew)
  rw [hemits.sources] at hmarked
  rw [hs']
  exact hmarked

theorem projectSources_cons_ok (h : projectSources environment w (source :: sources) s = .ok s'') :
    ∃ s', projectSource environment w source s = .ok s' ∧
      projectSources environment w sources s' = .ok s'' :=
  bind_eq_ok.1 h

theorem Projected.sources_projected (h : Projected none s)
    (hlisted : ∀ source ∈ sources, Listed s source)
    (hok : projectSources environment w sources s = .ok s') :
    Projected none s' ∧ ∃ added, Marks s s' added (sources.map Source.key) := by
  induction sources generalizing s with
  | nil =>
    obtain rfl := Except.ok.inj hok
    exact ⟨h, [], Emits.refl.marks⟩
  | cons source sources ih =>
    obtain ⟨s₁, hfirst, hrest⟩ := projectSources_cons_ok hok
    obtain ⟨-, added, hmarks, -⟩ := projectSource_ok hfirst
    obtain ⟨hprojected, added', hmarks'⟩ :=
      ih (h.source_projected (hlisted source List.mem_cons_self) hfirst)
        (fun other hother => hmarks.listed (hlisted other (List.mem_cons_of_mem source hother))) hrest
    exact ⟨hprojected, _, hmarks.trans hmarks'⟩

variable (environment) in
theorem digest_marks (w : ProjectionWorld) (s : ProjectionStore) :
    ∃ added marked, Marks s (digest environment w s) added marked ∧
      ∀ entry ∈ added, entry.key = .adminDailySummary := by
  simp only [digest]
  split
  · exact ⟨[], [], Emits.refl.marks, fun _ h => absurd h List.not_mem_nil⟩
  · obtain ⟨added, hemits, hsublist⟩ := createEntries_emits w.now (emittedEntries environment
      ⟨.adminDailySummary, .source (.digest (environment.businessDate w.timeZone w.now)), {},
        w.summary⟩ s.users) s
    exact ⟨added, _, hemits.marks_source _, fun entry hentry =>
      (mem_emittedEntries (hsublist.subset hentry)).1⟩

theorem Projected.digested (h : Projected none s) : Projected none (digest environment w s) := by
  simp only [digest]
  split
  · exact h
  · rename_i hnew
    refine ((h.starting (some (.digest (environment.businessDate w.timeZone w.now),
      [.adminDailySummary]))).emitted ?_).source_marked ?_
    · refine ⟨.inr ⟨_, _, rfl, rfl, List.mem_singleton_self _, hnew, ?_⟩, fun _ hdigest => ?_⟩
      · intro x hx y hy _
        rw [List.mem_singleton.1 hx, List.mem_singleton.1 hy]
      · exact nomatch hdigest
    · obtain ⟨added, hemits, -⟩ := createEntries_emits w.now (emittedEntries environment
        ⟨.adminDailySummary, .source (.digest (environment.businessDate w.timeZone w.now)), {},
          w.summary⟩ s.users) s
      rw [show (emit environment w.now _ s).sources = s.sources from hemits.sources]
      exact hnew

theorem calendarEmission_allowed (h : emission ∈ calendarEmissions environment w) :
    Allowed none s emission.key emission.sourceKey := by
  have hshared := calendarEmissions_shared h
  refine ⟨.inl hshared, fun reported hreported => ?_⟩
  rw [hreported, sharedKey_source] at hshared
  exact nomatch hshared

variable {sources : List Source} {n : ℕ}

theorem Projected.projected (h : Projected none s) (hlisted : ∀ source ∈ sources, Listed s source)
    (hok : project environment w sources s = .ok (s', n)) :
    Projected none s' ∧ ∃ added marked, Marks s s' added (sources.map Source.key ++ marked) := by
  obtain ⟨s₁, hsources, hcalendar⟩ := bind_eq_ok.1 hok
  obtain ⟨hs', -⟩ := Prod.mk.inj (Except.ok.inj hcalendar)
  obtain ⟨hprojected, added, hmarks⟩ := h.sources_projected hlisted hsources
  obtain ⟨added', marked, hmarks', -⟩ := digest_marks environment w s₁
  obtain ⟨added'', hemits, -, -⟩ := emitAll_emits environment w.now
    (calendarEmissions environment w) (digest environment w s₁)
  rw [← hs']
  refine ⟨hprojected.digested.all_emitted fun emission => calendarEmission_allowed,
    added ++ (added' ++ added''), marked ++ [], ?_⟩
  exact hmarks.trans (hmarks'.trans hemits.marks)

/-! ## Every interleaving -/

def projectedKeys (trace : List ProjectionNote) : List SourceKey :=
  trace.flatMap ProjectionNote.sources

theorem projectedKeys_append (trace notes : List ProjectionNote) :
    projectedKeys (trace ++ notes) = projectedKeys trace ++ projectedKeys notes :=
  List.flatMap_append

inductive ProjectEffect (environment : WorkerEnvironment) (s : ProjectionStore) :
    ProjectState → ProjectionStore → ProjectState → List ProjectionNote → Prop
  /-- The lock is taken, or not; or nothing was committed. -/
  | quiet {l l' : ProjectState} {projecting : Bool}
      (hbatch : ∀ sources, l' = .projecting sources → ∀ source ∈ sources, Listed s source) :
      ProjectEffect environment s l { s with projecting := projecting } l' []
  | committed {sources : List Source} {s' : ProjectionStore} {n : ℕ} {l' : ProjectState}
      {w : ProjectionWorld} (hok : project environment w sources s = .ok (s', n))
      (hdone : ∃ result, l' = .done result) :
      ProjectEffect environment s (.projecting sources) s'.release l' [⟨sources.map Source.key,
        (s'.entries.rows.drop s.entries.size).map fun entry => (entry, reportedKey s'.entries entry)⟩]

theorem projectStep_effect {l l' : ProjectState}
    (h : projectStep environment before w s l = some (s', l')) :
    ProjectEffect environment s l s' l' (projectNotes environment w s l) := by
  cases l with
  | locking =>
    rw [projectStep] at h
    split at h
    · cases h
      exact .quiet nofun
    · cases h
      refine .quiet fun sources heq source hsource => ?_
      cases heq
      exact listed_of_eligible (mem_batch hsource).1
  | projecting sources =>
    cases h
    cases hcommit : w.commit with
    | failed =>
      simp only [projectNotes, hcommit, Commit.run]
      exact .quiet nofun
    | answered | lost =>
      cases hok : project environment w sources s with
      | error e =>
        simp only [projectNotes, hcommit, hok, Commit.run]
        exact .quiet nofun
      | ok out =>
        simp only [projectNotes, hcommit, hok, Commit.run]
        exact .committed hok ⟨_, rfl⟩
  | done result => exact nomatch h

abbrev ProjectionThread (environment : WorkerEnvironment) (before : SourceKey → SourceKey → Bool) :=
  Thread (tracedProjections environment before)

theorem projectionThread_step {s s' : ProjectionStore × List ProjectionNote}
    {t t' : ProjectionThread environment before} (h : t.step w s = some (s', t')) :
    (∃ (l l' : ProjectState) (notes : List ProjectionNote), t = ⟨.projectOnce, l⟩ ∧
      t' = ⟨.projectOnce, l'⟩ ∧ ProjectEffect environment s.1 l s'.1 l' notes ∧
      s'.2 = s.2 ++ notes) ∨
    (t.op ≠ .projectOnce ∧ t'.op ≠ .projectOnce ∧ Leaves s.1 s'.1 ∧ s'.2 = s.2) := by
  obtain ⟨op, l⟩ := t
  obtain ⟨l', hstep, htrace, rfl⟩ := Thread.traced_step h
  cases op with
  | projectOnce => exact .inl ⟨l, l', _, rfl, rfl, projectStep_effect hstep, htrace⟩
  | business =>
    refine .inr ⟨nofun, nofun, ?_, htrace.trans (List.append_nil _)⟩
    cases l with
    | none => exact nomatch hstep
    | some change =>
      obtain ⟨hs', -⟩ := Prod.mk.inj (Option.some.inj hstep)
      rw [← hs']
      exact businessChange_leaves change
  | delivery =>
    refine .inr ⟨nofun, nofun, ?_, htrace.trans (List.append_nil _)⟩
    cases l with
    | none => exact nomatch hstep
    | some change =>
      obtain ⟨hs', -⟩ := Prod.mk.inj (Option.some.inj hstep)
      rw [← hs']
      exact deliveryChange_leaves change

theorem leaves_projecting (s : ProjectionStore) (projecting : Bool) :
    Leaves s { s with projecting := projecting } :=
  ⟨rfl, rfl, Grows.refl same_refl _, Grows.refl same_refl _⟩

/-- What runs have projected is marked, and was projected once. -/
def TraceProjected (s : ProjectionStore × List ProjectionNote) : Prop :=
  Projected none s.1 ∧ (projectedKeys s.2).Nodup ∧ projectedKeys s.2 ⊆ s.1.sources

/-- **The outline**: a run works on rows that are sources. -/
def projectionOutline (environment : WorkerEnvironment) (before : SourceKey → SourceKey → Bool) :
    Outline (tracedProjections environment before) where
  shared := TraceProjected
  thread s t := ∀ sources, t = ⟨.projectOnce, ProjectState.projecting sources⟩ →
    ∀ source ∈ sources, Listed s.1 source

theorem TraceProjected.left {s s' : ProjectionStore × List ProjectionNote} (h : TraceProjected s)
    (hleaves : Leaves s.1 s'.1) (htrace : s'.2 = s.2) : TraceProjected s' := by
  obtain ⟨hprojected, hnodup, hmarked⟩ := h
  refine ⟨hprojected.left hleaves, ?_, ?_⟩
  · rw [htrace]
    exact hnodup
  · rw [htrace, hleaves.sources]
    exact hmarked

theorem TraceProjected.run {trace : List ProjectionNote}
    {entries : List (ProjectedEntry × Option NotificationKey)} (h : TraceProjected (s, trace))
    (hlisted : ∀ source ∈ sources, Listed s source)
    (hok : project environment w sources s = .ok (s', n)) :
    TraceProjected (s'.release, trace ++ [⟨sources.map Source.key, entries⟩]) := by
  obtain ⟨hprojected, hnodup, hmarked⟩ := h
  obtain ⟨hprojected', added, marked, hmarks⟩ := hprojected.projected hlisted hok
  have hall := hprojected'.nodup
  rw [hmarks.sources, ← List.append_assoc] at hall
  have hnew := List.nodup_append'.1 (List.nodup_append'.1 hall).1
  have hkeys : projectedKeys (trace ++ [⟨sources.map Source.key, entries⟩]) =
      projectedKeys trace ++ sources.map Source.key := by
    rw [projectedKeys_append]
    exact congrArg (projectedKeys trace ++ ·) (List.append_nil _)
  refine ⟨hprojected'.left (leaves_projecting s' false), ?_, ?_⟩
  · show (projectedKeys _).Nodup
    rw [hkeys, List.nodup_append']
    exact ⟨hnodup, hnew.2.1, fun key hkey => hnew.2.2 (hmarked hkey)⟩
  · show projectedKeys _ ⊆ s'.sources
    rw [hkeys, hmarks.sources]
    intro key hkey
    rcases List.mem_append.1 hkey with hkey | hkey
    · exact List.mem_append_left _ (hmarked hkey)
    · exact List.mem_append_right _ (List.mem_append_left _ hkey)

theorem projectionOutline_sound : (projectionOutline environment before).Sound Config.anyStep where
  symm _ _ _ := trivial
  call s op request _ sources heq := by
    cases op with
    | projectOnce | business | delivery => cases heq
  call_apart _ _ _ := trivial
  own w := by
    rintro ⟨s, trace⟩ t ⟨s', trace'⟩ t' _ hs ht hstep
    rcases projectionThread_step hstep with ⟨l, l', notes, rfl, rfl, heffect, htrace⟩ |
        ⟨-, hop, hleaves, htrace⟩
    · obtain rfl : trace' = trace ++ notes := htrace
      cases heffect with
      | quiet hbatch =>
        rw [List.append_nil]
        refine ⟨hs.left (leaves_projecting s _) rfl, fun sources heq source hsource => ?_⟩
        cases heq
        exact (hbatch sources rfl source hsource).left (leaves_projecting s _)
      | committed hok hdone =>
        obtain ⟨result, rfl⟩ := hdone
        exact ⟨hs.run (ht _ rfl) hok, fun sources heq => by cases heq⟩
    · refine ⟨hs.left hleaves htrace, fun sources heq => ?_⟩
      rw [heq] at hop
      exact absurd rfl hop
  other w := by
    rintro ⟨s, trace⟩ t ⟨s', trace'⟩ t' u _ hs ht hu _ hstep
    refine ⟨fun sources heq source hsource => ?_, trivial⟩
    have hlisted := hu sources heq source hsource
    rcases projectionThread_step hstep with ⟨l, l', notes, rfl, rfl, heffect, -⟩ | ⟨-, -, hleaves, -⟩
    · cases heffect with
      | quiet _ => exact hlisted.left (leaves_projecting s _)
      | committed hok _ =>
        obtain ⟨-, added, marked, hmarks⟩ := hs.1.projected (ht _ rfl) hok
        exact (hmarks.listed hlisted).left (leaves_projecting _ false)
    · exact hlisted.left hleaves

theorem projected_initial {rows : Table SourceRow} {users : Table Recipient} :
    TraceProjected ({ startedAt := startedAt, rows := rows, users := users }, []) :=
  ⟨⟨List.nodup_nil, fun _ _ _ h => absurd h get?_empty_ne,
    fun _ _ h => absurd h get?_empty_ne, fun _ _ h => absurd h get?_empty_ne,
    fun _ _ _ _ h => absurd h get?_empty_ne, fun _ _ _ h => absurd h get?_empty_ne⟩,
    List.nodup_nil, fun _ h => absurd h List.not_mem_nil⟩

end

end NotificationProjectionService

end WebhostBilling
