import WebhostBilling.Concurrency.Alone
import WebhostBilling.Concurrency.Locks
import WebhostBilling.Notifications.ProjectedSources

/-!
# Runs of the projection come to an end

Without new business rows, a run that makes an entry which is not for the calendar, and does not
report the failure of one that is, marks a source of which there are finitely many (`potential`).
The failures of the calendar's own entries are reported as well, so there is no such bound on the
others.
-/

namespace WebhostBilling

open Store Store.Table Concurrency Notification NotificationDeliveryService Config

namespace NotificationProjectionService

section

variable {environment : WorkerEnvironment} {before : SourceKey → SourceKey → Bool}
  {w : ProjectionWorld} {s s' s'' : ProjectionStore}

/-! ## Sources that are left -/

def isCalendarKey (key : NotificationKey) : Bool :=
  key = .adminDailySummary ∨ key = .clientDomainRenewalReminder ∨
    key = .clientDomainExpiryWarning ∨ key = .clientFinalWarning

def rowKinds : List SourceKind :=
  [.audit, .outbox, .hosting, .email, .automation, .registrar, .failedOutbox]

def keysOfRow (isBusiness : Bool) (id : RowId) : List SourceKey :=
  if isBusiness = true then rowKinds.map fun kind => .row kind id else []

def keysOfEntry (key : NotificationKey) (id : RowId) : List SourceKey :=
  if isFailureKey key = true ∨ isCalendarKey key = true then [] else [.row .failedNotification id]

def keysOf {α : Type} (f : α → RowId → List SourceKey) (t : Table α) : List SourceKey :=
  t.rows.zipIdx.flatMap fun row => f row.1 row.2

def unmarked (keys sources : List SourceKey) : ℕ := keys.countP fun key => key ∉ sources

/-- A bound on the productive projections that are left. -/
def potential (s : ProjectionStore) : ℕ :=
  (4 * s.users.size + 1) * unmarked (keysOf keysOfRow (s.rows.map SourceRow.isBusiness)) s.sources +
    unmarked (keysOf keysOfEntry (s.entries.map ProjectedEntry.key)) s.sources

variable {added : List ProjectedEntry} {marked : List SourceKey} {α : Type} {id startedAt : ℕ}

theorem keysOf_append (f : α → RowId → List SourceKey) (rows added : List α) :
    keysOf f ⟨rows ++ added⟩ =
      keysOf f ⟨rows⟩ ++ (added.zipIdx rows.length).flatMap fun row => f row.1 row.2 := by
  simp only [keysOf, List.zipIdx_append, List.flatMap_append, Nat.zero_add]

variable {key : SourceKey} {source : Source} {entry : ProjectedEntry} {sources : List Source}

theorem mem_keysOf {f : α → RowId → List SourceKey} {t : Table α} {id : RowId} {row : α}
    (hrow : t.get? id = some row) (hkey : key ∈ f row id) : key ∈ keysOf f t :=
  List.mem_flatMap.2 ⟨(row, id), List.mem_zipIdx_iff_getElem?.2 hrow, hkey⟩

theorem unmarked_append (keys keys' sources : List SourceKey) :
    unmarked (keys ++ keys') sources = unmarked keys sources + unmarked keys' sources :=
  List.countP_append

theorem unmarked_le_length (keys sources : List SourceKey) : unmarked keys sources ≤ keys.length :=
  List.countP_le_length

theorem unmarked_mono (keys sources marked : List SourceKey) :
    unmarked keys (sources ++ marked) ≤ unmarked keys sources := by
  refine List.countP_mono_left fun key _ hkey => ?_
  have hnew := of_decide_eq_true hkey
  exact decide_eq_true fun hmem => hnew (List.mem_append_left _ hmem)

theorem unmarked_cons (key : SourceKey) (keys sources : List SourceKey) :
    unmarked (key :: keys) sources = unmarked keys sources + if key ∈ sources then 0 else 1 := by
  rw [unmarked, List.countP_cons, unmarked]
  by_cases hkey : key ∈ sources <;> simp [hkey]

theorem unmarked_marked {keys sources : List SourceKey} (hkey : key ∈ keys) (hnew : key ∉ sources) :
    unmarked keys (sources ++ [key]) + 1 ≤ unmarked keys sources := by
  induction keys with
  | nil => exact absurd hkey List.not_mem_nil
  | cons k keys ih =>
    rw [unmarked_cons, unmarked_cons]
    by_cases hk : k = key
    · subst hk
      have hrest := unmarked_mono keys sources [k]
      rw [if_pos (List.mem_append_right _ (List.mem_singleton_self k)), if_neg hnew]
      omega
    · have hlt := ih ((List.mem_cons.1 hkey).resolve_left fun h => hk h.symm)
      have hsame : k ∈ sources ++ [key] ↔ k ∈ sources := by simp [hk]
      simp only [hsame]
      omega

/-! ## What a run takes from them -/

theorem Emits.keysOfRow (h : Emits s s' added) :
    keysOf keysOfRow (s'.rows.map SourceRow.isBusiness) =
      keysOf keysOfRow (s.rows.map SourceRow.isBusiness) := by
  obtain ⟨requests, hrows, hrequests⟩ := h.rows
  rw [Table.map, hrows, List.map_append, keysOf_append]
  have hnone : ((requests.map SourceRow.isBusiness).zipIdx
      (s.rows.rows.map SourceRow.isBusiness).length).flatMap
        (fun row => NotificationProjectionService.keysOfRow row.1 row.2) = [] := by
    refine List.flatMap_eq_nil_iff.2 fun row hrow => ?_
    obtain ⟨request, hrequest, heq⟩ := List.mem_map.1 (List.fst_mem_of_mem_zipIdx hrow)
    obtain ⟨createdAt, payload, rfl⟩ := hrequests request hrequest
    rw [← heq]
    rfl
  rw [hnone, List.append_nil]
  rfl

theorem Emits.keysOfEntry (h : Emits s s' added) :
    ∃ keys, keysOf keysOfEntry (s'.entries.map ProjectedEntry.key) =
        keysOf keysOfEntry (s.entries.map ProjectedEntry.key) ++ keys ∧
      keys.length ≤ added.length ∧
      ((∀ entry ∈ added, isFailureKey entry.key = true ∨ isCalendarKey entry.key = true) →
        keys = []) := by
  rw [Table.map, h.entries, List.map_append, keysOf_append]
  refine ⟨_, rfl, ?_, fun hadded => ?_⟩
  · refine (length_flatMap_le (n := 1) fun row _ => ?_).trans ?_
    · unfold NotificationProjectionService.keysOfEntry
      split <;> simp
    · rw [List.length_zipIdx, List.length_map, Nat.one_mul]
  · refine List.flatMap_eq_nil_iff.2 fun row hrow => ?_
    obtain ⟨entry, hentry, heq⟩ := List.mem_map.1 (List.fst_mem_of_mem_zipIdx hrow)
    rw [← heq]
    exact if_pos (hadded entry hentry)

def isExempt (entry : ProjectedEntry × Option NotificationKey) : Bool :=
  isCalendarKey entry.1.key ∨ entry.2.any isCalendarKey

/-- A run that makes an entry which is neither for the calendar nor about one that is. -/
def ProjectionNote.isProductive (note : ProjectionNote) : Bool :=
  note.entries.any fun entry => !isExempt entry

def Pays (s s' : ProjectionStore) (added : List ProjectedEntry) : Prop :=
  potential s' ≤ potential s ∧
    ((∀ entry ∈ added, isExempt (entry, reportedKey s'.entries entry) = true) ∨
      potential s' + 1 ≤ potential s)

/-- What the potential becomes: `keys` are the sources that the new entries may be. -/
theorem Marks.potential_eq {keys : List SourceKey} (h : Marks s s' added marked)
    (hkeys : keysOf keysOfEntry (s'.entries.map ProjectedEntry.key) =
      keysOf keysOfEntry (s.entries.map ProjectedEntry.key) ++ keys) :
    potential s' = (4 * s.users.size + 1) *
        unmarked (keysOf keysOfRow (s.rows.map SourceRow.isBusiness)) (s.sources ++ marked) +
      (unmarked (keysOf keysOfEntry (s.entries.map ProjectedEntry.key)) (s.sources ++ marked) +
        unmarked keys (s.sources ++ marked)) := by
  rw [potential, h.emits.keysOfRow, hkeys, h.emits.users, h.sources, unmarked_append]

theorem Marks.potential_le (h : Marks s s' added marked)
    (hadded : ∀ entry ∈ added, isFailureKey entry.key = true ∨ isCalendarKey entry.key = true) :
    potential s' ≤ potential s := by
  obtain ⟨keys, hkeys, -, hnil⟩ := h.emits.keysOfEntry
  obtain rfl := hnil hadded
  rw [h.potential_eq hkeys, potential]
  exact Nat.add_le_add (Nat.mul_le_mul_left _ (unmarked_mono _ _ _)) (unmarked_mono _ _ _)

theorem pays_of_calendar
    (h : Marks s s' added marked) (hadded : ∀ entry ∈ added, isCalendarKey entry.key = true) :
    Pays s s' added :=
  ⟨h.potential_le fun entry hentry => .inr (hadded entry hentry),
    Or.inl fun entry hentry => decide_eq_true (.inl (hadded entry hentry))⟩

theorem mem_keysOf_row (hkind : source.kind ≠ .failedNotification) (hlisted : Listed s source) :
    source.key ∈ keysOf keysOfRow (s.rows.map SourceRow.isBusiness) := by
  rw [Listed, if_neg hkind] at hlisted
  obtain ⟨row, hrow, hbusiness⟩ := hlisted
  have hview : (s.rows.map SourceRow.isBusiness).get? source.id = some true := by
    rw [get?_map, hrow, Option.map_some, hbusiness]
  refine mem_keysOf hview (List.mem_map_of_mem ?_)
  cases hsource : source.kind with
  | failedNotification => exact absurd hsource hkind
  | audit | outbox | hosting | email | automation | registrar | failedOutbox => decide

theorem projectSource_pays (hlisted : Listed s source)
    (hok : projectSource environment w source s = .ok s') :
    ∃ added, Marks s s' added [source.key] ∧ Pays s s' added := by
  obtain ⟨hnew, added, hmarks, hemitted, hlength, -⟩ := projectSource_ok hok
  refine ⟨added, hmarks, ?_⟩
  by_cases hkind : source.kind = .failedNotification
  · rw [Listed, if_pos hkind] at hlisted
    obtain ⟨failed, hfailed, hreportable⟩ := hlisted
    -- Every entry reports the failure of the source.
    have hadded : ∀ entry ∈ added, entry.key = .adminDeliveryFailure ∧
        reportedKey s'.entries entry = some failed.key := by
      intro entry hentry
      obtain ⟨emission, hemission, hmem⟩ := hemitted entry hentry
      rw [emissions_failedNotification hkind] at hemission
      obtain rfl := List.mem_singleton.1 hemission
      obtain ⟨hkey, hsourceKey, -⟩ := mem_emittedEntries hmem
      refine ⟨hkey, ?_⟩
      simp only [reportedKey, hsourceKey, Source.key, hkind,
        hmarks.emits.get?_of_some hfailed, Option.map_some]
    have hle := hmarks.potential_le fun entry hentry =>
      Or.inl (by rw [(hadded entry hentry).1]; decide)
    refine ⟨hle, ?_⟩
    by_cases hcalendar : isCalendarKey failed.key = true
    · refine .inl fun entry hentry => decide_eq_true (.inr ?_)
      rw [(hadded entry hentry).2]
      exact hcalendar
    · right
      obtain ⟨keys, hkeys, -, hnil⟩ := hmarks.emits.keysOfEntry
      obtain rfl := hnil fun entry hentry => .inl (by rw [(hadded entry hentry).1]; decide)
      have hview : (s.entries.map ProjectedEntry.key).get? source.id = some failed.key := by
        rw [get?_map, hfailed, Option.map_some]
      have hmem : source.key ∈ keysOf keysOfEntry (s.entries.map ProjectedEntry.key) := by
        refine mem_keysOf hview ?_
        rw [keysOfEntry, if_neg (by simp [hreportable, hcalendar]), Source.key, hkind]
        exact List.mem_singleton_self _
      have hlt := unmarked_marked hmem hnew
      have hrows := Nat.mul_le_mul_left (4 * s.users.size + 1) (unmarked_mono
        (keysOf keysOfRow (s.rows.map SourceRow.isBusiness)) s.sources [source.key])
      have hnone : unmarked [] (s.sources ++ [source.key]) = 0 := rfl
      rw [hmarks.potential_eq hkeys, potential]
      omega
  · obtain ⟨keys, hkeys, hcount, -⟩ := hmarks.emits.keysOfEntry
    have hlt := unmarked_marked (mem_keysOf_row hkind hlisted) hnew
    have hold := unmarked_mono (keysOf keysOfEntry (s.entries.map ProjectedEntry.key)) s.sources
      [source.key]
    have hadded := unmarked_le_length keys (s.sources ++ [source.key])
    have hpays : potential s' + 1 ≤ potential s := by
      have hmul := Nat.mul_le_mul_left (4 * s.users.size + 1) hlt
      rw [Nat.mul_succ] at hmul
      rw [hmarks.potential_eq hkeys, potential]
      omega
    exact ⟨Nat.le_of_succ_le hpays, .inr hpays⟩

theorem isExempt_mono (h : Marks s s' added marked)
    (hexempt : isExempt (entry, reportedKey s.entries entry) = true) :
    isExempt (entry, reportedKey s'.entries entry) = true := by
  rcases of_decide_eq_true hexempt with hcalendar | hreported
  · exact decide_eq_true (.inl hcalendar)
  · refine decide_eq_true (.inr ?_)
    obtain ⟨key, hkey, hcalendar⟩ := (Option.any_eq_true _ _).1 hreported
    have hkey' : reportedKey s'.entries entry = some key := by
      unfold reportedKey at hkey ⊢
      split at hkey
      · obtain ⟨reported, hentry, rfl⟩ := Option.map_eq_some_iff.1 hkey
        rw [h.emits.get?_of_some hentry, Option.map_some]
      · exact nomatch hkey
    rw [hkey']
    exact hcalendar

theorem Pays.trans {added' : List ProjectedEntry}
    (h : Pays s s' added) (hmarks : Marks s' s'' added' marked) (h' : Pays s' s'' added') :
    Pays s s'' (added ++ added') := by
  refine ⟨h'.1.trans h.1, ?_⟩
  rcases h.2 with hexempt | hpays
  · rcases h'.2 with hexempt' | hpays'
    · refine .inl fun entry hentry => ?_
      rcases List.mem_append.1 hentry with hentry | hentry
      · exact isExempt_mono hmarks (hexempt entry hentry)
      · exact hexempt' entry hentry
    · exact .inr (hpays'.trans h.1)
  · exact .inr ((Nat.succ_le_succ h'.1).trans hpays)

theorem projectSources_pays (hlisted : ∀ source ∈ sources, Listed s source)
    (hok : projectSources environment w sources s = .ok s') :
    ∃ added marked, Marks s s' added marked ∧ Pays s s' added := by
  induction sources generalizing s with
  | nil =>
    obtain rfl := Except.ok.inj hok
    exact ⟨[], [], Emits.refl.marks, Nat.le_refl _, .inl fun _ h => absurd h List.not_mem_nil⟩
  | cons source sources ih =>
    obtain ⟨s₁, hfirst, hrest⟩ := projectSources_cons_ok hok
    obtain ⟨added, hmarks, hpays⟩ := projectSource_pays (hlisted source List.mem_cons_self) hfirst
    obtain ⟨added', marked', hmarks', hpays'⟩ :=
      ih (fun other hother => hmarks.listed (hlisted other (List.mem_cons_of_mem source hother))) hrest
    exact ⟨_, _, hmarks.trans hmarks', hpays.trans hmarks' hpays'⟩

theorem calendarEmission_key {emission : Emission}
    (h : emission ∈ calendarEmissions environment w) :
    isCalendarKey emission.key = true := by
  refine forall_calendarEmissions (p := fun emission => isCalendarKey emission.key = true)
    ?_ ?_ ?_ h <;> intros <;> rfl

/-- **A run** takes from the potential, unless all its entries are exempt. -/
theorem project_pays {n : ℕ} (hlisted : ∀ source ∈ sources, Listed s source)
    (hok : project environment w sources s = .ok (s', n)) :
    ∃ added marked, Marks s s' added marked ∧ Pays s s' added := by
  obtain ⟨s₁, hsources, hcalendar⟩ := bind_eq_ok.1 hok
  obtain ⟨hs', -⟩ := Prod.mk.inj (Except.ok.inj hcalendar)
  obtain ⟨added, marked, hmarks, hpays⟩ := projectSources_pays hlisted hsources
  obtain ⟨added₁, marked₁, hdigest, hsummary⟩ := digest_marks environment w s₁
  obtain ⟨added₂, hemits, hemitted, -⟩ := emitAll_emits environment w.now
    (calendarEmissions environment w) (digest environment w s₁)
  have hpays₁ : Pays s₁ (digest environment w s₁) added₁ :=
    pays_of_calendar hdigest fun entry hentry => by rw [hsummary entry hentry]; decide
  have hpays₂ : Pays (digest environment w s₁) (calendar environment w s₁) added₂ := by
    refine pays_of_calendar hemits.marks fun entry hentry => ?_
    obtain ⟨emission, hemission, hmem⟩ := hemitted entry hentry
    rw [(mem_emittedEntries hmem).1]
    exact calendarEmission_key hemission
  rw [← hs']
  exact ⟨_, _, (hmarks.trans hdigest).trans hemits.marks,
    (hpays.trans hdigest hpays₁).trans hemits.marks hpays₂⟩

/-! ## Without new business rows -/

theorem deliveryChange_potential (change : DeliveryChange) :
    potential (deliveryChange s change) = potential s := by
  cases change with
  | entry id status completedAt =>
    have hkeys : (s.entries.update id fun entry =>
        { entry with status := status, completedAt := completedAt }).map ProjectedEntry.key =
          s.entries.map ProjectedEntry.key := map_update_eq fun _ _ => rfl
    simp only [potential, deliveryChange, hkeys]
  | request id status updatedAt =>
    have hrows : (s.rows.updateWhere (fun rowId row => rowId = id ∧ row.isBusiness = false)
        (SourceRow.dispatched status updatedAt)).map SourceRow.isBusiness =
          s.rows.map SourceRow.isBusiness :=
      map_updateWhere_eq (isBusiness_dispatched status updatedAt)
    simp only [potential, deliveryChange, hrows]
  | user id recipient => simp only [potential, deliveryChange, size_update]

def quietStep (_ : ProjectionWorld) (_ : ProjectionStore × List ProjectionNote)
    (t : ProjectionThread environment before) : Prop := t.op ≠ .business

/-- How many of the runs were productive. -/
def productive (s : ProjectionStore × List ProjectionNote) : ℕ :=
  s.2.countP ProjectionNote.isProductive

theorem productive_step {s s' : ProjectionStore × List ProjectionNote}
    {t t' : ProjectionThread environment before} (hquiet : quietStep w s t)
    (ht : (projectionOutline environment before).thread s t) (hstep : t.step w s = some (s', t')) :
    productive s' + potential s'.1 ≤ productive s + potential s.1 := by
  obtain ⟨op, l⟩ := t
  obtain ⟨l', hone, htrace, rfl⟩ := Thread.traced_step hstep
  cases op with
  | business => exact absurd rfl hquiet
  | delivery =>
    rw [productive, productive, htrace.trans (List.append_nil _)]
    cases l with
    | none => exact nomatch hone
    | some change =>
      obtain ⟨hs', -⟩ := Prod.mk.inj (Option.some.inj hone)
      rw [← hs', deliveryChange_potential]
  | projectOnce =>
    obtain ⟨s, trace⟩ := s
    obtain ⟨s', trace'⟩ := s'
    have heffect : ProjectEffect environment s l s' l'
        (projectionNotes environment before .projectOnce w s l) := projectStep_effect hone
    simp only [productive, show trace' = _ from htrace, List.countP_append]
    generalize projectionNotes environment before .projectOnce w s l = notes at heffect ⊢
    cases heffect with
    | quiet _ => exact Nat.le_refl _
    | @committed sources s' _ _ _ hok _ =>
      obtain ⟨added, marked, hmarks, hle, hpays⟩ := project_pays (s := s) (ht _ rfl) hok
      have hadded : s'.entries.rows.drop s.entries.size = added := by
        rw [hmarks.emits.entries]
        exact List.drop_left
      rw [hadded, List.countP_singleton]
      show _ + _ + potential s' ≤ _ + potential s
      split
      · rename_i hproductive
        obtain ⟨_, hentry, hexempt⟩ := List.any_eq_true.1 hproductive
        obtain ⟨entry, hmem, rfl⟩ := List.mem_map.1 hentry
        rcases hpays with hall | hlt
        · rw [hall entry hmem] at hexempt
          exact nomatch hexempt
        · omega
      · omega

/-- **Without new business rows, runs end.**  The potential bounds the runs that may be productive. -/
theorem productive_bounded {c c' : Config (tracedProjections environment before)}
    (h : (projectionOutline environment before).Holds c) (hr : Reaches quietStep c c') :
    productive c'.shared ≤ productive c.shared + potential c.shared.1 := by
  have hsound : (projectionOutline environment before).Sound quietStep :=
    projectionOutline_sound.mono fun _ _ _ _ => trivial
  have hle := hsound.related (R := fun s s' => productive s' + potential s'.1 ≤
      productive s + potential s.1) (fun _ => Nat.le_refl _) (fun _ _ _ hab hbc => hbc.trans hab)
    (fun w s t s' t' hquiet _ ht hstep => productive_step hquiet ht hstep) h hr
  omega

/-! ## A run that is not disturbed -/

/-- Runs one after another, each by a thread of its own, from the `k`-th on. -/
def projections (k : ℕ) : List ProjectionWorld → List (Move (tracedProjections environment before))
  | [] => []
  | w :: ws => movesAlone k .projectOnce () [w, w] ++ projections (k + 1) ws

theorem nodup_sourceIf {p : Bool} {kind : SourceKind} {createdAt : Option ℕ} :
    ((sourceIf p kind id createdAt startedAt).map Source.key).Nodup := by
  cases createdAt with
  | none => exact List.nodup_nil
  | some createdAt =>
    rw [sourceIf]
    split
    · exact List.nodup_singleton _
    · exact List.nodup_nil

theorem nodup_rowSources {row : SourceRow} :
    ((rowSources startedAt id row).map Source.key).Nodup := by
  cases row with
  | audit _ _ _ _ | hosting _ _ | email _ _ _ _ | automation _ _ | registrar _ _ _ =>
    rw [rowSources]
    exact nodup_sourceIf
  | outbox createdAt updatedAt eventType payload status =>
    rw [rowSources, List.map_append, List.nodup_append']
    refine ⟨nodup_sourceIf, nodup_sourceIf, fun key hkey hkey' => ?_⟩
    obtain ⟨source, hsource, rfl⟩ := List.mem_map.1 hkey
    obtain ⟨other, hother, heq⟩ := List.mem_map.1 hkey'
    have hkind := (mem_sourceIf hsource).1
    have hkind' := (mem_sourceIf hother).1
    have hsame := (SourceKey.row.inj heq).1
    rw [hkind, hkind'] at hsame
    cases hsame

theorem nodup_entrySources :
    ((entrySources startedAt id entry).map Source.key).Nodup :=
  nodup_sourceIf

theorem nodup_flatMap_zipIdx (f : ℕ → α → List Source) (rows : List α)
    (hnodup : ∀ id row, ((f id row).map Source.key).Nodup)
    (hid : ∀ id row, ∀ source ∈ f id row, source.id = id) (k : ℕ) :
    (((rows.zipIdx k).flatMap fun row => f row.2 row.1).map Source.key).Nodup ∧
      ∀ source ∈ (rows.zipIdx k).flatMap fun row => f row.2 row.1, k ≤ source.id := by
  induction rows generalizing k with
  | nil => exact ⟨List.nodup_nil, fun _ h => absurd h List.not_mem_nil⟩
  | cons row rows ih =>
    obtain ⟨hrest, hle⟩ := ih (k + 1)
    rw [List.zipIdx_cons, List.flatMap_cons, List.map_append, List.nodup_append']
    refine ⟨⟨hnodup k row, hrest, fun key hkey hkey' => ?_⟩, fun source hsource => ?_⟩
    · obtain ⟨source, hsource, rfl⟩ := List.mem_map.1 hkey
      obtain ⟨other, hother, heq⟩ := List.mem_map.1 hkey'
      have hsame := (SourceKey.row.inj heq).2
      have hlt := hle other hother
      rw [hsame, hid k row source hsource] at hlt
      omega
    · rcases List.mem_append.1 hsource with hsource | hsource
      · rw [hid k row source hsource]
      · exact Nat.le_of_succ_le (hle source hsource)

theorem nodup_eligible (s : ProjectionStore) : ((eligible s).map Source.key).Nodup := by
  have hrows := nodup_flatMap_zipIdx (rowSources s.startedAt) s.rows.rows
    (fun _ _ => nodup_rowSources) (fun _ _ _ h => (mem_rowSources h).2.1) 0
  have hentries := nodup_flatMap_zipIdx (entrySources s.startedAt) s.entries.rows
    (fun _ _ => nodup_entrySources) (fun _ _ _ h => (mem_entrySources h).2.1) 0
  rw [eligible, List.map_append, List.nodup_append']
  refine ⟨hrows.1, hentries.1, fun key hkey hkey' => ?_⟩
  obtain ⟨source, hsource, rfl⟩ := List.mem_map.1 hkey
  obtain ⟨other, hother, heq⟩ := List.mem_map.1 hkey'
  obtain ⟨row, -, hsource⟩ := List.mem_flatMap.1 hsource
  obtain ⟨entry, -, hother⟩ := List.mem_flatMap.1 hother
  have hkind := (mem_rowSources hsource).1
  rw [← (SourceKey.row.inj heq).1] at hkind
  exact hkind (mem_entrySources hother).1

variable (before) in
theorem nodup_batch (s : ProjectionStore) : ((batch before s).map Source.key).Nodup := by
  have hpending : ((pending s).map Source.key).Nodup :=
    (nodup_eligible s).sublist ((List.filter_sublist).map Source.key)
  have hsorted := ((List.perm_insertionSort (fun a b : Source => a.createdAt < b.createdAt ∨
    (a.createdAt = b.createdAt ∧ before a.key b.key = true)) (pending s)).map
      Source.key).nodup_iff.2 hpending
  exact hsorted.sublist ((List.take_sublist _ _).map Source.key)

theorem Emits.eligible (h : Emits s s' added) (hadded : ∀ entry ∈ added, entry.completedAt = none) :
    eligible s' = eligible s := by
  obtain ⟨requests, hrows, hrequests⟩ := h.rows
  simp only [NotificationProjectionService.eligible, hrows, h.entries, h.startedAt,
    List.zipIdx_append, List.flatMap_append]
  have hnone : (requests.zipIdx (0 + s.rows.rows.length)).flatMap
      (fun row => rowSources s.startedAt row.2 row.1) = [] := by
    refine List.flatMap_eq_nil_iff.2 fun row hrow => ?_
    obtain ⟨createdAt, payload, heq⟩ := hrequests row.1 (List.fst_mem_of_mem_zipIdx hrow)
    rw [heq]
    simp [rowSources, sourceIf, isProjectedEventType]
  have hnone' : (added.zipIdx (0 + s.entries.rows.length)).flatMap
      (fun entry => entrySources s.startedAt entry.2 entry.1) = [] := by
    refine List.flatMap_eq_nil_iff.2 fun entry hentry => ?_
    rw [entrySources, hadded entry.1 (List.fst_mem_of_mem_zipIdx hentry), sourceIf]
  rw [hnone, hnone', List.append_nil, List.append_nil]

theorem emitted_not_completed {emissions : List Emission} {users : Table Recipient}
    (h : EmittedBy environment emissions users entry) :
    entry.completedAt = none := by
  obtain ⟨emission, -, hmem⟩ := h
  exact (mem_emittedEntries hmem).2.2.1

variable (environment w) in
theorem exists_projectSource {source : Source} (hnew : source.key ∉ s.sources) :
    ∃ s', projectSource environment w source s = .ok s' ∧ eligible s' = eligible s ∧
      s'.sources = s.sources ++ [source.key] := by
  obtain ⟨added, hemits, hemitted, -⟩ :=
    emitAll_emits environment w.now (emissions s source (w.reads source)) s
  have hfree : source.key ∉
      (emitAll environment w.now (emissions s source (w.reads source)) s).sources := by
    rw [hemits.sources]
    exact hnew
  refine ⟨_, bind_eq_ok.2 ⟨(), require_true _ hfree, rfl⟩, ?_, by rw [← hemits.sources]⟩
  exact (hemits.with_sources _).eligible fun entry hentry =>
    emitted_not_completed (hemitted entry hentry)

variable (environment w) in
theorem exists_projectSources {sources : List Source} (hnodup : (sources.map Source.key).Nodup)
    (hnew : ∀ source ∈ sources, source.key ∉ s.sources) :
    ∃ s', projectSources environment w sources s = .ok s' ∧ eligible s' = eligible s ∧
      s'.sources = s.sources ++ sources.map Source.key := by
  induction sources generalizing s with
  | nil => exact ⟨s, rfl, rfl, (List.append_nil _).symm⟩
  | cons source sources ih =>
    obtain ⟨hhead, htail⟩ := List.nodup_cons.1 hnodup
    obtain ⟨s₁, hfirst, heligible, hmarked⟩ := exists_projectSource environment w
      (hnew source List.mem_cons_self)
    obtain ⟨s', hrest, heligible', hmarked'⟩ := ih (s := s₁) htail fun other hother hmem => by
      rw [hmarked] at hmem
      rcases List.mem_append.1 hmem with hmem | hmem
      · exact hnew other (List.mem_cons_of_mem source hother) hmem
      · rw [← List.mem_singleton.1 hmem] at hhead
        exact hhead (List.mem_map_of_mem hother)
    refine ⟨s', bind_eq_ok.2 ⟨s₁, hfirst, hrest⟩, heligible'.trans heligible, ?_⟩
    rw [hmarked', hmarked, List.append_assoc]
    rfl

variable (environment) in
theorem calendar_eligible (w : ProjectionWorld) (s : ProjectionStore) :
    eligible (calendar environment w s) = eligible s ∧
      ∃ marked, (calendar environment w s).sources = s.sources ++ marked ∧
        marked ⊆ [.digest (environment.businessDate w.timeZone w.now)] := by
  obtain ⟨added, hemits, hemitted, -⟩ := emitAll_emits environment w.now
    (calendarEmissions environment w) (digest environment w s)
  have hcalendar : eligible (calendar environment w s) = eligible (digest environment w s) :=
    hemits.eligible fun entry hentry => emitted_not_completed (hemitted entry hentry)
  rw [hcalendar, show (calendar environment w s).sources = _ from hemits.sources]
  simp only [digest]
  split
  · exact ⟨rfl, [], (List.append_nil _).symm, List.nil_subset _⟩
  · obtain ⟨added, hsummary, hsublist⟩ := createEntries_emits w.now (emittedEntries environment
      ⟨.adminDailySummary, .source (.digest (environment.businessDate w.timeZone w.now)), {},
        w.summary⟩ s.users) s
    refine ⟨?_, [.digest (environment.businessDate w.timeZone w.now)],
      congrArg (fun sources => sources ++ [_]) hsummary.sources, fun _ h => h⟩
    exact (hsummary.with_sources _).eligible fun entry hentry =>
      (mem_emittedEntries (hsublist.subset hentry)).2.2.1

variable (environment before) in
theorem exists_project (w : ProjectionWorld) (s : ProjectionStore) :
    ∃ s' n marked, project environment w (batch before s) s = .ok (s', n) ∧
      eligible s' = eligible s ∧
      s'.sources = s.sources ++ (batch before s).map Source.key ++ marked ∧
      marked ⊆ [.digest (environment.businessDate w.timeZone w.now)] := by
  obtain ⟨s₁, hok, heligible, hmarked⟩ := exists_projectSources environment w
    (nodup_batch before s) fun source hsource => (mem_batch hsource).2
  obtain ⟨heligible', marked, hmarked', hdigest⟩ := calendar_eligible environment w s₁
  exact ⟨_, _, marked, bind_eq_ok.2 ⟨s₁, hok, rfl⟩, heligible'.trans heligible,
    by rw [hmarked', hmarked], hdigest⟩

variable {c : Config (tracedProjections environment before)}

theorem length_pending (heligible : eligible s' = eligible s)
    (hsources : s'.sources = s.sources ++ (batch before s).map Source.key ++ marked) :
    (pending s').length + min 100 (pending s).length ≤ (pending s).length := by
  have hbatch : (batch before s).length = min 100 (pending s).length := by
    rw [batch, List.length_take, List.length_insertionSort]
  -- What is left, and what was taken, were pending.
  have hnodup : ((pending s').map Source.key ++ (batch before s).map Source.key).Nodup := by
    refine List.nodup_append'.2 ⟨?_, nodup_batch before s, fun key hkey hkey' => ?_⟩
    · exact (nodup_eligible s').sublist ((List.filter_sublist).map Source.key)
    · obtain ⟨source, hsource, rfl⟩ := List.mem_map.1 hkey
      have hnew := of_decide_eq_true (List.mem_filter.1 hsource).2
      rw [hsources] at hnew
      exact hnew (List.mem_append_left _ (List.mem_append_right _ hkey'))
  have hsubset : (pending s').map Source.key ++ (batch before s).map Source.key ⊆
      (pending s).map Source.key := by
    intro key hkey
    rcases List.mem_append.1 hkey with hkey | hkey
    · obtain ⟨source, hsource, rfl⟩ := List.mem_map.1 hkey
      obtain ⟨hmem, hnew⟩ := List.mem_filter.1 hsource
      rw [heligible] at hmem
      rw [hsources] at hnew
      refine List.mem_map_of_mem (List.mem_filter.2 ⟨hmem, decide_eq_true fun hold => ?_⟩)
      exact of_decide_eq_true hnew (List.mem_append_left _ (List.mem_append_left _ hold))
    · obtain ⟨source, hsource, rfl⟩ := List.mem_map.1 hkey
      exact List.mem_map_of_mem ((List.mem_insertionSort _).1 (List.mem_of_mem_take hsource))
  have hle := (List.subperm_of_subset hnodup hsubset).length_le
  rw [List.length_append, List.length_map, List.length_map, List.length_map, hbatch] at hle
  exact hle

theorem projectOnce_alone {n : ℕ} (hanswered : w.commit = .answered) (hfree : s.projecting = false)
    (hok : project environment w (batch before s) { s with projecting := true } = .ok (s', n)) :
    (projectionOperations environment before .projectOnce).alone s ProjectState.locking [w, w] =
        some (s'.release, ProjectState.done (.ok n)) ∧
      (projectionOperations environment before .projectOnce).notesAlone
          (projectionNotes environment before .projectOnce) s ProjectState.locking [w, w] =
        [⟨(batch before s).map Source.key, (s'.entries.rows.drop s.entries.size).map
          fun entry => (entry, reportedKey s'.entries entry)⟩] := by
  have hlocked : (projectionOperations environment before .projectOnce).step w s
      ProjectState.locking = some
          ({ s with projecting := true }, ProjectState.projecting (batch before s)) := by
    show projectStep environment before w s .locking = _
    rw [projectStep, hfree]
    rfl
  have hcommitted : (projectionOperations environment before .projectOnce).step w
      { s with projecting := true } (ProjectState.projecting (batch before s)) =
        some (s'.release, ProjectState.done (.ok n)) := by
    show projectStep environment before w _ (.projecting (batch before s)) = _
    rw [projectStep, hanswered, hok]
    rfl
  constructor
  · rw [Operation.alone_cons hlocked]
    exact Operation.alone_singleton hcommitted
  · rw [Operation.notesAlone_cons hlocked, Operation.notesAlone_cons hcommitted, Operation.notesAlone]
    simp only [projectionNotes, projectNotes, hanswered, hok, List.nil_append, List.append_nil]

theorem run_projections (ws : List ProjectionWorld) (hanswered : ∀ w ∈ ws, w.commit = .answered)
    (hfree : c.shared.1.projecting = false) :
    ∃ c', c.run (projections c.threads.length ws) = some c' ∧
      eligible c'.shared.1 = eligible c.shared.1 ∧ c.shared.1.sources ⊆ c'.shared.1.sources ∧
      (pending c'.shared.1).length ≤ (pending c.shared.1).length - 100 * ws.length := by
  induction ws generalizing c with
  | nil => exact ⟨c, rfl, rfl, fun _ h => h, Nat.le_refl _⟩
  | cons w ws ih =>
    obtain ⟨s', n, marked, hok, heligible, hsources, -⟩ := exists_project
      environment before w { c.shared.1 with projecting := true }
    obtain ⟨halone, -⟩ := projectOnce_alone (hanswered w List.mem_cons_self) hfree hok
    have hlength := length_pending heligible hsources
    have hrun : c.run (movesAlone c.threads.length .projectOnce () [w, w]) = _ :=
      run_alone (Operation.alone_traced (projectionNotes environment before .projectOnce)
        halone c.shared.2)
    obtain ⟨c', hrest, heligible', hmarked', hlength'⟩ :=
      ih (c := ⟨(s'.release, _), c.threads ++ [⟨.projectOnce, .done (.ok n)⟩]⟩)
        (fun w hw => hanswered w (List.mem_cons_of_mem _ hw)) rfl
    rw [List.length_append] at hrest
    refine ⟨c', ?_, heligible'.trans heligible, fun key hkey => hmarked' ?_, ?_⟩
    · rw [projections, run_append hrun]
      exact hrest
    · show key ∈ s'.sources
      rw [hsources]
      exact List.mem_append_left _ (List.mem_append_left _ hkey)
    · replace hlength : (pending s').length + min 100 (pending c.shared.1).length ≤
        (pending c.shared.1).length := hlength
      replace hlength' : (pending c'.shared.1).length ≤ (pending s').length - 100 * ws.length :=
        hlength'
      rw [List.length_cons]
      omega

/-! ## The lock of the projection -/

def projectionLock (environment : WorkerEnvironment) (before : SourceKey → SourceKey → Bool) :
    Lock (tracedProjections environment before) where
  taken s := s.1.projecting = true
  holds t := ∃ sources, t = ⟨.projectOnce, ProjectState.projecting sources⟩

theorem projecting_of_step {s s' : ProjectionStore × List ProjectionNote}
    {t t' : ProjectionThread environment before} (h : t.step w s = some (s', t'))
    (htaken : (projectionLock environment before).taken s') :
    (projectionLock environment before).holds t' ∨
      ((projectionLock environment before).taken s ∧
        ¬ (projectionLock environment before).holds t) := by
  obtain ⟨op, l⟩ := t
  obtain ⟨l', hl, rfl⟩ := Thread.step_eq_some h
  have hone := (Operation.traced_step hl).1
  cases op with
  | business | delivery =>
    refine .inr ⟨?_, by rintro ⟨sources, ⟨⟩⟩⟩
    cases l with
    | none => cases hone
    | some change =>
      obtain ⟨hs', -⟩ := Prod.mk.inj (Option.some.inj hone)
      have hsame : s'.1.projecting = s.1.projecting := by
        rw [← hs']
        cases change with
        | _ => first | rfl | (simp only [businessChange]; split <;> rfl)
      exact hsame.symm.trans htaken
  | projectOnce =>
    replace hone : projectStep environment before w s.1 l = some (s'.1, l') := hone
    cases l with
    | locking =>
      rw [projectStep] at hone
      split at hone
      · rename_i hlocked
        exact .inr ⟨hlocked, by rintro ⟨sources, ⟨⟩⟩⟩
      · obtain ⟨-, rfl⟩ := Prod.mk.inj (Option.some.inj hone)
        exact .inl ⟨_, rfl⟩
    | projecting sources =>
      obtain ⟨hs', -⟩ := Prod.mk.inj (Option.some.inj hone)
      have hfree : s'.1.projecting = false := by
        rw [← hs']
        rfl
      cases hfree.symm.trans htaken
    | done result => cases hone

theorem exists_release {s₀ : ProjectionStore} (hfree : s₀.projecting = false)
    (hr : Reaches anyStep ⟨(s₀, []), []⟩ c) :
    ∃ release c₁, release.length ≤ 1 ∧ c.run release = some c₁ ∧
      c₁.threads.length = c.threads.length ∧ c₁.shared.1 =
    { c.shared.1 with projecting := false } := by
  cases htaken : c.shared.1.projecting with
  | false => exact ⟨[], c, Nat.zero_le 1, rfl, rfl, by rw [← htaken]⟩
  | true =>
    obtain ⟨k, t, ht, sources, rfl⟩ := (projectionLock environment before).held_of_reaches
      (fun w s t s' t' _ hstep htaken => projecting_of_step hstep htaken) hr
      (fun h => nomatch hfree.symm.trans h) htaken
    have hstep : @Thread.step _ _ _ (tracedProjections environment before) { commit := .failed }
        c.shared ⟨.projectOnce, ProjectState.projecting sources⟩ =
          some ((c.shared.1.release, c.shared.2 ++ []),
            ⟨.projectOnce, ProjectState.done (.error connectionFailed)⟩) := rfl
    exact ⟨[.advance k { commit := .failed }], _, Nat.le_refl 1, run_advance ht hstep,
      List.length_set, rfl⟩

/-! ## The claim -/

/-- **Every source is projected once, and reports of failures end.**  In every interleaving of
projections with changes of the sources and with deliveries, which may fail: no source is projected
twice; a recipient has one entry of a source on a channel; and an entry about a failed entry is not
reported itself.  From everywhere, runs that are not disturbed project all sources, 100 in each run,
once a run that has the lock has ended.  And as long as the business stands still, at most
`potential` more runs make an entry that is neither for the calendar nor about the failure of one that
is. -/
theorem sources_projected_once (startedAt : ℕ) (rows : Table SourceRow) (users : Table Recipient)
    (c : Config (tracedProjections environment before))
    (hr : Reaches anyStep
      ⟨({ startedAt := startedAt, rows := rows, users := users }, []), []⟩ c) :
    (projectedKeys c.shared.2).Nodup ∧
      (∀ i j entry other, c.shared.1.entries.get? i = some entry →
        c.shared.1.entries.get? j = some other → entry.sourceKey = other.sourceKey →
        entry.userId = other.userId → entry.channel = other.channel → i = j) ∧
      (∀ id entry reported, c.shared.1.entries.get? id = some entry →
        entry.sourceKey = .source (.row .failedNotification reported) →
        entry.key = .adminDeliveryFailure ∧ ∃ failed,
          c.shared.1.entries.get? reported = some failed ∧ isFailureKey failed.key = false) ∧
      (∃ release : List (Move (tracedProjections environment before)), release.length ≤ 1 ∧
        ∀ ws : List ProjectionWorld, (∀ w ∈ ws, w.commit = .answered) →
          (pending c.shared.1).length ≤ 100 * ws.length →
          ∃ c', c.run (release ++ projections c.threads.length ws) = some c' ∧
            ∀ source ∈ eligible c.shared.1, source.key ∈ c'.shared.1.sources) ∧
      ∀ c', Reaches quietStep c c' →
        productive c'.shared ≤ productive c.shared + potential c.shared.1 := by
  have hholds := projectionOutline_sound.holds (Outline.holds_idle projected_initial) hr
  obtain ⟨hprojected, hnodup, -⟩ := hholds.shared
  refine ⟨hnodup, hprojected.once, hprojected.reports, ?_,
    fun c' hr' => productive_bounded hholds hr'⟩
  obtain ⟨release, c₁, hlength, hrun, hthreads, hs₁⟩ := exists_release rfl hr
  refine ⟨release, hlength, fun ws hanswered hpending => ?_⟩
  have hfree : c₁.shared.1.projecting = false := by rw [hs₁]
  obtain ⟨c', hrun', heligible, -, hleft⟩ := run_projections ws hanswered hfree
  rw [hthreads] at hrun'
  refine ⟨c', by rw [run_append hrun]; exact hrun', fun source hsource => ?_⟩
  rw [hs₁] at heligible hleft
  replace hleft : (pending c'.shared.1).length ≤ (pending c.shared.1).length - 100 * ws.length := hleft
  have hnil : pending c'.shared.1 = [] := List.eq_nil_of_length_eq_zero (by omega)
  have hmem : source ∈ eligible c'.shared.1 := by
    rw [heligible]
    exact hsource
  by_contra hnew
  have hpending' : source ∈ pending c'.shared.1 := List.mem_filter.2 ⟨hmem, decide_eq_true hnew⟩
  rw [hnil] at hpending'
  exact nomatch hpending'

end

def previewEnvironment : WorkerEnvironment where
  deliveryMode := .preview
  whatsAppLiveEnabled := false
  whatsAppKey := "preview"
  brandName := "WebHost"
  publicWebUrl := "https://billing.example"
  urlOf path := "https://billing.example" ++ path
  encrypt := id
  decrypt := some
  fingerprint := id
  businessDate _ moment := moment / 86400000
  formatDate _ := "01/01/1970"

abbrev previewProjections := tracedProjections previewEnvironment fun _ _ => false

def administratorOnly : ProjectionStore where
  startedAt := 0
  users := ⟨[{ user := {
    email := "root@billing.example", role := .admin, emailVerifiedAt := some 1
    staffRole := some .fullAdministrator } }]⟩

def dayWorld (day : ℕ) : ProjectionWorld := { now := 86400000 * day }

def failedAutomation : ProjectionStore :=
  { administratorOnly with rows := ⟨[.automation (some 5) .failed]⟩ }

/-- Two runs overlap, the delivery of what the first one makes fails, and a third run reports it. -/
def overlappingRuns : List (Move previewProjections) :=
  [.call .projectOnce (), .call .projectOnce (), .advance 0 (dayWorld 0), .advance 1 (dayWorld 0),
    .advance 0 (dayWorld 0), .call .delivery (.entry 2 .failed (some 9)), .advance 2 {},
    .call .projectOnce (), .advance 3 (dayWorld 0), .advance 3 (dayWorld 0)]

def overlappedConfig : Config previewProjections :=
  after ⟨(failedAutomation, []), []⟩ overlappingRuns (by decide +kernel)

/-- The source and the summary are projected once, and so is the failure of the summary. -/
theorem automation_projected_once :
    projectedKeys overlappedConfig.shared.2 =
        [.row .automation 0, .row .failedNotification 2] ∧
      (projectedKeys overlappedConfig.shared.2).Nodup ∧
      ∀ c', Reaches quietStep overlappedConfig c' →
        productive c'.shared ≤ productive overlappedConfig.shared +
          potential overlappedConfig.shared.1 := by
  have honce := sources_projected_once 0 failedAutomation.rows failedAutomation.users overlappedConfig
    (reaches_anyStep_of_run (run_eq_after (by decide +kernel)))
  exact ⟨by decide +kernel, honce.1, honce.2.2.2.2⟩

/-! ### Summaries whose delivery fails -/

section

variable {environment : WorkerEnvironment} {before : SourceKey → SourceKey → Bool}
  {w : ProjectionWorld} {s s' s'' : ProjectionStore}

theorem createEntries_covers (now : ℕ) {entries : List ProjectedEntry} {entry : ProjectedEntry}
    (hentry : entry ∈ entries) (s : ProjectionStore) :
    ∃ id other, (createEntries now entries s).entries.get? id = some other ∧
      entry.clashes other = true := by
  induction entries generalizing s with
  | nil => exact absurd hentry List.not_mem_nil
  | cons first entries ih =>
    rcases List.mem_cons.1 hentry with rfl | hentry
    · obtain ⟨added, hrest, -⟩ := createEntries_emits now entries (createEntry now entry s)
      have hfirst : ∃ id other, (createEntry now entry s).entries.get? id = some other ∧
          entry.clashes other = true := by
        rw [createEntry]
        split
        · rename_i hclash
          exact any_eq_true.1 hclash
        · exact ⟨_, entry, get?_insert_self _ _, decide_eq_true ⟨rfl, rfl, rfl, rfl⟩⟩
      obtain ⟨id, other, hother, hclashes⟩ := hfirst
      exact ⟨id, other, hrest.get?_of_some hother, hclashes⟩
    · exact ih hentry (createEntry now first s)

theorem Emits.get?_of_lt {added : List ProjectedEntry} (h : Emits s s' added) {id : RowId}
    {entry : ProjectedEntry} (hlt : id < s.entries.size)
    (hentry : s'.entries.get? id = some entry) :
    s.entries.get? id = some entry := by
  rw [Table.get?, h.entries, List.getElem?_append_left hlt] at hentry
  exact hentry

variable (environment) in
theorem Projected.emits_new (emission : Emission) {key : SourceKey} (now : ℕ) (h : Projected none s)
    (hnew : key ∉ s.sources) (hkey : emission.sourceKey = .source key)
    (hsome : ∃ entry, entry ∈ emittedEntries environment emission s.users) :
    ∃ id other, s.entries.size ≤ id ∧
      (emit environment now emission s).entries.get? id = some other ∧ other.key = emission.key := by
  obtain ⟨entry, hentry⟩ := hsome
  obtain ⟨hentryKey, hsourceKey, -⟩ := mem_emittedEntries hentry
  obtain ⟨id, other, hother, hclashes⟩ := createEntries_covers now hentry s
  obtain ⟨hsource, -, hotherKey, -⟩ := of_decide_eq_true hclashes
  refine ⟨id, other, ?_, hother, hotherKey.trans hentryKey⟩
  by_contra hlt
  obtain ⟨added, hemits, -⟩ :=
    createEntries_emits now (emittedEntries environment emission s.users) s
  have hold := hemits.get?_of_lt (Nat.not_le.1 hlt) hother
  rcases h.marked id other key hold (hsource.trans (hsourceKey.trans hkey)) with hmarked | ⟨_, hnone, -⟩
  · exact hnew hmarked
  · exact nomatch hnone

end

theorem businessDate_dayWorld (day : ℕ) :
    previewEnvironment.businessDate (dayWorld day).timeZone (dayWorld day).now = day :=
  Nat.mul_div_cancel_left day (by decide)

structure DayBegins (day : ℕ) (s : ProjectionStore) : Prop where
  free : s.projecting = false
  users : s.users = administratorOnly.users
  startedAt : s.startedAt = 0
  undigested : ∀ later, day ≤ later → SourceKey.digest later ∉ s.sources
  known : ∀ id, SourceKey.row .failedNotification id ∈ s.sources → id < s.entries.size
  kinds : ∀ source ∈ eligible s, source.kind = .failedNotification
  few : (pending s).length ≤ 1

theorem dayBegins_zero : DayBegins 0 administratorOnly where
  free := rfl
  users := rfl
  startedAt := rfl
  undigested _ _ := List.not_mem_nil
  known _ h := absurd h List.not_mem_nil
  kinds _ h := absurd h List.not_mem_nil
  few := Nat.zero_le 1

def ProjectionNote.isReport (note : ProjectionNote) : Bool :=
  note.entries.any fun entry => !isCalendarKey entry.1.key

variable {entry : ProjectedEntry} {s s' : ProjectionStore} {source : Source} {day n : ℕ}

theorem mem_drop_of_get? {t : Table ProjectedEntry} {id : ℕ}
    (h : t.get? id = some entry) (hle : n ≤ id) : entry ∈ t.rows.drop n := by
  refine List.mem_iff_getElem?.2 ⟨id - n, ?_⟩
  rw [List.getElem?_drop, Nat.add_sub_cancel' hle]
  exact h

theorem DayBegins.summary (hprojected : Projected none s)
    (husers : s.users = administratorOnly.users) (hnew : SourceKey.digest day ∉ s.sources)
    (hs' : s' = calendar previewEnvironment (dayWorld day) s) :
    ∃ id entry, s'.entries.get? id = some entry ∧ s.entries.size ≤ id ∧
      entry.key = .adminDailySummary := by
  obtain ⟨id, entry, hle, hentry, hkey⟩ := hprojected.emits_new previewEnvironment
    ⟨.adminDailySummary, .source (.digest day), {}, {}⟩ (dayWorld day).now hnew
    rfl ⟨_, by rw [husers]; exact List.mem_cons_self⟩
  refine ⟨id, entry, ?_, hle, hkey⟩
  have hdigest : calendar previewEnvironment (dayWorld day) s =
      digest previewEnvironment (dayWorld day) s := rfl
  rw [hs', hdigest, digest, businessDate_dayWorld, if_neg hnew]
  exact hentry

theorem DayBegins.report
    (hprojected : Projected none s) (husers : s.users = administratorOnly.users)
    (hkind : source.kind = .failedNotification)
    (hok : projectSource previewEnvironment (dayWorld day) source s = .ok s') :
    ∃ id entry, s'.entries.get? id = some entry ∧ s.entries.size ≤ id ∧
      entry.key = .adminDeliveryFailure := by
  obtain ⟨hnew, -, -, -, -, hs'⟩ := projectSource_ok hok
  obtain ⟨id, entry, hle, hentry, hkey⟩ := hprojected.emits_new previewEnvironment
    ⟨.adminDeliveryFailure, .source source.key, {}, {}⟩ (dayWorld day).now hnew
    rfl ⟨_, by rw [husers]; exact List.mem_cons_self⟩
  refine ⟨id, entry, ?_, hle, hkey⟩
  rw [hs', emissions_failedNotification hkind]
  exact hentry

theorem batch_of_pending {before : SourceKey → SourceKey → Bool} (h : pending s = [source]) :
    batch before s = [source] := by
  rw [batch, h]
  rfl

theorem DayBegins.run (h : DayBegins day s) (hprojected : Projected none s)
    (hok : project previewEnvironment (dayWorld day) (batch (fun _ _ => false) s)
      { s with projecting := true } = .ok (s', n)) :
    (∃ id entry, s'.entries.get? id = some entry ∧ s.entries.size ≤ id ∧
      entry.key = .adminDailySummary) ∧
    ((pending s).length = 1 → ∃ entry ∈ s'.entries.rows.drop s.entries.size,
      entry.key = .adminDeliveryFailure) := by
  obtain ⟨s₁, hsources, hcalendar⟩ := bind_eq_ok.1 hok
  obtain ⟨hs', -⟩ := Prod.mk.inj (Except.ok.inj hcalendar)
  have hlocked := hprojected.left (leaves_projecting s true)
  have hlisted : ∀ source ∈ batch (fun _ _ => false) s, Listed { s with projecting := true } source :=
    fun source hsource => (listed_of_eligible (mem_batch hsource).1).left (leaves_projecting s true)
  obtain ⟨hprojected₁, added, hmarks⟩ := hlocked.sources_projected hlisted hsources
  have hsize : s.entries.size ≤ s₁.entries.size := by
    rw [Table.size, Table.size, hmarks.emits.entries, List.length_append]
    exact Nat.le_add_right _ _
  have hnew : SourceKey.digest day ∉ s₁.sources := by
    rw [hmarks.sources]
    intro hmem
    rcases List.mem_append.1 hmem with hmem | hmem
    · exact h.undigested day (Nat.le_refl day) hmem
    · obtain ⟨source, -, hsource⟩ := List.mem_map.1 hmem
      cases hsource
  have husers : s₁.users = administratorOnly.users := hmarks.emits.users.trans h.users
  refine ⟨?_, fun hone => ?_⟩
  · obtain ⟨id, entry, hentry, hle, hkey⟩ := DayBegins.summary hprojected₁ husers hnew hs'.symm
    exact ⟨id, entry, hentry, hsize.trans hle, hkey⟩
  · obtain ⟨source, hpending⟩ := List.length_eq_one_iff.1 hone
    rw [batch_of_pending hpending] at hsources
    obtain ⟨s₂, hfirst, hnone⟩ := projectSources_cons_ok hsources
    obtain rfl := Except.ok.inj hnone
    have hmem : source ∈ pending s := by
      rw [hpending]
      exact List.mem_singleton_self source
    obtain ⟨id, entry, hentry, hle, hkey⟩ := DayBegins.report hlocked h.users
      (h.kinds source (List.mem_filter.1 hmem).1) hfirst
    obtain ⟨added', marked', hdigest, -⟩ :=
      digest_marks previewEnvironment (dayWorld day) s₂
    refine ⟨entry, mem_drop_of_get? ?_ hle, hkey⟩
    rw [← hs']
    exact hdigest.emits.get?_of_some hentry

def failDelivery (id : RowId) : DeliveryChange := .entry id .failed (some 0)

theorem eligible_delivered {id : RowId} {status : NotificationStatus} {completedAt : Option ℕ}
    (h : source ∈ eligible (deliveryChange s (.entry id status completedAt))) :
    source ∈ eligible s ∨ source.key = .row .failedNotification id := by
  rcases List.mem_append.1 h with h | h
  · exact .inl (List.mem_append_left _ h)
  · obtain ⟨⟨entry, j⟩, hentry, hsource⟩ := List.mem_flatMap.1 h
    have hget : (s.entries.update id fun entry =>
        { entry with status := status, completedAt := completedAt }).get? j = some entry :=
      List.mem_zipIdx_iff_getElem?.1 hentry
    rcases get?_update_cases hget with ⟨rfl, -⟩ | ⟨-, hold⟩
    · obtain ⟨hkind, hid, -⟩ := mem_entrySources hsource
      exact .inr (by rw [Source.key, hkind, hid])
    · refine .inl (List.mem_append_right _ (List.mem_flatMap.2 ⟨(entry, j), ?_, hsource⟩))
      exact List.mem_zipIdx_iff_getElem?.2 hold

theorem eligible_failed {id : RowId}
    (hstarted : s.startedAt = 0) (hentry : s.entries.get? id = some entry)
    (hkey : entry.key = .adminDailySummary) :
    ⟨.failedNotification, id, 0⟩ ∈ eligible (deliveryChange s (failDelivery id)) := by
  refine List.mem_append_right _ (List.mem_flatMap.2
    ⟨({ entry with status := .failed, completedAt := some 0 }, id), ?_, ?_⟩)
  · exact List.mem_zipIdx_iff_getElem?.2 (get?_update_self hentry)
  · show _ ∈ entrySources s.startedAt id _
    rw [hstarted, entrySources, hkey, sourceIf]
    exact List.mem_cons_self

theorem length_eq_one_of_key {sources : List Source} (source : Source) (key : SourceKey)
    (hnodup : (sources.map Source.key).Nodup) (hmem : source ∈ sources)
    (hkey : ∀ other ∈ sources, other.key = key) : sources.length = 1 := by
  have hsubset : sources.map Source.key ⊆ [key] := by
    intro k hk
    obtain ⟨other, hother, rfl⟩ := List.mem_map.1 hk
    exact List.mem_singleton.2 (hkey other hother)
  have hle := (List.subperm_of_subset hnodup hsubset).length_le
  have hpos := List.length_pos_of_mem hmem
  rw [List.length_map, List.length_singleton] at hle
  omega

theorem DayBegins.failed {id : ℕ} (h : DayBegins day s)
    (hok : project previewEnvironment (dayWorld day) (batch (fun _ _ => false) s)
      { s with projecting := true } = .ok (s', n))
    (hentry : s'.entries.get? id = some entry) (hle : s.entries.size ≤ id)
    (hkey : entry.key = .adminDailySummary) :
    DayBegins (day + 1) (deliveryChange s'.release (failDelivery id)) ∧
      (pending (deliveryChange s'.release (failDelivery id))).length = 1 := by
  obtain ⟨s₂, n₂, marked, hok₂, heligible, hsources, hdigest⟩ := exists_project
    previewEnvironment (fun _ _ => false) (dayWorld day)
    { s with projecting := true }
  obtain ⟨rfl, rfl⟩ := Prod.mk.inj (Except.ok.inj (hok₂.symm.trans hok))
  rw [businessDate_dayWorld] at hdigest
  have hlisted : ∀ source ∈ batch (fun _ _ => false) s, Listed s source :=
    fun source hsource => listed_of_eligible (mem_batch hsource).1
  obtain ⟨added, marked', hmarks, -⟩ := project_pays
    (fun source hsource => (hlisted source hsource).left (leaves_projecting s true)) hok
  have hsize : s.entries.size ≤ s₂.entries.size := by
    rw [Table.size, Table.size, hmarks.emits.entries, List.length_append]
    exact Nat.le_add_right _ _
  have hstarted : s₂.startedAt = 0 := hmarks.emits.startedAt.trans h.startedAt
  have hmarked : ∀ key ∈ s₂.sources, key ∈ s.sources ∨
      (∃ id, key = .row .failedNotification id ∧ id < s.entries.size) ∨ key = .digest day := by
    intro key hkey
    rw [hsources] at hkey
    rcases List.mem_append.1 hkey with hkey | hkey
    · rcases List.mem_append.1 hkey with hkey | hkey
      · exact .inl hkey
      · obtain ⟨source, hsource, rfl⟩ := List.mem_map.1 hkey
        have hkind := h.kinds source (mem_batch hsource).1
        have hrow := hlisted source hsource
        rw [Listed, if_pos hkind] at hrow
        obtain ⟨failed, hfailed, -⟩ := hrow
        exact .inr (.inl ⟨source.id, by rw [Source.key, hkind], lt_size_of_get? hfailed⟩)
    · exact .inr (.inr (List.mem_singleton.1 (hdigest hkey)))
  have hnew : SourceKey.row .failedNotification id ∉ s₂.sources := by
    intro hmem
    rcases hmarked _ hmem with hold | ⟨j, heq, hlt⟩ | heq
    · exact absurd (h.known id hold) (Nat.not_lt.2 hle)
    · obtain ⟨-, rfl⟩ := SourceKey.row.inj heq
      exact absurd hlt (Nat.not_lt.2 hle)
    · cases heq
  have hnone : pending s₂ = [] := by
    have hlength := length_pending heligible hsources
    have hfew : (pending { s with projecting := true }).length ≤ 1 := h.few
    exact List.eq_nil_of_length_eq_zero (by omega)
  have hone : (pending (deliveryChange s₂.release (failDelivery id))).length = 1 := by
    refine length_eq_one_of_key ⟨.failedNotification, id, 0⟩ (.row .failedNotification id)
      ((nodup_eligible _).sublist ((List.filter_sublist).map Source.key)) ?_ fun other hother => ?_
    · exact List.mem_filter.2 ⟨eligible_failed hstarted hentry hkey, decide_eq_true hnew⟩
    · obtain ⟨hmem, hfree⟩ := List.mem_filter.1 hother
      rcases eligible_delivered hmem with hold | hid
      · have hpending : other ∈ pending s₂ := List.mem_filter.2 ⟨hold, hfree⟩
        rw [hnone] at hpending
        cases hpending
      · exact hid
  refine ⟨⟨rfl, hmarks.emits.users.trans h.users, hstarted, fun later hlater hmem => ?_,
    fun j hj => ?_, fun source hsource => ?_, Nat.le_of_eq hone⟩, hone⟩
  · rcases hmarked _ hmem with hold | ⟨j, heq, -⟩ | heq
    · exact h.undigested later (Nat.le_of_succ_le hlater) hold
    · cases heq
    · have hday := SourceKey.digest.inj heq
      omega
  · rw [show (deliveryChange s₂.release (failDelivery id)).entries.size = s₂.entries.size from
      size_update _ _ _]
    rcases hmarked _ hj with hold | ⟨k, heq, hlt⟩ | heq
    · exact (h.known j hold).trans_le hsize
    · obtain ⟨-, rfl⟩ := SourceKey.row.inj heq
      exact hlt.trans_le hsize
    · cases heq
  · rcases eligible_delivered hsource with hold | hid
    · have hmem : source ∈ eligible s₂ := hold
      rw [heligible] at hmem
      exact h.kinds source hmem
    · exact (SourceKey.row.inj hid).1

theorem countP_isReport {note : ProjectionNote} {key : Option NotificationKey}
    (hentry : (entry, key) ∈ note.entries) (hkey : entry.key = .adminDeliveryFailure) :
    [note].countP ProjectionNote.isReport = 1 := by
  have hreport : note.isReport = true := by
    refine List.any_eq_true.2 ⟨_, hentry, ?_⟩
    rw [hkey]
    rfl
  rw [List.countP_singleton, hreport]
  rfl

theorem DayBegins.next {c : Config previewProjections}
    (hr : Reaches anyStep ⟨(administratorOnly, []), []⟩ c)
    (h : DayBegins day c.shared.1) :
    ∃ c', Reaches quietStep c c' ∧ DayBegins (day + 1) c'.shared.1 ∧
      (pending c'.shared.1).length = 1 ∧
      c.shared.2.countP ProjectionNote.isReport + (pending c.shared.1).length ≤
        c'.shared.2.countP ProjectionNote.isReport := by
  have hprojected := (projectionOutline_sound.holds (Outline.holds_idle projected_initial) hr).shared.1
  obtain ⟨s', n, marked, hok, -⟩ := exists_project previewEnvironment
    (fun _ _ => false) (dayWorld day) { c.shared.1 with projecting := true }
  change project previewEnvironment (dayWorld day) (batch (fun _ _ => false) c.shared.1) _ = _ at hok
  obtain ⟨⟨id, entry, hentry, hle, hkey⟩, hreport⟩ := h.run hprojected hok
  obtain ⟨hbegins, hone⟩ := h.failed hok hentry hle hkey
  obtain ⟨halone, hnotes⟩ := projectOnce_alone (w := dayWorld day) rfl h.free hok
  have hproject := reaches_alone (φ := quietStep) c .projectOnce ()
    (fun _ _ _ => nofun) (Operation.alone_traced
      (projectionNotes previewEnvironment (fun _ _ => false) .projectOnce) halone c.shared.2)
  rw [hnotes] at hproject
  have hfail := fun trace threads => reaches_alone (φ := quietStep)
    (⟨(s'.release, trace), threads⟩ : Config previewProjections) .delivery (failDelivery id)
    (fun _ _ _ => nofun) (@Operation.alone_singleton _ _ _ _ _ {} _ rfl)
  refine ⟨_, hproject.trans (hfail _ _), hbegins, hone, ?_⟩
  show _ ≤ (c.shared.2 ++ _ ++ []).countP _
  rw [List.append_nil, List.countP_append]
  refine Nat.add_le_add_left ?_ _
  by_cases hpending : (pending c.shared.1).length = 1
  · obtain ⟨report, hmem, hreported⟩ := hreport hpending
    rw [countP_isReport (List.mem_map_of_mem hmem) hreported, hpending]
  · have hfew := h.few
    omega

theorem exists_day (day : ℕ) : ∃ c : Config previewProjections,
    Reaches quietStep ⟨(administratorOnly, []), []⟩ c ∧ DayBegins day c.shared.1 ∧
      day ≤ c.shared.2.countP ProjectionNote.isReport + 1 ∧
      (day ≠ 0 → (pending c.shared.1).length = 1) := by
  induction day with
  | zero =>
    exact ⟨_, .refl, dayBegins_zero, Nat.zero_le _, fun h => absurd rfl h⟩
  | succ day ih =>
    obtain ⟨c, hr, hbegins, hcount, hpending⟩ := ih
    obtain ⟨c', hr', hbegins', hone, hreports⟩ :=
      hbegins.next (reaches_mono (fun _ _ _ _ => trivial) hr)
    refine ⟨c', hr.trans hr', hbegins', ?_, fun _ => hone⟩
    cases day with
    | zero => omega
    | succ day =>
      have hone' := hpending (Nat.succ_ne_zero day)
      omega

/-- Without any business row, there is no bound on the runs that make an entry that is not for the
calendar: each day, the delivery of the summary fails, and is reported on the next day. -/
theorem reports_unbounded :
    ¬ ∃ bound : ℕ, ∀ c : Config previewProjections,
      Reaches quietStep ⟨(administratorOnly, []), []⟩ c →
        c.shared.2.countP ProjectionNote.isReport ≤ bound := by
  rintro ⟨bound, hbound⟩
  obtain ⟨c, hr, -, hcount, -⟩ := exists_day (bound + 2)
  have hle := hbound c hr
  omega

end NotificationProjectionService

end WebhostBilling
