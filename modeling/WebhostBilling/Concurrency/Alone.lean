import WebhostBilling.Concurrency.Threads

/-!
# Operations that run alone

`Operation.alone` runs an operation to where some answers of the world lead it, while nothing else
takes a step.  A system can always do that in a new thread (`Config.run_alone`), so what is reached
by operations that run alone, one after another, is reachable.
-/

namespace Concurrency

variable {σ ω ι : Type} {ops : ι → Operation σ ω}

def Operation.alone (op : Operation σ ω) : σ → op.Local → List ω → Option (σ × op.Local)
  | s, l, [] => some (s, l)
  | s, l, w :: ws => (op.step w s l).bind fun out => op.alone out.1 out.2 ws

variable {op : Operation σ ω} {w : ω} {ws : List ω}

theorem Operation.alone_cons {s : σ} {l : op.Local} {out : σ × op.Local}
    (h : op.step w s l = some out) :
    op.alone s l (w :: ws) = op.alone out.1 out.2 ws := by
  rw [alone, h, Option.bind_some]

theorem Operation.alone_singleton {op : Operation σ ω} {s : σ} {l : op.Local} {w : ω}
    {out : σ × op.Local} (h : op.step w s l = some out) : op.alone s l [w] = some out :=
  alone_cons h

def Operation.notesAlone {ε : Type} (op : Operation σ ω) (note : ω → σ → op.Local → List ε) :
    σ → op.Local → List ω → List ε
  | _, _, [] => []
  | s, l, w :: ws => note w s l ++
      (op.step w s l).elim [] fun out => op.notesAlone note out.1 out.2 ws

theorem Operation.notesAlone_cons {ε : Type} {note : ω → σ → op.Local → List ε} {s : σ}
    {l : op.Local} {out : σ × op.Local} (h : op.step w s l = some out) :
    op.notesAlone note s l (w :: ws) = note w s l ++ op.notesAlone note out.1 out.2 ws := by
  rw [notesAlone, h, Option.elim_some]

theorem Operation.alone_traced {ε : Type} (note : ω → σ → op.Local → List ε) {s s' : σ}
    {l l' : op.Local} (h : op.alone s l ws = some (s', l')) (trace : List ε) :
    (op.traced note).alone (s, trace) l ws = some
    ((s', trace ++ op.notesAlone note s l ws), l') := by
  induction ws generalizing s l trace with
  | nil =>
    cases h
    rw [notesAlone, List.append_nil]
    rfl
  | cons w ws ih =>
    rw [alone, Option.bind_eq_some_iff] at h
    obtain ⟨⟨s₁, l₁⟩, hstep, hrest⟩ := h
    have htraced : (op.traced note).step w (s, trace) l = some ((s₁, trace ++ note w s l), l₁) := by
      show (op.step w s l).map _ = _
      rw [hstep, Option.map_some]
    rw [alone_cons htraced, notesAlone_cons hstep, ← List.append_assoc]
    exact ih hrest (trace ++ note w s l)

namespace Config

/-- A request, and the steps of its thread, which is the `k`-th. -/
def movesAlone (k : ℕ) (op : ι) (request : (ops op).Request) (ws : List ω) : List (Move ops) :=
  .call op request :: ws.map (.advance k)

variable {c c' : Config ops} {k : ℕ} {s' : σ} {op : ι} {φ : ω → σ → Thread ops → Prop}

theorem run_append {ms ms' : List (Move ops)} (h : c.run ms = some c') :
    c.run (ms ++ ms') = c'.run ms' := by
  induction ms generalizing c with
  | nil =>
    obtain rfl := Option.some.inj h
    rfl
  | cons m ms ih =>
    rw [run, Option.bind_eq_some_iff] at h
    obtain ⟨next, hnext, hrest⟩ := h
    rw [List.cons_append, run, hnext, Option.bind_some]
    exact ih hrest

theorem run_advance {w : ω} {t t' : Thread ops} (ht : c.threads[k]? = some t)
    (hs : t.step w c.shared = some (s', t')) :
    c.run [.advance k w] = some ⟨s', c.threads.set k t'⟩ := by
  simp only [run, next, ht, hs, Option.bind_eq_bind, Option.bind_some]
  rfl

theorem run_advances {threads : List (Thread ops)} {s : σ} {l l' : (ops op).Local}
    (h : (ops op).alone s l ws = some (s', l')) :
    (Config.mk s (threads ++ [⟨op, l⟩])).run (ws.map (.advance threads.length)) =
      some ⟨s', threads ++ [⟨op, l'⟩]⟩ := by
  induction ws generalizing s l with
  | nil =>
    cases h
    rfl
  | cons w ws ih =>
    rw [Operation.alone, Option.bind_eq_some_iff] at h
    obtain ⟨⟨next, l₁⟩, hstep, hrest⟩ := h
    have hnext : (Config.mk s (threads ++ [⟨op, l⟩])).next (.advance threads.length w) =
        some ⟨next, threads ++ [⟨op, l₁⟩]⟩ := by
      simp only [Config.next, List.getElem?_concat_length, Option.bind_eq_bind, Option.bind_some,
        Thread.step_of hstep]
      rw [List.set_append_right _ _ (Nat.le_refl _), Nat.sub_self]
      rfl
    rw [List.map_cons, run, hnext, Option.bind_some]
    exact ih hrest

theorem run_alone {request : (ops op).Request} {l' : (ops op).Local}
    (h : (ops op).alone c.shared ((ops op).start request) ws = some (s', l')) :
    c.run (movesAlone c.threads.length op request ws) = some ⟨s', c.threads ++ [⟨op, l'⟩]⟩ :=
  run_advances h

theorem reaches_mono {ψ : ω → σ → Thread ops → Prop} (hφ : ∀ w s t, φ w s t → ψ w s t)
    (hr : Reaches φ c c') : Reaches ψ c c' := by
  induction hr with
  | refl => exact .refl
  | tail _ hstep ih =>
    cases hstep with
    | call op request => exact ih.tail (Step.call _ op request)
    | advance ht hguard hs => exact ih.tail (Step.advance ht (hφ _ _ _ hguard) hs)

theorem reaches_alone (c : Config ops) (op : ι) (request : (ops op).Request) {l' : (ops op).Local}
    (hφ : ∀ w s l, φ w s ⟨op, l⟩)
    (h : (ops op).alone c.shared ((ops op).start request) ws = some (s', l')) :
    Reaches φ c ⟨s', c.threads ++ [⟨op, l'⟩]⟩ := by
  have hsteps : ∀ (s : σ) (l : (ops op).Local) (ws : List ω), (ops op).alone s l ws = some (s', l') →
      Reaches φ ⟨s, c.threads ++ [⟨op, l⟩]⟩ ⟨s', c.threads ++ [⟨op, l'⟩]⟩ := by
    intro s l ws h
    induction ws generalizing s l with
    | nil =>
      cases h
      exact .refl
    | cons w ws ih =>
      rw [Operation.alone, Option.bind_eq_some_iff] at h
      obtain ⟨⟨next, l₁⟩, hstep, hrest⟩ := h
      have hlast : (c.threads ++ [(⟨op, l⟩ : Thread ops)])[c.threads.length]? = some ⟨op, l⟩ :=
        List.getElem?_concat_length
      have hadvance := Step.advance (c := ⟨s, c.threads ++ [⟨op, l⟩]⟩) hlast (hφ w s l)
        (Thread.step_of hstep)
      rw [List.set_append_right _ _ (Nat.le_refl _), Nat.sub_self] at hadvance
      exact (ih next l₁ hrest).head hadvance
  exact (hsteps c.shared _ ws h).head (Step.call c op request)

theorem exists_finished {φ : ω → σ → Thread ops → Prop} {rank : Thread ops → ℕ}
    {Good : Config ops → Prop} (hgood : ∀ c c', Good c → Reaches φ c c' → Good c')
    (hlower : ∀ c (k : ℕ) t w s' t', Good c → c.threads[k]? = some t →
      t.step w c.shared = some (s', t') → rank t' < rank t)
    (hready : ∀ c (k : ℕ) t, Good c → c.threads[k]? = some t → 0 < rank t →
      ∃ c', Reaches φ c c' ∧ c'.threads[k]? = some t ∧
        ∃ w out, φ w c'.shared t ∧ t.step w c'.shared = some out)
    {c : Config ops} {k : ℕ} {t : Thread ops} (h : Good c) (ht : c.threads[k]? = some t) :
    ∃ c' t', Reaches φ c c' ∧ c'.threads[k]? = some t' ∧ rank t' = 0 := by
  -- By induction on the rank.
  generalize hn : rank t = n
  induction n using Nat.strongRecOn generalizing c t with
  | ind n ih =>
    by_cases hrank : rank t = 0
    · exact ⟨c, t, .refl, ht, hrank⟩
    · obtain ⟨c₁, hreach, ht₁, w, ⟨s', t'⟩, hφ, hstep⟩ := hready c k t h ht (Nat.pos_of_ne_zero hrank)
      have h₁ := hgood c c₁ h hreach
      have hnext : Reaches φ c ⟨s', c₁.threads.set k t'⟩ := hreach.tail (Step.advance ht₁ hφ hstep)
      have hset : (c₁.threads.set k t')[k]? = some t' :=
        List.getElem?_set_self (List.getElem?_eq_some_iff.1 ht₁).1
      obtain ⟨c', t'', hreach', ht', hfinished⟩ :=
        ih (rank t') (hn ▸ hlower c₁ k t w s' t' h₁ ht₁ hstep) (hgood c _ h hnext) hset rfl
      exact ⟨c', t'', hnext.trans hreach', ht', hfinished⟩

end Config

end Concurrency
