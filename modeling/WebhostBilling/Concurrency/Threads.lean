import Mathlib.Data.Nat.Notation
import Mathlib.Logic.Relation

/-!
# Threads over a shared store

A request is a little machine: it keeps what it has read so far in a local state, and in one step it
looks at the shared store and at what the outside world answers, changes the store, and moves on.  A
database transaction is one such step, a read made before it is an earlier one, and a call to a
remote party is a step whose answer is part of the outside world.  A thread that crashes is one that
is never scheduled again, so crashes need no move of their own.

* `Reaches φ` is reachability by moves whose thread steps all satisfy the guard `φ`; `run` executes
  a list of moves, for traces that are evaluated.
* `Outline` is a proof outline in the style of Owicki and Gries: an assertion on the store, an
  assertion for each thread, and a relation that keeps two threads apart.  `Outline.Sound` lists
  what has to be checked once for each operation, and `Outline.Sound.holds` concludes for every
  reachable configuration; `Outline.extend` and `Outline.embed` build on a sound outline.
* `Config.record` is what the steps of a run note down, and `Config.recordOf` the part of one thread;
  `Outline.Sound.recorded` and `Outline.Sound.tracked` are the rules for them.
* `Operation.traced` puts the notes into the shared store, `Operation.seeing` keeps beside a thread
  what it has seen, and `Operation.within` lets an operation on a part of a store work on all of it.
-/

namespace Concurrency

theorem map_eq_some_pair {α β γ : Type*} {f : α → β} {g : α → γ} {o : Option α} {b : β} {c : γ} :
    (o.map fun a => (f a, g a)) = some (b, c) ↔ ∃ a, o = some a ∧ f a = b ∧ g a = c := by
  simp only [Option.map_eq_some_iff, Prod.mk.injEq]

/-- One kind of request: `start` is the local state a fresh thread begins in, and `step` takes a
thread one step further, given the outside world's answers `ω` and the shared store `σ`.  A thread
for which `step` is `none` has finished. -/
structure Operation (σ ω : Type) where
  Request : Type
  Local : Type
  start : Request → Local
  step : ω → σ → Local → Option (σ × Local)

section

variable {σ ω ι : Type}

/-- A call of an operation, and where it is. -/
structure Thread (ops : ι → Operation σ ω) where
  op : ι
  loc : (ops op).Local

variable {ops : ι → Operation σ ω}

def Thread.step (w : ω) (s : σ) (t : Thread ops) : Option (σ × Thread ops) :=
  ((ops t.op).step w s t.loc).map fun out => (out.1, ⟨t.op, out.2⟩)

def Thread.begin (op : ι) (request : (ops op).Request) : Thread ops :=
  ⟨op, (ops op).start request⟩

theorem Thread.step_eq_some {w : ω} {s s' : σ} {t t' : Thread ops}
    (h : t.step w s = some (s', t')) :
    ∃ l, (ops t.op).step w s t.loc = some (s', l) ∧ t' = ⟨t.op, l⟩ := by
  rw [Thread.step, Option.map_eq_some_iff] at h
  obtain ⟨⟨s₁, l⟩, hl, heq⟩ := h
  obtain ⟨rfl, rfl⟩ := Prod.mk.inj heq
  exact ⟨l, hl, rfl⟩

theorem Thread.step_of {op : ι} {w : ω} {s : σ} {l : (ops op).Local} {out : σ × (ops op).Local}
    (h : (ops op).step w s l = some out) :
    (⟨op, l⟩ : Thread ops).step w s = some (out.1, ⟨op, out.2⟩) := by
  rw [Thread.step, h, Option.map_some]

/-- A shared state and the threads that work on it. -/
structure Config (ops : ι → Operation σ ω) where
  shared : σ
  threads : List (Thread ops)

inductive Move (ops : ι → Operation σ ω)
  | call (op : ι) (request : (ops op).Request)
  | advance (position : ℕ) (world : ω)

namespace Config

/-- The configuration after a move, or `none` when the move is not possible. -/
def next (c : Config ops) : Move ops → Option (Config ops)
  | .call op request => some { c with threads := c.threads ++ [Thread.begin op request] }
  | .advance k w => do
    let t ← c.threads[k]?
    let out ← t.step w c.shared
    return ⟨out.1, c.threads.set k out.2⟩

/-- The configuration after these moves, where each is possible. -/
def run (c : Config ops) : List (Move ops) → Option (Config ops)
  | [] => some c
  | m :: ms => (c.next m).bind fun c' => c'.run ms

/-- At some point of a run the store satisfies `p`. -/
def Sometime (p : σ → Prop) : Config ops → List (Move ops) → Prop
  | c, [] => p c.shared
  | c, m :: ms => p c.shared ∨ ∃ c' ∈ c.next m, c'.Sometime p ms

/-- What a move notes down: a step of a thread notes what `note` says of it. -/
def noted {ε : Type} (note : ω → σ → Thread ops → List ε) (c : Config ops) : Move ops → List ε
  | .call _ _ => []
  | .advance k w => (c.threads[k]?).elim [] (note w c.shared)

/-- What the moves of a run note. -/
def record {ε : Type} (note : ω → σ → Thread ops → List ε) : Config ops → List (Move ops) → List ε
  | _, [] => []
  | c, m :: ms => c.noted note m ++ (c.next m).elim [] fun c' => c'.record note ms

/-- What the thread at `k` notes in a run. -/
def recordOf {ε : Type} (note : ω → σ → Thread ops → List ε) (k : ℕ) :
    Config ops → List (Move ops) → List ε
  | _, [] => []
  | c, .call op request :: ms =>
    (c.next (.call op request)).elim [] fun c' => c'.recordOf note k ms
  | c, .advance j w :: ms => (if j = k then c.noted note (.advance j w) else []) ++
    (c.next (.advance j w)).elim [] fun c' => c'.recordOf note k ms

def after (c : Config ops) (ms : List (Move ops)) (h : (c.run ms).isSome = true) : Config ops :=
  (c.run ms).get h

variable {c c' : Config ops} {ms : List (Move ops)} {φ : ω → σ → Thread ops → Prop}

theorem run_eq_after (h : (c.run ms).isSome = true) :
    c.run ms = some (c.after ms h) :=
  (Option.some_get h).symm

/-- One move, whose thread step (when it is one) satisfies the guard `φ`. -/
inductive Step (φ : ω → σ → Thread ops → Prop) : Config ops → Config ops → Prop
  | call (c : Config ops) (op : ι) (request : (ops op).Request) :
      Step φ c { c with threads := c.threads ++ [Thread.begin op request] }
  | advance {c : Config ops} {k : ℕ} {w : ω} {t t' : Thread ops} {s' : σ}
      (ht : c.threads[k]? = some t) (hφ : φ w c.shared t) (hs : t.step w c.shared = some (s', t')) :
      Step φ c ⟨s', c.threads.set k t'⟩

/-- Steps that meet `φ` lead there. -/
def Reaches (φ : ω → σ → Thread ops → Prop) : Config ops → Config ops → Prop :=
  Relation.ReflTransGen (Step φ)

def anyStep : ω → σ → Thread ops → Prop := fun _ _ _ => True

/-- The guard holds of the thread step a move makes. -/
def Passes (φ : ω → σ → Thread ops → Prop) (c : Config ops) : Move ops → Prop
  | .call _ _ => True
  | .advance k w => ∀ t ∈ c.threads[k]?, φ w c.shared t

/-- Each advance of the run meets `φ`. -/
def Guarded (φ : ω → σ → Thread ops → Prop) : Config ops → List (Move ops) → Prop
  | _, [] => True
  | c, m :: ms => c.Passes φ m ∧ ∀ c' ∈ c.next m, c'.Guarded φ ms

instance {φ : ω → σ → Thread ops → Prop} [∀ w s t, Decidable (φ w s t)] (c : Config ops) :
    (m : Move ops) → Decidable (c.Passes φ m)
  | .call _ _ => inferInstanceAs (Decidable True)
  | .advance k w => inferInstanceAs (Decidable (∀ t ∈ c.threads[k]?, φ w c.shared t))

instance decidableGuarded {φ : ω → σ → Thread ops → Prop} [∀ w s t, Decidable (φ w s t)] :
    (c : Config ops) → (ms : List (Move ops)) → Decidable (c.Guarded φ ms)
  | _, [] => inferInstanceAs (Decidable True)
  | c, m :: ms =>
    have : ∀ c' : Config ops, Decidable (c'.Guarded φ ms) := fun c' => decidableGuarded c' ms
    inferInstanceAs (Decidable (c.Passes φ m ∧ ∀ c' ∈ c.next m, c'.Guarded φ ms))

instance decidableSometime {p : σ → Prop} [DecidablePred p] :
    (c : Config ops) → (ms : List (Move ops)) → Decidable (c.Sometime p ms)
  | c, [] => inferInstanceAs (Decidable (p c.shared))
  | c, m :: ms =>
    have : ∀ c' : Config ops, Decidable (c'.Sometime p ms) := fun c' => decidableSometime c' ms
    inferInstanceAs (Decidable (p c.shared ∨ ∃ c' ∈ c.next m, c'.Sometime p ms))

theorem sometime_of_first {p : σ → Prop} (h : p c.shared) : c.Sometime p ms := by
  cases ms with
  | nil => exact h
  | cons m ms => exact .inl h

theorem step_of_next {m : Move ops} (h : c.next m = some c') (hφ : c.Passes φ m) : Step φ c c' := by
  cases m with
  | call op request =>
    rw [next, Option.some.injEq] at h
    subst h
    exact Step.call c op request
  | advance k w =>
    simp only [next, Option.bind_eq_bind, Option.bind_eq_some_iff, Option.pure_def,
      Option.some.injEq] at h
    obtain ⟨t, ht, ⟨s', t'⟩, hs, rfl⟩ := h
    exact Step.advance ht (hφ t ht) hs

theorem reaches_of_run (h : c.run ms = some c') (hφ : c.Guarded φ ms) : Reaches φ c c' := by
  induction ms generalizing c with
  | nil =>
    rw [run, Option.some.injEq] at h
    rw [h]
    exact .refl
  | cons m ms ih =>
    rw [run, Option.bind_eq_some_iff] at h
    obtain ⟨c₁, hm, h⟩ := h
    exact Relation.ReflTransGen.head (step_of_next hm hφ.1) (ih h (hφ.2 c₁ hm))

theorem guarded_anyStep (c : Config ops) (ms : List (Move ops)) : c.Guarded anyStep ms := by
  induction ms generalizing c with
  | nil => trivial
  | cons m ms ih =>
    refine ⟨?_, fun c' _ => ih c'⟩
    cases m with
    | call op request => trivial
    | advance k w => exact fun _ _ => trivial

theorem reaches_anyStep_of_run (h : c.run ms = some c') : Reaches anyStep c c' :=
  reaches_of_run h (guarded_anyStep c ms)

/-- **What one thread notes down**, as long as it is in a state that its own steps and those of
all others keep. -/
theorem forall_mem_recordOf {ε : Type} {note : ω → σ → Thread ops → List ε}
    {J : σ → Thread ops → Prop} {p : ε → Prop}
    (hown : ∀ w s t s' t', J s t → t.step w s = some (s', t') →
      J s' t' ∧ ∀ e ∈ note w s t, p e)
    (hother : ∀ w s (t : Thread ops) s' t' u, J s u → t.step w s = some (s', t') → J s' u)
    {k : ℕ} (hrun : c.run ms = some c')
    {t : Thread ops} (ht : c.threads[k]? = some t) (hJ : J c.shared t) :
    ∀ e ∈ c.recordOf note k ms, p e := by
  induction ms generalizing c t with
  | nil => exact fun _ he => nomatch he
  | cons m ms ih =>
    rw [run, Option.bind_eq_some_iff] at hrun
    obtain ⟨c₁, hm, hrun⟩ := hrun
    cases m with
    | call op request =>
      rw [recordOf, hm, Option.elim_some]
      rw [next, Option.some.injEq] at hm
      subst hm
      have hkeep : (c.threads ++ [Thread.begin op request])[k]? = some t := by
        rw [List.getElem?_append_left (List.getElem?_eq_some_iff.1 ht).1]
        exact ht
      exact ih hrun hkeep hJ
    | advance j w =>
      rw [recordOf, hm, Option.elim_some]
      simp only [next, Option.bind_eq_bind, Option.bind_eq_some_iff, Option.pure_def,
        Option.some.injEq] at hm
      obtain ⟨u, hu, ⟨s', u'⟩, hs, rfl⟩ := hm
      intro e he
      rw [List.mem_append] at he
      by_cases hjk : j = k
      · subst hjk
        obtain rfl := Option.mem_unique hu ht
        obtain ⟨hJ', hnotes⟩ := hown w c.shared u s' u' hJ hs
        rw [if_pos rfl, noted, hu] at he
        rcases he with he | he
        · exact hnotes e he
        · have hset : (c.threads.set j u')[j]? = some u' := by
            rw [List.getElem?_set_self (List.getElem?_eq_some_iff.1 hu).1]
          exact ih hrun hset hJ' e he
      · rw [if_neg hjk] at he
        rcases he with he | he
        · exact nomatch he
        · have hset : (c.threads.set j u')[k]? = some t := by
            rw [List.getElem?_set_ne hjk]
            exact ht
          exact ih hrun hset (hother w c.shared u s' u' t hJ hs) e he

theorem exists_entry {J : Thread ops → Prop}
    (hcall : ∀ op request, ¬ J (Thread.begin op request)) {c₀ : Config ops}
    (hr : Reaches φ c₀ c) {k : ℕ} (hstart : ∀ u ∈ c₀.threads[k]?, ¬ J u) {t : Thread ops}
    (ht : c.threads[k]? = some t) (hJ : J t) :
    ∃ c₁ w u s' u', Reaches φ c₀ c₁ ∧ c₁.threads[k]? = some u ∧ ¬ J u ∧ φ w c₁.shared u ∧
      u.step w c₁.shared = some (s', u') ∧ J u' ∧ Reaches φ ⟨s', c₁.threads.set k u'⟩ c := by
  induction hr generalizing t with
  | refl => exact absurd hJ (hstart t ht)
  | tail hr hstep ih =>
    rename_i b c
    have hearlier : ∀ u, b.threads[k]? = some u → J u → ∃ c₁ w u s' u', Reaches φ c₀ c₁ ∧
        c₁.threads[k]? = some u ∧ ¬ J u ∧ φ w c₁.shared u ∧ u.step w c₁.shared = some (s', u') ∧
          J u' ∧ Reaches φ ⟨s', c₁.threads.set k u'⟩ c := by
      intro u hu hJu
      obtain ⟨c₁, w, u₁, s', u', hc₁, hu₁, hnot, hφ, hs, hu', hlater⟩ := ih hu hJu
      exact ⟨c₁, w, u₁, s', u', hc₁, hu₁, hnot, hφ, hs, hu', hlater.tail hstep⟩
    cases id hstep with
    | call op request =>
      rw [List.getElem?_append] at ht
      split at ht
      · exact hearlier t ht hJ
      · rw [List.getElem?_singleton] at ht
        split at ht
        · rw [← Option.some.inj ht] at hJ
          exact absurd hJ (hcall op request)
        · cases ht
    | @advance j w u u' s' hu hφ hs =>
      have hlt := (List.getElem?_eq_some_iff.1 hu).1
      by_cases hjk : j = k
      · subst hjk
        obtain rfl := Option.mem_unique (List.getElem?_set_self hlt) ht
        by_cases hJu : J u
        · exact hearlier u hu hJu
        · exact ⟨b, w, u, s', u', hr, hu, hJu, hφ, hs, hJ, .refl⟩
      · rw [List.getElem?_set_ne hjk] at ht
        exact hearlier t ht hJ

/-- **A reflexive and transitive relation that every step respects is respected by whole runs.** -/
theorem related_of_reaches {R : σ → σ → Prop}
    (hrefl : ∀ s, R s s) (htrans : ∀ a b c, R a b → R b c → R a c)
    (hR : ∀ w s t s' t', φ w s t → t.step w s = some (s', t') → R s s') (hr : Reaches φ c c') :
    R c.shared c'.shared := by
  induction hr with
  | refl => exact hrefl _
  | tail _ hstep ih =>
    refine htrans _ _ _ ih ?_
    cases hstep with
    | call op request => exact hrefl _
    | advance ht hφ hs => exact hR _ _ _ _ _ hφ hs

end Config

/-! ## Observed operations -/

section Observed

variable {ε : Type}

def Operation.observed (op : Operation σ ω) (emit : ω → op.Local → Option ε) :
    Operation (σ × List ε) ω where
  Request := op.Request
  Local := op.Local
  start := op.start
  step w s l := (op.step w s.1 l).map fun out => ((out.1, s.2 ++ (emit w l).toList), out.2)

variable {emit : (i : ι) → ω → (ops i).Local → Option ε}

def Thread.unobserved (t : Thread fun i => (ops i).observed (emit i)) : Thread ops :=
  ⟨t.op, t.loc⟩

theorem Thread.observed_step {w : ω} {s s' : σ × List ε}
    {t t' : Thread fun i => (ops i).observed (emit i)} (h : t.step w s = some (s', t')) :
    t.unobserved.step w s.1 = some (s'.1, t'.unobserved) ∧
      s'.2 = s.2 ++ (emit t.op w t.loc).toList := by
  obtain ⟨l, hl, rfl⟩ := Thread.step_eq_some h
  obtain ⟨⟨s₁, l₁⟩, hstep, rfl, rfl⟩ := map_eq_some_pair.1 hl
  have hunobserved : t.unobserved.step w s.1 =
      ((ops t.op).step w s.1 t.loc).map fun out => (out.1, ⟨t.op, out.2⟩) := rfl
  rw [hunobserved, hstep]
  exact ⟨rfl, rfl⟩

end Observed

/-! ## Traced operations -/

section Traced

variable {ε : Type}

def Operation.traced (op : Operation σ ω) (note : ω → σ → op.Local → List ε) :
    Operation (σ × List ε) ω where
  Request := op.Request
  Local := op.Local
  start := op.start
  step w s l := (op.step w s.1 l).map fun out => ((out.1, s.2 ++ note w s.1 l), out.2)

/-- The operations, with a trace of what their steps note. -/
abbrev tracedFamily (ops : ι → Operation σ ω) (note : (i : ι) → ω → σ → (ops i).Local → List ε) :
    ι → Operation (σ × List ε) ω :=
  fun i => (ops i).traced (note i)

theorem Operation.traced_step {op : Operation σ ω} {note : ω → σ → op.Local → List ε} {w : ω}
    {s s' : σ × List ε} {l l' : op.Local} (h : (op.traced note).step w s l = some (s', l')) :
    op.step w s.1 l = some (s'.1, l') ∧ s'.2 = s.2 ++ note w s.1 l := by
  obtain ⟨⟨s₁, l₁⟩, hstep, rfl, rfl⟩ := map_eq_some_pair.1 h
  exact ⟨hstep, rfl⟩

theorem Thread.traced_step {ops : ι → Operation σ ω} {note : (i : ι) → ω → σ → (ops i).Local → List ε}
    {w : ω} {s s' : σ × List ε} {t t' : Thread (tracedFamily ops note)}
    (h : t.step w s = some (s', t')) : ∃ l, (ops t.op).step w s.1 t.loc = some (s'.1, l) ∧
      s'.2 = s.2 ++ note t.op w s.1 t.loc ∧ t' = ⟨t.op, l⟩ := by
  obtain ⟨l, hl, rfl⟩ := Thread.step_eq_some h
  obtain ⟨hstep, htrace⟩ := Operation.traced_step hl
  exact ⟨l, hstep, htrace, rfl⟩

end Traced

/-! ## Remembered requests -/

def Operation.remembering (op : Operation σ ω) : Operation σ ω where
  Request := op.Request
  Local := op.Request × op.Local
  start request := (request, op.start request)
  step w s l := (op.step w s l.2).map fun out => (out.1, (l.1, out.2))

variable {op : Operation σ ω} {w : ω}

theorem Operation.remembering_step {s s' : σ} {l l' : op.remembering.Local}
    (h : op.remembering.step w s l = some (s', l')) :
    op.step w s l.2 = some (s', l'.2) ∧ l'.1 = l.1 := by
  obtain ⟨⟨s₁, l₁⟩, hstep, rfl, rfl⟩ := map_eq_some_pair.1 h
  exact ⟨hstep, rfl⟩

theorem Operation.remembering_step_of {s : σ} {l : op.remembering.Local} {out : σ × op.Local}
    (h : op.step w s l.2 = some out) :
    op.remembering.step w s l = some (out.1, (l.1, out.2)) := by
  have hstep : op.remembering.step w s l =
    (op.step w s l.2).map fun out => (out.1, (l.1, out.2)) := rfl
  rw [hstep, h, Option.map_some]

/-! ## What a thread has seen -/

section Seeing

variable {γ : Type}

/-- The operation with a note of what the thread has seen of the store, kept beside its state.  No
step depends on it: it is for guards that say what has happened since. -/
def Operation.seeing (op : Operation σ ω) (start : γ) (see : σ → op.Local → γ → γ) :
    Operation σ ω where
  Request := op.Request
  Local := γ × op.Local
  start request := (start, op.start request)
  step w s l := (op.step w s l.2).map fun out => (out.1, (see s l.2 l.1, out.2))

theorem Thread.seeing_step {ops : ι → Operation σ ω} {start : γ}
    {see : (i : ι) → σ → (ops i).Local → γ → γ} {w : ω} {s s' : σ}
    {t t' : Thread fun i => (ops i).seeing start (see i)} (h : t.step w s = some (s', t')) :
    ∃ l, (ops t.op).step w s t.loc.2 = some (s', l) ∧
      t' = ⟨t.op, (see t.op s t.loc.2 t.loc.1, l)⟩ := by
  obtain ⟨l', hl, rfl⟩ := Thread.step_eq_some h
  obtain ⟨⟨s₁, l⟩, hstep, rfl, rfl⟩ := map_eq_some_pair.1 hl
  exact ⟨l, hstep, rfl⟩

end Seeing

/-! ## Parts of a store -/

def Operation.within {τ ω' : Type} (op : Operation σ ω) (get : τ → σ) (put : σ → τ → τ)
    (world : ω' → ω) : Operation τ ω' where
  Request := op.Request
  Local := op.Local
  start := op.start
  step w s l := (op.step (world w) (get s) l).map fun out => (put out.1 s, out.2)

theorem Operation.within_step {τ ω' : Type} {get : τ → σ} {put : σ → τ → τ} {world : ω' → ω}
    {w : ω'} {s s' : τ} {l l' : op.Local}
    (h : (op.within get put world).step w s l = some (s', l')) :
    ∃ part, op.step (world w) (get s) l = some (part, l') ∧ s' = put part s := by
  obtain ⟨⟨part, l₁⟩, hstep, rfl, rfl⟩ := map_eq_some_pair.1 h
  exact ⟨part, hstep, rfl⟩

/-! ## Proof outlines -/

/-- What a proof asserts about a configuration: `shared` of the store, `thread` of the store and
each thread, `apart` of any two threads at different positions. -/
structure Outline (ops : ι → Operation σ ω) where
  shared : σ → Prop
  thread : σ → Thread ops → Prop := fun _ _ => True
  /-- What keeps two threads from working on the same thing. -/
  apart : Thread ops → Thread ops → Prop := fun _ _ => True

namespace Outline

open Config

variable {P : Outline ops} {φ : ω → σ → Thread ops → Prop}

structure Holds (P : Outline ops) (c : Config ops) : Prop where
  shared : P.shared c.shared
  thread : ∀ t ∈ c.threads, P.thread c.shared t
  apart : ∀ (i j : ℕ) t u, i ≠ j → c.threads[i]? = some t → c.threads[j]? = some u → P.apart t u

/-- **What has to be checked of an outline**, one step at a time: a fresh thread satisfies its
assertion and is apart from the others, a step re-establishes the assertions of the thread that
takes it, and it does not disturb those of any other thread. -/
structure Sound (P : Outline ops) (φ : ω → σ → Thread ops → Prop) : Prop where
  symm : ∀ t u, P.apart t u → P.apart u t
  call : ∀ s op request, P.shared s → P.thread s (Thread.begin op request)
  call_apart : ∀ op request u, P.apart (Thread.begin op request) u
  own : ∀ w s t s' t', φ w s t → P.shared s → P.thread s t → t.step w s = some (s', t') →
    P.shared s' ∧ P.thread s' t'
  other : ∀ w s t s' t' u, φ w s t → P.shared s → P.thread s t → P.thread s u → P.apart t u →
    t.step w s = some (s', t') → P.thread s' u ∧ P.apart t' u

theorem holds_idle {s : σ} (h : P.shared s) : P.Holds ⟨s, []⟩ where
  shared := h
  thread := by simp
  apart := by simp

theorem Sound.mono {ψ : ω → σ → Thread ops → Prop} (hP : P.Sound φ)
    (h : ∀ w s t, ψ w s t → φ w s t) : P.Sound ψ where
  symm := hP.symm
  call := hP.call
  call_apart := hP.call_apart
  own w s t s' t' hψ := hP.own w s t s' t' (h w s t hψ)
  other w s t s' t' u hψ := hP.other w s t s' t' u (h w s t hψ)

theorem Sound.relying
    (hP : P.Sound fun w s t => φ w s t ∧ P.shared s ∧ P.thread s t) : P.Sound φ where
  symm := hP.symm
  call := hP.call
  call_apart := hP.call_apart
  own w s t s' t' hφ hs ht := hP.own w s t s' t' ⟨hφ, hs, ht⟩ hs ht
  other w s t s' t' u hφ hs ht := hP.other w s t s' t' u ⟨hφ, hs, ht⟩ hs ht

variable {c c' : Config ops}

theorem Sound.holds_call (hP : P.Sound φ) (h : P.Holds c) (op : ι) (request : (ops op).Request) :
    P.Holds { c with threads := c.threads ++ [Thread.begin op request] } := by
  refine ⟨h.shared, ?_, ?_⟩
  · intro t ht
    rcases List.mem_append.1 ht with ht | ht
    · exact h.thread t ht
    · rw [List.mem_singleton] at ht
      rw [ht]
      exact hP.call _ op request h.shared
  · intro i j t u hij hi hj
    rw [List.getElem?_append] at hi hj
    split at hi <;> split at hj
    · exact h.apart i j t u hij hi hj
    · rw [List.getElem?_singleton] at hj
      split at hj
      · rw [← Option.some.inj hj]
        exact hP.symm _ _ (hP.call_apart op request t)
      · exact absurd hj (by simp)
    · rw [List.getElem?_singleton] at hi
      split at hi
      · rw [← Option.some.inj hi]
        exact hP.call_apart op request u
      · exact absurd hi (by simp)
    · rename_i hi' hj'
      rw [List.getElem?_singleton] at hi hj
      split at hi
      · split at hj
        · omega
        · exact absurd hj (by simp)
      · exact absurd hi (by simp)

variable {k : ℕ} {ms : List (Move ops)}

theorem Sound.holds_advance (hP : P.Sound φ) (h : P.Holds c) {w : ω} {t t' : Thread ops} {s' : σ}
    (ht : c.threads[k]? = some t) (hφ : φ w c.shared t) (hs : t.step w c.shared = some (s', t')) :
    P.Holds ⟨s', c.threads.set k t'⟩ := by
  have hmem := List.mem_of_getElem? ht
  have hown := hP.own w c.shared t s' t' hφ h.shared (h.thread t hmem) hs
  -- Every thread at another position keeps its assertion and stays apart from this one.
  have hother : ∀ j u, k ≠ j → c.threads[j]? = some u → P.thread s' u ∧ P.apart t' u := by
    intro j u hkj hu
    exact hP.other w c.shared t s' t' u hφ h.shared (h.thread t hmem)
      (h.thread u (List.mem_of_getElem? hu)) (h.apart k j t u hkj ht hu) hs
  have hget : ∀ j u, (c.threads.set k t')[j]? = some u →
      (k = j ∧ u = t') ∨ (k ≠ j ∧ c.threads[j]? = some u) := by
    intro j u hu
    rw [List.getElem?_set] at hu
    split at hu
    · rename_i hkj
      split at hu
      · exact .inl ⟨hkj, (Option.some.inj hu).symm⟩
      · exact absurd hu (by simp)
    · rename_i hkj
      exact .inr ⟨hkj, hu⟩
  refine ⟨hown.1, ?_, ?_⟩
  · intro u hu
    obtain ⟨j, hj⟩ := List.mem_iff_getElem?.1 hu
    rcases hget j u hj with ⟨-, rfl⟩ | ⟨hkj, hj⟩
    · exact hown.2
    · exact (hother j u hkj hj).1
  · intro i j u v hij hi hj
    rcases hget i u hi with ⟨rfl, rfl⟩ | ⟨hki, hi'⟩
    · rcases hget j v hj with ⟨rfl, rfl⟩ | ⟨hkj, hj'⟩
      · exact absurd rfl hij
      · exact (hother j v hkj hj').2
    · rcases hget j v hj with ⟨rfl, rfl⟩ | ⟨hkj, hj'⟩
      · exact hP.symm _ _ (hother i u hki hi').2
      · exact h.apart i j u v hij hi' hj'

theorem Sound.holds_step (hP : P.Sound φ) (h : P.Holds c) (hstep : Step φ c c') : P.Holds c' := by
  cases hstep with
  | call op request => exact hP.holds_call h op request
  | advance ht hφ hs => exact hP.holds_advance h ht hφ hs

theorem Sound.holds (hP : P.Sound φ) (h : P.Holds c) (hr : Reaches φ c c') : P.Holds c' := by
  induction hr with
  | refl => exact h
  | tail _ hstep ih => exact hP.holds_step ih hstep

theorem Sound.reaches_relying (hP : P.Sound φ) (h : P.Holds c) (hr : Reaches φ c c') :
    Reaches (fun w s t => φ w s t ∧ P.shared s ∧ P.thread s t) c c' := by
  induction hr with
  | refl => exact .refl
  | tail hr hstep ih =>
    have hholds := hP.holds h hr
    refine ih.tail ?_
    cases hstep with
    | call op request => exact Step.call _ op request
    | advance ht hφ hs =>
      exact Step.advance ht ⟨hφ, hholds.shared, hholds.thread _ (List.mem_of_getElem? ht)⟩ hs

theorem Sound.tracked {J : σ → Thread ops → Prop} (hP : P.Sound φ)
    (hown : ∀ w s t s' t', φ w s t → P.shared s → P.thread s t → J s t →
      t.step w s = some (s', t') → J s' t')
    (hother : ∀ w s t s' t' u, φ w s t → P.shared s → P.thread s t → J s u →
      t.step w s = some (s', t') → J s' u) (h : P.Holds c) (hr : Reaches φ c c') {t : Thread ops}
    (ht : c.threads[k]? = some t) (hJ : J c.shared t) :
    ∃ t', c'.threads[k]? = some t' ∧ J c'.shared t' := by
  induction hr with
  | refl => exact ⟨t, ht, hJ⟩
  | tail hr hstep ih =>
    obtain ⟨u, hu, hJ⟩ := ih
    have hholds := hP.holds h hr
    have hlt := (List.getElem?_eq_some_iff.1 hu).1
    cases hstep with
    | call op request =>
      refine ⟨u, ?_, hJ⟩
      rw [List.getElem?_append_left hlt]
      exact hu
    | advance hj hφ hs =>
      rename_i j w t₁ t₁' s'
      have hthread := hholds.thread t₁ (List.mem_of_getElem? hj)
      by_cases hjk : j = k
      · subst hjk
        obtain rfl := Option.mem_unique hu hj
        exact ⟨t₁', by rw [List.getElem?_set_self hlt],
          hown w _ u s' t₁' hφ hholds.shared hthread hJ hs⟩
      · refine ⟨u, ?_, hother w _ t₁ s' t₁' u hφ hholds.shared hthread hJ hs⟩
        rw [List.getElem?_set_ne hjk]
        exact hu

/-- The guard that a step passes when it neither finds nor leaves a store with `Q`. -/
def Before (Q : σ → Prop) (φ : ω → σ → Thread ops → Prop) (w : ω) (s : σ) (t : Thread ops) : Prop :=
  φ w s t ∧ ¬ Q s ∧ ∀ s' t', t.step w s = some (s', t') → ¬ Q s'

/-- **What holds until `Q` does**: an outline that is sound as long as `Q` is false holds at the end
of every run, unless `Q` was true at some point of it. -/
theorem Sound.holds_until {Q : σ → Prop} (hP : P.Sound (Before Q φ)) (h : P.Holds c)
    (hrun : c.run ms = some c') (hφ : c.Guarded φ ms) :
    c.Sometime Q ms ∨ P.Holds c' := by
  induction ms generalizing c with
  | nil =>
    rw [run, Option.some.injEq] at hrun
    exact .inr (hrun ▸ h)
  | cons m ms ih =>
    rw [run, Option.bind_eq_some_iff] at hrun
    obtain ⟨c₁, hm, hrun⟩ := hrun
    by_cases hQ : Q c.shared
    · exact .inl (.inl hQ)
    by_cases hQ₁ : Q c₁.shared
    · exact .inl (.inr ⟨c₁, hm, sometime_of_first hQ₁⟩)
    have hstep : Step (Before Q φ) c c₁ := by
      cases m with
      | call op request => exact step_of_next hm trivial
      | advance k w =>
        refine step_of_next hm fun t ht => ⟨hφ.1 t ht, hQ, fun s' t' hs => ?_⟩
        have hnext : c.next (.advance k w) = some ⟨s', c.threads.set k t'⟩ := by
          rw [Option.mem_def] at ht
          simp [next, ht, hs]
        obtain rfl := Option.mem_unique hnext hm
        exact hQ₁
    rcases ih (hP.holds_step h hstep) hrun (hφ.2 c₁ hm) with hlater | hholds
    · exact .inl (.inr ⟨c₁, hm, hlater⟩)
    · exact .inr hholds

theorem Sound.recorded {ε : Type} {note : ω → σ → Thread ops → List ε} {I : σ → List ε → Prop}
    (hP : P.Sound φ)
    (hI : ∀ w s t s' t' notes, φ w s t → P.shared s → P.thread s t → t.step w s = some (s', t') →
      I s notes → I s' (notes ++ note w s t)) (h : P.Holds c) (hrun :
    c.run ms = some c') (hφ : c.Guarded φ ms) {notes : List ε} (hnotes : I c.shared notes) :
    I c'.shared (notes ++ c.record note ms) := by
  induction ms generalizing c notes with
  | nil =>
    rw [run, Option.some.injEq] at hrun
    rw [record, List.append_nil, ← hrun]
    exact hnotes
  | cons m ms ih =>
    rw [run, Option.bind_eq_some_iff] at hrun
    obtain ⟨c₁, hm, hrun⟩ := hrun
    have hholds := hP.holds_step h (step_of_next hm hφ.1)
    have hnoted : I c₁.shared (notes ++ c.noted note m) := by
      cases m with
      | call op request =>
        rw [next, Option.some.injEq] at hm
        rw [noted, List.append_nil, ← hm]
        exact hnotes
      | advance k w =>
        simp only [next, Option.bind_eq_bind, Option.bind_eq_some_iff, Option.pure_def,
          Option.some.injEq] at hm
        obtain ⟨t, ht, ⟨s', t'⟩, hs, rfl⟩ := hm
        rw [noted, ht]
        exact hI w c.shared t s' t' notes (hφ.1 t ht) h.shared
          (h.thread t (List.mem_of_getElem? ht)) hs hnotes
    rw [record, hm, ← List.append_assoc]
    exact ih hholds hrun (hφ.2 c₁ hm) hnoted

def extend (P : Outline ops) (shared : σ → Prop) (thread : σ → Thread ops → Prop) : Outline ops where
  shared s := P.shared s ∧ shared s
  thread s t := P.thread s t ∧ thread s t
  apart := P.apart

theorem Sound.extend (hP : P.Sound φ) {shared : σ → Prop} {thread : σ → Thread ops → Prop}
    (hcall : ∀ s op request, shared s → thread s (Thread.begin op request))
    (hown : ∀ w s t s' t', φ w s t → P.shared s → P.thread s t → shared s → thread s t →
      t.step w s = some (s', t') → shared s' ∧ thread s' t')
    (hother : ∀ w s t s' t' u, φ w s t → P.shared s → P.thread s t → shared s → thread s t →
      thread s u → t.step w s = some (s', t') → thread s' u) :
    (P.extend shared thread).Sound φ where
  symm := hP.symm
  call s op request h := ⟨hP.call s op request h.1, hcall s op request h.2⟩
  call_apart := hP.call_apart
  own w s t s' t' hφ h ht hs :=
    have hP' := hP.own w s t s' t' hφ h.1 ht.1 hs
    have hmore := hown w s t s' t' hφ h.1 ht.1 h.2 ht.2 hs
    ⟨⟨hP'.1, hmore.1⟩, ⟨hP'.2, hmore.2⟩⟩
  other w s t s' t' u hφ h ht hu hapart hs :=
    have hP' := hP.other w s t s' t' u hφ h.1 ht.1 hu.1 hapart hs
    ⟨⟨hP'.1, hother w s t s' t' u hφ h.1 ht.1 h.2 ht.2 hu.2 hs⟩, hP'.2⟩

section Embedded

variable {κ : Type} {more : κ → Operation σ ω} {part : Thread more → Option (Thread ops)}

/-- The outline for a larger family of operations, some of whose threads are threads of this one:
`part` picks them out. -/
def embed (P : Outline ops) (part : Thread more → Option (Thread ops)) : Outline more where
  shared := P.shared
  thread s t := ∀ u ∈ part t, P.thread s u
  apart t u := ∀ a ∈ part t, ∀ b ∈ part u, P.apart a b

/-- The threads of the smaller family start and take their steps as such, and those of the others do
not become threads of it. -/
structure Embeds (part : Thread more → Option (Thread ops)) : Prop where
  call : ∀ op request u, part (Thread.begin op request) = some u →
    ∃ op' request', u = Thread.begin op' request'
  step : ∀ w s t s' t' u', t.step w s = some (s', t') → part t' = some u' →
    ∃ u, part t = some u ∧ u.step w s = some (s', u')
  stays : ∀ w s t s' t' u, t.step w s = some (s', t') → part t = some u →
    ∃ u', part t' = some u'

/-- **A sound outline is sound among other threads** that leave alone what it asserts. -/
theorem Sound.embed (hP : P.Sound anyStep) (hpart : Embeds part)
    (hrest : ∀ w s t s' t', part t = none → t.step w s = some (s', t') → P.shared s →
      P.shared s' ∧ ∀ u, P.thread s u → P.thread s' u) :
    (P.embed part).Sound anyStep where
  symm t u h a ha b hb := hP.symm _ _ (h b hb a ha)
  call s op request h u hu := by
    obtain ⟨op', request', rfl⟩ := hpart.call op request u hu
    exact hP.call s op' request' h
  call_apart op request u a ha b _ := by
    obtain ⟨op', request', rfl⟩ := hpart.call op request a ha
    exact hP.call_apart op' request' b
  own w s t s' t' _ h ht hs := by
    cases hu : part t with
    | none =>
      refine ⟨(hrest w s t s' t' hu hs h).1, fun u' hu' => ?_⟩
      obtain ⟨u, hu₁, -⟩ := hpart.step w s t s' t' u' hs hu'
      rw [hu] at hu₁
      cases hu₁
    | some u =>
      obtain ⟨u', hu'⟩ := hpart.stays w s t s' t' u hs hu
      obtain ⟨u₁, hu₁, hstep⟩ := hpart.step w s t s' t' u' hs hu'
      have hown := hP.own w s u₁ s' u' trivial h (ht u₁ hu₁) hstep
      refine ⟨hown.1, fun v hv => ?_⟩
      obtain rfl := Option.mem_unique hu' hv
      exact hown.2
  other w s t s' t' v _ h ht hv hapart hs := by
    cases hu : part t with
    | none =>
      refine ⟨fun b hb => (hrest w s t s' t' hu hs h).2 b (hv b hb), fun a ha => ?_⟩
      obtain ⟨u, hu₁, -⟩ := hpart.step w s t s' t' a hs ha
      rw [hu] at hu₁
      cases hu₁
    | some u =>
      obtain ⟨u', hu'⟩ := hpart.stays w s t s' t' u hs hu
      obtain ⟨u₁, hu₁, hstep⟩ := hpart.step w s t s' t' u' hs hu'
      have hother : ∀ b ∈ part v, P.thread s' b ∧ P.apart u' b := fun b hb =>
        hP.other w s u₁ s' u' b trivial h (ht u₁ hu₁) (hv b hb) (hapart u₁ hu₁ b hb) hstep
      refine ⟨fun b hb => (hother b hb).1, fun a ha b hb => ?_⟩
      obtain rfl := Option.mem_unique hu' ha
      exact (hother b hb).2

end Embedded

variable {R : σ → σ → Prop}

theorem Holds.step_related (hrefl : ∀ s, R s s)
    (hR : ∀ w s t s' t', φ w s t → P.shared s → P.thread s t → t.step w s = some (s', t') → R s s')
    (h : P.Holds c) (hstep : Step φ c c') : R c.shared c'.shared := by
  cases hstep with
  | call op request => exact hrefl _
  | advance ht hφ hs =>
    exact hR _ _ _ _ _ hφ h.shared (h.thread _ (List.mem_of_getElem? ht)) hs

theorem Sound.related (hP : P.Sound φ) {R : σ → σ → Prop} (hrefl : ∀ s, R s s)
    (htrans : ∀ a b c, R a b → R b c → R a c)
    (hR : ∀ w s t s' t', φ w s t → P.shared s → P.thread s t → t.step w s = some (s', t') → R s s')
    {c c' : Config ops} (h : P.Holds c) (hr : Reaches φ c c') : R c.shared c'.shared := by
  induction hr with
  | refl => exact hrefl _
  | tail hr hstep ih =>
    exact htrans _ _ _ ih ((hP.holds h hr).step_related hrefl hR hstep)

end Outline

end

end Concurrency
