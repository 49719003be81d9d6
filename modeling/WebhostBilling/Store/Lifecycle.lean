import Mathlib.Logic.Relation
import WebhostBilling.Store.Table

/-!
# Lifecycles

The rows of a table have a state that is meant to move along the edges of a graph.  One step
*follows* the graph when every row keeps its state or moves along one edge; a whole run then
*arrives* at states that a path of edges leads to, and a state without an edge is never left.
-/

namespace Store

section

variable {α β : Type} {state : α → β} {edge : β → β → Prop}

def Absorbing (edge : β → β → Prop) (s : β) : Prop := ∀ s', ¬ edge s s'

def Moves (state : α → β) (edge : β → β → Prop) (row row' : α) : Prop :=
  state row' = state row ∨ edge (state row) (state row')

theorem Moves.refl (row : α) : Moves state edge row row := Or.inl rfl

def Leads (state : α → β) (edge : β → β → Prop) (row row' : α) : Prop :=
  Relation.ReflTransGen edge (state row) (state row')

theorem Leads.refl (row : α) : Leads state edge row row := Relation.ReflTransGen.refl

theorem Moves.leads {row row' : α} (h : Moves state edge row row') :
    Leads state edge row row' := by
  rcases h with hsame | hedge
  · rw [Leads, hsame]
  · exact Relation.ReflTransGen.single hedge

theorem Leads.absorbed {row row' : α} (h : Leads state edge row row')
    (hclosed : Absorbing edge (state row)) : state row' = state row := by
  rcases Relation.ReflTransGen.cases_head h with hsame | ⟨next, hedge, -⟩
  · exact hsame.symm
  · exact absurd hedge (hclosed next)

namespace Table

/-- Every row stays, and keeps its state or moves along an edge. -/
def Follows (state : α → β) (edge : β → β → Prop) (t t' : Table α) : Prop :=
  Grows (Moves state edge) t t'

def Arrives (state : α → β) (edge : β → β → Prop) (t t' : Table α) : Prop :=
  Grows (Leads state edge) t t'

theorem follows_refl (t : Table α) : Follows state edge t t :=
  Grows.refl Moves.refl t

variable {t t' : Table α}

theorem follows_update_iff {id : ℕ} {f : α → α} {row : α} (hrow : t.get? id = some row) :
    Follows state edge t (t.update id f) ↔ Moves state edge row (f row) := by
  constructor
  · intro h
    obtain ⟨row', hrow', hmove⟩ := h id row hrow
    rw [get?_update_self hrow, Option.some.injEq] at hrow'
    exact hrow' ▸ hmove
  · intro h
    refine grows_update Moves.refl fun r hr => ?_
    rw [hrow, Option.some.injEq] at hr
    exact hr ▸ h

theorem Follows.arrives (h : Follows state edge t t') :
    Arrives state edge t t' := by
  intro id row hrow
  obtain ⟨row', hrow', hmove⟩ := h id row hrow
  exact ⟨row', hrow', hmove.leads⟩

theorem arrives_refl (t : Table α) : Arrives state edge t t :=
  Grows.refl Leads.refl t

theorem Arrives.trans {t₁ t₂ t₃ : Table α} (h : Arrives state edge t₁ t₂)
    (h' : Arrives state edge t₂ t₃) : Arrives state edge t₁ t₃ :=
  Grows.trans (fun _ _ _ => Relation.ReflTransGen.trans) h h'

theorem Arrives.absorbed (h : Arrives state edge t t') :
    Grows (fun row row' => Absorbing edge (state row) → state row' = state row) t t' := by
  intro id row hrow
  obtain ⟨row', hrow', hleads⟩ := h id row hrow
  exact ⟨row', hrow', hleads.absorbed⟩

end Table

end

end Store
