import Mathlib.Combinatorics.Enumerative.DoubleCounting
import WebhostBilling.Store.Table

/-!
# Rows that are matched one to one

Two lists without duplicates whose entries are matched one to one have the same length.  The rows
that a table selects are such a list, since each comes with its identifier (`Table.nodup_select`).
-/

namespace Store

section

variable {α β : Type} {as : List α} {bs : List β} {r : α → β → Prop}

theorem length_le_of_matched (ha : as.Nodup) (hb : bs.Nodup) (hr : ∀ a ∈ as, ∃ b ∈ bs, r a b)
    (hunique : ∀ a ∈ as, ∀ a' ∈ as, ∀ b ∈ bs, r a b → r a' b → a = a') :
    as.length ≤ bs.length := by
  classical
  rw [← List.toFinset_card_of_nodup ha, ← List.toFinset_card_of_nodup hb]
  refine Finset.card_le_card_of_forall_subsingleton r (fun a hmem => ?_) fun b hmem => ?_
  · obtain ⟨b, hb, hab⟩ := hr a (List.mem_toFinset.1 hmem)
    exact ⟨b, List.mem_toFinset.2 hb, hab⟩
  · intro a ⟨hamem, hab⟩ a' ⟨hamem', hab'⟩
    exact hunique a (List.mem_toFinset.1 hamem) a' (List.mem_toFinset.1 hamem') b
      (List.mem_toFinset.1 hmem) hab hab'

theorem length_eq_of_matched (ha : as.Nodup) (hb : bs.Nodup) (hleft : ∀ a ∈ as, ∃ b ∈ bs, r a b)
    (hright : ∀ b ∈ bs, ∃ a ∈ as, r a b)
    (hunique : ∀ a ∈ as, ∀ a' ∈ as, ∀ b ∈ bs, r a b → r a' b → a = a')
    (hunique' : ∀ b ∈ bs, ∀ b' ∈ bs, ∀ a ∈ as, r a b → r a b' → b = b') :
    as.length = bs.length :=
  Nat.le_antisymm (length_le_of_matched ha hb hleft hunique)
    (length_le_of_matched (r := fun b a => r a b) hb ha hright hunique')

end

end Store
