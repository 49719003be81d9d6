import WebhostBilling.Store.Table
import Mathlib.Logic.Relation

/-!
# Books of account

An account has a total, a credit, what was paid and what is still open; an entry is a charge to an
account, or an adjustment that gives back part of an earlier charge.  A movement never recomputes a
figure from the entries: it moves the figure by the amount of the entry it posts.  `Books.Balanced`
says that the figures are right nevertheless.
-/

namespace Ledger

open Store Store.Table

structure Account where
  total : ℤ
  credit : ℤ
  paid : ℤ
  balance : ℤ
  editable : Bool

structure Entry where
  account : ℕ
  charge : Bool
  original : Option ℕ
  amount : ℤ
  posted : Bool

structure Books where
  accounts : Table Account
  entries : Table Entry

def Entry.pays (i : ℕ) (e : Entry) : Bool := e.account = i ∧ e.charge = true ∧ e.posted = true

def Entry.takesBack (i : ℕ) (e : Entry) : Bool := e.account = i ∧ e.charge = false ∧ e.posted = true

def Entry.adjusts (id : ℕ) (e : Entry) : Bool := e.original = some id ∧ e.posted = true

def Entry.SameAccount (e e' : Entry) : Prop := e'.account = e.account

theorem Entry.SameAccount.refl (e : Entry) : e.SameAccount e := rfl

theorem Entry.SameAccount.trans (e e' e'' : Entry) (h : e.SameAccount e')
    (h' : e'.SameAccount e'') :
    e.SameAccount e'' :=
  Eq.trans h' h

def Entry.post (e : Entry) : Entry := { e with posted := true }

def Account.pay (amount : ℤ) (a : Account) : Account :=
  { a with paid := a.paid + amount, balance := a.balance - amount }

def Account.takeBack (amount : ℤ) (a : Account) : Account :=
  { a with paid := a.paid - amount, balance := a.balance + amount, editable := false }

def Account.redraft (total credit : ℤ) (a : Account) : Account :=
  { a with total := total, credit := credit, balance := total - credit }

/-- Two states of an account that differ at most in that the later one is closed to changes. -/
structure Account.SameFigures (a a' : Account) : Prop where
  total : a'.total = a.total
  credit : a'.credit = a.credit
  paid : a'.paid = a.paid
  balance : a'.balance = a.balance
  editable : a'.editable = true → a.editable = true

theorem Account.SameFigures.refl (a : Account) : a.SameFigures a := ⟨rfl, rfl, rfl, rfl, id⟩

namespace Books

def charged (b : Books) (i : ℕ) : ℤ := b.entries.total (Entry.pays i) Entry.amount

def takenBack (b : Books) (i : ℕ) : ℤ := b.entries.total (Entry.takesBack i) Entry.amount

def adjusted (b : Books) (id : ℕ) : ℤ := b.entries.total (Entry.adjusts id) Entry.amount

/-! ## Movements -/

inductive Posts (b : Books) : Books → Prop
  /-- Accounts are renamed, closed or otherwise changed, but none of their figures. -/
  | relabelled {accounts : Table Account} (hsize : accounts.size = b.accounts.size)
      (h : ∀ i a', accounts.get? i = some a' →
        ∃ a, b.accounts.get? i = some a ∧ a.SameFigures a') :
      Posts b { b with accounts := accounts }
  | opened (a : Account) (hpaid : a.paid = 0) (hbalance : a.balance = a.total - a.credit)
      (hpos : 0 ≤ a.balance) :
      Posts b { b with accounts := b.accounts.insert a }
  | redrafted {i : ℕ} {a : Account} (total credit : ℤ) (ha : b.accounts.get? i = some a)
      (heditable : a.editable = true) (hpos : 0 ≤ total - credit) :
      Posts b { b with accounts := b.accounts.update i (Account.redraft total credit) }
  | entered {a : Account} (e : Entry) (hcharge : e.charge = true) (hposted : e.posted = false)
      (horiginal : e.original = none) (hpos : 0 < e.amount)
      (ha : b.accounts.get? e.account = some a) :
      Posts b { b with entries := b.entries.insert e }
  | posted {id : ℕ} {e : Entry} {a : Account} (he : b.entries.get? id = some e)
      (hcharge : e.charge = true) (hposted : e.posted = false)
      (ha : b.accounts.get? e.account = some a) (heditable : a.editable = false)
      (hle : e.amount ≤ a.balance) :
      Posts b
        { accounts := b.accounts.update e.account (Account.pay e.amount)
          entries := b.entries.update id Entry.post }
  | adjusted {k : ℕ} {o : Entry} {a : Account} (e : Entry) (horiginal : e.original = some k)
      (ho : b.entries.get? k = some o) (hocharge : o.charge = true) (hoposted : o.posted = true)
      (hoaccount : o.account = e.account) (hcharge : e.charge = false) (hposted : e.posted = true)
      (hpos : 0 < e.amount) (hleft : b.adjusted k + e.amount ≤ o.amount)
      (ha : b.accounts.get? e.account = some a) (hle : e.amount ≤ a.paid) :
      Posts b
        { accounts := b.accounts.update e.account (Account.takeBack e.amount)
          entries := b.entries.insert e }

theorem Posts.grows {b b' : Books} (h : Posts b b') :
    Table.Grows Entry.SameAccount b.entries b'.entries := by
  cases h with
  | relabelled | opened | redrafted => exact Grows.refl Entry.SameAccount.refl _
  | entered | adjusted => exact grows_insert Entry.SameAccount.refl _ _
  | posted => exact grows_update Entry.SameAccount.refl fun e _ => Entry.SameAccount.refl e

theorem grows_of_posts {b b' : Books} (h : Relation.ReflTransGen Posts b b') :
    Table.Grows Entry.SameAccount b.entries b'.entries := by
  induction h with
  | refl => exact Grows.refl Entry.SameAccount.refl _
  | tail _ hstep ih => exact Grows.trans Entry.SameAccount.trans ih hstep.grows

/-! ## Balanced books -/

/-- The running figures of an account, into which so much was paid. -/
structure AccountBalanced (paid : ℤ) (a : Account) : Prop where
  paid : a.paid = paid
  balance : a.balance = a.total - a.credit - a.paid
  paid_nonneg : 0 ≤ a.paid
  balance_nonneg : 0 ≤ a.balance
  editable : a.editable = true → a.paid = 0

structure EntryBalanced (b : Books) (id : ℕ) (e : Entry) : Prop where
  account : e.account < b.accounts.size
  amount : 0 < e.amount
  charge : e.charge = true → e.original = none
  original : ∀ k, e.original = some k →
    ∃ o, b.entries.get? k = some o ∧ o.account = e.account ∧ o.charge = true ∧ o.posted = true
  bounded : b.adjusted id ≤ e.amount

/-- **The books are balanced**: the running figures of every account are what its entries say, none
of them is negative, and no charge is given back more than once over. -/
structure Balanced (b : Books) : Prop where
  account : ∀ i a, b.accounts.get? i = some a → AccountBalanced (b.charged i - b.takenBack i) a
  entry : ∀ id e, b.entries.get? id = some e → b.EntryBalanced id e

theorem balanced_opening {b : Books} (hentries : b.entries = ∅)
    (haccounts : ∀ i a, b.accounts.get? i = some a →
      a.paid = 0 ∧ a.balance = a.total - a.credit ∧ 0 ≤ a.balance) : b.Balanced where
  account i a ha := by
    obtain ⟨hpaid, hbalance, hpos⟩ := haccounts i a ha
    rw [charged, takenBack, hentries, total_empty, total_empty]
    exact ⟨hpaid, by omega, by omega, hpos, fun _ => hpaid⟩
  entry id e he := by
    rw [hentries, get?_empty] at he
    cases he

section

variable {b : Books} (h : b.Balanced)
include h

theorem Balanced.charged_size : b.charged b.accounts.size = 0 := by
  apply total_eq_zero
  intro id e he
  have := (h.entry id e he).account
  simp only [Entry.pays, decide_eq_false_iff_not, not_and]
  omega

theorem Balanced.takenBack_size : b.takenBack b.accounts.size = 0 := by
  apply total_eq_zero
  intro id e he
  have := (h.entry id e he).account
  simp only [Entry.takesBack, decide_eq_false_iff_not, not_and]
  omega

theorem Balanced.adjusted_size : b.adjusted b.entries.size = 0 := by
  apply total_eq_zero
  intro id e he
  simp only [Entry.adjusts, decide_eq_false_iff_not, not_and]
  intro horiginal
  obtain ⟨o, ho, -⟩ := (h.entry id e he).original _ horiginal
  rw [get?_size] at ho
  exact absurd ho (by simp)

variable {a : Account} {e : Entry} {accounts : Table Account} {f : Account → Account} {j : ℕ}

/-- Entries do not look at the accounts, but for their number. -/
theorem Balanced.entry_congr (hsize : b.accounts.size ≤ accounts.size) (id : ℕ) (e : Entry)
    (he : b.entries.get? id = some e) : EntryBalanced { b with accounts := accounts } id e where
  account := Nat.lt_of_lt_of_le (h.entry id e he).account hsize
  amount := (h.entry id e he).amount
  charge := (h.entry id e he).charge
  original := (h.entry id e he).original
  bounded := (h.entry id e he).bounded

/-- An account moves by what its entries move. -/
theorem Balanced.account_update {b' : Books} {d : ℤ} (ha : b.accounts.get? j = some a)
    (haccounts : b'.accounts = b.accounts.update j f)
    (hsum : ∀ i, b'.charged i - b'.takenBack i =
      b.charged i - b.takenBack i + if j = i then d else 0)
    (hf : AccountBalanced (a.paid + d) (f a)) (i : ℕ) (a' : Account)
    (ha' : b'.accounts.get? i = some a') :
    AccountBalanced (b'.charged i - b'.takenBack i) a' := by
  rw [haccounts] at ha'
  rw [hsum]
  rcases get?_update_cases ha' with ⟨rfl, row, hrow, rfl⟩ | ⟨hi, hold⟩
  · obtain rfl := Option.mem_unique ha hrow
    rw [if_pos rfl, ← (h.account _ a ha).paid]
    exact hf
  · rw [if_neg hi, Int.add_zero]
    exact h.account i a' hold

theorem Balanced.entry_insert (hsize : accounts.size = b.accounts.size)
    (hadjusted : ∀ id e', b.entries.get? id = some e' →
      adjusted { accounts := accounts, entries := b.entries.insert e } id ≤ e'.amount)
    (hnew : EntryBalanced { accounts := accounts, entries := b.entries.insert e }
      b.entries.size e) (id : ℕ) (e' : Entry) (he' : (b.entries.insert e).get? id = some e') :
    EntryBalanced { accounts := accounts, entries := b.entries.insert e } id e' := by
  rcases get?_insert_cases he' with ⟨rfl, rfl⟩ | he
  · exact hnew
  · obtain ⟨haccount, hamount, hcharge, horiginal, -⟩ := h.entry id e' he
    refine ⟨hsize ▸ haccount, hamount, hcharge, fun k hk => ?_, hadjusted id e' he⟩
    obtain ⟨o, ho, hrest⟩ := horiginal k hk
    exact ⟨o, get?_insert_of_some ho, hrest⟩

/-! ### One lemma for each movement -/

theorem Balanced.relabelled (hsize : accounts.size = b.accounts.size)
    (hsame : ∀ i a', accounts.get? i = some a' →
      ∃ a, b.accounts.get? i = some a ∧ a.SameFigures a') :
    Balanced { b with accounts := accounts } where
  account i a' ha' := by
    obtain ⟨a, ha, htotal, hcredit, hpaid, hbalance, heditable⟩ := hsame i a' ha'
    obtain ⟨hsum, hopen, hpaidPos, hopenPos, hzero⟩ := h.account i a ha
    refine ⟨hpaid.trans hsum, ?_, hpaid ▸ hpaidPos, hbalance ▸ hopenPos, fun hed => ?_⟩
    · rw [hbalance, htotal, hcredit, hpaid, hopen]
    · rw [hpaid, hzero (heditable hed)]
  entry := h.entry_congr hsize.ge

theorem Balanced.opened (hpaid : a.paid = 0)
    (hbalance : a.balance = a.total - a.credit) (hpos : 0 ≤ a.balance) :
    Balanced { b with accounts := b.accounts.insert a } where
  account i a' ha' := by
    rcases get?_insert_cases ha' with ⟨rfl, rfl⟩ | ha
    · have hcharged := h.charged_size
      have htaken := h.takenBack_size
      refine ⟨?_, by omega, by omega, hpos, fun _ => hpaid⟩
      show a'.paid = b.charged b.accounts.size - b.takenBack b.accounts.size
      omega
    · exact h.account i a' ha
  entry := h.entry_congr (by rw [size_insert]; exact Nat.le_succ _)

theorem Balanced.redrafted {i : ℕ} {total credit : ℤ}
    (ha : b.accounts.get? i = some a) (heditable : a.editable = true) (hpos : 0 ≤ total - credit) :
    Balanced { b with accounts := b.accounts.update i (Account.redraft total credit) } where
  account := by
    have hzero := (h.account i a ha).editable heditable
    refine h.account_update (d := 0) ha rfl (fun j => ?_) ⟨?_, ?_, ?_, hpos, fun _ => hzero⟩
    · rw [ite_self, Int.add_zero]
      rfl
    · exact (Int.add_zero _).symm
    · show total - credit = total - credit - a.paid
      omega
    · exact hzero.ge
  entry := h.entry_congr (size_update _ _ _).ge

theorem Balanced.entered (hposted : e.posted = false) (horiginal : e.original = none)
    (hpos : 0 < e.amount) (ha : b.accounts.get? e.account = some a) :
    Balanced { b with entries := b.entries.insert e } := by
  -- An entry that is not posted moves no sum.
  have hcharged : ∀ i, charged { b with entries := b.entries.insert e } i = b.charged i := by
    intro i
    rw [charged, charged, total_insert, Entry.pays, hposted]
    simp
  have htaken : ∀ i, takenBack { b with entries := b.entries.insert e } i = b.takenBack i := by
    intro i
    rw [takenBack, takenBack, total_insert, Entry.takesBack, hposted]
    simp
  have hadjusted : ∀ id, adjusted { b with entries := b.entries.insert e } id = b.adjusted id := by
    intro id
    rw [adjusted, adjusted, total_insert, Entry.adjusts, hposted]
    simp
  refine ⟨fun i a' ha' => ?_, h.entry_insert rfl (fun id e' he => ?_) ⟨lt_size_of_get? ha, hpos,
    fun _ => horiginal, fun k hk => ?_, ?_⟩⟩
  · rw [hcharged, htaken]
    exact h.account i a' ha'
  · rw [hadjusted]
    exact (h.entry id e' he).bounded
  · rw [horiginal] at hk
    cases hk
  · rw [hadjusted, h.adjusted_size]
    exact hpos.le

theorem Balanced.posted {id : ℕ} (he : b.entries.get? id = some e)
    (hcharge : e.charge = true) (hposted : e.posted = false)
    (ha : b.accounts.get? e.account = some a) (heditable : a.editable = false)
    (hle : e.amount ≤ a.balance) :
    Balanced
      { accounts := b.accounts.update e.account (Account.pay e.amount)
        entries := b.entries.update id Entry.post } := by
  have hpos := (h.entry id e he).amount
  -- Posting the charge moves the sum of its own account, and no other sum.
  have hcharged : ∀ i, (b.entries.update id Entry.post).total (Entry.pays i) Entry.amount =
      b.charged i + if e.account = i then e.amount else 0 := by
    intro i
    rw [total_update he]
    simp [Entry.pays, Entry.post, hcharge, hposted, charged]
  have htaken : ∀ i, (b.entries.update id Entry.post).total (Entry.takesBack i) Entry.amount =
      b.takenBack i := by
    intro i
    rw [total_update he]
    simp [Entry.takesBack, Entry.post, hcharge, takenBack]
  have hadjusted : ∀ k, (b.entries.update id Entry.post).total (Entry.adjusts k) Entry.amount =
      b.adjusted k := by
    intro k
    rw [total_update he]
    simp [Entry.adjusts, Entry.post, (h.entry id e he).charge hcharge, adjusted]
  have hentry : ∀ j e', (b.entries.update id Entry.post).get? j = some e' →
      ∃ e₀, b.entries.get? j = some e₀ ∧ (e' = e₀ ∨ e' = e₀.post) := by
    intro j e' he'
    rcases get?_update_cases he' with ⟨rfl, row, hrow, rfl⟩ | ⟨-, hj⟩
    · exact ⟨row, hrow, .inr rfl⟩
    · exact ⟨e', hj, .inl rfl⟩
  constructor
  · obtain ⟨-, hopen, hpaidPos, -, -⟩ := h.account _ a ha
    refine h.account_update (d := e.amount) ha rfl (fun i => ?_)
      ⟨rfl, ?_, ?_, ?_, fun hed => ?_⟩
    · rw [charged, takenBack, hcharged, htaken]
      omega
    · show a.balance - e.amount = a.total - a.credit - (a.paid + e.amount)
      omega
    · show 0 ≤ a.paid + e.amount
      omega
    · show 0 ≤ a.balance - e.amount
      omega
    · exact absurd (heditable.symm.trans hed) (by simp)
  · intro j e' he'
    obtain ⟨e₀, he₀, hsame⟩ := hentry j e' he'
    obtain ⟨haccount, hamount, hno, horiginal, hbounded⟩ := h.entry j e₀ he₀
    have hbound : adjusted { accounts := b.accounts.update e.account (Account.pay e.amount)
                             entries := b.entries.update id Entry.post } j ≤ e₀.amount := by
      rw [adjusted, hadjusted]
      exact hbounded
    have hold (k : ℕ) (hk : e₀.original = some k) : ∃ o,
        (b.entries.update id Entry.post).get? k = some o ∧ o.account = e₀.account ∧
          o.charge = true ∧ o.posted = true := by
      obtain ⟨o, ho, hoaccount, hocharge, hoposted⟩ := horiginal k hk
      by_cases hid : id = k
      · subst hid
        exact ⟨o.post, get?_update_self ho, hoaccount, hocharge, rfl⟩
      · exact ⟨o, (get?_update_of_ne hid).trans ho, hoaccount, hocharge, hoposted⟩
    rw [← size_update b.accounts] at haccount
    rcases hsame with rfl | rfl <;> exact ⟨haccount, hamount, hno, hold, hbound⟩

theorem Balanced.adjusted {k : ℕ} {o : Entry} (horiginal : e.original = some k)
    (ho : b.entries.get? k = some o) (hocharge : o.charge = true) (hoposted : o.posted = true)
    (hoaccount : o.account = e.account) (hcharge : e.charge = false) (hposted : e.posted = true)
    (hpos : 0 < e.amount) (hleft : b.adjusted k + e.amount ≤ o.amount)
    (ha : b.accounts.get? e.account = some a) (hle : e.amount ≤ a.paid) :
    Balanced
      { accounts := b.accounts.update e.account (Account.takeBack e.amount)
        entries := b.entries.insert e } := by
  have hcharged : ∀ i, (b.entries.insert e).total (Entry.pays i) Entry.amount = b.charged i := by
    intro i
    rw [total_insert]
    simp [Entry.pays, hcharge, charged]
  have htaken : ∀ i, (b.entries.insert e).total (Entry.takesBack i) Entry.amount =
      b.takenBack i + if e.account = i then e.amount else 0 := by
    intro i
    rw [total_insert]
    simp [Entry.takesBack, hcharge, hposted, takenBack]
  have hadjusted : ∀ j, (b.entries.insert e).total (Entry.adjusts j) Entry.amount =
      b.adjusted j + if k = j then e.amount else 0 := by
    intro j
    rw [total_insert]
    simp [Entry.adjusts, horiginal, hposted, Books.adjusted]
  constructor
  · obtain ⟨-, hopen, -, hopenPos, -⟩ := h.account _ a ha
    refine h.account_update (d := -e.amount) ha rfl (fun i => ?_)
      ⟨rfl, ?_, ?_, ?_, fun hed => ?_⟩
    · rw [charged, takenBack, hcharged, htaken]
      split <;> omega
    · show a.balance + e.amount = a.total - a.credit - (a.paid - e.amount)
      omega
    · show 0 ≤ a.paid - e.amount
      omega
    · show 0 ≤ a.balance + e.amount
      omega
    · exact absurd hed (by simp [Account.takeBack])
  · refine h.entry_insert (size_update _ _ _) (fun id e' he => ?_) ⟨?_, hpos, fun hc => ?_,
      fun j hj => ?_, ?_⟩
    · rw [Books.adjusted, hadjusted]
      have := (h.entry id e' he).bounded
      split
      · rename_i hk
        subst hk
        obtain rfl := Option.mem_unique ho he
        exact hleft
      · omega
    · rw [size_update]
      exact lt_size_of_get? ha
    · exact absurd (hcharge.symm.trans hc) (by simp)
    · obtain rfl := Option.mem_unique horiginal hj
      exact ⟨o, get?_insert_of_some ho, hoaccount, hocharge, hoposted⟩
    · -- The new adjustment is adjusted by nothing: it is not older than itself.
      have hk := lt_size_of_get? ho
      have := h.adjusted_size
      rw [Books.adjusted, hadjusted, if_neg (by omega)]
      omega

end

theorem Posts.balanced {b b' : Books} (hstep : Posts b b') (h : b.Balanced) : b'.Balanced := by
  cases hstep with
  | relabelled hsize hsame => exact h.relabelled hsize hsame
  | opened a hpaid hbalance hpos => exact h.opened hpaid hbalance hpos
  | redrafted total credit ha heditable hpos => exact h.redrafted ha heditable hpos
  | entered e _ hposted horiginal hpos ha => exact h.entered hposted horiginal hpos ha
  | posted he hcharge hposted ha heditable hle =>
    exact h.posted he hcharge hposted ha heditable hle
  | adjusted e horiginal ho hocharge hoposted hoaccount hcharge hposted hpos hleft ha hle =>
    exact h.adjusted horiginal ho hocharge hoposted hoaccount hcharge hposted hpos hleft ha hle

theorem balanced_of_posts {b b' : Books} (hpath : Relation.ReflTransGen Posts b b')
    (h : b.Balanced) : b'.Balanced := by
  induction hpath with
  | refl => exact h
  | tail _ hstep ih => exact hstep.balanced ih

end Books

end Ledger
