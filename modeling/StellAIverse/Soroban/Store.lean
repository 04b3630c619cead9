import Mathlib.Data.List.AList
import Mathlib.Algebra.BigOperators.Ring.List
import Mathlib.Algebra.Order.BigOperators.Group.List
import Mathlib.Tactic.Linarith
import Mathlib.Tactic.Ring

/-!
# Keyed storage and its totals

One data key family of a contract is a finite map. The quantity a contract's
accounting is about is a weighted total over the stored entries, and every
ledger law is read off from how one write moves that total.
-/

namespace Soroban

/-- The entries stored under one family of keys. -/
def Store (K V : Type) : Type := AList fun _ : K => V

namespace Store

variable {K V : Type} [DecidableEq K]

def empty : Store K V := (∅ : AList fun _ : K => V)

def get? (s : Store K V) (k : K) : Option V := AList.lookup k s

def set (s : Store K V) (k : K) (v : V) : Store K V := AList.insert k v s

def remove (s : Store K V) (k : K) : Store K V := AList.erase k s

@[simp] theorem get?_empty (k : K) : (empty : Store K V).get? k = none := rfl

@[simp] theorem get?_set_self (s : Store K V) (k : K) (v : V) : (s.set k v).get? k = some v :=
  AList.lookup_insert s

theorem get?_set_ne (s : Store K V) {k k' : K} (v : V) (h : k' ≠ k) :
    (s.set k v).get? k' = s.get? k' :=
  AList.lookup_insert_ne h

theorem get?_set (s : Store K V) (k k' : K) (v : V) :
    (s.set k v).get? k' = if k' = k then some v else s.get? k' := by
  by_cases h : k' = k
  · subst h; simp
  · simp [h, get?_set_ne]

/-- One value written under several keys. -/
theorem get?_foldl_set (keys : List K) (v : V) (s : Store K V) (k : K) :
    (keys.foldl (fun s key => s.set key v) s).get? k = if k ∈ keys then some v else s.get? k := by
  induction keys generalizing s with
  | nil => simp
  | cons key rest ih =>
    rw [List.foldl_cons, ih, get?_set]
    by_cases hrest : k ∈ rest <;> by_cases hkey : k = key <;> simp [hrest, hkey]

/-- What holds of every entry holds after a write it holds of. -/
theorem forall_set {P : K → V → Prop} {s : Store K V} {k₀ : K} {v₀ : V}
    (h : ∀ k v, s.get? k = some v → P k v) (h₀ : P k₀ v₀) :
    ∀ k v, (s.set k₀ v₀).get? k = some v → P k v := by
  intro k v hk
  rw [get?_set] at hk
  split at hk
  · rename_i he
    cases hk
    rw [he]
    exact h₀
  · exact h k v hk

/-- Entries stay, each related to what it was. -/
def Extends (R : V → V → Prop) (s s' : Store K V) : Prop :=
  ∀ k v, s.get? k = some v → ∃ v', s'.get? k = some v' ∧ R v v'

theorem Extends.refl {R : V → V → Prop} (hR : ∀ v, R v v) (s : Store K V) : Extends R s s :=
  fun _ v h => ⟨v, h, hR v⟩

theorem extends_set {R : V → V → Prop} (hR : ∀ v, R v v) {s : Store K V} {k₀ : K} {v₀ : V}
    (h : ∀ v, s.get? k₀ = some v → R v v₀) : Extends R s (s.set k₀ v₀) := by
  intro k v hk
  by_cases he : k = k₀
  · subst he
    exact ⟨v₀, get?_set_self s k v₀, h v hk⟩
  · exact ⟨v, (get?_set_ne s v₀ he).trans hk, hR v⟩

/-- A write where nothing was. -/
theorem extends_new {R : V → V → Prop} (hR : ∀ v, R v v) {s : Store K V} {k : K} (v : V)
    (h : s.get? k = none) : Extends R s (s.set k v) :=
  extends_set hR fun old hold => by cases h.symm.trans hold

theorem extends_old {R : V → V → Prop} (hR : ∀ v, R v v) {s : Store K V} {k : K} {v v' : V}
    (h : s.get? k = some v) (hv : R v v') : Extends R s (s.set k v') :=
  extends_set hR fun old hold => by rwa [← Option.some.inj (h.symm.trans hold)]

theorem get?_remove (s : Store K V) (k k' : K) :
    (s.remove k).get? k' = if k' = k then none else s.get? k' := by
  by_cases h : k' = k
  · subst h
    rw [if_pos rfl]
    exact AList.lookup_erase k' s
  · rw [if_neg h]
    exact AList.lookup_erase_ne h

/-- Total weight of the stored entries. -/
def total (w : K → V → ℤ) (s : Store K V) : ℤ :=
  ((AList.entries s).map fun e => w e.1 e.2).sum

/-- The stored entries, each with its key. -/
def list (s : Store K V) : List (K × V) := (AList.entries s).map fun e => (e.1, e.2)

omit [DecidableEq K] in
theorem total_eq_list (w : K → V → ℤ) (s : Store K V) :
    s.total w = (s.list.map fun e => w e.1 e.2).sum := by
  simp only [total, list, List.map_map]
  rfl

/-- Weight of the entry under one key; an absent entry weighs nothing. -/
def weight (w : K → V → ℤ) (s : Store K V) (k : K) : ℤ :=
  match s.get? k with
  | some v => w k v
  | none => 0

theorem weight_some {w : K → V → ℤ} {s : Store K V} {k : K} {v : V} (h : s.get? k = some v) :
    s.weight w k = w k v := by
  simp [weight, h]

theorem weight_none {w : K → V → ℤ} {s : Store K V} {k : K} (h : s.get? k = none) :
    s.weight w k = 0 := by
  simp [weight, h]

private theorem sum_kerase (w : K → V → ℤ) (k : K) (l : List (Sigma fun _ : K => V)) :
    ((l.kerase k).map fun e => w e.1 e.2).sum =
      (l.map fun e => w e.1 e.2).sum -
        (match l.dlookup k with | some v => w k v | none => 0) := by
  induction l with
  | nil => simp
  | cons e l ih =>
    obtain ⟨k', v'⟩ := e
    by_cases h : k = k'
    · subst h
      simp [List.kerase_cons_eq]
    · have hl : List.dlookup k ((⟨k', v'⟩ : Sigma fun _ : K => V) :: l) = l.dlookup k :=
        List.dlookup_cons_ne l ⟨k', v'⟩ h
      rw [List.kerase_cons_ne h, List.map_cons, List.sum_cons, ih, hl]
      simp only [List.map_cons, List.sum_cons]
      ring

/-- Writing an entry exchanges its old weight for its new one. -/
theorem total_set (w : K → V → ℤ) (s : Store K V) (k : K) (v : V) :
    (s.set k v).total w = s.total w - s.weight w k + w k v := by
  have h := sum_kerase w k (AList.entries s)
  have he : AList.entries (s.set k v) = ⟨k, v⟩ :: (AList.entries s).kerase k :=
    AList.entries_insert
  simp only [total, he, List.map_cons, List.sum_cons, h]
  simp only [weight, get?, AList.lookup]
  ring

theorem total_remove (w : K → V → ℤ) (s : Store K V) (k : K) :
    (s.remove k).total w = s.total w - s.weight w k :=
  sum_kerase w k (AList.entries s)

theorem weight_set (w : K → V → ℤ) (s : Store K V) (k k' : K) (v : V) :
    (s.set k v).weight w k' = if k' = k then w k v else s.weight w k' := by
  unfold weight
  rw [get?_set]
  by_cases h : k' = k
  · subst h
    simp
  · simp [h]

/-- One entry gains this much weight. -/
theorem weight_set_add {w : K → V → ℤ} {s : Store K V} {k : K} {v : V} {d : ℤ}
    (h : w k v = s.weight w k + d) (k' : K) :
    (s.set k v).weight w k' = s.weight w k' + if k = k' then d else 0 := by
  rw [weight_set]
  by_cases hk : k' = k
  · subst hk
    simp [h]
  · simp [hk, Ne.symm hk]

theorem total_set_add {w : K → V → ℤ} {s : Store K V} {k : K} {v : V} {d : ℤ}
    (h : w k v = s.weight w k + d) : (s.set k v).total w = s.total w + d := by
  rw [total_set, h]
  ring

theorem mem_entries {s : Store K V} {k : K} {v : V} :
    (⟨k, v⟩ : Sigma fun _ : K => V) ∈ AList.entries s ↔ s.get? k = some v :=
  (AList.mem_lookup_iff (s := s)).symm

theorem mem_list {s : Store K V} {k : K} {v : V} : (k, v) ∈ s.list ↔ s.get? k = some v := by
  rw [← mem_entries, list, List.mem_map]
  constructor
  · rintro ⟨⟨k', v'⟩, he, hkv⟩
    cases hkv
    exact he
  · intro he
    exact ⟨⟨k, v⟩, he, rfl⟩

/-- The total depends on the weights of stored entries only. -/
theorem total_congr {w w' : K → V → ℤ} {s : Store K V}
    (h : ∀ k v, s.get? k = some v → w k v = w' k v) : s.total w = s.total w' := by
  unfold total
  congr 1
  apply List.map_congr_left
  rintro ⟨k, v⟩ he
  exact h k v (mem_entries.mp he)

theorem total_nonneg {w : K → V → ℤ} {s : Store K V}
    (h : ∀ k v, s.get? k = some v → 0 ≤ w k v) : 0 ≤ s.total w := by
  unfold total
  apply List.sum_nonneg
  intro x hx
  obtain ⟨⟨k, v⟩, he, rfl⟩ := List.mem_map.mp hx
  exact h k v (mem_entries.mp he)

/-- A total of larger weights is larger. -/
theorem total_le_total {w w' : K → V → ℤ} {s : Store K V}
    (h : ∀ k v, s.get? k = some v → w k v ≤ w' k v) : s.total w ≤ s.total w' := by
  unfold total
  apply List.sum_le_sum
  rintro ⟨k, v⟩ he
  exact h k v (mem_entries.mp he)

/-- One entry is written while the others lose weight. -/
theorem total_set_le {w w' : K → V → ℤ} {s : Store K V} (k : K) (v : V)
    (h : ∀ k v, s.get? k = some v → w' k v ≤ w k v) :
    (s.set k v).total w' ≤ s.total w - s.weight w k + w' k v := by
  have hrest : (s.remove k).total w' ≤ (s.remove k).total w := by
    apply total_le_total
    intro k' v' hk
    rw [get?_remove] at hk
    split at hk
    · cases hk
    · exact h k' v' hk
  rw [total_remove, total_remove] at hrest
  rw [total_set]
  linarith

/-- The total, read off a list of the stored keys. -/
theorem total_eq_sum {w : K → V → ℤ} {s : Store K V} {keys : List K} (hnodup : keys.Nodup)
    (hkeys : ∀ k, k ∈ keys ↔ (s.get? k).isSome = true) :
    s.total w = (keys.map (s.weight w)).sum := by
  have hperm : keys.Perm (AList.keys s) := by
    rw [List.perm_ext_iff_of_nodup hnodup (AList.keys_nodup s)]
    intro k
    rw [hkeys k]
    exact AList.lookup_isSome
  rw [(hperm.map (s.weight w)).sum_eq]
  unfold total AList.keys List.keys
  rw [List.map_map]
  congr 1
  apply List.map_congr_left
  rintro ⟨k, v⟩ he
  exact (weight_some (mem_entries.mp he)).symm

/-- Each entry replaced by a function of it. -/
theorem total_of_map {w : K → V → ℤ} {s s' : Store K V} {f : V → V}
    (h : ∀ k, s'.get? k = (s.get? k).map f) : s'.total w = s.total fun k v => w k (f v) := by
  have hkeys : ∀ k, k ∈ AList.keys s ↔ (s.get? k).isSome = true := fun _ => AList.lookup_isSome.symm
  have hkeys' : ∀ k, k ∈ AList.keys s ↔ (s'.get? k).isSome = true := by
    intro k
    rw [h k, Option.isSome_map]
    exact hkeys k
  rw [total_eq_sum (AList.keys_nodup s) hkeys, total_eq_sum (AList.keys_nodup s) hkeys']
  congr 1
  apply List.map_congr_left
  intro k _
  unfold weight
  rw [h k]
  cases s.get? k <;> rfl

omit [DecidableEq K] in
theorem total_mul (w : K → V → ℤ) (n : ℤ) (s : Store K V) :
    s.total (fun k v => w k v * n) = s.total w * n :=
  List.sum_map_mul_right _ _ n

theorem total_eq_zero {w : K → V → ℤ} {s : Store K V}
    (h : ∀ k v, s.get? k = some v → w k v = 0) : s.total w = 0 := by
  have hzero : s.total w = s.total fun _ _ => 0 := total_congr h
  rw [hzero]
  simp [total]

/-- Where nothing weighs negative, no entry outweighs the total. -/
theorem weight_le_total {w : K → V → ℤ} {s : Store K V} (k : K)
    (h : ∀ k v, s.get? k = some v → 0 ≤ w k v) : s.weight w k ≤ s.total w := by
  have hr : 0 ≤ (s.remove k).total w := by
    apply total_nonneg
    intro k' v hk
    rw [get?_remove] at hk
    split at hk
    · cases hk
    · exact h k' v hk
  rw [total_remove] at hr
  linarith

theorem weight_remove_ne (w : K → V → ℤ) (s : Store K V) {k k' : K} (h : k' ≠ k) :
    (s.remove k).weight w k' = s.weight w k' := by
  simp only [weight, get?_remove, h, if_false]

/-- Where nothing weighs negative, no selection of keys outweighs the total. -/
theorem sum_weight_le_total {w : K → V → ℤ} {s : Store K V} {keys : List K}
    (hnodup : keys.Nodup) (h : ∀ k v, s.get? k = some v → 0 ≤ w k v) :
    (keys.map (s.weight w)).sum ≤ s.total w := by
  induction keys generalizing s with
  | nil => exact total_nonneg h
  | cons k rest ih =>
    obtain ⟨hk, hrest⟩ := List.nodup_cons.mp hnodup
    have hsame : rest.map ((s.remove k).weight w) = rest.map (s.weight w) := by
      apply List.map_congr_left
      intro k' hk'
      exact weight_remove_ne w s fun he => hk (he ▸ hk')
    have hle := ih (s := s.remove k) hrest (by
      intro k' v hget
      rw [get?_remove] at hget
      split at hget
      · cases hget
      · exact h k' v hget)
    rw [hsame, total_remove] at hle
    rw [List.map_cons, List.sum_cons]
    linarith

/-- The total, read off a list of keys outside of which nothing has weight. -/
theorem total_eq_sum_of_zero {w : K → V → ℤ} {s : Store K V} {keys : List K}
    (hnodup : keys.Nodup) (h : ∀ k v, s.get? k = some v → k ∉ keys → w k v = 0) :
    s.total w = (keys.map (s.weight w)).sum := by
  induction keys generalizing s with
  | nil => exact total_eq_zero fun k v hk => h k v hk List.not_mem_nil
  | cons k rest ih =>
    obtain ⟨hk, hrest⟩ := List.nodup_cons.mp hnodup
    have hsame : rest.map ((s.remove k).weight w) = rest.map (s.weight w) := by
      apply List.map_congr_left
      intro k' hk'
      exact weight_remove_ne w s fun he => hk (he ▸ hk')
    have heq := ih (s := s.remove k) hrest (by
      intro k' v hget hnot
      rw [get?_remove] at hget
      split at hget
      · cases hget
      · rename_i hne
        exact h k' v hget (List.not_mem_cons_of_ne_of_not_mem hne hnot))
    rw [hsame, total_remove] at heq
    rw [List.map_cons, List.sum_cons]
    linarith

def amount (s : Store K ℤ) (k : K) : ℤ := (s.get? k).getD 0

/-- Keep the entry only if it is positive. -/
def put (s : Store K ℤ) (k : K) (v : ℤ) : Store K ℤ := if v ≤ 0 then s.remove k else s.set k v

theorem amount_set (s : Store K ℤ) (k k' : K) (v : ℤ) :
    (s.set k v).amount k' = if k' = k then v else s.amount k' := by
  unfold amount
  rw [get?_set]
  split <;> rfl

/-- Writing one amount, as a change of each amount. -/
theorem amount_set_add (s : Store K ℤ) (k k' : K) (v : ℤ) :
    (s.set k v).amount k' = s.amount k' + if k = k' then v - s.amount k else 0 := by
  rw [amount_set]
  by_cases hk : k = k'
  · subst hk
    simp
  · simp [hk, Ne.symm hk]

theorem get?_put (s : Store K ℤ) (k k' : K) (v : ℤ) :
    (s.put k v).get? k' = if k' = k then (if v ≤ 0 then none else some v) else s.get? k' := by
  unfold put
  by_cases hv : v ≤ 0
  · simp only [hv, if_true, get?_remove]
  · simp only [hv, if_false, get?_set]

theorem forall_put {P : K → ℤ → Prop} {s : Store K ℤ} {k₀ : K} {v₀ : ℤ}
    (h : ∀ k v, s.get? k = some v → P k v) (h₀ : 0 < v₀ → P k₀ v₀) :
    ∀ k v, (s.put k₀ v₀).get? k = some v → P k v := by
  intro k v hk
  rw [get?_put] at hk
  split at hk
  · rename_i he
    split at hk
    · cases hk
    · cases hk
      rw [he]
      exact h₀ (by omega)
  · exact h k v hk

theorem amount_put (s : Store K ℤ) (k k' : K) (v : ℤ) :
    (s.put k v).amount k' = if k' = k then max v 0 else s.amount k' := by
  unfold amount
  rw [get?_put]
  by_cases hk : k' = k
  · by_cases hv : v ≤ 0
    · simp [hk, hv]
    · simp [hk, hv, max_eq_left (le_of_not_ge hv)]
  · simp [hk]

/-- Sum of the amounts whose keys satisfy `p`. -/
def sumOver (p : K → Prop) [DecidablePred p] (s : Store K ℤ) : ℤ :=
  s.total fun k v => if p k then v else 0

theorem weight_sumOver (p : K → Prop) [DecidablePred p] (s : Store K ℤ) (k : K) :
    s.weight (fun k v => if p k then v else 0) k = if p k then s.amount k else 0 := by
  unfold weight amount
  cases s.get? k <;> simp

theorem sumOver_set (p : K → Prop) [DecidablePred p] (s : Store K ℤ) (k : K) (v : ℤ) :
    (s.set k v).sumOver p = s.sumOver p + if p k then v - s.amount k else 0 := by
  unfold sumOver
  rw [total_set, weight_sumOver]
  split <;> ring

theorem sumOver_set_add (p : K → Prop) [DecidablePred p] (s : Store K ℤ) (k : K) (n : ℤ) :
    (s.set k (s.amount k + n)).sumOver p = s.sumOver p + if p k then n else 0 := by
  rw [sumOver_set, add_sub_cancel_left]

theorem sumOver_set_sub (p : K → Prop) [DecidablePred p] (s : Store K ℤ) (k : K) (n : ℤ) :
    (s.set k (s.amount k - n)).sumOver p = s.sumOver p - if p k then n else 0 := by
  rw [sub_eq_add_neg, sumOver_set_add]
  split <;> ring

theorem sumOver_put (p : K → Prop) [DecidablePred p] (s : Store K ℤ) (k : K) (v : ℤ) :
    (s.put k v).sumOver p = s.sumOver p + if p k then max v 0 - s.amount k else 0 := by
  unfold put
  by_cases hv : v ≤ 0
  · rw [if_pos hv, max_eq_right hv]
    unfold sumOver
    rw [total_remove, weight_sumOver]
    split <;> ring
  · rw [if_neg hv, max_eq_left (le_of_not_ge hv), sumOver_set]

theorem sumOver_debit (p : K → Prop) [DecidablePred p] (s : Store K ℤ) (k : K) {n : ℤ}
    (hn : n ≤ s.amount k) :
    (s.put k (s.amount k - n)).sumOver p = s.sumOver p - if p k then n else 0 := by
  rw [sumOver_put, max_eq_left (by omega)]
  split <;> ring

theorem sumOver_eq_zero {p : K → Prop} [DecidablePred p] {s : Store K ℤ}
    (h : ∀ k v, s.get? k = some v → ¬ p k) : s.sumOver p = 0 :=
  total_eq_zero fun k v hk => if_neg (h k v hk)

omit [DecidableEq K] in
theorem total_add (w w' : K → V → ℤ) (s : Store K V) :
    s.total (fun k v => w k v + w' k v) = s.total w + s.total w' :=
  List.sum_map_add

/-- Split a sum by a second condition. -/
theorem sumOver_split (p q : K → Prop) [DecidablePred p] [DecidablePred q] (s : Store K ℤ) :
    s.sumOver p = s.sumOver (fun k => p k ∧ q k) + s.sumOver (fun k => p k ∧ ¬ q k) := by
  unfold sumOver
  rw [← total_add]
  apply total_congr
  intro k v _
  by_cases hp : p k <;> by_cases hq : q k <;> simp [hp, hq]

theorem sumOver_congr {p q : K → Prop} [DecidablePred p] [DecidablePred q] {s : Store K ℤ}
    (h : ∀ k v, s.get? k = some v → (p k ↔ q k)) : s.sumOver p = s.sumOver q := by
  unfold sumOver
  apply total_congr
  intro k v hk
  simp only [h k v hk]

/-- The sum over one key is the amount stored there. -/
theorem sumOver_eq_amount (s : Store K ℤ) (k : K) : s.sumOver (fun k' => k' = k) = s.amount k := by
  have hrest : (s.remove k).total (fun k' v => if k' = k then v else 0) = 0 := by
    apply total_eq_zero
    intro k' v hk
    rw [get?_remove] at hk
    split at hk
    · cases hk
    · rename_i hne
      exact if_neg hne
  rw [total_remove, weight_sumOver, if_pos rfl] at hrest
  unfold sumOver
  linarith

theorem amount_of_none {s : Store K ℤ} {k : K} (h : s.get? k = none) : s.amount k = 0 := by
  simp [amount, h]

/-- Every entry is positive. -/
def Positive (s : Store K ℤ) : Prop := ∀ k v, s.get? k = some v → 0 < v

theorem Positive.amount_nonneg {s : Store K ℤ} (h : s.Positive) (k : K) : 0 ≤ s.amount k := by
  unfold amount
  cases hk : s.get? k with
  | none => simp
  | some v => simpa using (h k v hk).le

theorem Positive.put {s : Store K ℤ} (h : s.Positive) (k : K) (v : ℤ) : (s.put k v).Positive :=
  forall_put h id

theorem Positive.sumOver_nonneg {s : Store K ℤ} (h : s.Positive) (p : K → Prop)
    [DecidablePred p] : 0 ≤ s.sumOver p := by
  apply total_nonneg
  intro k v hk
  have := h k v hk
  split <;> omega

theorem Positive.sumOver_credit {s : Store K ℤ} (h : s.Positive) (p : K → Prop)
    [DecidablePred p] (k : K) {n : ℤ} (hn : 0 ≤ n) :
    (s.put k (s.amount k + n)).sumOver p = s.sumOver p + if p k then n else 0 := by
  have hk := h.amount_nonneg k
  rw [sumOver_put, max_eq_left (by omega), add_sub_cancel_left]

theorem Positive.amount_le_sumOver {s : Store K ℤ} (h : s.Positive) {p : K → Prop}
    [DecidablePred p] {k : K} (hp : p k) : s.amount k ≤ s.sumOver p := by
  have hw := weight_le_total (w := fun k v => if p k then v else 0) (s := s) k (by
    intro k' v hk
    have := h k' v hk
    split <;> omega)
  rw [weight_sumOver, if_pos hp] at hw
  exact hw

theorem Positive.sumOver_le {s : Store K ℤ} (h : s.Positive) {p q : K → Prop}
    [DecidablePred p] [DecidablePred q] (hpq : ∀ k, p k → q k) : s.sumOver p ≤ s.sumOver q := by
  rw [sumOver_split q p]
  have hsame : s.sumOver (fun k => q k ∧ p k) = s.sumOver p :=
    sumOver_congr fun k _ _ => ⟨fun hk => hk.2, fun hk => ⟨hpq k hk, hk⟩⟩
  have hrest := h.sumOver_nonneg fun k => q k ∧ ¬ p k
  linarith

end Store

end Soroban
