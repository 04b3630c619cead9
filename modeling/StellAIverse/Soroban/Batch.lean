import Mathlib.Algebra.BigOperators.Group.Finset.Basic
import Mathlib.Algebra.Order.BigOperators.Group.Finset
import StellAIverse.Soroban.Result

/-!
# Batches

A list asks for the amounts of its entries. Where no positive amount is listed twice, the batch
comes to what its distinct entries do; and so does any list of the entries with a positive amount,
each once and in whatever order. One such list is that of the first occurrences.
-/

namespace Soroban

namespace Batch

variable {ι : Type}

section Calls

variable {σ : Type} (call : ι → σ → Result (ℤ × σ))

/-- Calls one after the other, and what they pay together. -/
def inTurn : List ι → σ → Result (ℤ × σ)
  | [], s => .ok (0, s)
  | i :: rest, s => do
    let (paid, s) ← call i s
    let (more, s) ← inTurn rest s
    .ok (paid + more, s)

variable {call}

theorem inTurn_cons {i : ι} {rest : List ι} {s : σ} {r : ℤ × σ} :
    inTurn call (i :: rest) s = .ok r ↔ ∃ first others, call i s = .ok first ∧
      inTurn call rest first.2 = .ok others ∧ r = (first.1 + others.1, others.2) := by
  rw [inTurn]
  constructor
  · intro h
    obtain ⟨first, hcall, h⟩ := bind_ok.mp h
    obtain ⟨others, hrest, h⟩ := bind_ok.mp h
    cases h
    exact ⟨first, others, hcall, hrest, rfl⟩
  · rintro ⟨first, others, hcall, hrest, rfl⟩
    simp only [hcall, hrest, ok_bind]

end Calls

section Order

variable (amount : ι → ℤ)

/-- The entries with a positive amount, each once, in some order. -/
structure Once (entries order : List ι) : Prop where
  nodup : order.Nodup
  mem : ∀ i, i ∈ order ↔ i ∈ entries ∧ 0 < amount i

variable {amount} {entries entries' order order' : List ι}

theorem Once.congr (h : Once amount entries order) (hmem : ∀ i, i ∈ entries' ↔ i ∈ entries) :
    Once amount entries' order :=
  ⟨h.nodup, fun i => by rw [h.mem, hmem]⟩

theorem Once.perm (h : Once amount entries order) (h' : Once amount entries order') :
    order.Perm order' :=
  (List.perm_ext_iff_of_nodup h.nodup h'.nodup).mpr fun i => by rw [h.mem, h'.mem]

end Order

variable [DecidableEq ι] (amount : ι → ℤ)

/-- What the distinct entries of a list amount to. -/
def distinctTotal (entries : List ι) : ℤ := ∑ i ∈ entries.toFinset, amount i

/-- No entry with a positive amount is repeated. -/
def PaysOnce (entries : List ι) : Prop := ∀ i, 0 < amount i → entries.count i ≤ 1

/-- The entries with a positive amount that were not seen before, at their first occurrence. -/
def firsts (seen : List ι) : List ι → List ι
  | [] => []
  | i :: rest =>
    if i ∈ seen ∨ amount i ≤ 0 then firsts seen rest else i :: firsts (seen ++ [i]) rest

variable {amount} {entries entries' order : List ι}

theorem distinctTotal_congr (h : entries.toFinset = entries'.toFinset) :
    distinctTotal amount entries = distinctTotal amount entries' := by
  rw [distinctTotal, h]
  rfl

theorem sum_of_nodup (h : entries.Nodup) :
    (entries.map amount).sum = distinctTotal amount entries :=
  (List.sum_toFinset amount h).symm

theorem mem_firsts {seen : List ι} {i : ι} :
    i ∈ firsts amount seen entries ↔ i ∈ entries ∧ i ∉ seen ∧ 0 < amount i := by
  induction entries generalizing seen with
  | nil => simp [firsts]
  | cons j rest ih =>
    rw [firsts, List.mem_cons]
    split
    · rename_i hskip
      rw [ih]
      refine and_congr_left fun ⟨hnew, hpos⟩ => (or_iff_right ?_).symm
      rintro rfl
      rcases hskip with hseen | hnone
      · exact hnew hseen
      · omega
    · rename_i htake
      push Not at htake
      rw [List.mem_cons, ih, List.mem_append, List.mem_singleton]
      by_cases he : i = j
      · subst he
        simp [htake]
      · simp [he]

theorem nodup_firsts (amount : ι → ℤ) (entries seen : List ι) :
    (firsts amount seen entries).Nodup := by
  induction entries generalizing seen with
  | nil => exact List.nodup_nil
  | cons i rest ih =>
    rw [firsts]
    split
    · exact ih seen
    · refine List.nodup_cons.mpr ⟨fun hmem => ?_, ih _⟩
      exact (mem_firsts.mp hmem).2.1 (List.mem_append_right _ (List.mem_singleton_self i))

theorem firsts_once (amount : ι → ℤ) (entries : List ι) :
    Once amount entries (firsts amount [] entries) :=
  ⟨nodup_firsts amount entries [], fun i => by simp [mem_firsts]⟩

/-- Every such order amounts to the distinct entries. -/
theorem Once.sum (h : Once amount entries order) (hnonneg : ∀ i ∈ entries, 0 ≤ amount i) :
    (order.map amount).sum = distinctTotal amount entries := by
  rw [sum_of_nodup h.nodup]
  refine Finset.sum_subset (fun i hi => ?_) fun i hi hrest => ?_
  · exact List.mem_toFinset.mpr ((h.mem i).mp (List.mem_toFinset.mp hi)).1
  · have hlisted := List.mem_toFinset.mp hi
    refine le_antisymm (not_lt.mp fun hpos => hrest ?_) (hnonneg i hlisted)
    exact List.mem_toFinset.mpr ((h.mem i).mpr ⟨hlisted, hpos⟩)

/-- A batch amounts to its distinct entries exactly if it repeats nothing that pays. -/
theorem sum_eq_distinctTotal_iff (hnonneg : ∀ i ∈ entries, 0 ≤ amount i) :
    (entries.map amount).sum = distinctTotal amount entries ↔ PaysOnce amount entries := by
  have hterms : ∀ i ∈ entries.toFinset, 0 ≤ entries.count i • amount i - amount i := by
    intro i hi
    have hlisted := List.mem_toFinset.mp hi
    have hcount : (1 : ℤ) ≤ entries.count i := by
      exact_mod_cast List.one_le_count_iff.mpr hlisted
    have hmore := mul_le_mul_of_nonneg_right hcount (hnonneg i hlisted)
    rw [nsmul_eq_mul]
    linarith
  rw [Finset.sum_list_map_count, distinctTotal, ← sub_eq_zero, ← Finset.sum_sub_distrib,
    Finset.sum_eq_zero_iff_of_nonneg hterms]
  constructor
  · intro hzero i hpos
    by_contra hmany
    have hlisted : i ∈ entries := List.count_pos_iff.mp (by omega)
    have hterm := hzero i (List.mem_toFinset.mpr hlisted)
    have hcount : (2 : ℤ) ≤ entries.count i := by exact_mod_cast not_le.mp hmany
    have hmore := mul_le_mul_of_nonneg_right hcount hpos.le
    rw [nsmul_eq_mul] at hterm
    linarith
  · intro honce i hi
    have hlisted := List.mem_toFinset.mp hi
    rcases (hnonneg i hlisted).lt_or_eq with hpos | hzero
    · have hcount : entries.count i = 1 :=
        le_antisymm (honce i hpos) (List.one_le_count_iff.mpr hlisted)
      rw [hcount, nsmul_eq_mul, Nat.cast_one, one_mul, sub_self]
    · rw [← hzero, nsmul_eq_mul, mul_zero, sub_self]

end Batch

end Soroban
