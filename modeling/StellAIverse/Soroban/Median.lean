import Mathlib.Data.List.GetD
import Mathlib.Data.List.Sort
import StellAIverse.Soroban.Result

/-!
# Medians

The median of a list is the middle of its values in order, or the mean of the two middle ones. It
does not depend on the order they come in, and lies between the smallest and the largest.
-/

namespace Soroban

/-- The values from the smallest to the largest. -/
def inOrder (values : List ℤ) : List ℤ := values.insertionSort (· ≤ ·)

/-- The sum of the two values around the middle. -/
def middleSum (values : List ℤ) : ℤ :=
  (inOrder values).getD (values.length / 2 - 1) 0 + (inOrder values).getD (values.length / 2) 0

/-- The middle value; for an even number the mean of the two middle ones, rounded toward zero. -/
def median (values : List ℤ) : ℤ :=
  if values.length % 2 = 0 then (middleSum values).tdiv 2
  else (inOrder values).getD (values.length / 2) 0

def lowerQuartile (values : List ℤ) : ℤ := (inOrder values).getD (values.length / 4) 0

def upperQuartile (values : List ℤ) : ℤ := (inOrder values).getD (3 * values.length / 4) 0

variable {values values' : List ℤ} {i : ℕ} {value low high : ℤ}

theorem length_inOrder : (inOrder values).length = values.length :=
  List.length_insertionSort _ _

theorem mem_inOrder : value ∈ inOrder values ↔ value ∈ values := List.mem_insertionSort _

/-- A list has one order. -/
theorem inOrder_perm (h : values.Perm values') : inOrder values = inOrder values' :=
  ((List.perm_insertionSort _ values).trans
    (h.trans (List.perm_insertionSort _ values').symm)).eq_of_pairwise'
      (List.pairwise_insertionSort _ values) (List.pairwise_insertionSort _ values')

theorem middleSum_perm (h : values.Perm values') : middleSum values = middleSum values' := by
  unfold middleSum
  rw [inOrder_perm h, h.length_eq]

theorem median_perm (h : values.Perm values') : median values = median values' := by
  unfold median
  rw [middleSum_perm h, inOrder_perm h, h.length_eq]

theorem inOrder_mem (hi : i < values.length) : (inOrder values).getD i 0 ∈ values := by
  rw [← length_inOrder] at hi
  rw [List.getD_eq_getElem _ _ hi]
  exact mem_inOrder.mp (List.getElem_mem hi)

theorem inOrder_le {j : ℕ} (hij : i ≤ j) (hj : j < values.length) :
    (inOrder values).getD i 0 ≤ (inOrder values).getD j 0 := by
  rw [← length_inOrder] at hj
  rw [List.getD_eq_getElem _ _ (hij.trans_lt hj), List.getD_eq_getElem _ _ hj]
  rcases hij.eq_or_lt with rfl | hlt
  · exact le_rfl
  · exact List.pairwise_iff_getElem.mp (List.pairwise_insertionSort _ values) i j _ hj hlt

/-- The first in order is the smallest, and the last one the largest. -/
theorem inOrder_bounds (h : value ∈ values) : (inOrder values).getD 0 0 ≤ value ∧
    value ≤ (inOrder values).getD (values.length - 1) 0 := by
  obtain ⟨i, hi, hvalue⟩ := List.mem_iff_getElem.mp (mem_inOrder.mpr h)
  have hget : value = (inOrder values).getD i 0 := by rw [List.getD_eq_getElem _ _ hi, hvalue]
  rw [length_inOrder] at hi
  rw [hget]
  exact ⟨inOrder_le (Nat.zero_le i) hi, inOrder_le (by omega) (by omega)⟩

theorem median_between (hne : values ≠ []) (h : ∀ value ∈ values, low ≤ value ∧ value ≤ high) :
    low ≤ median values ∧ median values ≤ high := by
  have hpos : 0 < values.length := List.length_pos_iff.mpr hne
  have hupper := h _ (inOrder_mem (by omega : values.length / 2 < values.length))
  have hlower := h _ (inOrder_mem (by omega : values.length / 2 - 1 < values.length))
  unfold median middleSum
  split
  · constructor
    · rw [← Int.tdiv_one low]
      exact I128.tdiv_le_tdiv_of_cross one_pos two_pos (by linarith [hupper.1, hlower.1])
    · rw [← Int.tdiv_one high]
      exact I128.tdiv_le_tdiv_of_cross two_pos one_pos (by linarith [hupper.2, hlower.2])
  · exact hupper

theorem getD_le_iff (h : values.Pairwise (· ≤ ·)) (hi : i < values.length) :
    values.getD i 0 ≤ high ↔ i < values.countP (· ≤ high) := by
  induction values generalizing i with
  | nil => cases hi
  | cons v rest ih =>
    obtain ⟨hfirst, hrest⟩ := List.pairwise_cons.mp h
    by_cases hv : v ≤ high
    · cases i with
      | zero => simp [hv]
      | succ i => simpa [hv] using ih hrest (Nat.lt_of_succ_lt_succ hi)
    · have hlater : ∀ v' ∈ v :: rest, ¬ v' ≤ high := by
        rintro v' hv' hle
        rcases List.mem_cons.mp hv' with rfl | hv'
        · exact hv hle
        · exact hv ((hfirst v' hv').trans hle)
      rw [List.countP_eq_zero.mpr (by simpa using hlater), List.getD_eq_getElem _ _ hi]
      simpa using hlater _ (List.getElem_mem hi)

/-- The values in order begin with those up to a bound. -/
theorem inOrder_le_iff (hi : i < values.length) :
    (inOrder values).getD i 0 ≤ high ↔ i < values.countP (· ≤ high) := by
  have hcount := (List.perm_insertionSort (· ≤ ·) values).countP_eq (· ≤ high)
  rw [← hcount]
  exact getD_le_iff (List.pairwise_insertionSort _ values) (by rwa [← length_inOrder] at hi)

theorem countP_not_lt (values : List ℤ) (high : ℤ) :
    values.countP (high < ·) + values.countP (· ≤ high) = values.length := by
  rw [List.length_eq_countP_add_countP (high < ·)]
  simp only [decide_eq_true_eq, not_lt]

/-- A minority of larger values does not lift the median above the bound. -/
theorem median_le (h : 2 * values.countP (high < ·) < values.length) : median values ≤ high := by
  have hmiddle : ∀ i, i ≤ values.length / 2 → (inOrder values).getD i 0 ≤ high := fun i hi => by
    have hcount := countP_not_lt values high
    exact (inOrder_le_iff (by omega)).mpr (by omega)
  have hlower := hmiddle (values.length / 2 - 1) (by omega)
  have hupper := hmiddle (values.length / 2) le_rfl
  unfold median middleSum
  split
  · rw [← Int.tdiv_one high]
    exact I128.tdiv_le_tdiv_of_cross two_pos one_pos (by linarith)
  · exact hupper

theorem le_median (h : 2 * values.countP (· < low) < values.length) : low ≤ median values := by
  simp only [← Int.le_sub_one_iff] at h
  have hmiddle : ∀ i, i < values.length → values.length ≤ 2 * (i + 1) →
      low ≤ (inOrder values).getD i 0 := fun i hi hhalf => by
    have hcount := mt (inOrder_le_iff hi).mp (by omega : ¬ i < values.countP (· ≤ low - 1))
    omega
  have hupper := hmiddle (values.length / 2) (by omega) (by omega)
  unfold median middleSum
  split
  · have hlower := hmiddle (values.length / 2 - 1) (by omega) (by omega)
    rw [← Int.tdiv_one low]
    exact I128.tdiv_le_tdiv_of_cross one_pos two_pos (by linarith)
  · exact hupper

section Filter

variable {keep beyond : ℤ → Bool}

theorem length_le_countP (values : List ℤ) (p q r : ℤ → Bool)
    (h : ∀ v, p v = true ∨ q v = true ∨ r v = true) :
    values.length ≤ values.countP p + values.countP q + values.countP r := by
  induction values with
  | nil => simp
  | cons v rest ih =>
    simp only [List.length_cons, List.countP_cons]
    rcases h v with hv | hv | hv <;> simp only [hv, if_true] <;> omega

/-- A filter that leaves out no more than a quarter at each end keeps a majority within a bound
which only few values are beyond. -/
theorem few_kept (near far : ℤ → Bool)
    (hkeep : ∀ v, keep v = true ∨ near v = true ∨ far v = true)
    (hside : (∀ v, beyond v = true → far v = true) ∨ ∀ v, far v = true → beyond v = true)
    (hnear : values.countP near ≤ values.length / 4) (hfar : values.countP far ≤ values.length / 4)
    (hboth : values.countP near + values.countP far + 2 * (values.length / 4) < values.length)
    (hfew : 2 * values.countP beyond < values.length - values.length / 4) :
    2 * (values.filter keep).countP beyond < (values.filter keep).length := by
  have hkept : (values.filter keep).countP beyond ≤ values.countP beyond :=
    (List.filter_sublist).countP_le
  have hsplit := List.length_eq_countP_add_countP beyond (l := values.filter keep)
  rw [List.countP_filter (p := fun v => decide ¬ beyond v = true)] at hsplit
  have hall := fun (edge : ℤ → Bool) (hedge : ∀ v, far v = true ∨ beyond v = true → edge v = true) =>
    length_le_countP values (fun v => decide (¬ beyond v = true) && keep v) near edge fun v => by
      have hv := hkeep v
      have hv' := hedge v
      simp only [Bool.and_eq_true, decide_eq_true_eq]
      tauto
  rcases hside with hside | hside
  · have hle : values.countP beyond ≤ values.countP far := List.countP_mono_left fun v _ => hside v
    have hfar := hall far fun v h => h.elim id (hside v)
    omega
  · have hbeyond := hall beyond fun v h => h.elim (hside v) id
    omega

/-- Whatever else a filter leaves out, if it keeps what lies between the quartiles, then fewer than
three eighths of the values cannot take the median out of the range of the others. -/
theorem median_filter_between
    (hkeep : ∀ v, lowerQuartile values ≤ v → v ≤ upperQuartile values → keep v = true)
    (hfew : 2 * values.countP (fun value => ¬ (low ≤ value ∧ value ≤ high)) <
      values.length - values.length / 4) :
    low ≤ median (values.filter keep) ∧ median (values.filter keep) ≤ high := by
  have hbelow := mt (inOrder_le_iff (by omega : values.length / 4 < values.length)).mpr
    (not_le.mpr (sub_one_lt _))
  have habove := (inOrder_le_iff (by omega : 3 * values.length / 4 < values.length)).mp le_rfl
  have hcount := countP_not_lt values (upperQuartile values)
  rw [← lowerQuartile] at hbelow
  rw [← upperQuartile] at habove
  generalize lowerQuartile values = q1 at *
  generalize upperQuartile values = q3 at *
  simp only [Int.le_sub_one_iff] at hbelow
  have hcases : ∀ v, keep v = true ∨ v < q1 ∨ q3 < v := by
    intro v
    by_cases hv : q1 ≤ v ∧ v ≤ q3
    · exact .inl (hkeep v hv.1 hv.2)
    · exact .inr (by omega)
  have hout : ∀ p : ℤ → Prop, [DecidablePred p] → (∀ v, p v → ¬ (low ≤ v ∧ v ≤ high)) →
      2 * values.countP (p ·) < values.length - values.length / 4 := by
    intro p _ hp
    have hle : values.countP (p ·) ≤ values.countP fun v => ¬ (low ≤ v ∧ v ≤ high) :=
      List.countP_mono_left fun v _ hv => decide_eq_true (hp v (of_decide_eq_true hv))
    omega
  constructor
  · refine le_median (few_kept (q3 < ·) (· < q1) (fun v => ?_) ?_ (by omega) (by omega) (by omega)
      (hout (· < low) (by omega)))
    · simpa only [decide_eq_true_eq, or_comm (a := q3 < v)] using hcases v
    · simp only [decide_eq_true_eq]
      rcases le_total low q1 with h | h
      · exact .inl fun v hv => by omega
      · exact .inr fun v hv => by omega
  · refine median_le (few_kept (· < q1) (q3 < ·) (fun v => ?_) ?_ (by omega) (by omega) (by omega)
      (hout (high < ·) (by omega)))
    · simpa only [decide_eq_true_eq] using hcases v
    · simp only [decide_eq_true_eq]
      rcases le_total q3 high with h | h
      · exact .inl fun v hv => by omega
      · exact .inr fun v hv => by omega

end Filter

end Soroban
