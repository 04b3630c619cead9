import Mathlib.Algebra.BigOperators.Intervals
import Mathlib.Algebra.Order.BigOperators.Group.Finset
import StellAIverse.Soroban.Result

/-!
# Step functions of samples

A quantity that is sampled now and then keeps a value until the next sample. Samples
in the order of time make a step function. Its integral up to now is the sum of the values, each
weighted by how long it lasted, and its average lies between the smallest value and the largest.
-/

namespace Soroban

section StepFunction

variable {μ : Type} (time : μ → ℕ) (value : μ → ℤ)

/-- Samples in the order of time; several may share one. -/
def Chronological (samples : List μ) : Prop := samples.Pairwise (time · ≤ time ·)

/-- The value of the latest sample up to a time. -/
def stepAt (samples : List μ) (t : ℕ) : ℤ :=
  ((samples.filter (time · ≤ t)).getLast?.map value).getD 0

/-- When the first of these samples comes, and now if there are none. -/
def nextTime (now : ℕ) (samples : List μ) : ℕ := (samples.head?.map time).getD now

/-- From when to when each sample is the latest. -/
def segments (now : ℕ) : List μ → List (ℕ × ℕ)
  | [] => []
  | sample :: rest => (time sample, nextTime time now rest) :: segments now rest

/-- The values, each weighted by the length of its segment. -/
def weightedSum (now : ℕ) : List μ → ℤ
  | [] => 0
  | sample :: rest =>
    value sample * (nextTime time now rest - time sample : ℕ) + weightedSum now rest

/-- The lengths of all segments together. -/
def totalLength (now : ℕ) : List μ → ℕ
  | [] => 0
  | sample :: rest => (nextTime time now rest - time sample) + totalLength now rest

/-- The average over the time from `first` to `now`, rounded toward zero; over no time, the value
that holds now. -/
def timeAverage (first now : ℕ) (f : ℕ → ℤ) : ℤ :=
  if first < now then (∑ t ∈ Finset.Ico first now, f t).tdiv (now - first : ℕ) else f now

variable {time value} {sample : μ} {older newer samples rest : List μ} {t now first : ℕ}

/-- Older samples do not matter from the time of a newer one on. -/
theorem stepAt_append (h : ∃ sample ∈ newer, time sample ≤ t) :
    stepAt time value (older ++ newer) t = stepAt time value newer t := by
  obtain ⟨sample, hmem, htime⟩ := h
  have hnewer : sample ∈ newer.filter (time · ≤ t) :=
    List.mem_filter.mpr ⟨hmem, decide_eq_true htime⟩
  unfold stepAt
  rw [List.filter_append, List.getLast?_append,
    List.getLast?_eq_some_getLast (List.ne_nil_of_mem hnewer), Option.some_or]

theorem stepAt_cons_of_lt (htime : time sample ≤ t) (h : ∀ later ∈ rest, t < time later) :
    stepAt time value (sample :: rest) t = value sample := by
  have hrest : rest.filter (time · ≤ t) = [] := by
    rw [List.filter_eq_nil_iff]
    intro later hlater
    simpa using h later hlater
  unfold stepAt
  rw [List.filter_cons_of_pos (by simpa using htime), hrest]
  rfl

/-- The value at a time is one of those sampled by then. -/
theorem stepAt_mem (h : ∃ sample ∈ samples, time sample ≤ t) :
    ∃ sample ∈ samples, time sample ≤ t ∧ stepAt time value samples t = value sample := by
  obtain ⟨first, hmem, htime⟩ := h
  have hfirst : first ∈ samples.filter (time · ≤ t) :=
    List.mem_filter.mpr ⟨hmem, decide_eq_true htime⟩
  have hlast := List.getLast_mem (List.ne_nil_of_mem hfirst)
  obtain ⟨hlast_mem, hlast_time⟩ := List.mem_filter.mp hlast
  refine ⟨_, hlast_mem, of_decide_eq_true hlast_time, ?_⟩
  unfold stepAt
  rw [List.getLast?_eq_some_getLast (List.ne_nil_of_mem hfirst)]
  rfl

/-- After all samples the value is that of the last one. -/
theorem stepAt_last (h : ∀ sample ∈ samples, time sample ≤ t) :
    stepAt time value samples t = (samples.getLast?.map value).getD 0 := by
  unfold stepAt
  rw [List.filter_eq_self.mpr fun sample hsample => decide_eq_true (h sample hsample)]

/-- The samples of a trailing window are the end of the list. -/
theorem exists_append_window {start : ℕ} (h : Chronological time samples)
    (hnow : ∀ sample ∈ samples, time sample ≤ now) : ∃ older,
      samples = older ++ samples.filter fun sample => start ≤ time sample ∧ time sample ≤ now := by
  induction samples with
  | nil => exact ⟨[], rfl⟩
  | cons sample rest ih =>
    obtain ⟨hfirst, hrest⟩ := List.pairwise_cons.mp h
    have hlater : ∀ later ∈ rest, time later ≤ now := fun later hmem =>
      hnow later (List.mem_cons_of_mem _ hmem)
    by_cases hin : start ≤ time sample
    · refine ⟨[], ?_⟩
      rw [List.nil_append, List.filter_eq_self.mpr]
      intro later hmem
      refine decide_eq_true ⟨?_, hnow later hmem⟩
      rcases List.mem_cons.mp hmem with rfl | hmem
      · exact hin
      · exact hin.trans (hfirst later hmem)
    · obtain ⟨older, holder⟩ := ih hrest hlater
      refine ⟨sample :: older, ?_⟩
      rw [List.filter_cons_of_neg (by simpa using fun hstart => (hin hstart).elim),
        List.cons_append, ← holder]

theorem le_nextTime (h : Chronological time (sample :: rest)) (hnow : time sample ≤ now) :
    time sample ≤ nextTime time now rest := by
  cases rest with
  | nil => exact hnow
  | cons next rest => exact (List.pairwise_cons.mp h).1 next List.mem_cons_self

/-- No segment ends before it starts. -/
theorem segments_forward (h : Chronological time samples)
    (hnow : ∀ sample ∈ samples, time sample ≤ now) :
    ∀ segment ∈ segments time now samples, segment.1 ≤ segment.2 := by
  induction samples with
  | nil => exact fun _ hmem => (by cases hmem)
  | cons sample rest ih =>
    intro segment hmem
    rcases List.mem_cons.mp hmem with rfl | hmem
    · exact le_nextTime h (hnow sample List.mem_cons_self)
    · exact ih (List.pairwise_cons.mp h).2 (fun later hlater =>
        hnow later (List.mem_cons_of_mem _ hlater)) segment hmem

/-- The segments cover the time from the first sample to now. -/
theorem totalLength_eq (h : Chronological time (sample :: rest))
    (hnow : ∀ later ∈ sample :: rest, time later ≤ now) :
    totalLength time now (sample :: rest) = now - time sample := by
  induction rest generalizing sample with
  | nil => exact Nat.add_zero _
  | cons next rest ih =>
    obtain ⟨hfirst, hrest⟩ := List.pairwise_cons.mp h
    have hle := hfirst next List.mem_cons_self
    have hnext := hnow next (List.mem_cons_of_mem _ List.mem_cons_self)
    have htail := ih hrest fun later hlater => hnow later (List.mem_cons_of_mem _ hlater)
    change (time next - time sample) + totalLength time now (next :: rest) = _
    rw [htail]
    omega

/-- The integral of the step function from the first sample to now is the weighted sum. -/
theorem integral_eq_weightedSum (h : Chronological time (sample :: rest))
    (hnow : ∀ later ∈ sample :: rest, time later ≤ now) :
    ∑ t ∈ Finset.Ico (time sample) now, stepAt time value (sample :: rest) t =
      weightedSum time value now (sample :: rest) := by
  induction rest generalizing sample with
  | nil =>
    have hconst : ∀ t ∈ Finset.Ico (time sample) now, stepAt time value [sample] t = value sample :=
      fun t ht => stepAt_cons_of_lt (Finset.mem_Ico.mp ht).1 fun _ hmem => (by cases hmem)
    rw [Finset.sum_congr rfl hconst, Finset.sum_const, Nat.card_Ico, nsmul_eq_mul, mul_comm]
    exact (add_zero _).symm
  | cons next rest ih =>
    obtain ⟨hfirst, hrest⟩ := List.pairwise_cons.mp h
    have hle := hfirst next List.mem_cons_self
    have hnext := hnow next (List.mem_cons_of_mem _ List.mem_cons_self)
    have htail := ih hrest fun later hlater => hnow later (List.mem_cons_of_mem _ hlater)
    -- Up to the next sample the value is constant; from there on the first sample does not matter.
    have hconst : ∀ t ∈ Finset.Ico (time sample) (time next),
        stepAt time value (sample :: next :: rest) t = value sample := by
      intro t ht
      obtain ⟨hlow, hhigh⟩ := Finset.mem_Ico.mp ht
      refine stepAt_cons_of_lt hlow fun later hlater => hhigh.trans_le ?_
      rcases List.mem_cons.mp hlater with rfl | hlater
      · exact le_rfl
      · exact (List.pairwise_cons.mp hrest).1 later hlater
    have hskip : ∀ t ∈ Finset.Ico (time next) now,
        stepAt time value ([sample] ++ next :: rest) t = stepAt time value (next :: rest) t :=
      fun t ht => stepAt_append ⟨next, List.mem_cons_self, (Finset.mem_Ico.mp ht).1⟩
    rw [List.singleton_append] at hskip
    rw [← Finset.sum_Ico_consecutive _ hle hnext, Finset.sum_congr rfl hconst,
      Finset.sum_congr rfl hskip, htail, Finset.sum_const, Nat.card_Ico, nsmul_eq_mul, mul_comm]
    rfl

theorem weightedSum_nonneg (h : ∀ sample ∈ samples, 0 ≤ value sample) :
    0 ≤ weightedSum time value now samples := by
  induction samples with
  | nil => exact le_rfl
  | cons sample rest ih =>
    have hrest := ih fun later hlater => h later (List.mem_cons_of_mem _ hlater)
    exact add_nonneg (mul_nonneg (h sample List.mem_cons_self) (Int.natCast_nonneg _)) hrest

theorem timeAverage_congr {f g : ℕ → ℤ} (hfirst : first ≤ now)
    (h : ∀ t, first ≤ t → t ≤ now → f t = g t) :
    timeAverage first now f = timeAverage first now g := by
  unfold timeAverage
  rw [h now hfirst le_rfl, Finset.sum_congr rfl fun t ht =>
    h t (Finset.mem_Ico.mp ht).1 (Finset.mem_Ico.mp ht).2.le]

/-- An average lies between bounds of what is averaged. -/
theorem timeAverage_between {f : ℕ → ℤ} {low high : ℤ} (hfirst : first ≤ now)
    (h : ∀ t, first ≤ t → t ≤ now → low ≤ f t ∧ f t ≤ high) :
    low ≤ timeAverage first now f ∧ timeAverage first now f ≤ high := by
  unfold timeAverage
  split
  · rename_i hlt
    have hpos : (0 : ℤ) < (now - first : ℕ) := by omega
    have hbounds : ∀ t ∈ Finset.Ico first now, low ≤ f t ∧ f t ≤ high := fun t ht =>
      h t (Finset.mem_Ico.mp ht).1 (Finset.mem_Ico.mp ht).2.le
    have hlow := Finset.card_nsmul_le_sum _ f low fun t ht => (hbounds t ht).1
    have hhigh := Finset.sum_le_card_nsmul _ f high fun t ht => (hbounds t ht).2
    rw [Nat.card_Ico, nsmul_eq_mul, mul_comm] at hlow hhigh
    constructor
    · rw [← Int.tdiv_one low]
      exact I128.tdiv_le_tdiv_of_cross one_pos hpos (by rwa [mul_one])
    · rw [← Int.tdiv_one high]
      exact I128.tdiv_le_tdiv_of_cross hpos one_pos (by rwa [mul_one])
  · exact h now hfirst le_rfl

end StepFunction

end Soroban
