import Mathlib.Data.List.Count

/-!
# Quotas in lazily opened windows

A window is opened by the first event that comes more than its length after the start of
the window before. A counter that is reset whenever a window opens, and lets an event pass only
below its limit, keeps every window within the limit. Times of events are listed
with the latest first.
-/

namespace Soroban

/-- When the windows of these events were opened, the latest first. -/
def windowStarts (length : ℕ) : List ℕ → List ℕ
  | [] => []
  | now :: times =>
    match windowStarts length times with
    | [] => [now]
    | start :: older =>
      if now - start > length then now :: start :: older else start :: older

/-- The events in the window that was opened at a time. -/
def eventsIn (length start : ℕ) (times : List ℕ) : ℕ :=
  times.countP fun t => start ≤ t ∧ t ≤ start + length

/-- What a counter says of the events that it let pass. -/
structure Quota (length limit : ℕ) (times : List ℕ) (start used : ℕ) : Prop where
  opened : ∃ older, windowStarts length times = start :: older ∧ ∀ x ∈ older, x + length < start
  close : ∀ t ∈ times, t ≤ start + length
  counted : used = times.countP (start ≤ ·)
  within : ∀ x ∈ windowStarts length times, eventsIn length x times ≤ limit

variable {length limit start used now : ℕ} {times : List ℕ}

theorem eventsIn_cons (x : ℕ) : eventsIn length x (now :: times) =
    eventsIn length x times + if x ≤ now ∧ now ≤ x + length then 1 else 0 := by
  unfold eventsIn
  rw [List.countP_cons]
  simp only [decide_eq_true_eq]

namespace Quota

/-- The first event opens the first window. -/
theorem first (now : ℕ) (hlimit : 0 < limit) : Quota length limit [now] now 1 where
  opened := ⟨[], rfl, fun _ hx => (by cases hx)⟩
  close t ht := by
    rw [List.mem_singleton.mp ht]
    exact Nat.le_add_right _ _
  counted := by simp
  within x _ := by
    have hone : eventsIn length x [now] ≤ 1 := List.countP_le_length
    exact Nat.le_trans hone hlimit

/-- The present window has seen the events that were counted. -/
theorem eventsIn_start (h : Quota length limit times start used) :
    eventsIn length start times = used := by
  rw [h.counted]
  refine List.countP_congr fun t ht => ?_
  simp only [decide_eq_true_eq]
  exact and_iff_left (h.close t ht)

/-- An event within the present window. -/
theorem count (h : Quota length limit times start used) (hstart : start ≤ now)
    (hclose : now ≤ start + length) (hroom : used < limit) :
    Quota length limit (now :: times) start (used + 1) := by
  obtain ⟨older, hopened, hbefore⟩ := h.opened
  have hsame : windowStarts length (now :: times) = start :: older := by
    rw [windowStarts, hopened]
    exact if_neg (by omega)
  refine ⟨⟨older, hsame, hbefore⟩, fun t ht => ?_, ?_, fun x hx => ?_⟩
  · rcases List.mem_cons.mp ht with rfl | ht
    · exact hclose
    · exact h.close t ht
  · rw [List.countP_cons, ← h.counted, if_pos (by simpa using hstart)]
  · rw [hsame] at hx
    rw [eventsIn_cons]
    rcases List.mem_cons.mp hx with rfl | hx
    · rw [h.eventsIn_start, if_pos ⟨hstart, hclose⟩]
      exact hroom
    · have hpassed := hbefore x hx
      rw [if_neg (by omega)]
      exact h.within x (by rw [hopened]; exact List.mem_cons_of_mem _ hx)

/-- An event after the present window opens the next one. -/
theorem reopen (h : Quota length limit times start used) (hpassed : start + length < now)
    (hlimit : 0 < limit) : Quota length limit (now :: times) now 1 := by
  obtain ⟨older, hopened, hbefore⟩ := h.opened
  have hnext : windowStarts length (now :: times) = now :: start :: older := by
    rw [windowStarts, hopened]
    exact if_pos (by omega)
  have hnone : times.countP (now ≤ ·) = 0 := by
    rw [List.countP_eq_zero]
    intro t ht
    have hclose := h.close t ht
    simp only [decide_eq_true_eq]
    omega
  have hstarts : ∀ x ∈ start :: older, x + length < now := by
    intro x hx
    rcases List.mem_cons.mp hx with rfl | hx
    · exact hpassed
    · have hpast := hbefore x hx
      omega
  refine ⟨⟨_, hnext, hstarts⟩, fun t ht => ?_, ?_, fun x hx => ?_⟩
  · rcases List.mem_cons.mp ht with rfl | ht
    · exact Nat.le_add_right _ _
    · have hclose := h.close t ht
      omega
  · rw [List.countP_cons, hnone, if_pos (by simp)]
  · rw [hnext] at hx
    rw [eventsIn_cons]
    rcases List.mem_cons.mp hx with rfl | hx
    · have hfew : eventsIn length x times ≤ times.countP (x ≤ ·) := by
        refine List.countP_mono_left fun t _ ht => ?_
        simp only [decide_eq_true_eq] at ht ⊢
        exact ht.1
      rw [if_pos ⟨Nat.le_refl _, Nat.le_add_right _ _⟩]
      omega
    · have hpast := hstarts x hx
      rw [if_neg (by omega)]
      exact h.within x (by rw [hopened]; exact hx)

/-- What was counted came lately, as long as the window is open. -/
theorem used_le_recent (h : Quota length limit times start used)
    (hclose : now ≤ start + length) : used ≤ times.countP (now ≤ · + length) := by
  rw [h.counted]
  refine List.countP_mono_left fun t _ ht => ?_
  simp only [decide_eq_true_eq] at ht ⊢
  omega

end Quota

end Soroban
