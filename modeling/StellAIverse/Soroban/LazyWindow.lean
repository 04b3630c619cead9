import Mathlib.Algebra.BigOperators.Group.List.Basic
import Mathlib.Order.Lattice
import Mathlib.Tactic.Linarith

/-!
# Lazily reset windows

A meter counts amounts in a window and starts anew at the first event that comes
more than the length of the window after its start. The count is what came since
the start. An interval as long as the window meets two windows at most, so it sees
at most twice the limit.
-/

namespace Soroban

/-- When the window started, and what was counted in it. -/
structure Meter where
  start : ℕ
  used : ℤ

namespace Meter

/-- The meter at a moment, anew when the window has passed. -/
def roll (length now : ℕ) (m : Meter) : Meter := if now - m.start > length then ⟨now, 0⟩ else m

def spend (length now : ℕ) (amount : ℤ) (m : Meter) : Meter :=
  { m.roll length now with used := (m.roll length now).used + amount }

/-- The present moment is in the window. -/
theorem roll_within {length now : ℕ} {m : Meter} (h : m.start ≤ now) :
    (m.roll length now).start ≤ now ∧ now ≤ (m.roll length now).start + length := by
  unfold roll
  split
  · exact ⟨le_refl _, Nat.le_add_right _ _⟩
  · exact ⟨h, by omega⟩

end Meter

/-- What the events at the times in question amount to; an event is a time and an amount. -/
def volume (during : ℕ → Prop) [DecidablePred during] (events : List (ℕ × ℤ)) : ℤ :=
  (events.map fun e => if during e.1 then e.2 else 0).sum

section Volume

variable {p q r : ℕ → Prop} [DecidablePred p] [DecidablePred q] [DecidablePred r]
  {events : List (ℕ × ℤ)}

theorem volume_cons (p : ℕ → Prop) [DecidablePred p] (now : ℕ) (amount : ℤ)
    (events : List (ℕ × ℤ)) :
    volume p ((now, amount) :: events) = (if p now then amount else 0) + volume p events := by
  simp [volume]

theorem volume_eq_zero (h : ∀ e ∈ events, ¬ p e.1) : volume p events = 0 := by
  unfold volume
  apply List.sum_eq_zero
  intro x hx
  obtain ⟨e, he, rfl⟩ := List.mem_map.mp hx
  exact if_neg (h e he)

/-- The volume at some times is at most that at two kinds of times they are among. -/
theorem volume_le_add (hnonneg : ∀ e ∈ events, 0 ≤ e.2) (h : ∀ e ∈ events, p e.1 → q e.1 ∨ r e.1) :
    volume p events ≤ volume q events + volume r events := by
  induction events with
  | nil => exact le_refl _
  | cons e events ih =>
    obtain ⟨now, amount⟩ := e
    have hlater := ih (fun e he => hnonneg e (List.mem_cons_of_mem _ he))
      fun e he => h e (List.mem_cons_of_mem _ he)
    have hamount : 0 ≤ amount := hnonneg _ List.mem_cons_self
    have hnow : p now → q now ∨ r now := h _ List.mem_cons_self
    rw [volume_cons, volume_cons, volume_cons]
    by_cases hp : p now
    · rcases hnow hp with hq | hr
      · rw [if_pos hp, if_pos hq]
        split <;> linarith
      · rw [if_pos hp, if_pos hr]
        split <;> linarith
    · rw [if_neg hp]
      split <;> split <;> linarith

theorem volume_le (hnonneg : ∀ e ∈ events, 0 ≤ e.2) (h : ∀ e ∈ events, p e.1 → q e.1) :
    volume p events ≤ volume q events := by
  have hle := volume_le_add (q := q) (r := fun _ => False) hnonneg fun e he hp => .inl (h e he hp)
  rw [volume_eq_zero (p := fun _ => False) fun _ _ => id, add_zero] at hle
  exact hle

/-- A volume is made up of those at two kinds of times that have nothing in common. -/
theorem volume_eq_add (h : ∀ e ∈ events, (p e.1 ↔ q e.1 ∨ r e.1) ∧ ¬ (q e.1 ∧ r e.1)) :
    volume p events = volume q events + volume r events := by
  induction events with
  | nil => rfl
  | cons e events ih =>
    obtain ⟨now, amount⟩ := e
    obtain ⟨hiff, hdisjoint⟩ := h _ List.mem_cons_self
    dsimp only at hiff hdisjoint
    rw [volume_cons, volume_cons, volume_cons, ih fun e he => h e (List.mem_cons_of_mem _ he)]
    by_cases hq : q now
    · rw [if_pos (hiff.mpr (.inl hq)), if_pos hq, if_neg fun hr => hdisjoint ⟨hq, hr⟩]
      omega
    · rw [if_neg hq]
      by_cases hr : r now
      · rw [if_pos (hiff.mpr (.inr hr)), if_pos hr]
        omega
      · rw [if_neg fun hp => (hiff.mp hp).elim hq hr, if_neg hr]
        omega

/-- Events that count one each are counted. -/
theorem volume_units {ι : Type} (time : ι → ℕ) (marks : List ι) :
    volume p (marks.map fun x => (time x, 1)) = marks.countP fun x => p (time x) := by
  induction marks with
  | nil => rfl
  | cons x marks ih =>
    rw [List.map_cons, volume_cons, ih, List.countP_cons]
    by_cases hp : p (time x)
    · rw [if_pos hp, if_pos (decide_eq_true hp)]
      omega
    · rw [if_neg hp, if_neg (by simpa using hp)]
      omega

/-- Intervals stay within a limit as long as each new event fits into the one that ends with it. -/
theorem spread_cons {length now : ℕ} {limit amount : ℤ} (hnonneg : ∀ e ∈ events, 0 ≤ e.2)
    (hamount : 0 ≤ amount) (hpast : ∀ e ∈ events, e.1 ≤ now) :
    (∀ x, volume (fun t => x ≤ t ∧ t ≤ x + length) ((now, amount) :: events) ≤ limit) ↔
      (∀ x, volume (fun t => x ≤ t ∧ t ≤ x + length) events ≤ limit) ∧
        volume (fun t => now ≤ t + length) events + amount ≤ limit := by
  constructor
  · intro hall
    constructor
    · intro x
      have hx := hall x
      rw [volume_cons] at hx
      split at hx <;> linarith
    · have hlast := hall (now - length)
      rw [volume_cons, if_pos (by omega)] at hlast
      have hle := volume_le (p := fun t => now ≤ t + length)
        (q := fun t => now - length ≤ t ∧ t ≤ now - length + length) hnonneg fun e he ht => by
          have := hpast e he
          omega
      linarith
  · rintro ⟨hall, hlast⟩ x
    rw [volume_cons]
    by_cases hx : x ≤ now ∧ now ≤ x + length
    · have hle := volume_le (p := fun t => x ≤ t ∧ t ≤ x + length)
        (q := fun t => now ≤ t + length) hnonneg fun e _ ht => by omega
      rw [if_pos hx]
      linarith
    · rw [if_neg hx, zero_add]
      exact hall x

end Volume

/-- The meter and the events it let pass. The window before the present one is of interest as far
as an interval can reach back into it. -/
structure Metered (length : ℕ) (limit : ℤ) (events : List (ℕ × ℤ)) (m : Meter) : Prop where
  nonneg : ∀ e ∈ events, 0 ≤ e.2
  close : ∀ e ∈ events, e.1 ≤ m.start + length
  used : m.used = volume (fun t => m.start ≤ t) events
  within : m.used ≤ max limit 0
  before : volume (fun t => t < m.start ∧ m.start ≤ t + length) events ≤ max limit 0
  spread : ∀ x, volume (fun t => x ≤ t ∧ t ≤ x + length) events ≤ 2 * max limit 0

namespace Metered

variable {length now : ℕ} {limit amount : ℤ} {events : List (ℕ × ℤ)} {m : Meter}

theorem new (length now : ℕ) (limit : ℤ) : Metered length limit [] ⟨now, 0⟩ where
  nonneg _ he := by cases he
  close _ he := by cases he
  used := rfl
  within := le_max_right _ _
  before := le_max_right _ _
  spread _ := by
    have hlimit : (0 : ℤ) ≤ max limit 0 := le_max_right _ _
    simp only [volume, List.map_nil, List.sum_nil]
    linarith

/-- A new window starts after every event of the old one. -/
theorem roll (h : Metered length limit events m) (now : ℕ) :
    Metered length limit events (m.roll length now) := by
  unfold Meter.roll
  split
  · rename_i hpassed
    constructor
    · exact h.nonneg
    · intro e he
      have hclose := h.close e he
      change e.1 ≤ now + length
      omega
    · refine (volume_eq_zero fun e he (ht : now ≤ e.1) => ?_).symm
      have hclose := h.close e he
      omega
    · exact le_max_right _ _
    · have hle := volume_le (p := fun t => t < now ∧ now ≤ t + length) (q := fun t => m.start ≤ t)
        h.nonneg fun e _ ht => by omega
      exact hle.trans (h.used ▸ h.within)
    · exact h.spread
  · exact h

/-- An event within the present window. -/
theorem add (h : Metered length limit events m) (hstart : m.start ≤ now)
    (hclose : now ≤ m.start + length) (hamount : 0 ≤ amount) (hlimit : m.used + amount ≤ limit) :
    Metered length limit ((now, amount) :: events) { m with used := m.used + amount } := by
  have hnonneg : ∀ e ∈ (now, amount) :: events, 0 ≤ e.2 := by
    intro e he
    rcases List.mem_cons.mp he with rfl | he
    · exact hamount
    · exact h.nonneg e he
  have hused : m.used + amount = volume (fun t => m.start ≤ t) ((now, amount) :: events) := by
    rw [volume_cons, if_pos hstart, ← h.used, add_comm]
  have hwithin : m.used + amount ≤ max limit 0 := hlimit.trans (le_max_left _ _)
  have hbefore : volume (fun t => t < m.start ∧ m.start ≤ t + length) ((now, amount) :: events) ≤
      max limit 0 := by
    rw [volume_cons, if_neg (by omega), zero_add]
    exact h.before
  refine ⟨hnonneg, ?_, hused, hwithin, hbefore, fun x => ?_⟩
  · intro e he
    rcases List.mem_cons.mp he with rfl | he
    · exact hclose
    · exact h.close e he
  · by_cases hx : x ≤ now ∧ now ≤ x + length
    · -- The interval reaches into the present window and the one before it.
      have hle := volume_le_add (p := fun t => x ≤ t ∧ t ≤ x + length)
        (q := fun t => m.start ≤ t) (r := fun t => t < m.start ∧ m.start ≤ t + length) hnonneg
        fun e _ ht => by omega
      rw [← hused] at hle
      linarith
    · rw [volume_cons, if_neg hx, zero_add]
      exact h.spread x

theorem spend (h : Metered length limit events m) (hstart : m.start ≤ now) (hamount : 0 ≤ amount)
    (hlimit : (m.roll length now).used + amount ≤ limit) :
    Metered length limit ((now, amount) :: events) (m.spend length now amount) := by
  have hroll : (m.roll length now).start ≤ now ∧ now ≤ (m.roll length now).start + length :=
    Meter.roll_within hstart
  exact (h.roll now).add hroll.1 hroll.2 hamount hlimit

/-- What was counted lately: in the present window, and before it. -/
theorem trailing (h : Metered length limit events m) (hstart : m.start ≤ now) :
    volume (fun t => now ≤ t + length) events =
      volume (fun t => now ≤ t + length ∧ t < (m.roll length now).start) events +
        (m.roll length now).used := by
  rw [(h.roll now).used]
  refine volume_eq_add fun e _ => ⟨?_, fun hboth => absurd hboth.1.2 (not_lt.mpr hboth.2)⟩
  have hclose : now ≤ (m.roll length now).start + length := (Meter.roll_within hstart).2
  constructor
  · intro ht
    by_cases he : e.1 < (m.roll length now).start
    · exact .inl ⟨ht, he⟩
    · exact .inr (not_lt.mp he)
  · rintro (ht | ht)
    · exact ht.1
    · omega

end Metered

end Soroban
