import Mathlib.Algebra.BigOperators.Group.List.Basic
import Mathlib.Tactic.Linarith

/-!
# Apportionment

An amount is divided by weights that make up a whole. Every part is rounded down, so that less
than one unit for each part is left over.
-/

namespace Soroban

namespace Apportionment

variable {ι : Type} (amount whole : ℤ) (weight : ι → ℕ)

/-- The part of `i`, rounded down. -/
def part (i : ι) : ℤ := amount * weight i / whole

/-- What the listed ones get together. -/
def parts (is : List ι) : ℤ := (is.map (part amount whole weight)).sum

theorem parts_cons (i : ι) (is : List ι) : parts amount whole weight (i :: is) =
    part amount whole weight i + parts amount whole weight is := by
  rw [parts, List.map_cons, List.sum_cons]
  rfl

theorem parts_append (is is' : List ι) : parts amount whole weight (is ++ is') =
    parts amount whole weight is + parts amount whole weight is' := by
  rw [parts, List.map_append, List.sum_append]
  rfl

variable {amount whole} {weight}

theorem part_bounds (amount : ℤ) (weight : ι → ℕ) (hwhole : 0 < whole) (i : ι) :
    part amount whole weight i * whole ≤ amount * weight i ∧
      amount * weight i + 1 ≤ (part amount whole weight i + 1) * whole :=
  ⟨Int.ediv_mul_le _ hwhole.ne', Int.lt_ediv_add_one_mul_self _ hwhole⟩

/-- Rounding takes less than one unit from each. -/
theorem parts_bounds (amount : ℤ) (weight : ι → ℕ) (hwhole : 0 < whole) (is : List ι) :
    parts amount whole weight is * whole ≤ amount * (is.map weight).sum ∧
      amount * (is.map weight).sum + is.length ≤
        (parts amount whole weight is + is.length) * whole := by
  induction is with
  | nil => simp [parts]
  | cons i is ih =>
    obtain ⟨hle, hlt⟩ := part_bounds amount weight hwhole i
    obtain ⟨ihle, ihlt⟩ := ih
    rw [parts_cons, List.map_cons, List.sum_cons, List.length_cons]
    simp only [Nat.cast_add, Nat.cast_one]
    constructor <;> linarith

theorem parts_le (hwhole : 0 < whole) (hamount : 0 ≤ amount) {is : List ι}
    (hsum : ((is.map weight).sum : ℤ) ≤ whole) : parts amount whole weight is ≤ amount := by
  have hbound := (parts_bounds amount weight hwhole is).1
  exact le_of_mul_le_mul_right (hbound.trans (mul_le_mul_of_nonneg_left hsum hamount)) hwhole

theorem lt_parts_add (amount : ℤ) (hwhole : 0 < whole) {is : List ι}
    (hsum : ((is.map weight).sum : ℤ) = whole) :
    amount < parts amount whole weight is + is.length := by
  have hbound := (parts_bounds amount weight hwhole is).2
  have hsome : 0 < is.length := by
    refine List.length_pos_of_ne_nil ?_
    rintro rfl
    simp only [List.map_nil, List.sum_nil, Nat.cast_zero] at hsum
    omega
  rw [hsum] at hbound
  refine lt_of_mul_lt_mul_right (a := whole) ?_ hwhole.le
  omega

/-- The last one takes what is left: its own part, and less than one unit for each besides. -/
theorem last_bounds (hwhole : 0 < whole) (hamount : 0 ≤ amount) {front : List ι} {last : ι}
    (hsum : (((front ++ [last]).map weight).sum : ℤ) = whole) :
    part amount whole weight last ≤ amount - parts amount whole weight front ∧
      amount - parts amount whole weight front <
        part amount whole weight last + (front ++ [last]).length := by
  have hle := parts_le hwhole hamount hsum.le
  have hlt := lt_parts_add amount hwhole hsum
  rw [parts_append, parts_cons, parts, parts, List.map_nil, List.sum_nil, add_zero] at hle hlt
  rw [parts]
  constructor <;> omega

end Apportionment

end Soroban
