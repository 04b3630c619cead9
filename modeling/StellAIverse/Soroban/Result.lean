import Mathlib.Tactic.Ring
import Mathlib.Tactic.Linarith

/-!
# Results of contract calls

A call either completes with a value or traps. A trap rolls the whole
transaction back, so no state accompanies it. Integers are unbounded here and
every machine operation checks the range of its result, which is what a build
with overflow checks does.
-/

namespace Soroban

/-- Why a call trapped. -/
inductive Fault where
  | panic : String → Fault
  | overflow : Fault
  | divisionByZero : Fault
  | unauthorized : Fault
  | callFailed : Fault
  /-- An error code that the contract returned. -/
  | contract : ℕ → Fault
  deriving DecidableEq, Repr

abbrev Result (α : Type) := Except Fault α

variable {α β : Type}

theorem bind_ok {x : Result α} {f : α → Result β} {r : β} :
    (x >>= f) = .ok r ↔ ∃ a, x = .ok a ∧ f a = .ok r := by
  cases x with
  | error e => simp [bind, Except.bind]
  | ok a => simp [bind, Except.bind]

@[simp] theorem ok_bind (a : α) (f : α → Result β) : ((.ok a : Result α) >>= f) = f a := rfl

/-- Two continuations that agree on what the call can return. -/
theorem bind_congr_ok {x : Result α} {f g : α → Result β} (h : ∀ a, x = .ok a → f a = g a) :
    (x >>= f) = (x >>= g) := by
  cases x with
  | error e => rfl
  | ok a => exact h a rfl

theorem map_ok {f : α → β} {x : Result α} {r : β} :
    x.map f = .ok r ↔ ∃ a, x = .ok a ∧ f a = r := by
  cases x <;> simp [Except.map]

theorem map_error {f : α → β} {x : Result α} {e : Fault} : x.map f = .error e ↔ x = .error e := by
  cases x <;> simp [Except.map]

/-- `if c { panic!(message) }`. -/
def panicIf (c : Prop) [Decidable c] (message : String) : Result Unit :=
  if c then .error (.panic message) else .ok ()

theorem panicIf_of_not {c : Prop} [Decidable c] {message : String} (h : ¬ c) :
    panicIf c message = .ok () :=
  if_neg h

theorem panicIf_ok {c : Prop} [Decidable c] {message : String} {u : Unit}
    (h : panicIf c message = .ok u) : ¬ c := by
  intro hc
  rw [panicIf, if_pos hc] at h
  cases h

theorem panicIf_bind {c : Prop} [Decidable c] {message : String} {f : Unit → Result β} {r : β} :
    (panicIf c message >>= f) = .ok r ↔ ¬ c ∧ f () = .ok r := by
  by_cases h : c <;> simp [panicIf, h, bind, Except.bind]

/-- `x.expect(message)`; `unwrap` is the same with a message of its own. -/
def expect (x : Option α) (message : String) : Result α :=
  match x with
  | some a => .ok a
  | none => .error (.panic message)

theorem expect_ok {x : Option α} {message : String} {a : α} :
    expect x message = .ok a ↔ x = some a := by
  cases x <;> simp [expect]

theorem expect_bind {x : Option α} {message : String} {f : α → Result β} {r : β} :
    (expect x message >>= f) = .ok r ↔ ∃ a, x = some a ∧ f a = .ok r := by
  simp [bind_ok, expect_ok]

def unwrap (x : Option α) : Result α := expect x "called `Option::unwrap()` on a `None` value"

theorem unwrap_bind {x : Option α} {f : α → Result β} {r : β} :
    (unwrap x >>= f) = .ok r ↔ ∃ a, x = some a ∧ f a = .ok r :=
  expect_bind

/-- `if c { return Err(e) }`. -/
def failIf (c : Prop) [Decidable c] (e : Fault) : Result Unit :=
  if c then .error e else .ok ()

theorem failIf_bind {c : Prop} [Decidable c] {e : Fault} {f : Unit → Result β} {r : β} :
    (failIf c e >>= f) = .ok r ↔ ¬ c ∧ f () = .ok r := by
  by_cases h : c <;> simp [failIf, h, bind, Except.bind]

/-- `x.ok_or(e)?`. -/
def okOr (x : Option α) (e : Fault) : Result α :=
  match x with
  | some a => .ok a
  | none => .error e

theorem okOr_bind {x : Option α} {e : Fault} {f : α → Result β} {r : β} :
    (okOr x e >>= f) = .ok r ↔ ∃ a, x = some a ∧ f a = .ok r := by
  cases x <;> simp [okOr, bind, Except.bind]

/-- The call does not trap with `e`. -/
def Avoids (e : Fault) (x : Result α) : Prop := x ≠ .error e

section Avoids

variable {e : Fault}

theorem Avoids.bind {x : Result α} {f : α → Result β} (hx : Avoids e x)
    (hf : ∀ a, x = .ok a → Avoids e (f a)) : Avoids e (x >>= f) := by
  cases x with
  | error e' => exact fun h => hx (congrArg _ (Except.error.inj h))
  | ok a => exact hf a rfl

theorem avoids_ok (a : α) : Avoids e (.ok a : Result α) := by simp [Avoids]

theorem error_avoids {e' : Fault} (he : e ≠ e') : Avoids e (.error e' : Result α) :=
  fun h => he (Except.error.inj h).symm

theorem panicIf_avoids {c : Prop} [Decidable c] {message : String} (he : e ≠ .panic message) :
    Avoids e (panicIf c message) := by
  unfold Avoids panicIf
  split <;> simp [he.symm]

theorem expect_avoids {x : Option α} {message : String} (he : e ≠ .panic message) :
    Avoids e (expect x message) := by
  cases x <;> simp [Avoids, expect, he.symm]

theorem failIf_avoids {c : Prop} [Decidable c] {e' : Fault} (he : e ≠ e') :
    Avoids e (failIf c e') := by
  unfold failIf
  split
  · exact error_avoids he
  · exact avoids_ok _

theorem failIf_avoids_of_not {c : Prop} [Decidable c] {e' : Fault} (hc : ¬ c) :
    Avoids e (failIf c e') := by
  unfold failIf
  rw [if_neg hc]
  exact avoids_ok _

theorem okOr_avoids {x : Option α} {e' : Fault} (he : e ≠ e') : Avoids e (okOr x e') := by
  cases x with
  | none => exact error_avoids he
  | some a => exact avoids_ok a

theorem Avoids.map {x : Result α} {f : α → β} (hx : Avoids e x) : Avoids e (x.map f) := by
  cases x with
  | error e' => exact fun h => hx (congrArg _ (Except.error.inj h))
  | ok a => exact avoids_ok _

end Avoids

namespace I128

def min : ℤ := -2 ^ 127

def max : ℤ := 2 ^ 127 - 1

def InRange (n : ℤ) : Prop := min ≤ n ∧ n ≤ max

instance (n : ℤ) : Decidable (InRange n) := inferInstanceAs (Decidable (_ ∧ _))

theorem inRange_zero : InRange 0 := by decide

/-- What lies between zero and a value that fits, fits. -/
theorem InRange.of_le {n m : ℤ} (hm : InRange m) (hn : 0 ≤ n) (hle : n ≤ m) : InRange n :=
  ⟨inRange_zero.1.trans hn, hle.trans hm.2⟩

/-- The value an operation produced, if it fits. -/
def fit (n : ℤ) : Result ℤ := if InRange n then .ok n else .error .overflow

def add (a b : ℤ) : Result ℤ := fit (a + b)

def sub (a b : ℤ) : Result ℤ := fit (a - b)

def mul (a b : ℤ) : Result ℤ := fit (a * b)

/-- Division truncates toward zero. -/
def div (a b : ℤ) : Result ℤ :=
  if b = 0 then .error .divisionByZero else fit (a.tdiv b)

/-- A `checked_` operation followed by `expect(message)`. -/
def checked (n : ℤ) (message : String) : Result ℤ :=
  if InRange n then .ok n else .error (.panic message)

def saturatingSub (a b : ℤ) : ℤ :=
  if a - b < min then min else if max < a - b then max else a - b

def saturatingMul (a b : ℤ) : ℤ :=
  if a * b < min then min else if max < a * b then max else a * b

theorem saturatingSub_of_inRange {a b : ℤ} (h : InRange (a - b)) : saturatingSub a b = a - b := by
  unfold saturatingSub
  rw [if_neg (not_lt.mpr h.1), if_neg (not_lt.mpr h.2)]

theorem fit_ok {n r : ℤ} : fit n = .ok r ↔ InRange n ∧ n = r := by
  by_cases h : InRange n <;> simp [fit, h]

theorem checked_ok {n r : ℤ} {message : String} :
    checked n message = .ok r ↔ InRange n ∧ n = r := by
  by_cases h : InRange n <;> simp [checked, h]

theorem checked_of_inRange {n : ℤ} {message : String} (h : InRange n) :
    checked n message = .ok n :=
  if_pos h

variable {a b r : ℤ} {f : ℤ → Result β} {t : β}

theorem div_ok : div a b = .ok r ↔ b ≠ 0 ∧ InRange (a.tdiv b) ∧ a.tdiv b = r := by
  by_cases h : b = 0 <;> simp [div, h, fit_ok]

theorem add_bind : (add a b >>= f) = .ok t ↔ InRange (a + b) ∧ f (a + b) = .ok t := by
  simp [bind_ok, add, fit_ok, and_assoc]

theorem sub_bind : (sub a b >>= f) = .ok t ↔ InRange (a - b) ∧ f (a - b) = .ok t := by
  simp [bind_ok, sub, fit_ok, and_assoc]

theorem mul_bind : (mul a b >>= f) = .ok t ↔ InRange (a * b) ∧ f (a * b) = .ok t := by
  simp [bind_ok, mul, fit_ok, and_assoc]

theorem div_bind : (div a b >>= f) = .ok t ↔
    b ≠ 0 ∧ InRange (a.tdiv b) ∧ f (a.tdiv b) = .ok t := by
  simp [bind_ok, div_ok, and_assoc]

theorem checked_bind {n : ℤ} {message : String} :
    (checked n message >>= f) = .ok t ↔ InRange n ∧ f n = .ok t := by
  simp [bind_ok, checked_ok, and_assoc]

theorem checked_avoids_of_inRange {e : Fault} {n : ℤ} {message : String} (hn : InRange n) :
    Avoids e (checked n message) := by
  rw [checked_of_inRange hn]
  exact avoids_ok n

theorem checked_avoids {e : Fault} {n : ℤ} {message : String} (he : e ≠ .panic message) :
    Avoids e (checked n message) := by
  unfold Avoids checked
  split <;> simp [he.symm]

theorem fit_avoids {e : Fault} {n : ℤ} (he : e ≠ .overflow) : Avoids e (fit n) := by
  unfold Avoids fit
  split <;> simp [he.symm]

theorem div_avoids {e : Fault} (hb : b ≠ 0) (he : e ≠ .overflow) : Avoids e (div a b) := by
  unfold div
  rw [if_neg hb]
  exact fit_avoids he

theorem div_avoids_of_ne {e : Fault} (h0 : e ≠ .divisionByZero) (he : e ≠ .overflow) :
    Avoids e (div a b) := by
  unfold div
  split
  · simpa [Avoids] using h0.symm
  · exact fit_avoids he

/-- On non-negative operands truncation is the floor. -/
theorem tdiv_mul_le {a b : ℤ} (ha : 0 ≤ a) (hb : 0 < b) : a.tdiv b * b ≤ a := by
  rw [Int.tdiv_eq_ediv_of_nonneg ha]
  exact Int.ediv_mul_le a (by omega)

theorem lt_tdiv_add_one_mul {a b : ℤ} (ha : 0 ≤ a) (hb : 0 < b) : a < (a.tdiv b + 1) * b := by
  rw [Int.tdiv_eq_ediv_of_nonneg ha]
  exact Int.lt_ediv_add_one_mul_self a hb

/-- A quotient by a positive number fits where its dividend does. -/
theorem inRange_tdiv {a b : ℤ} (h : InRange a) (hb : 0 < b) : InRange (a.tdiv b) := by
  obtain ⟨hmin, hmax⟩ := h
  rcases le_total 0 a with ha | ha
  · exact ⟨inRange_zero.1.trans (Int.tdiv_nonneg ha hb.le), (Int.tdiv_le_self b ha).trans hmax⟩
  · have hdiv := Int.tdiv_le_self b (neg_nonneg.mpr ha)
    have hneg := Int.tdiv_nonneg (neg_nonneg.mpr ha) hb.le
    rw [Int.neg_tdiv] at hdiv hneg
    exact ⟨by linarith, (by linarith : a.tdiv b ≤ 0).trans inRange_zero.2⟩

/-- Truncation is monotone in the quotient. -/
theorem tdiv_le_tdiv_of_cross {a b c d : ℤ} (hb : 0 < b) (hd : 0 < d) (h : a * d ≤ c * b) :
    a.tdiv b ≤ c.tdiv d := by
  -- Non-negative quotients round down on both sides; negative ones are mirrored.
  have floors : ∀ {a b c d : ℤ}, 0 ≤ a → 0 < b → 0 < d → a * d ≤ c * b →
      a.tdiv b ≤ c.tdiv d := by
    intro a b c d ha hb hd h
    have hc : 0 ≤ c := by
      by_contra hneg
      have := mul_neg_of_neg_of_pos (not_le.mp hneg) hb
      have := mul_nonneg ha hd.le
      omega
    have hlow := tdiv_mul_le ha hb
    have hhigh := lt_tdiv_add_one_mul hc hd
    have hscaled : a.tdiv b * d * b < (c.tdiv d + 1) * d * b := by nlinarith
    have hlt := lt_of_mul_lt_mul_right (lt_of_mul_lt_mul_right hscaled hb.le) hd.le
    omega
  rcases le_total 0 a with ha | ha
  · exact floors ha hb hd h
  · rcases le_total 0 c with hc | hc
    · have hneg : a.tdiv b ≤ 0 := by
        have := Int.tdiv_nonneg (neg_nonneg.mpr ha) hb.le
        rw [Int.neg_tdiv] at this
        omega
      exact hneg.trans (Int.tdiv_nonneg hc hd.le)
    · have hflip := floors (neg_nonneg.mpr hc) hd hb (by linarith : -c * b ≤ -a * d)
      rw [Int.neg_tdiv, Int.neg_tdiv] at hflip
      omega

/-- Rounding down twice takes at least as much as rounding down once. -/
theorem tdiv_add_le {a b n : ℤ} (ha : 0 ≤ a) (hb : 0 ≤ b) (hn : 0 < n) :
    a.tdiv n + b.tdiv n ≤ (a + b).tdiv n := by
  have hfa := tdiv_mul_le ha hn
  have hfb := tdiv_mul_le hb hn
  have hsum := lt_tdiv_add_one_mul (add_nonneg ha hb) hn
  have hlt : (a.tdiv n + b.tdiv n) * n < ((a + b).tdiv n + 1) * n := by linarith
  have := lt_of_mul_lt_mul_right hlt hn.le
  omega

end I128

namespace U64

def add (a b : ℕ) : Result ℕ := if a + b < 2 ^ 64 then .ok (a + b) else .error .overflow

theorem add_bind {a b : ℕ} {f : ℕ → Result β} {t : β} :
    (add a b >>= f) = .ok t ↔ a + b < 2 ^ 64 ∧ f (a + b) = .ok t := by
  unfold add
  split <;> simp_all [bind, Except.bind]

theorem add_of_lt {a b : ℕ} (h : a + b < 2 ^ 64) : add a b = .ok (a + b) := if_pos h

theorem add_avoids {e : Fault} {a b : ℕ} (he : e ≠ .overflow) : Avoids e (add a b) := by
  unfold add
  split
  · exact avoids_ok _
  · exact error_avoids he

def sub (a b : ℕ) : Result ℕ := if b ≤ a then .ok (a - b) else .error .overflow

theorem sub_ok {a b r : ℕ} : sub a b = .ok r ↔ b ≤ a ∧ a - b = r := by
  unfold sub
  split <;> simp [*]

theorem sub_avoids {e : Fault} {a b : ℕ} (he : e ≠ .overflow) : Avoids e (sub a b) := by
  unfold sub
  split
  · exact avoids_ok _
  · exact error_avoids he

theorem sub_bind {a b : ℕ} {f : ℕ → Result β} {t : β} :
    (sub a b >>= f) = .ok t ↔ b ≤ a ∧ f (a - b) = .ok t := by
  unfold sub
  split <;> simp_all [bind, Except.bind]

def mul (a b : ℕ) : Result ℕ := if a * b < 2 ^ 64 then .ok (a * b) else .error .overflow

theorem mul_bind {a b : ℕ} {f : ℕ → Result β} {t : β} :
    (mul a b >>= f) = .ok t ↔ a * b < 2 ^ 64 ∧ f (a * b) = .ok t := by
  unfold mul
  split <;> simp_all [bind, Except.bind]

def checked (n : ℕ) (message : String) : Result ℕ :=
  if n < 2 ^ 64 then .ok n else .error (.panic message)

theorem checked_ok {n r : ℕ} {message : String} :
    checked n message = .ok r ↔ n < 2 ^ 64 ∧ n = r := by
  unfold checked
  split <;> simp_all

theorem checked_bind {n : ℕ} {message : String} {f : ℕ → Result β} {t : β} :
    (checked n message >>= f) = .ok t ↔ n < 2 ^ 64 ∧ f n = .ok t := by
  unfold checked
  split <;> simp_all [bind, Except.bind]

/-- `a.checked_sub(b).expect(message)`. -/
def checkedSub (a b : ℕ) (message : String) : Result ℕ :=
  if b ≤ a then .ok (a - b) else .error (.panic message)

theorem checkedSub_bind {a b : ℕ} {message : String} {f : ℕ → Result β} {t : β} :
    (checkedSub a b message >>= f) = .ok t ↔ b ≤ a ∧ f (a - b) = .ok t := by
  unfold checkedSub
  split <;> simp_all [bind, Except.bind]

def max : ℕ := 2 ^ 64 - 1

def checkedAdd (a b : ℕ) : Option ℕ := if a + b < 2 ^ 64 then some (a + b) else none

def saturatingAdd (a b : ℕ) : ℕ := Nat.min (a + b) max

end U64

namespace U32

def max : ℤ := 2 ^ 32 - 1

/-- `n as u32`, which keeps the low bits. -/
def ofInt (n : ℤ) : ℕ := (n % 2 ^ 32).toNat

def add (a b : ℕ) : Result ℕ := if a + b < 2 ^ 32 then .ok (a + b) else .error .overflow

theorem add_bind {a b : ℕ} {f : ℕ → Result β} {t : β} :
    (add a b >>= f) = .ok t ↔ a + b < 2 ^ 32 ∧ f (a + b) = .ok t := by
  unfold add
  split <;> simp_all [bind, Except.bind]

theorem add_avoids {e : Fault} {a b : ℕ} (he : e ≠ .overflow) : Avoids e (add a b) := by
  unfold add
  split
  · exact avoids_ok _
  · exact error_avoids he

def checked (n : ℕ) (message : String) : Result ℕ :=
  if n < 2 ^ 32 then .ok n else .error (.panic message)

theorem checked_bind {n : ℕ} {message : String} {f : ℕ → Result β} {t : β} :
    (checked n message >>= f) = .ok t ↔ n < 2 ^ 32 ∧ f n = .ok t := by
  unfold checked
  split <;> simp_all [bind, Except.bind]

theorem checked_avoids {e : Fault} {n : ℕ} {message : String} (he : e ≠ .panic message) :
    Avoids e (checked n message) := by
  unfold Avoids checked
  split <;> simp [he.symm]

/-- `a.checked_sub(b).expect(message)`. -/
def checkedSub (a b : ℕ) (message : String) : Result ℕ :=
  if b ≤ a then .ok (a - b) else .error (.panic message)

theorem checkedSub_of_le {a b : ℕ} {message : String} (h : b ≤ a) :
    checkedSub a b message = .ok (a - b) :=
  if_pos h

theorem checkedSub_bind {a b : ℕ} {message : String} {f : ℕ → Result β} {t : β} :
    (checkedSub a b message >>= f) = .ok t ↔ b ≤ a ∧ f (a - b) = .ok t := by
  unfold checkedSub
  split <;> simp_all [bind, Except.bind]

end U32

namespace I32

/-- `n as i32`, which keeps the low bits and reads them as signed. -/
def ofInt (n : ℤ) : ℤ := (n + 2 ^ 31) % 2 ^ 32 - 2 ^ 31

def sub (a b : ℤ) : Result ℤ :=
  if -2 ^ 31 ≤ a - b ∧ a - b < 2 ^ 31 then .ok (a - b) else .error .overflow

end I32

end Soroban
