import Mathlib.Data.Set.Defs
import Mathlib.Logic.Function.Iterate

/-!
# Delegated authority

Every role is administered by a role. Whoever holds the administering role says
who holds the role and which role administers it from then on. A coalition can
therefore reach a role from any role above it, and from nowhere else.
-/

namespace Soroban

structure Hierarchy (ρ α : Type) where
  holds : ρ → α → Prop
  admin : ρ → ρ

namespace Hierarchy

variable {ρ α : Type} {h₀ h h' : Hierarchy ρ α} {A : Set α} {r : ρ}

/-- A member of the coalition holds a role above this one. -/
def Rules (h : Hierarchy ρ α) (A : Set α) (r : ρ) : Prop :=
  ∃ n, ∃ a ∈ A, h.holds (h.admin^[n] (h.admin r)) a

/-- The same holders and the same administration. -/
def Same (h h' : Hierarchy ρ α) (r : ρ) : Prop :=
  (∀ a, h'.holds r a ↔ h.holds r a) ∧ h'.admin r = h.admin r

theorem Same.refl (h : Hierarchy ρ α) (r : ρ) : Same h h r := ⟨fun _ => Iff.rfl, rfl⟩

theorem Same.trans {h'' : Hierarchy ρ α} (hs : Same h h' r) (hs' : Same h' h'' r) :
    Same h h'' r :=
  ⟨fun a => (hs'.1 a).trans (hs.1 a), hs'.2.trans hs.2⟩

/-- A member changes a role it administers, and no other role. -/
def Act (A : Set α) (h h' : Hierarchy ρ α) : Prop :=
  ∃ q, (∃ a ∈ A, h.holds (h.admin q) a) ∧ ∀ r, r ≠ q → Same h h' r

/-- The role and everything that was above it are as they were. -/
def Frozen (h₀ h : Hierarchy ρ α) (r : ρ) : Prop := ∀ n, Same h₀ h (h₀.admin^[n] r)

theorem Frozen.refl (h : Hierarchy ρ α) (r : ρ) : Frozen h h r := fun _ => Same.refl h _

theorem Frozen.same (hf : Frozen h₀ h r) : Same h₀ h r := hf 0

/-- Each act of a coalition that rules no role above leaves them all alone. -/
theorem Frozen.act (hr : ¬ Rules h₀ A r) (hf : Frozen h₀ h r) (hact : Act A h h') :
    Frozen h₀ h' r := by
  obtain ⟨q, ⟨a, ha, hholds⟩, hsame⟩ := hact
  intro n
  have hne : h₀.admin^[n] r ≠ q := by
    intro hq
    apply hr
    refine ⟨n, a, ha, ?_⟩
    rw [← hq, (hf n).2, ← Function.iterate_succ_apply' h₀.admin n r] at hholds
    rw [← Function.iterate_succ_apply h₀.admin n r]
    exact ((hf (n + 1)).1 a).mp hholds
  exact (hf n).trans (hsame _ hne)

/-- One more holder. -/
def grant (h : Hierarchy ρ α) (q : ρ) (a : α) : Hierarchy ρ α :=
  { h with holds := fun r b => h.holds r b ∨ (r = q ∧ b = a) }

/-- Granting itself one role after the other, a member comes to administer the role below. -/
theorem climb {P : Hierarchy ρ α → Prop}
    (step : ∀ h q a, P h → a ∈ A → h.holds (h.admin q) a → P (h.grant q a))
    (hr : Rules h A r) (hP : P h) :
    ∃ h', P h' ∧ h'.admin = h.admin ∧ ∃ a ∈ A, h'.holds (h'.admin r) a := by
  obtain ⟨n, a, ha, hholds⟩ := hr
  induction n generalizing h with
  | zero => exact ⟨h, hP, rfl, a, ha, hholds⟩
  | succ n ih =>
    rw [Function.iterate_succ_apply'] at hholds
    have hnext := step h _ a hP ha hholds
    have hbelow : (h.grant (h.admin^[n] (h.admin r)) a).holds (h.admin^[n] (h.admin r)) a :=
      .inr ⟨rfl, rfl⟩
    have hclimbed := ih hnext hbelow
    exact hclimbed

end Hierarchy

end Soroban
