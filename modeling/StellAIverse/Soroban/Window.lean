import Mathlib.Data.List.Pairwise
import Mathlib.Order.Lattice

/-!
# Pruned logs

A limiter counts the marks of a log that are not older than a cutoff, and each
new mark prunes the log with a cutoff of its own. Counting in what is left
agrees with counting in the whole log as long as nothing was dropped that the
present cutoff still admits.
-/

namespace Soroban

variable {μ T : Type} [LinearOrder T] (time cutoff : μ → T)

/-- What is left of a log, the latest mark first. -/
def survivors : List μ → List μ
  | [] => []
  | m :: log => m :: (survivors log).filter fun x => cutoff m ≤ time x

/-- No mark that is not older than `now` fell to the cutoff of a later one. -/
def Intact (now : T) (log : List μ) : Prop :=
  log.Pairwise fun later earlier => now ≤ time earlier → cutoff later ≤ time earlier

instance (now : T) (log : List μ) : Decidable (Intact time cutoff now log) :=
  inferInstanceAs (Decidable (List.Pairwise _ log))

variable {time cutoff} {now : T} {log : List μ}

theorem mem_of_mem_survivors {x : μ} (h : x ∈ survivors time cutoff log) : x ∈ log := by
  induction log with
  | nil => exact h
  | cons m log ih =>
    rcases List.mem_cons.mp h with rfl | hx
    · exact List.mem_cons_self
    · exact List.mem_cons_of_mem m (ih (List.mem_filter.mp hx).1)

/-- Cutoffs that do not exceed the present one dropped nothing it admits. -/
theorem intact_of_cutoff_le (h : ∀ m ∈ log, cutoff m ≤ now) : Intact time cutoff now log := by
  induction log with
  | nil => exact List.Pairwise.nil
  | cons m log ih =>
    refine List.Pairwise.cons (fun x _ hx => le_trans (h m List.mem_cons_self) hx) ?_
    exact ih fun x hx => h x (List.mem_cons_of_mem m hx)

theorem Intact.filter (h : Intact time cutoff now log) (p : μ → Bool) :
    Intact time cutoff now (log.filter p) :=
  List.Pairwise.filter p h

/-- What the present cutoff admits is still there. -/
theorem Intact.countP_survivors (h : Intact time cutoff now log) :
    (survivors time cutoff log).countP (fun x => now ≤ time x) =
      log.countP fun x => now ≤ time x := by
  induction log with
  | nil => rfl
  | cons m log ih =>
    obtain ⟨hm, hlog⟩ := List.pairwise_cons.mp h
    have hkept : ((survivors time cutoff log).filter fun x => cutoff m ≤ time x).countP
        (fun x => now ≤ time x) = (survivors time cutoff log).countP fun x => now ≤ time x := by
      rw [List.countP_filter]
      refine List.countP_congr fun x hx => ?_
      have hx' := hm x (mem_of_mem_survivors hx)
      simp only [Bool.and_eq_true, decide_eq_true_eq]
      exact ⟨And.left, fun hnow => ⟨hnow, hx' hnow⟩⟩
    simp only [survivors, List.countP_cons]
    rw [hkept, ih hlog]

end Soroban
