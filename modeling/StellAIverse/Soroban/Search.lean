import StellAIverse.Soroban.Result

/-!
# Searching with a running best

A loop asks for a candidate at every place and keeps the first of the best ones. A place that
traps ends the search without a result.
-/

namespace Soroban

namespace Search

variable {ι α : Type} (value : α → ℤ)

/-- The running best and its value; a candidate replaces it if it is worth strictly more. -/
def keep (best : Option α × ℤ) (candidate : Option α) : Option α × ℤ :=
  match candidate with
  | some a => if value a > best.2 then (some a, value a) else best
  | none => best

def scan (propose : ι → Result (Option α)) : List ι → Option α × ℤ → Result (Option α × ℤ)
  | [], best => .ok best
  | i :: rest, best => do
    let candidate ← propose i
    scan propose rest (keep value best candidate)

variable {value} {propose : ι → Result (Option α)} {places : List ι} {best best' : Option α × ℤ}

theorem le_keep (best : Option α × ℤ) (candidate : Option α) :
    best.2 ≤ (keep value best candidate).2 := by
  unfold keep
  cases candidate with
  | none => exact le_rfl
  | some a =>
    simp only
    split
    · rename_i hmore
      exact hmore.le
    · exact le_rfl

theorem value_le_keep (best : Option α × ℤ) {candidate : Option α} {a : α} (ha : candidate = some a) :
    value a ≤ (keep value best candidate).2 := by
  subst ha
  simp only [keep]
  split
  · exact le_rfl
  · rename_i hless
    exact not_lt.mp hless

theorem keep_eq (best : Option α × ℤ) (candidate : Option α) :
    keep value best candidate = best ∨
      ∃ a, candidate = some a ∧ keep value best candidate = (some a, value a) := by
  unfold keep
  cases candidate with
  | none => exact .inl rfl
  | some a =>
    simp only
    split
    · exact .inr ⟨a, rfl, rfl⟩
    · exact .inl rfl

/-- A search never gives up what it has. -/
theorem scan_mono (h : scan value propose places best = .ok best') : best.2 ≤ best'.2 := by
  induction places generalizing best with
  | nil =>
    cases h
    exact le_rfl
  | cons i rest ih =>
    obtain ⟨candidate, -, hrest⟩ := bind_ok.mp h
    exact (le_keep best candidate).trans (ih hrest)

/-- It has looked everywhere, and nothing it saw is worth more than what it found. -/
theorem scan_upper (h : scan value propose places best = .ok best') :
    ∀ i ∈ places, ∃ candidate, propose i = .ok candidate ∧
      ∀ a, candidate = some a → value a ≤ best'.2 := by
  induction places generalizing best with
  | nil => exact fun i hi => absurd hi List.not_mem_nil
  | cons i rest ih =>
    obtain ⟨candidate, hcandidate, hrest⟩ := bind_ok.mp h
    intro j hj
    rcases List.mem_cons.mp hj with rfl | hj
    · exact ⟨candidate, hcandidate, fun a ha => (value_le_keep best ha).trans (scan_mono hrest)⟩
    · exact ih hrest j hj

/-- What it found is what it began with, or was proposed somewhere. -/
theorem scan_attained (h : scan value propose places best = .ok best') :
    best' = best ∨ ∃ i ∈ places, ∃ a, propose i = .ok (some a) ∧ best' = (some a, value a) := by
  induction places generalizing best with
  | nil =>
    cases h
    exact .inl rfl
  | cons i rest ih =>
    obtain ⟨candidate, hcandidate, hrest⟩ := bind_ok.mp h
    rcases ih hrest with heq | ⟨j, hj, a, ha, heq⟩
    · rcases keep_eq best candidate with hold | ⟨a, ha, hnew⟩
      · exact .inl (heq.trans hold)
      · exact .inr ⟨i, List.mem_cons_self, a, ha ▸ hcandidate, heq.trans hnew⟩
    · exact .inr ⟨j, List.mem_cons_of_mem i hj, a, ha, heq⟩

theorem scan_avoids {e : Fault} (h : ∀ i ∈ places, Avoids e (propose i)) :
    Avoids e (scan value propose places best) := by
  induction places generalizing best with
  | nil => exact avoids_ok best
  | cons i rest ih =>
    exact (h i List.mem_cons_self).bind fun _ _ => ih fun j hj => h j (List.mem_cons_of_mem i hj)

end Search

end Soroban
