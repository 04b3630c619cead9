import Mathlib.Logic.Basic

/-!
# Things that one holder at a time may lock

Holders take things and release them; a flag beside each thing says whether it is
taken. Two holders never have one thing, and it is locked exactly if it is held, as long
as holders take free things only and the flag changes with them.
-/

namespace Soroban

variable {A H : Type}

/-- Nothing has two holders, and what is locked is what has one. -/
structure Exclusion (holds : A → H → Prop) (locked : A → Prop) : Prop where
  one : ∀ a h h', holds a h → holds a h' → h = h'
  locks : ∀ a h, holds a h → locked a
  held : ∀ a, locked a → ∃ h, holds a h

namespace Exclusion

variable {holds holds' : A → H → Prop} {locked locked' : A → Prop} {a : A} {h : H}

theorem congr (he : Exclusion holds locked) (hholds : ∀ b x, holds' b x ↔ holds b x)
    (hlocked : ∀ b, locked' b ↔ locked b) : Exclusion holds' locked' where
  one b x y hx hy := he.one b x y ((hholds b x).mp hx) ((hholds b y).mp hy)
  locks b x hx := (hlocked b).mpr (he.locks b x ((hholds b x).mp hx))
  held b hb := by
    obtain ⟨x, hx⟩ := he.held b ((hlocked b).mp hb)
    exact ⟨x, (hholds b x).mpr hx⟩

/-- A free thing is taken. -/
theorem take (he : Exclusion holds locked) (hfree : ¬ locked a)
    (hholds : ∀ b x, holds' b x ↔ holds b x ∨ (b = a ∧ x = h))
    (hlocked : ∀ b, locked' b ↔ locked b ∨ b = a) : Exclusion holds' locked' where
  one b x y hx hy := by
    rcases (hholds b x).mp hx with hx | ⟨rfl, rfl⟩
    · rcases (hholds b y).mp hy with hy | ⟨rfl, rfl⟩
      · exact he.one b x y hx hy
      · exact absurd (he.locks b x hx) hfree
    · rcases (hholds b y).mp hy with hy | ⟨-, rfl⟩
      · exact absurd (he.locks b y hy) hfree
      · rfl
  locks b x hx := by
    rw [hlocked b]
    exact ((hholds b x).mp hx).imp (he.locks b x) And.left
  held b hb := by
    rcases (hlocked b).mp hb with hb | rfl
    · obtain ⟨x, hx⟩ := he.held b hb
      exact ⟨x, (hholds b x).mpr (.inl hx)⟩
    · exact ⟨h, (hholds b h).mpr (.inr ⟨rfl, rfl⟩)⟩

/-- A thing is released by its holder. -/
theorem release (he : Exclusion holds locked) (hheld : holds a h)
    (hholds : ∀ b x, holds' b x ↔ holds b x ∧ x ≠ h)
    (hlocked : ∀ b, locked' b ↔ locked b ∧ b ≠ a) (honly : ∀ b, holds b h → b = a) :
    Exclusion holds' locked' where
  one b x y hx hy := he.one b x y ((hholds b x).mp hx).1 ((hholds b y).mp hy).1
  locks b x hx := by
    obtain ⟨hx, hne⟩ := (hholds b x).mp hx
    refine (hlocked b).mpr ⟨he.locks b x hx, ?_⟩
    rintro rfl
    exact hne (he.one b x h hx hheld)
  held b hb := by
    obtain ⟨hb, hne⟩ := (hlocked b).mp hb
    obtain ⟨x, hx⟩ := he.held b hb
    refine ⟨x, (hholds b x).mpr ⟨hx, ?_⟩⟩
    rintro rfl
    exact hne (honly b hx)

end Exclusion

end Soroban
