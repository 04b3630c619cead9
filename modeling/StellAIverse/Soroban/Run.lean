import Mathlib.Logic.Relation
import StellAIverse.Soroban.Result

/-!
# Runs of a contract

A contract is a function from invocations to state changes. Only completed
invocations change the state, so a run is a chain of completed ones. `ok`
restricts the invocations a run may use; a law about all runs takes it to be
the trivial restriction.
-/

namespace Soroban

variable {σ α : Type}

/-- One completed invocation that the restriction admits. -/
def Step (next : α → σ → Result σ) (ok : σ → α → Prop) (s s' : σ) : Prop :=
  ∃ a, ok s a ∧ next a s = .ok s'

/-- Any finite number of completed, admitted invocations. -/
def Steps (next : α → σ → Result σ) (ok : σ → α → Prop) : σ → σ → Prop :=
  Relation.ReflTransGen (Step next ok)

namespace Steps

variable {next : α → σ → Result σ} {ok ok' : σ → α → Prop} {s s' s'' : σ}

theorem refl (s : σ) : Steps next ok s s := Relation.ReflTransGen.refl

theorem trans (h : Steps next ok s s') (h' : Steps next ok s' s'') : Steps next ok s s'' :=
  Relation.ReflTransGen.trans h h'

theorem tail {a : α} (h : Steps next ok s s') (ha : ok s' a) (hn : next a s' = .ok s'') :
    Steps next ok s s'' :=
  Relation.ReflTransGen.tail h ⟨a, ha, hn⟩

theorem mono (h : Steps next ok s s') (hok : ∀ s a, ok s a → ok' s a) : Steps next ok' s s' :=
  Relation.ReflTransGen.mono (fun _ _ ⟨a, ha, hn⟩ => ⟨a, hok _ _ ha, hn⟩) s s' h

/-- What every admitted invocation preserves, every run preserves. -/
theorem preserves {P : σ → Prop}
    (step : ∀ s a s', ok s a → next a s = .ok s' → P s → P s')
    (h : Steps next ok s s') (hs : P s) : P s' := by
  induction h with
  | refl => exact hs
  | tail _ hstep ih =>
    obtain ⟨a, ha, hn⟩ := hstep
    exact step _ a _ ha hn ih

end Steps

/-- Execute a list of invocations, stopping at the first trap. -/
def execute (next : α → σ → Result σ) : List α → σ → Result σ
  | [], s => .ok s
  | a :: rest, s => next a s >>= execute next rest

theorem execute_steps {next : α → σ → Result σ} {ok : σ → α → Prop} (calls : List α)
    (hok : ∀ a ∈ calls, ∀ s, ok s a) {s s' : σ} (h : execute next calls s = .ok s') :
    Steps next ok s s' := by
  induction calls generalizing s with
  | nil =>
    cases h
    exact Steps.refl _
  | cons a rest ih =>
    obtain ⟨t, ht, hrest⟩ := bind_ok.mp h
    have htail := ih (fun b hb => hok b (List.mem_cons_of_mem a hb)) hrest
    exact Steps.trans (Steps.tail (.refl s) (hok a List.mem_cons_self s) ht) htail

/-- The call completed in a state, or with a value, of this kind. -/
def After (P : α → Prop) : Result α → Prop
  | .ok a => P a
  | .error _ => False

instance (P : α → Prop) [DecidablePred P] (r : Result α) : Decidable (After P r) :=
  match r with
  | .ok a => inferInstanceAs (Decidable (P a))
  | .error _ => inferInstanceAs (Decidable False)

theorem After.exists_ok {P : α → Prop} {r : Result α} (h : After P r) : ∃ a, r = .ok a ∧ P a := by
  cases r with
  | error e => exact False.elim h
  | ok a => exact ⟨a, rfl, h⟩

end Soroban
