import StellAIverse.Soroban.History
import StellAIverse.Soroban.Token

/-!
# What a contract is given

A contract's account also receives tokens that none of its calls books: what is
there when it is deployed, and what others send to it later. Laws about an
account hold up to these donations, which are read off the log of a run.
-/

namespace Soroban

variable {τ σ α : Type}

/-- How the states of a contract carry the token state, and which of its actions are
transfers made elsewhere. -/
structure Accounts (τ σ α : Type) where
  tokens : σ → τ
  elsewhere : α → Option τ

namespace Accounts

variable (acc : Accounts τ σ α) (tok : Token τ) (holder : Address)

/-- What one action gave the holder without being one of its calls. -/
def donated (t : Address) (e : σ × α) : ℤ :=
  match acc.elsewhere e.2 with
  | some tokens => tok.balance tokens t holder - tok.balance (acc.tokens e.1) t holder
  | none => 0

/-- What the holder had at the start and was given since. -/
def donations (start : σ) (log : List (σ × α)) (t : Address) : ℤ :=
  tok.balance (acc.tokens start) t holder + (log.map (acc.donated tok holder t)).sum

/-- Transfers made elsewhere do not spend what the holder has. -/
def Spares (s : σ) (a : α) : Prop :=
  ∀ tokens, acc.elsewhere a = some tokens →
    ∀ t, tok.balance (acc.tokens s) t holder ≤ tok.balance tokens t holder

variable {acc tok holder}

theorem donations_cons (start : σ) (e : σ × α) (log : List (σ × α)) (t : Address) :
    acc.donations tok holder start (e :: log) t =
      acc.donations tok holder start log t + acc.donated tok holder t e := by
  simp only [donations, List.map_cons, List.sum_cons]
  ring

theorem Spares.donated_nonneg {s : σ} {a : α} (h : acc.Spares tok holder s a) (t : Address) :
    0 ≤ acc.donated tok holder t (s, a) := by
  unfold donated
  cases he : acc.elsewhere a with
  | none => exact le_rfl
  | some tokens => exact sub_nonneg.mpr (h tokens he t)

theorem donations_nonneg (hex : tok.Exact) {next : α → σ → Result σ}
    {ok : List (σ × α) → σ → α → Prop} {start s : σ} {log : List (σ × α)}
    (h : History next ok start log s)
    (hok : ∀ log s a, ok log s a → acc.Spares tok holder s a) (t : Address) :
    0 ≤ acc.donations tok holder start log t := by
  refine h.preserves (P := fun log _ => 0 ≤ acc.donations tok holder start log t) ?_ ?_
  · simpa [donations] using hex.nonneg (acc.tokens start) t holder
  · intro log s a s' ha _ hlog
    rw [donations_cons]
    exact add_nonneg hlog ((hok log s a ha).donated_nonneg t)

end Accounts

end Soroban
