import StellAIverse.Soroban.Token

/-!
# Tokens with allowances

A contract that collects payments when they fall due draws on an allowance that
the payer gave it before.
-/

namespace Soroban

/-- Token contracts with `allowance` and `transfer_from`. -/
structure AllowanceToken (τ : Type) extends Token τ where
  /-- What the spender may draw: token, owner, spender. -/
  allowance : τ → Address → Address → Address → ℤ
  /-- Token, spender, source, target and amount. -/
  transferFrom : τ → Address → Address → Address → Address → ℤ → Option τ

namespace AllowanceToken

variable {τ : Type} (tok : AllowanceToken τ)

/-- `TokenClient::transfer_from`; a refusal traps the caller. -/
def draw (t : τ) (token spender source target : Address) (amount : ℤ) : Result τ :=
  okOr (tok.transferFrom t token spender source target amount) .callFailed

end AllowanceToken

/-- What owners allowed spenders to draw, for each token. -/
abbrev Approvals := Store (Address × Address × Address) ℤ

/-- The asset contract with approvals. -/
def approvedAsset : AllowanceToken (Balances × Approvals) where
  balance t := asset.balance t.1
  transfer t token source target n := (asset.transfer t.1 token source target n).map (·, t.2)
  allowance t token owner spender := t.2.amount (token, owner, spender)
  transferFrom t token spender source target n :=
    let left := t.2.amount (token, source, spender) - n
    if 0 ≤ left then
      (asset.transfer t.1 token source target n).map (·, t.2.set (token, source, spender) left)
    else none

end Soroban
