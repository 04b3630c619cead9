import StellAIverse.Soroban.Token

/-!
# Tokens that are minted and burned

A bridge brings tokens into being on one chain and takes them out of circulation
on another.
-/

namespace Soroban

/-- Token contracts with `mint` and `burn`: token, account and amount. -/
structure MintToken (τ : Type) extends Token τ where
  mint : τ → Address → Address → ℤ → Option τ
  burn : τ → Address → Address → ℤ → Option τ

namespace MintToken

variable {τ : Type} (tok : MintToken τ)

/-- `TokenClient::mint`; a refusal traps the caller. -/
def issue (t : τ) (token target : Address) (amount : ℤ) : Result τ :=
  okOr (tok.mint t token target amount) .callFailed

/-- `TokenClient::burn`. -/
def destroy (t : τ) (token source : Address) (amount : ℤ) : Result τ :=
  okOr (tok.burn t token source amount) .callFailed

/-- Transfers are exact, and a burn concerns the balance of its source alone. -/
structure Exact : Prop extends tok.toToken.Exact where
  burns : ∀ t token source n t', tok.burn t token source n = some t' → ∀ token' holder,
    tok.balance t' token' holder = tok.balance t token' holder
      - (if token' = token ∧ holder = source then n else 0)

variable {tok}

theorem Exact.burn_other (h : tok.Exact) {t t' : τ} {token source holder : Address} {n : ℤ}
    (ht : tok.burn t token source n = some t') (hne : source ≠ holder) (token' : Address) :
    tok.balance t' token' holder = tok.balance t token' holder := by
  rw [h.burns t token source n t' ht token' holder]
  simp [Ne.symm hne]

end MintToken

/-- The asset contract with an issuer. -/
def issuedAsset : MintToken Balances where
  toToken := asset
  mint t token target n :=
    if 0 ≤ n then some (t.give token target (t.of token target + n.toNat)) else none
  burn t token source n :=
    if 0 ≤ n ∧ n.toNat ≤ t.of token source then
      some (t.give token source (t.of token source - n.toNat))
    else none

theorem issuedAsset_exact : issuedAsset.Exact where
  toExact := asset_exact
  burns t token source n t' h token' holder := by
    simp only [issuedAsset] at h
    split at h
    · rename_i hcovered
      cases h
      simp only [issuedAsset, asset, Balances.of_give]
      by_cases hk : token' = token ∧ holder = source
      · obtain ⟨rfl, rfl⟩ := hk
        simp
        omega
      · simp [hk]
    · cases h

end Soroban
