import StellAIverse.PortfolioManager.Ledger
import StellAIverse.Soroban.History

/-!
# Custody of the deposits

Deposits and withdrawals move as many tokens as they add to or take from the
assets of a portfolio. Rebalances, price updates and dividends change the assets
by numbers of the caller while no token moves, so the account covers the assets as
long as what they add is there beyond them; nothing in the contract asks for that.
-/

namespace PortfolioManager

open Soroban

variable {τ : Type} {tok : Token τ} {self : Address} {s s' : State τ} {a : Action τ}

/-- The assets of the portfolios with this deposit token. -/
def assetsIn (portfolios : Store ℕ Portfolio) (t : Address) : ℤ :=
  portfolios.total fun _ portfolio => if portfolio.depositToken = t then portfolio.totalAssets else 0

/-- Who pays or is paid in a call. -/
def Op.parties : Op → List Address
  | .deposit user _ _ | .withdraw user _ _ | .claimDividends user _ => [user]
  | _ => []

/-- The contract is no user of itself, and other transfers do not spend what it holds. -/
def Action.Outside (tok : Token τ) (self : Address) (s : State τ) : Action τ → Prop
  | .call _ op => self ∉ op.parties
  | .transfers tokens => ∀ t, tok.balance s.tokens t self ≤ tok.balance tokens t self

/-- What the account holds of a token beyond the assets of its portfolios. -/
def spare (tok : Token τ) (self : Address) (s : State τ) (t : Address) : ℤ :=
  tok.balance s.tokens t self - assetsIn s.portfolio t

/-- A rise of the assets of a portfolio is there in its deposit token. -/
def RiseHeld (tok : Token τ) (self : Address) (s : State τ) : Option (ℕ × ℤ) → Prop
  | some (portfolioId, rise) => ∀ portfolio ∈ s.portfolio.get? portfolioId,
      rise ≤ spare tok self s portfolio.depositToken
  | none => True

instance (tok : Token τ) (self : Address) (s : State τ) (rise : Option (ℕ × ℤ)) :
    Decidable (RiseHeld tok self s rise) :=
  match rise with
  | some (_, _) => inferInstanceAs (Decidable (∀ _ ∈ _, _ ≤ _))
  | none => .isTrue trivial

/-- What a call states to be added to the assets is held beyond them. -/
def Action.StatesHeld (tok : Token τ) (self : Address) (s : State τ) : Action τ → Prop
  | .call env op => RiseHeld tok self s (op.rise env s)
  | .transfers _ => True

instance (tok : Token τ) (self : Address) (s : State τ) : (a : Action τ) →
    Decidable (a.StatesHeld tok self s)
  | .call _ _ => inferInstanceAs (Decidable (RiseHeld ..))
  | .transfers _ => .isTrue trivial

/-- The account holds at least the assets of all portfolios. -/
def Backed (tok : Token τ) (self : Address) (s : State τ) : Prop :=
  ∀ t, assetsIn s.portfolio t ≤ tok.balance s.tokens t self

/-- A portfolio is written with the deposit token it had. -/
theorem assetsIn_set {portfolios : Store ℕ Portfolio} {id : ℕ} {portfolio portfolio' : Portfolio}
    (hfound : portfolios.get? id = some portfolio)
    (htoken : portfolio'.depositToken = portfolio.depositToken) (t : Address) :
    assetsIn (portfolios.set id portfolio') t = assetsIn portfolios t +
      if t = portfolio.depositToken then portfolio'.totalAssets - portfolio.totalAssets else 0 := by
  unfold assetsIn
  rw [Store.total_set, Store.weight_some hfound, htoken]
  by_cases ht : portfolio.depositToken = t
  · simp only [ht, if_true]
    ring
  · simp only [ht, Ne.symm ht, if_false]
    ring

theorem backed_step (hex : tok.Exact) (hbooked : Booked s) (ho : a.Outside tok self s)
    (hheld : a.StatesHeld tok self s) (h : Backed tok self s) (heffect : Effect tok self s a s') :
    Backed tok self s' := by
  intro t
  have ht := h t
  cases heffect with
  | transfers tokens => exact ht.trans (ho t)
  | configured | observed => exact ht
  | created env op settings accumulator valid =>
    have hnone : s.portfolio.get? (s.portfolioCounter.getD 0 + 1) = none := by
      by_contra hsome
      obtain ⟨p, hp⟩ := Option.ne_none_iff_exists'.mp hsome
      have := (hbooked.numbered _ p hp).2
      omega
    have hsame : assetsIn (s.portfolio.set (s.portfolioCounter.getD 0 + 1)
        (newPortfolio env.timestamp (s.portfolioCounter.getD 0 + 1) settings)) t =
        assetsIn s.portfolio t := by
      unfold assetsIn
      rw [Store.total_set, Store.weight_none hnone, sub_zero]
      split
      · exact add_zero _
      · exact add_zero _
    exact hsame.le.trans ht
  | deposited env user portfolioId amount shares portfolio pos ids tokens positive found paid =>
    have hin := hex.credit paid (notSelf ho) t
    rw [(hbooked.numbered portfolioId portfolio found).1]
    change assetsIn (s.portfolio.set portfolioId _) t ≤ tok.balance tokens t self
    rw [assetsIn_set found, hin]
    · split <;> linarith
    · rfl
  | withdrawn env user portfolioId shares gross portfolio old pos lock tokens found holds paid =>
    have hout := hex.spend paid (notSelf ho) t
    rw [(hbooked.numbered portfolioId portfolio found).1]
    change assetsIn (s.portfolio.set portfolioId _) t ≤ tok.balance tokens t self
    rw [assetsIn_set found, hout]
    · split <;> linarith
    · rfl
  | revalued env op portfolioId rise portfolio portfolio' positions _ _ _ _ _ found stated amends
      raised =>
    have hrise : rise ≤ spare tok self s portfolio.depositToken := by
      change RiseHeld tok self s (op.rise env s) at hheld
      rw [stated] at hheld
      exact hheld portfolio found
    unfold spare at hrise
    rw [(hbooked.numbered portfolioId portfolio found).1]
    change assetsIn (s.portfolio.set portfolioId portfolio') t ≤ tok.balance s.tokens t self
    rw [assetsIn_set found amends.depositToken, raised]
    split
    · rename_i htoken
      rw [← htoken] at hrise
      linarith
    · linarith
  | governed env op portfolioId portfolio portfolio' found amends same =>
    have hid : portfolio'.portfolioId = portfolioId :=
      amends.portfolioId.trans (hbooked.numbered portfolioId portfolio found).1
    rw [hid]
    change assetsIn (s.portfolio.set portfolioId portfolio') t ≤ tok.balance s.tokens t self
    rw [assetsIn_set found amends.depositToken, same]
    simpa using ht
  | retargeted env admin portfolioId newWeights portfolio positions found =>
    rw [(hbooked.numbered portfolioId portfolio found).1]
    change assetsIn (s.portfolio.set portfolioId _) t ≤ tok.balance s.tokens t self
    rw [assetsIn_set found]
    · simpa using ht
    · rfl
  | claimed env user portfolioId old pos lock tokens holds due =>
    have := (hbooked.members _ old holds).2
    omega

/-- What is paid for shares is no more than the assets. -/
theorem calculateAssetsForWithdrawal_le {shares totalAssets totalSupply gross : ℤ}
    (h : calculateAssetsForWithdrawal shares totalAssets totalSupply = .ok gross)
    (hshares : 0 < shares) (hle : shares ≤ totalSupply) (hgross : 0 < gross) :
    gross ≤ totalAssets := by
  unfold calculateAssetsForWithdrawal at h
  obtain ⟨-, h⟩ := I128.mul_bind.mp h
  obtain ⟨-, -, rfl⟩ := I128.div_ok.mp h
  have hsupply : 0 < totalSupply := hshares.trans_le hle
  have hassets : 0 ≤ totalAssets := by
    by_contra hneg
    have hproduct : 0 ≤ -(shares * totalAssets) := by nlinarith
    have := Int.tdiv_nonneg hproduct hsupply.le
    rw [Int.neg_tdiv] at this
    omega
  have hfloor := I128.tdiv_mul_le (mul_nonneg hshares.le hassets) hsupply
  have hscaled : (shares * totalAssets).tdiv totalSupply * totalSupply ≤
      totalAssets * totalSupply := by
    nlinarith
  exact le_of_mul_le_mul_right hscaled hsupply

/-- In every run in which what rebalances, price updates and dividends add to the assets of a
portfolio is held beyond the assets of all, the account covers the assets in every token, and
shares of a portfolio are redeemed out of what the others leave. -/
theorem portfolios_backed (hex : tok.Exact) {tokens : τ} {log : List (State τ × Action τ)}
    (hrun : History (next tok self)
      (fun _ s a => a.Outside tok self s ∧ a.StatesHeld tok self s) (deployed tokens) log s) :
    (∀ t, assetsIn s.portfolio t ≤ tok.balance s.tokens t self) ∧
    ∀ id portfolio shares gross, s.portfolio.get? id = some portfolio → 0 < shares →
      shares ≤ portfolio.totalSupply →
      calculateAssetsForWithdrawal shares portfolio.totalAssets portfolio.totalSupply = .ok gross →
      0 < gross → gross ≤ tok.balance s.tokens portfolio.depositToken self -
        assetsIn (s.portfolio.remove id) portfolio.depositToken := by
  have hheld : Booked s ∧ Backed tok self s := by
    refine hrun.preserves (P := fun _ s => Booked s ∧ Backed tok self s)
      ⟨booked_deployed tokens, fun t => hex.nonneg tokens t self⟩ ?_
    rintro log s a s' ⟨ho, hstates⟩ hn ⟨hbooked, hbacked⟩
    have heffect := next_effect hn
    exact ⟨booked_step hbooked heffect, backed_step hex hbooked ho hstates hbacked heffect⟩
  obtain ⟨-, hbacked⟩ := hheld
  refine ⟨hbacked, ?_⟩
  intro id portfolio shares gross hfound hshares hle hpays hgross
  have hassets := calculateAssetsForWithdrawal_le hpays hshares hle hgross
  have hall := hbacked portfolio.depositToken
  have hothers : assetsIn (s.portfolio.remove id) portfolio.depositToken =
      assetsIn s.portfolio portfolio.depositToken - portfolio.totalAssets := by
    unfold assetsIn
    rw [Store.total_remove, Store.weight_some hfound, if_pos rfl]
  rw [hothers]
  linarith

section Runs

open Sample

/-- Two portfolios share the account; the assets of one fall and recover with a dividend that was
paid in before. -/
def aQuarter : List (ℕ × Op) := opening ++ [
  (1, .forkPortfolio bob 1 "fork" none none),
  (1, .deposit bob 2 300),
  (2592000, .rebalance mallory 1 [] [] [150, 150, 200]),
  (2592001, .collectDividends admin 1 [(silver, 100)]),
  (2592002, .withdraw alice 1 300)]

theorem portfolios_backed_aQuarter :
    ∃ s log, History (next asset contract)
        (fun _ s a => a.Outside asset contract s ∧ a.StatesHeld asset contract s) start log s ∧
      assetsIn s.portfolio usdc = 600 ∧
      assetsIn s.portfolio usdc ≤ asset.balance s.tokens usdc contract := by
  have h : After (fun h => assetsIn h.2.portfolio usdc = 600)
      (record (next asset contract) (fun _ s a => a.StatesHeld asset contract s) (calls aQuarter)
        ([], start)) := by
    decide +kernel
  obtain ⟨⟨log, s⟩, hrec, hassets⟩ := h.exists_ok
  have hparties : ∀ e ∈ aQuarter, contract ∉ e.2.parties := by decide
  have hrun : History (next asset contract)
      (fun _ s a => a.Outside asset contract s ∧ a.StatesHeld asset contract s) start log s :=
    record_map_history hrec fun e he _ _ hstates => ⟨hparties e he, hstates⟩
  exact ⟨s, log, hrun, hassets, (portfolios_backed asset_exact hrun).1 usdc⟩

/-- Bob's deposit in the other portfolio pays for what Mallory states about the first. -/
def raid : List (ℕ × Op) := [
  (0, .initializeContract admin),
  (0, .createEqualWeight mallory "mine" usdc oracle [gold] .monthly),
  (0, .createEqualWeight bob "yours" usdc oracle [gold] .monthly),
  (0, .deposit mallory 1 10),
  (0, .deposit bob 2 300),
  (2592000, .rebalance mallory 1 [] [] [310])]

/-- A rebalance by anybody states assets that are not there. -/
theorem rebalance_states_unheld :
    ¬ ∀ s log, History (next asset contract) (fun _ s a => a.Outside asset contract s) start log s →
      ∀ t, assetsIn s.portfolio t ≤ asset.balance s.tokens t contract := by
  intro hall
  have h : After (fun h => assetsIn h.2.portfolio usdc = 610 ∧
        asset.balance h.2.tokens usdc contract = 310)
      (record (next asset contract) (fun _ _ _ => True) (calls raid) ([], start)) := by
    decide +kernel
  obtain ⟨⟨log, s⟩, hrec, hassets, hheld⟩ := h.exists_ok
  have hparties : ∀ e ∈ raid, contract ∉ e.2.parties := by decide
  have hrun : History (next asset contract) (fun _ s a => a.Outside asset contract s) start log s :=
    record_map_history hrec fun e he _ _ _ => hparties e he
  have hle := hall s log hrun usdc
  simp only [hassets, hheld] at hle
  omega

end Runs

end PortfolioManager
