import Mathlib.Logic.Relation
import StellAIverse.FeeDistribution.Contract

/-!
# What each call does

Every completed invocation is one of the effects below, with the guards it
passed. A distribution is a chain of allotments to categories, and single and
batch claims are chains of claims of one recipient.
-/

namespace FeeDistribution

open Soroban

variable {τ : Type}

def RecipientCategory.allotted (c : RecipientCategory) (amount : ℤ) : RecipientCategory :=
  { c with totalAllocated := c.totalAllocated + amount }

def RecipientCategory.paidOut (c : RecipientCategory) : RecipientCategory :=
  { c with totalClaimed := c.totalAllocated }

/-- The listed amounts, credited to the listed categories one after the other. -/
inductive Allots : State τ → List CategoryAllocation → State τ → Prop
  | nil (s : State τ) : Allots s [] s
  | cons {s s' : State τ} {rest : List CategoryAllocation} (id : Symbol) (c : RecipientCategory)
      (amount : ℤ) (stored : s.category.get? id = some c)
      (fits : I128.InRange (c.totalAllocated + amount))
      (more : Allots { s with category := s.category.set id (c.allotted amount) } rest s') :
      Allots s (⟨id, amount⟩ :: rest) s'

/-- A recipient takes everything allocated to one of its categories. -/
inductive Claim (tok : Token τ) (self recipient : Address) (s : State τ) : State τ → Prop
  | mk (id : Symbol) (c : RecipientCategory) (token : Address) (tokens : τ)
      (stored : s.category.get? id = some c) (owner : c.recipient = recipient)
      (due : c.totalClaimed < c.totalAllocated) (asset : s.token = some token)
      (paid : tok.transfer s.tokens token self recipient
        (c.totalAllocated - c.totalClaimed) = some tokens) :
      Claim tok self recipient s
        { s with category := s.category.set id c.paidOut, tokens, reentrancyLock := false }

/-- Any number of claims of one recipient. -/
def Claims (tok : Token τ) (self recipient : Address) : State τ → State τ → Prop :=
  Relation.ReflTransGen (Claim tok self recipient)

/-- Who claims in an invocation, if anybody does. -/
def Op.claimant : Op → Option Address
  | .claim _ recipient => some recipient
  | .claimBatch _ recipient => some recipient
  | _ => none

inductive Effect (tok : Token τ) (self : Address) (s : State τ) : Action τ → State τ → Prop
  | transfers (tokens : τ) : Effect tok self s (.transfers tokens) { s with tokens }
  | initializeContract (env : Env) (admin token : Address) (rate most : ℕ)
      (fresh : s.admin = none) (capped : most ≤ hardCapFeeRateBps) (within : rate ≤ most) :
      Effect tok self s (.call env (.initializeContract admin token rate most))
        { s with
          admin := some admin, token := some token, paused := false, feeRateBps := some rate
          maxFeeRateBps := some most, totalCollected := 0, totalAllocated := 0
          totalSharesBps := 0, categoryIds := [], distributionCounter := 0
          reentrancyLock := false }
  | pause (env : Env) (admin : Address) (authorized : s.admin = some admin) :
      Effect tok self s (.call env (.pause admin)) { s with paused := true }
  | unpause (env : Env) (admin : Address) (authorized : s.admin = some admin) :
      Effect tok self s (.call env (.unpause admin)) { s with paused := false }
  | setFeeRate (env : Env) (op : Op) (admin : Address) (rate most : ℕ)
      (entry : op = .setFeeRate admin rate ∨ op = .emergencySetFeeRate admin rate)
      (authorized : s.admin = some admin) (limit : s.maxFeeRateBps = some most)
      (within : rate ≤ most) :
      Effect tok self s (.call env op) { s with feeRateBps := some rate }
  | setMaxFeeRate (env : Env) (admin : Address) (rate most : ℕ)
      (authorized : s.admin = some admin) (current : s.feeRateBps = some rate)
      (capped : most ≤ hardCapFeeRateBps) :
      Effect tok self s (.call env (.setMaxFeeRate admin most))
        { s with
          maxFeeRateBps := some most
          feeRateBps := some (if rate > most then most else rate) }
  | addCategory (env : Env) (admin : Address) (id : Symbol) (recipient : Address) (share : ℕ)
      (authorized : s.admin = some admin) (fresh : s.category.get? id = none)
      (valid : 0 < share ∧ share ≤ 10000) (room : s.categoryIds.length < maxCategories)
      (bounded : s.totalSharesBps + share ≤ 10000) :
      Effect tok self s (.call env (.addCategory admin id recipient share))
        { s with
          category := s.category.set id ⟨id, recipient, share, 0, 0, true⟩
          categoryIds := s.categoryIds ++ [id], totalSharesBps := s.totalSharesBps + share }
  | updateCategory (env : Env) (admin : Address) (id : Symbol) (recipient : Option Address)
      (newShare : Option ℕ) (c : RecipientCategory) (share total : ℕ)
      (authorized : s.admin = some admin) (stored : s.category.get? id = some c)
      (active : c.active = true) (balanced : (total : ℤ) = s.totalSharesBps - c.shareBps + share)
      (bounded : (total = s.totalSharesBps ∧ share = c.shareBps) ∨
        (0 < share ∧ share ≤ 10000 ∧ total ≤ 10000)) :
      Effect tok self s (.call env (.updateCategory admin id recipient newShare))
        { s with
          category := s.category.set id
            { c with shareBps := share, recipient := recipient.getD c.recipient }
          totalSharesBps := total }
  | removeCategory (env : Env) (admin : Address) (id : Symbol) (c : RecipientCategory) (total : ℕ)
      (authorized : s.admin = some admin) (stored : s.category.get? id = some c)
      (active : c.active = true) (balanced : total + c.shareBps = s.totalSharesBps) :
      Effect tok self s (.call env (.removeCategory admin id))
        { s with
          totalSharesBps := total
          category := s.category.set id { c with active := false, shareBps := 0 } }
  | reactivateCategory (env : Env) (admin : Address) (id : Symbol) (share : ℕ)
      (c : RecipientCategory) (authorized : s.admin = some admin)
      (stored : s.category.get? id = some c) (inactive : c.active = false)
      (valid : 0 < share ∧ share ≤ 10000) (bounded : s.totalSharesBps + share ≤ 10000) :
      Effect tok self s (.call env (.reactivateCategory admin id share))
        { s with
          totalSharesBps := s.totalSharesBps + share
          category := s.category.set id { c with active := true, shareBps := share } }
  | setExempt (env : Env) (admin account : Address) (exempt : Bool)
      (authorized : s.admin = some admin) :
      Effect tok self s (.call env (.setExempt admin account exempt))
        { s with exempt := s.exempt.set account exempt }
  | collectNothing (env : Env) (payer : Address) (gross : ℤ) :
      Effect tok self s (.call env (.collectFee payer gross)) s
  | collectFee (env : Env) (payer token : Address) (gross fee : ℤ) (tokens : τ)
      (positive : 0 < fee) (asset : s.token = some token)
      (fits : I128.InRange (s.totalCollected + fee))
      (paid : tok.transfer s.tokens token payer self fee = some tokens) :
      Effect tok self s (.call env (.collectFee payer gross))
        { s with totalCollected := s.totalCollected + fee, tokens, reentrancyLock := false }
  | distribute (env : Env) (count : ℕ) (progress : Progress) (s₁ : State τ)
      (full : s.totalSharesBps = 10000) (pending : 0 < s.totalCollected - s.totalAllocated)
      (counted : countActive s s.categoryIds 0 = .ok count) (takers : count ≠ 0)
      (loop : allocateAll (s.totalCollected - s.totalAllocated) count s.categoryIds ⟨[], 0, 0⟩ s =
        .ok (progress, s₁))
      (allots : Allots s progress.allocations s₁) :
      Effect tok self s (.call env .distribute)
        { s₁ with
          totalAllocated := s.totalCollected, distributionCounter := s.distributionCounter + 1
          distribution := s.distribution.set (s.distributionCounter + 1)
            ⟨s.distributionCounter + 1, s.totalCollected - s.totalAllocated, count, env.timestamp,
              progress.allocations⟩ }
  | claims (env : Env) (op : Op) (recipient : Address) (s' : State τ)
      (claimant : op.claimant = some recipient) (claims : Claims tok self recipient s s') :
      Effect tok self s (.call env op) s'

section Calls

variable {tok : Token τ} {self : Address} {s s' : State τ} {env : Env} {β : Type} {t : β}

theorem assertAdmin_bind {caller : Address} {f : Unit → Result β} :
    (assertAdmin s caller >>= f) = .ok t ↔ s.admin = some caller ∧ f () = .ok t := by
  unfold assertAdmin
  cases s.admin with
  | none => simp [expect, bind, Except.bind]
  | some admin =>
    by_cases h : caller = admin <;> simp [expect, bind, Except.bind, panicIf, h, eq_comm]

theorem validateShare_bind {share : ℕ} {f : Unit → Result β} :
    (validateShare share >>= f) = .ok t ↔ (0 < share ∧ share ≤ 10000) ∧ f () = .ok t := by
  unfold validateShare
  rw [panicIf_bind, not_or, not_lt, ← ne_eq, ← Nat.pos_iff_ne_zero]

theorem validateMaxRate_bind {most : ℕ} {f : Unit → Result β} :
    (validateMaxRate most >>= f) = .ok t ↔
      (0 < most ∧ most ≤ hardCapFeeRateBps) ∧ f () = .ok t := by
  unfold validateMaxRate
  rw [panicIf_bind, not_or, not_lt, ← ne_eq, ← Nat.pos_iff_ne_zero]

theorem addShares_ok {total share r : ℕ} (h : addShares total share = .ok r) :
    r = total + share ∧ total + share ≤ 10000 := by
  unfold addShares at h
  rw [U32.checked_bind, panicIf_bind, not_lt] at h
  obtain ⟨-, hle, h⟩ := h
  cases h
  exact ⟨rfl, hle⟩

theorem transferToken_ok {token source target : Address} {amount : ℤ}
    (h : transferToken tok s token source target amount = .ok s') :
    0 < amount ∧ ∃ tokens, tok.transfer s.tokens token source target amount = some tokens ∧
      s' = { s with tokens, reentrancyLock := false } := by
  unfold transferToken at h
  rw [panicIf_bind, panicIf_bind, Token.pay_bind, not_le] at h
  obtain ⟨-, hpos, tokens, htransfer, h⟩ := h
  cases h
  exact ⟨hpos, tokens, htransfer, rfl⟩

theorem claimOne_claims {id : Symbol} {recipient : Address} {requirePositive : Bool}
    {r : ℤ × State τ} (h : claimOne tok self id recipient requirePositive s = .ok r) :
    Claims tok self recipient s r.2 := by
  unfold claimOne at h
  rw [loadCategory, expect_bind] at h
  obtain ⟨c, hstored, h⟩ := h
  split at h
  · split at h <;> cases h
    exact .refl
  · rename_i howner
    rw [I128.checked_bind] at h
    obtain ⟨-, h⟩ := h
    split at h
    · split at h <;> cases h
      exact .refl
    · rename_i hdue
      simp only [I128.checked_bind, getToken, expect_bind] at h
      obtain ⟨-, token, hasset, h⟩ := h
      obtain ⟨s₁, hpay, h⟩ := bind_ok.mp h
      obtain ⟨-, tokens, hpaid, rfl⟩ := transferToken_ok hpay
      cases h
      have hall : c.totalClaimed + (c.totalAllocated - c.totalClaimed) = c.totalAllocated := by ring
      rw [hall]
      exact .single (.mk id c token tokens hstored (not_ne_iff.mp howner) (by omega) hasset hpaid)

theorem claimEach_claims {recipient : Address} {ids : List Symbol} {totalPaid : ℤ}
    {r : ℤ × State τ} (h : claimEach tok self recipient ids totalPaid s = .ok r) :
    Claims tok self recipient s r.2 := by
  induction ids generalizing totalPaid s with
  | nil =>
    cases h
    exact .refl
  | cons id rest ih =>
    unfold claimEach at h
    obtain ⟨⟨paid, s₁⟩, hone, h⟩ := bind_ok.mp h
    rw [I128.checked_bind] at h
    exact (claimOne_claims hone).trans (ih h.2)

theorem claim_effect {id : Symbol} {recipient : Address} {r : ℤ × State τ}
    (h : claim tok self env id recipient s = .ok r) :
    Effect tok self s (.call env (.claim id recipient)) r.2 := by
  unfold claim at h
  rw [requireAuth_bind] at h
  obtain ⟨-, h⟩ := h
  obtain ⟨⟨paid, s₁⟩, hone, h⟩ := bind_ok.mp h
  rw [panicIf_bind] at h
  obtain ⟨-, h⟩ := h
  cases h
  exact .claims env _ recipient s₁ rfl (claimOne_claims hone)

theorem claimBatch_effect {ids : List Symbol} {recipient : Address} {r : ℤ × State τ}
    (h : claimBatch tok self env ids recipient s = .ok r) :
    Effect tok self s (.call env (.claimBatch ids recipient)) r.2 := by
  unfold claimBatch at h
  rw [requireAuth_bind, panicIf_bind, panicIf_bind] at h
  obtain ⟨-, -, -, h⟩ := h
  obtain ⟨⟨paid, s₁⟩, hall, h⟩ := bind_ok.mp h
  rw [panicIf_bind] at h
  obtain ⟨-, h⟩ := h
  cases h
  exact .claims env _ recipient s₁ rfl (claimEach_claims hall)

/-- One iteration either passes a category over or credits it. -/
theorem allocate_cases {pending : ℤ} {count : ℕ} {id : Symbol} {progress : Progress}
    {r : Progress × State τ} (h : allocate pending count id progress s = .ok r) :
    ∃ c, s.category.get? id = some c ∧
      ((¬ c.Takes ∧ r = (progress, s)) ∨
        (c.Takes ∧ ∃ amount, allocation pending progress.allocatedSum c.shareBps
            (progress.processed + 1 == count) = .ok amount ∧
          I128.InRange (c.totalAllocated + amount) ∧
          r = (⟨progress.allocations ++ [⟨id, amount⟩], progress.allocatedSum + amount,
              progress.processed + 1⟩,
            { s with category := s.category.set id (c.allotted amount) }))) := by
  unfold allocate at h
  rw [loadCategory, expect_bind] at h
  obtain ⟨c, hstored, h⟩ := h
  refine ⟨c, hstored, ?_⟩
  split at h
  · rename_i hpass
    cases h
    exact .inl ⟨hpass, rfl⟩
  · rename_i htakes
    obtain ⟨amount, hamount, h⟩ := bind_ok.mp h
    rw [I128.checked_bind, I128.checked_bind] at h
    obtain ⟨hfits, -, h⟩ := h
    cases h
    exact .inr ⟨not_not.mp htakes, amount, hamount, hfits, rfl⟩

/-- The loop appends what it credits to the list of allocations. -/
theorem allocateAll_allots {pending : ℤ} {count : ℕ} {ids : List Symbol} {progress : Progress}
    {r : Progress × State τ} (h : allocateAll pending count ids progress s = .ok r) :
    ∃ done, r.1.allocations = progress.allocations ++ done ∧ Allots s done r.2 := by
  induction ids generalizing progress s with
  | nil =>
    cases h
    exact ⟨[], (List.append_nil _).symm, .nil s⟩
  | cons id rest ih =>
    unfold allocateAll at h
    obtain ⟨⟨progress₁, s₁⟩, hone, h⟩ := bind_ok.mp h
    obtain ⟨done, hdone, hallots⟩ := ih h
    obtain ⟨c, hstored, ⟨-, heq⟩ | ⟨-, amount, -, hfits, heq⟩⟩ := allocate_cases hone
    · cases heq
      exact ⟨done, hdone, hallots⟩
    · cases heq
      exact ⟨⟨id, amount⟩ :: done, by rw [hdone]; simp,
        .cons id c amount hstored hfits hallots⟩

/-- Allotments write categories and nothing else. -/
theorem Allots.frame {done : List CategoryAllocation} (h : Allots s done s') :
    ∃ categories, s' = { s with category := categories } := by
  induction h with
  | nil s => exact ⟨s.category, rfl⟩
  | cons id c amount stored fits more ih =>
    obtain ⟨categories, rfl⟩ := ih
    exact ⟨categories, rfl⟩

theorem distribute_ok {r : DistributionRecord × State τ} (h : distribute env s = .ok r) :
    s.totalSharesBps = 10000 ∧ 0 < s.totalCollected - s.totalAllocated ∧
    ∃ count progress s₁, countActive s s.categoryIds 0 = .ok count ∧ count ≠ 0 ∧
      allocateAll (s.totalCollected - s.totalAllocated) count s.categoryIds ⟨[], 0, 0⟩ s =
        .ok (progress, s₁) ∧
      Allots s progress.allocations s₁ ∧
      r.1 = ⟨s.distributionCounter + 1, s.totalCollected - s.totalAllocated, count, env.timestamp,
        progress.allocations⟩ ∧
      r.2 = { s₁ with
        totalAllocated := s.totalCollected, distributionCounter := s.distributionCounter + 1
        distribution := s.distribution.set (s.distributionCounter + 1) r.1 } := by
  unfold distribute at h
  rw [panicIf_bind, I128.checked_bind, panicIf_bind, not_ne_iff, not_le] at h
  obtain ⟨hfull, -, hpending, h⟩ := h
  obtain ⟨count, hcount, h⟩ := bind_ok.mp h
  rw [panicIf_bind] at h
  obtain ⟨htakers, h⟩ := h
  obtain ⟨⟨progress, s₁⟩, hloop, h⟩ := bind_ok.mp h
  rw [I128.checked_bind, U64.checked_bind] at h
  obtain ⟨-, -, h⟩ := h
  cases h
  obtain ⟨done, hdone, hallots⟩ := allocateAll_allots hloop
  obtain rfl : progress.allocations = done := hdone
  obtain ⟨categories, hframe⟩ := hallots.frame
  simp only at hframe
  subst hframe
  simp only [add_sub_cancel]
  exact ⟨hfull, hpending, count, progress, _, hcount, htakers, hloop, hallots, rfl, rfl⟩

theorem distribute_effect {r : DistributionRecord × State τ} (h : distribute env s = .ok r) :
    Effect tok self s (.call env .distribute) r.2 := by
  obtain ⟨hfull, hpending, count, progress, s₁, hcount, htakers, hloop, hallots, hrecord, hr⟩ :=
    distribute_ok h
  rw [hr, hrecord]
  exact .distribute env count progress s₁ hfull hpending hcount htakers hloop hallots

theorem addCategory_effect {admin : Address} {id : Symbol} {recipient : Address} {share : ℕ}
    (h : addCategory env admin id recipient share s = .ok s') :
    Effect tok self s (.call env (.addCategory admin id recipient share)) s' := by
  unfold addCategory at h
  rw [requireAuth_bind, assertAdmin_bind, panicIf_bind, validateShare_bind, panicIf_bind,
    not_le, Option.not_isSome_iff_eq_none] at h
  obtain ⟨-, hadmin, hfresh, hvalid, hroom, h⟩ := h
  obtain ⟨total, hadd, h⟩ := bind_ok.mp h
  obtain ⟨rfl, hbounded⟩ := addShares_ok hadd
  cases h
  exact .addCategory env admin id recipient share hadmin hfresh hvalid hroom hbounded

theorem updateCategory_effect {admin : Address} {id : Symbol} {recipient : Option Address}
    {newShare : Option ℕ} {r : RecipientCategory × State τ}
    (h : updateCategory env admin id recipient newShare s = .ok r) :
    Effect tok self s (.call env (.updateCategory admin id recipient newShare)) r.2 := by
  unfold updateCategory at h
  rw [requireAuth_bind, assertAdmin_bind, loadCategory, expect_bind] at h
  obtain ⟨-, hadmin, c, hstored, h⟩ := h
  rw [panicIf_bind, Bool.not_eq_false] at h
  obtain ⟨hactive, h⟩ := h
  obtain ⟨⟨total, share⟩, hshare, h⟩ := bind_ok.mp h
  cases h
  unfold replaceShare at hshare
  cases newShare with
  | none =>
    cases hshare
    exact .updateCategory env admin id recipient none c _ _ hadmin hstored hactive (by omega)
      (.inl ⟨rfl, rfl⟩)
  | some newShare =>
    simp only [validateShare_bind, U32.checkedSub_bind] at hshare
    obtain ⟨⟨hpos, hle⟩, hcovered, hshare⟩ := hshare
    obtain ⟨total', hadd, hshare⟩ := bind_ok.mp hshare
    obtain ⟨rfl, hbounded⟩ := addShares_ok hadd
    cases hshare
    exact .updateCategory env admin id recipient _ c _ _ hadmin hstored hactive (by omega)
      (.inr ⟨hpos, hle, hbounded⟩)

theorem removeCategory_effect {admin : Address} {id : Symbol}
    (h : removeCategory env admin id s = .ok s') :
    Effect tok self s (.call env (.removeCategory admin id)) s' := by
  unfold removeCategory at h
  simp only [requireAuth_bind, assertAdmin_bind, loadCategory, expect_bind, panicIf_bind,
    Bool.not_eq_false, U32.checkedSub_bind] at h
  obtain ⟨-, hadmin, c, hstored, hactive, hcovered, h⟩ := h
  cases h
  exact .removeCategory env admin id c _ hadmin hstored hactive (by omega)

theorem reactivateCategory_effect {admin : Address} {id : Symbol} {share : ℕ}
    (h : reactivateCategory env admin id share s = .ok s') :
    Effect tok self s (.call env (.reactivateCategory admin id share)) s' := by
  unfold reactivateCategory at h
  simp only [requireAuth_bind, assertAdmin_bind, loadCategory, expect_bind, panicIf_bind,
    Bool.not_eq_true, validateShare_bind] at h
  obtain ⟨-, hadmin, c, hstored, hinactive, hvalid, h⟩ := h
  obtain ⟨total, hadd, h⟩ := bind_ok.mp h
  obtain ⟨rfl, hbounded⟩ := addShares_ok hadd
  cases h
  exact .reactivateCategory env admin id share c hadmin hstored hinactive hvalid hbounded

theorem initializeContract_effect {admin token : Address} {rate most : ℕ}
    (h : initializeContract env admin token rate most s = .ok s') :
    Effect tok self s (.call env (.initializeContract admin token rate most)) s' := by
  unfold initializeContract at h
  rw [panicIf_bind, requireAuth_bind, validateMaxRate_bind, panicIf_bind, not_lt,
    Option.not_isSome_iff_eq_none] at h
  obtain ⟨hfresh, -, ⟨-, hcapped⟩, hwithin, h⟩ := h
  cases h
  exact .initializeContract env admin token rate most hfresh hcapped hwithin

theorem setFeeRate_effect {admin : Address} {rate : ℕ}
    (h : setFeeRate env admin rate s = .ok s') :
    Effect tok self s (.call env (.setFeeRate admin rate)) s' := by
  unfold setFeeRate at h
  simp only [requireAuth_bind, assertAdmin_bind, maxFeeRate, feeRate, expect_bind,
    panicIf_bind, not_lt] at h
  obtain ⟨-, hadmin, most, hlimit, hwithin, current, -, -, h⟩ := h
  cases h
  exact .setFeeRate env _ admin rate most (.inl rfl) hadmin hlimit hwithin

theorem emergencySetFeeRate_effect {admin : Address} {rate : ℕ}
    (h : emergencySetFeeRate env admin rate s = .ok s') :
    Effect tok self s (.call env (.emergencySetFeeRate admin rate)) s' := by
  unfold emergencySetFeeRate at h
  simp only [requireAuth_bind, assertAdmin_bind, maxFeeRate, expect_bind, panicIf_bind,
    not_lt] at h
  obtain ⟨-, hadmin, most, hlimit, hwithin, h⟩ := h
  cases h
  exact .setFeeRate env _ admin rate most (.inr rfl) hadmin hlimit hwithin

theorem setMaxFeeRate_effect {admin : Address} {most : ℕ}
    (h : setMaxFeeRate env admin most s = .ok s') :
    Effect tok self s (.call env (.setMaxFeeRate admin most)) s' := by
  unfold setMaxFeeRate at h
  rw [requireAuth_bind, assertAdmin_bind, validateMaxRate_bind, feeRate, expect_bind] at h
  obtain ⟨-, hadmin, ⟨-, hcapped⟩, rate, hcurrent, h⟩ := h
  cases h
  exact .setMaxFeeRate env admin rate most hadmin hcurrent hcapped

theorem collectFee_effect {payer : Address} {gross : ℤ} {r : ℤ × State τ}
    (h : collectFee tok self env payer gross s = .ok r) :
    Effect tok self s (.call env (.collectFee payer gross)) r.2 := by
  unfold collectFee at h
  simp only [requireAuth_bind, panicIf_bind] at h
  obtain ⟨-, -, -, h⟩ := h
  split at h
  · cases h
    exact .collectNothing env payer gross
  · obtain ⟨fee, -, h⟩ := bind_ok.mp h
    split at h
    · cases h
      exact .collectNothing env payer gross
    · rename_i hpos
      rw [getToken, expect_bind] at h
      obtain ⟨token, hasset, h⟩ := h
      obtain ⟨s₁, hpay, h⟩ := bind_ok.mp h
      obtain ⟨-, tokens, hpaid, rfl⟩ := transferToken_ok hpay
      rw [I128.checked_bind] at h
      obtain ⟨hfits, h⟩ := h
      cases h
      exact .collectFee env payer token gross fee tokens (not_le.mp hpos) hasset hfits hpaid

/-- Every completed invocation has its effect. -/
theorem next_effect {a : Action τ} (h : next tok self a s = .ok s') : Effect tok self s a s' := by
  cases a with
  | transfers tokens =>
    cases h
    exact .transfers tokens
  | call env op =>
    cases op with
    | initializeContract => exact initializeContract_effect h
    | pause admin =>
      simp only [next, invoke, pause] at h
      rw [requireAuth_bind, assertAdmin_bind, panicIf_bind] at h
      obtain ⟨-, hadmin, -, h⟩ := h
      cases h
      exact .pause env admin hadmin
    | unpause admin =>
      simp only [next, invoke, unpause] at h
      rw [requireAuth_bind, assertAdmin_bind, panicIf_bind] at h
      obtain ⟨-, hadmin, -, h⟩ := h
      cases h
      exact .unpause env admin hadmin
    | setFeeRate => exact setFeeRate_effect h
    | emergencySetFeeRate => exact emergencySetFeeRate_effect h
    | setMaxFeeRate => exact setMaxFeeRate_effect h
    | addCategory => exact addCategory_effect h
    | updateCategory =>
      obtain ⟨r, hr, rfl⟩ := map_ok.mp h
      exact updateCategory_effect hr
    | removeCategory => exact removeCategory_effect h
    | reactivateCategory => exact reactivateCategory_effect h
    | setExempt admin account exempt =>
      simp only [next, invoke, setExempt] at h
      rw [requireAuth_bind, assertAdmin_bind] at h
      obtain ⟨-, hadmin, h⟩ := h
      cases h
      exact .setExempt env admin account exempt hadmin
    | collectFee =>
      obtain ⟨r, hr, rfl⟩ := map_ok.mp h
      exact collectFee_effect hr
    | distribute =>
      obtain ⟨r, hr, rfl⟩ := map_ok.mp h
      exact distribute_effect hr
    | claim =>
      obtain ⟨r, hr, rfl⟩ := map_ok.mp h
      exact claim_effect hr
    | claimBatch =>
      obtain ⟨r, hr, rfl⟩ := map_ok.mp h
      exact claimBatch_effect hr

end Calls

end FeeDistribution
