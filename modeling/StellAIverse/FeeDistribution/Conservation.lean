import Mathlib.Algebra.BigOperators.Ring.Finset
import StellAIverse.FeeDistribution.Configuration
import StellAIverse.Soroban.Donations

/-!
# Conservation of fees

What was collected is what categories were credited with, what is still to be
distributed, and nothing else; what left the contract is what was claimed. The
last active category takes the rounding remainder, and because the shares make
up the whole, that remainder is never negative.
-/

namespace FeeDistribution

open Soroban

variable {τ : Type} {tok : Token τ} {self : Address} {s s' : State τ} {a : Action τ}

/-- Payers and recipients of an invocation. -/
def Op.parties : Op → List Address
  | .collectFee payer _ => [payer]
  | .claim _ recipient => [recipient]
  | .claimBatch _ recipient => [recipient]
  | _ => []

/-- The contract is no party to its own calls, and other transfers do not spend
what it holds. -/
def Action.Outside (tok : Token τ) (self : Address) (s : State τ) : Action τ → Prop
  | .call _ op => self ∉ op.parties
  | .transfers tokens => ∀ t, tok.balance s.tokens t self ≤ tok.balance tokens t self

def allocated (categories : Store Symbol RecipientCategory) : ℤ :=
  categories.total fun _ c => c.totalAllocated

def claimed (categories : Store Symbol RecipientCategory) : ℤ :=
  categories.total fun _ c => c.totalClaimed

/-- Sum over the stored distribution records. -/
def recorded (records : Store ℕ DistributionRecord) : ℤ := records.total fun _ r => r.totalAmount

/-- Transfers of tokens that are no invocation. -/
def Action.elsewhere : Action τ → Option τ
  | .call _ _ => none
  | .transfers tokens => some tokens

def accounts : Accounts τ (State τ) (Action τ) := ⟨State.tokens, Action.elsewhere⟩

theorem Action.Outside.spares (h : a.Outside tok self s) : accounts.Spares tok self s a := by
  rintro tokens he t
  cases a <;> cases he
  exact h t

/-- The share with which a category takes part in a distribution. -/
def taken (categories : Store Symbol RecipientCategory) (id : Symbol) : ℕ :=
  match categories.get? id with
  | some c => if c.Takes then c.shareBps else 0
  | none => 0

/-- How many of the listed categories take part. -/
def takers (categories : Store Symbol RecipientCategory) (ids : List Symbol) : ℕ :=
  ids.countP fun id => 0 < taken categories id

section Loop

variable {categories : Store Symbol RecipientCategory} {id : Symbol} {c : RecipientCategory}

theorem taken_some (hk : categories.get? id = some c) :
    taken categories id = if c.Takes then c.shareBps else 0 := by
  simp [taken, hk]

theorem taken_pos (hk : categories.get? id = some c) : 0 < taken categories id ↔ c.Takes := by
  rw [taken_some hk]
  split
  · rename_i h
    exact iff_of_true h.2 h
  · rename_i h
    exact iff_of_false (lt_irrefl 0) h

/-- A credit does not change who takes part. -/
theorem taken_allotted (hk : categories.get? id = some c) (amount : ℤ) :
    taken (categories.set id (c.allotted amount)) = taken categories := by
  funext id'
  unfold taken
  rw [Store.get?_set]
  by_cases he : id' = id
  · rw [if_pos he, he, hk]
    rfl
  · rw [if_neg he]

theorem takers_cons (categories : Store Symbol RecipientCategory) (id : Symbol)
    (ids : List Symbol) :
    takers categories (id :: ids) =
      takers categories ids + if 0 < taken categories id then 1 else 0 := by
  simp [takers, List.countP_cons]

theorem countActive_ok {ids : List Symbol} {n count : ℕ} (h : countActive s ids n = .ok count) :
    count = n + takers s.category ids := by
  induction ids generalizing n with
  | nil =>
    cases h
    simp [takers]
  | cons id rest ih =>
    unfold countActive at h
    rw [loadCategory, expect_bind] at h
    obtain ⟨c, hk, h⟩ := h
    rw [ih h, takers_cons]
    simp only [taken_pos hk]
    split <;> omega

theorem allocation_ok {pending sum amount : ℤ} {share : ℕ} {last : Bool}
    (h : allocation pending sum share last = .ok amount) :
    amount = if last = true then pending - sum else (pending * share).tdiv 10000 := by
  unfold allocation at h
  rw [I128.checked_bind] at h
  obtain ⟨-, h⟩ := h
  rw [I128.div_bind] at h
  obtain ⟨-, -, h⟩ := h
  cases last with
  | true =>
    simp only [if_true, I128.checked_bind, I128.checked_ok] at h
    obtain ⟨-, -, -, rfl⟩ := h
    simp only [if_true]
    ring
  | false =>
    cases h
    rfl

/-- Past the last taker nothing happens. -/
theorem allocateAll_idle {pending : ℤ} {count : ℕ} {ids : List Symbol} {progress : Progress}
    {r : Progress × State τ} (h : allocateAll pending count ids progress s = .ok r)
    (hidle : takers s.category ids = 0) : r = (progress, s) := by
  induction ids generalizing progress s with
  | nil =>
    cases h
    rfl
  | cons id rest ih =>
    unfold allocateAll at h
    obtain ⟨⟨progress₁, s₁⟩, hone, h⟩ := bind_ok.mp h
    rw [takers_cons] at hidle
    obtain ⟨c, hk, ⟨-, heq⟩ | ⟨htakes, -⟩⟩ := allocate_cases hone
    · cases heq
      exact ih h (by omega)
    · rw [if_pos ((taken_pos hk).mpr htakes)] at hidle
      omega

/-- If the shares still to come fit into what is left, the loop credits exactly
what is left, in non-negative parts. -/
theorem allocateAll_exact {pending : ℤ} {count : ℕ} {ids : List Symbol} {progress : Progress}
    {r : Progress × State τ} (h : allocateAll pending count ids progress s = .ok r)
    (hpending : 0 ≤ pending) (hcount : progress.processed + takers s.category ids = count)
    (hmore : 0 < takers s.category ids)
    (hfits : progress.allocatedSum * 10000 + pending * (ids.map (taken s.category)).sum ≤
      pending * 10000) :
    ∃ done, r.1.allocations = progress.allocations ++ done ∧ (∀ a ∈ done, 0 ≤ a.amount) ∧
      progress.allocatedSum + (done.map CategoryAllocation.amount).sum = pending := by
  induction ids generalizing progress s with
  | nil => cases hmore
  | cons id rest ih =>
    unfold allocateAll at h
    obtain ⟨⟨progress₁, s₁⟩, hone, h⟩ := bind_ok.mp h
    rw [takers_cons] at hcount hmore
    rw [List.map_cons, List.sum_cons, Nat.cast_add] at hfits
    obtain ⟨c, hk, ⟨hpass, heq⟩ | ⟨htakes, amount, hamount, -, heq⟩⟩ := allocate_cases hone
    · cases heq
      have hzero : ¬ 0 < taken s.category id := by rwa [taken_pos hk]
      rw [if_neg hzero] at hcount hmore
      obtain hnone : taken s.category id = 0 := by omega
      rw [hnone, Nat.cast_zero, zero_add] at hfits
      exact ih h hcount hmore hfits
    · cases heq
      have hsame := taken_allotted hk amount
      have htaken : taken s.category id = c.shareBps := by rw [taken_some hk, if_pos htakes]
      rw [if_pos ((taken_pos hk).mpr htakes)] at hcount
      rw [htaken] at hfits
      have hrest : 0 ≤ pending * ((rest.map (taken s.category)).sum : ℤ) :=
        mul_nonneg hpending (Int.natCast_nonneg _)
      have hshare : 0 ≤ pending * (c.shareBps : ℤ) := mul_nonneg hpending (Int.natCast_nonneg _)
      have hform := allocation_ok hamount
      rw [mul_add] at hfits
      by_cases hlast : progress.processed + 1 = count
      · -- The last taker gets what is left.
        rw [if_pos (beq_iff_eq.mpr hlast)] at hform
        have hidle : takers (s.category.set id (c.allotted amount)) rest = 0 := by
          unfold takers at hcount ⊢
          rw [hsame]
          omega
        obtain rfl := allocateAll_idle h hidle
        refine ⟨[⟨id, amount⟩], rfl, fun a ha => ?_, ?_⟩
        · rw [List.mem_singleton.mp ha]
          simp only
          omega
        · simp only [List.map_cons, List.map_nil, List.sum_cons, List.sum_nil]
          omega
      · rw [if_neg (by simpa using hlast)] at hform
        have hfloor := I128.tdiv_mul_le hshare (show (0 : ℤ) < 10000 by decide)
        have hnonneg := Int.tdiv_nonneg hshare (show (0 : ℤ) ≤ 10000 by decide)
        rw [← hform] at hfloor hnonneg
        have hcount₁ : progress.processed + 1 + takers s.category rest = count := by omega
        obtain ⟨done, happend, hparts, hsum⟩ := ih h
          (by simp only [takers, hsame] at hcount₁ ⊢; exact hcount₁)
          (by simp only [takers, hsame] at hcount₁ ⊢; omega)
          (by simp only [hsame]; rw [add_mul]; omega)
        refine ⟨⟨id, amount⟩ :: done, ?_, ?_, ?_⟩
        · rw [happend]
          simp
        · intro a ha
          rcases List.mem_cons.mp ha with rfl | ha
          · exact hnonneg
          · exact hparts a ha
        · simp only [List.map_cons, List.sum_cons]
          simp only at hsum
          omega

end Loop

/-- The shares of the listed categories make up the total. -/
theorem Configured.taken_sum (hc : Configured s) :
    (s.categoryIds.map (taken s.category)).sum = s.totalSharesBps := by
  have htotal := hc.total
  unfold shares at htotal
  rw [Store.total_eq_sum hc.once hc.listed] at htotal
  have hsame : s.categoryIds.map
      (s.category.weight fun _ (c : RecipientCategory) => (c.shareBps : ℤ)) =
      s.categoryIds.map fun id => (taken s.category id : ℤ) := by
    apply List.map_congr_left
    intro id hid
    obtain ⟨c, hk⟩ := Option.isSome_iff_exists.mp ((hc.listed id).mp hid)
    obtain ⟨-, hinactive⟩ := hc.sized id c hk
    rw [Store.weight_some hk, taken_some hk]
    by_cases htakes : c.Takes
    · rw [if_pos htakes]
    · rw [if_neg htakes]
      unfold RecipientCategory.Takes at htakes
      cases hact : c.active with
      | true => simp_all
      | false => rw [hinactive hact]
  rw [hsame] at htotal
  have hcast := Nat.cast_list_sum (R := ℤ) (s.categoryIds.map (taken s.category))
  rw [List.map_map] at hcast
  have : ((s.categoryIds.map (taken s.category)).sum : ℤ) = s.totalSharesBps :=
    hcast.trans htotal.symm
  exact_mod_cast this

/-- Nobody claimed more than was allocated. -/
def Settled (categories : Store Symbol RecipientCategory) : Prop :=
  ∀ id c, categories.get? id = some c →
    0 ≤ c.totalClaimed ∧ c.totalClaimed ≤ c.totalAllocated ∧ I128.InRange c.totalAllocated

/-- A stored category rewritten. -/
theorem sums_set {categories : Store Symbol RecipientCategory} {id : Symbol}
    {c : RecipientCategory} (hk : categories.get? id = some c) (c' : RecipientCategory) :
    allocated (categories.set id c') =
        allocated categories + (c'.totalAllocated - c.totalAllocated) ∧
      claimed (categories.set id c') = claimed categories + (c'.totalClaimed - c.totalClaimed) := by
  unfold allocated claimed
  rw [Store.total_set, Store.total_set, Store.weight_some hk, Store.weight_some hk]
  constructor <;> ring

theorem Allots.books {done : List CategoryAllocation} (h : Allots s done s')
    (hparts : ∀ a ∈ done, 0 ≤ a.amount) (hs : Settled s.category) :
    allocated s'.category = allocated s.category + (done.map CategoryAllocation.amount).sum ∧
      claimed s'.category = claimed s.category ∧ Settled s'.category := by
  induction h with
  | nil s => exact ⟨by simp, rfl, hs⟩
  | cons id c amount stored fits _ ih =>
    have hpos : 0 ≤ amount := hparts ⟨id, amount⟩ List.mem_cons_self
    obtain ⟨hzero, hle, -⟩ := hs id c stored
    obtain ⟨hallocated, hclaimed, hsettled⟩ := ih
      (fun a ha => hparts a (List.mem_cons_of_mem _ ha))
      (Store.forall_set hs ⟨hzero, by simp only [RecipientCategory.allotted]; omega, fits⟩)
    obtain ⟨hadd, hkeep⟩ := sums_set stored (c.allotted amount)
    refine ⟨?_, ?_, hsettled⟩
    · rw [hallocated, hadd]
      simp only [RecipientCategory.allotted, List.map_cons, List.sum_cons]
      ring
    · rw [hclaimed, hkeep]
      simp [RecipientCategory.allotted]

/-- What the contract's storage says, whatever the token does. -/
structure Ledger (s : State τ) : Prop where
  fresh : s.admin = none → s.token = none ∧ s.category = .empty ∧ s.distribution = .empty
  asset : ∀ admin, s.admin = some admin → s.token ≠ none
  categories : s.totalAllocated = allocated s.category
  records : s.totalAllocated = recorded s.distribution
  numbered : ∀ id r, s.distribution.get? id = some r → id ≤ s.distributionCounter
  pending : s.totalAllocated ≤ s.totalCollected
  settled : Settled s.category
  unlocked : s.reentrancyLock = false

/-- A category whose totals stand, whatever else is written to it. -/
theorem Ledger.rewrite (hl : Ledger s) {id : Symbol} {c c' : RecipientCategory}
    (hk : s.category.get? id = some c) (hallocated : c'.totalAllocated = c.totalAllocated)
    (hclaimed : c'.totalClaimed = c.totalClaimed) (total : ℕ) :
    Ledger { s with category := s.category.set id c', totalSharesBps := total } := by
  obtain ⟨hsum, -⟩ := sums_set hk c'
  rw [hallocated, sub_self, add_zero] at hsum
  refine ⟨fun hn => ?_, hl.asset, hl.categories.trans hsum.symm, hl.records, hl.numbered,
    hl.pending, Store.forall_set hl.settled ?_, hl.unlocked⟩
  · rw [(hl.fresh hn).2.1] at hk
    cases hk
  · rw [hallocated, hclaimed]
    exact hl.settled id c hk

theorem claim_ledger {recipient : Address} (hl : Ledger s) (h : Claim tok self recipient s s') :
    Ledger s' := by
  cases h with
  | mk id c token tokens stored owner due asset paid =>
    obtain ⟨hzero, hle, hfits⟩ := hl.settled id c stored
    have hallocated : allocated (s.category.set id c.paidOut) =
        allocated s.category + (c.totalAllocated - c.totalAllocated) := (sums_set stored _).1
    refine ⟨fun hn => ?_, hl.asset, ?_, hl.records, hl.numbered, hl.pending,
      Store.forall_set hl.settled ⟨hzero.trans hle, le_rfl, hfits⟩, rfl⟩
    · rw [(hl.fresh hn).2.1] at stored
      cases stored
    · simp only
      rw [hallocated, hl.categories]
      ring

theorem claims_ledger {recipient : Address} (hl : Ledger s) (h : Claims tok self recipient s s') :
    Ledger s' := by
  induction h with
  | refl => exact hl
  | tail _ hstep ih => exact claim_ledger ih hstep

/-- A distribution turns everything pending into credits, and claims nothing. -/
theorem distribute_ledger {count : ℕ} {progress : Progress} {s₁ : State τ} (time : ℕ)
    (hconf : Configured s) (hl : Ledger s) (full : s.totalSharesBps = 10000)
    (pending : 0 < s.totalCollected - s.totalAllocated)
    (counted : countActive s s.categoryIds 0 = .ok count) (takers : count ≠ 0)
    (loop : allocateAll (s.totalCollected - s.totalAllocated) count s.categoryIds ⟨[], 0, 0⟩ s =
      .ok (progress, s₁))
    (allots : Allots s progress.allocations s₁) :
    claimed s₁.category = claimed s.category ∧ Ledger { s₁ with
      totalAllocated := s.totalCollected, distributionCounter := s.distributionCounter + 1
      distribution := s.distribution.set (s.distributionCounter + 1)
        ⟨s.distributionCounter + 1, s.totalCollected - s.totalAllocated, count, time,
          progress.allocations⟩ } := by
  have hcount := countActive_ok counted
  rw [zero_add] at hcount
  obtain ⟨done, happend, hparts, hsum⟩ := allocateAll_exact loop pending.le
    (by simp only [zero_add]; exact hcount.symm) (by omega)
    (by rw [hconf.taken_sum, full]; simp)
  obtain rfl : progress.allocations = done := happend
  simp only [zero_add] at hsum
  obtain ⟨hallocated, hclaimed, hsettled⟩ := allots.books hparts hl.settled
  obtain ⟨categories, rfl⟩ := allots.frame
  simp only at hallocated hclaimed hsettled
  have hadmin : s.admin ≠ none := by
    intro hn
    have htotal := hconf.total
    rw [(hconf.fresh hn).1] at htotal
    simp only [shares, Store.total] at htotal
    rw [full] at htotal
    cases htotal
  refine ⟨hclaimed, fun hn => absurd hn hadmin, hl.asset, ?_, ?_, ?_, le_rfl, hsettled,
    hl.unlocked⟩
  · have := hl.categories
    simp only
    omega
  · have hnone : s.distribution.get? (s.distributionCounter + 1) = none := by
      cases hk : s.distribution.get? (s.distributionCounter + 1) with
      | none => rfl
      | some r =>
        have := hl.numbered _ r hk
        omega
    have hrecords := hl.records
    simp only [recorded] at hrecords ⊢
    rw [Store.total_set, Store.weight_none hnone]
    simp only
    omega
  · refine Store.forall_set (fun id r hk => ?_) le_rfl
    have := hl.numbered id r hk
    simp only
    omega

theorem ledger_step (hconf : Configured s) (hl : Ledger s) (h : Effect tok self s a s') :
    Ledger s' := by
  cases h with
  | initializeContract _ _ token _ _ fresh =>
    obtain ⟨-, hcategories, hrecords⟩ := hl.fresh fresh
    refine ⟨fun hn => absurd hn (Option.some_ne_none _), fun _ _ => Option.some_ne_none _, ?_, ?_,
      ?_, le_rfl, hl.settled, rfl⟩
    · simp only [hcategories]
      rfl
    · simp only [hrecords]
      rfl
    · simp only [hrecords]
      intro id r hk
      cases hk
  | addCategory _ admin id recipient share authorized fresh =>
    have hallocated : allocated (s.category.set id ⟨id, recipient, share, 0, 0, true⟩) =
        allocated s.category := by
      simp [allocated, Store.total_set, Store.weight_none fresh]
    refine ⟨fun hn => ?_, hl.asset, hl.categories.trans hallocated.symm, hl.records, hl.numbered,
      hl.pending, Store.forall_set hl.settled ⟨le_rfl, le_rfl, I128.inRange_zero⟩, hl.unlocked⟩
    rw [hn] at authorized
    cases authorized
  | updateCategory _ _ _ _ _ _ _ _ _ stored =>
    refine hl.rewrite stored ?_ ?_ _ <;> rfl
  | removeCategory _ _ _ _ _ _ stored =>
    refine hl.rewrite stored ?_ ?_ _ <;> rfl
  | reactivateCategory _ _ _ _ _ _ stored =>
    refine hl.rewrite stored ?_ ?_ _ <;> rfl
  | collectFee _ payer token _ fee tokens positive asset =>
    refine ⟨fun hn => ?_, hl.asset, hl.categories, hl.records, hl.numbered, ?_, hl.settled, rfl⟩
    · rw [(hl.fresh hn).1] at asset
      cases asset
    · have := hl.pending
      simp only
      omega
  | distribute env count progress s₁ full pending counted takers loop allots =>
    exact (distribute_ledger env.timestamp hconf hl full pending counted takers loop allots).2
  | claims _ _ _ _ _ claims => exact claims_ledger hl claims
  | _ =>
    exact ⟨hl.fresh, hl.asset, hl.categories, hl.records, hl.numbered, hl.pending, hl.settled,
      hl.unlocked⟩

theorem ledger_deployed (tokens : τ) : Ledger (deployed tokens) where
  fresh _ := ⟨rfl, rfl, rfl⟩
  asset _ hn := by cases hn
  categories := rfl
  records := rfl
  numbered _ _ hk := by cases hk
  pending := le_rfl
  settled _ _ hk := by cases hk
  unlocked := rfl

/-- What the contract's storage says, and what it holds on top of `gift`. -/
structure Conserved (tok : Token τ) (holder : Address) (gift : Address → ℤ) (s : State τ) :
    Prop where
  fresh : s.admin = none → s.token = none ∧ s.category = .empty ∧ s.distribution = .empty
  asset : ∀ admin, s.admin = some admin → s.token ≠ none
  categories : s.totalAllocated = allocated s.category
  records : s.totalAllocated = recorded s.distribution
  numbered : ∀ id r, s.distribution.get? id = some r → id ≤ s.distributionCounter
  pending : s.totalAllocated ≤ s.totalCollected
  settled : Settled s.category
  unlocked : s.reentrancyLock = false
  balance : ∀ t, tok.balance s.tokens t holder =
    (if s.token = some t then s.totalCollected - claimed s.category else 0) + gift t

variable {gift : Address → ℤ}

theorem Conserved.ledger (hc : Conserved tok self gift s) : Ledger s :=
  ⟨hc.fresh, hc.asset, hc.categories, hc.records, hc.numbered, hc.pending, hc.settled, hc.unlocked⟩

theorem Conserved.of_ledger (hl : Ledger s) (hbalance : ∀ t, tok.balance s.tokens t self =
    (if s.token = some t then s.totalCollected - claimed s.category else 0) + gift t) :
    Conserved tok self gift s :=
  ⟨hl.fresh, hl.asset, hl.categories, hl.records, hl.numbered, hl.pending, hl.settled, hl.unlocked,
    hbalance⟩

/-- The balance covers what is allocated and not claimed. -/
theorem Conserved.covers (hc : Conserved tok self gift s) (hgift : ∀ t, 0 ≤ gift t) {id : Symbol}
    {c : RecipientCategory} {token : Address} (hk : s.category.get? id = some c)
    (hasset : s.token = some token) :
    c.totalAllocated - c.totalClaimed ≤ tok.balance s.tokens token self := by
  have hdue := Store.weight_le_total (w := fun _ (c : RecipientCategory) =>
    c.totalAllocated - c.totalClaimed) (s := s.category) id (by
      intro id' c' hk'
      have := hc.settled id' c' hk'
      omega)
  rw [Store.weight_some hk] at hdue
  have hsplit : (s.category.total fun _ c => c.totalAllocated - c.totalClaimed) =
      allocated s.category - claimed s.category := by
    have hadd := Store.total_add (fun _ (c : RecipientCategory) =>
      c.totalAllocated - c.totalClaimed) (fun _ c => c.totalClaimed) s.category
    simp only [sub_add_cancel] at hadd
    unfold allocated claimed
    omega
  have hbalance := hc.balance token
  rw [if_pos hasset] at hbalance
  have := hc.categories
  have := hc.pending
  have := hgift token
  omega

/-- What is claimed stands, whatever else is written to a category. -/
theorem Conserved.rewrite (hc : Conserved tok self gift s) {id : Symbol}
    {c c' : RecipientCategory} {total : ℕ}
    (hl : Ledger { s with category := s.category.set id c', totalSharesBps := total })
    (hk : s.category.get? id = some c) (hclaimed : c'.totalClaimed = c.totalClaimed) :
    Conserved tok self gift
      { s with category := s.category.set id c', totalSharesBps := total } := by
  obtain ⟨-, hpaid⟩ := sums_set hk c'
  rw [hclaimed, sub_self, add_zero] at hpaid
  refine .of_ledger hl fun t => ?_
  simp only [hpaid]
  exact hc.balance t

theorem claim_conserved {recipient : Address} (hex : tok.Exact) (hne : recipient ≠ self)
    (hc : Conserved tok self gift s) (h : Claim tok self recipient s s') :
    Conserved tok self gift s' := by
  refine .of_ledger (claim_ledger hc.ledger h) fun t => ?_
  cases h with
  | mk id c token tokens stored owner due asset paid =>
    have hclaimed : claimed (s.category.set id c.paidOut) =
        claimed s.category + (c.totalAllocated - c.totalClaimed) := (sums_set stored _).2
    have hmoves := hex.moves _ _ _ _ _ _ paid t self
    rw [if_neg (by rintro ⟨-, he⟩; exact hne he.symm : ¬ (t = token ∧ self = recipient)),
      hc.balance t] at hmoves
    simp only [asset, Option.some.injEq] at hmoves ⊢
    by_cases ht : token = t
    · subst ht
      simp only [if_true, and_self] at hmoves ⊢
      omega
    · simp only [ht, Ne.symm ht, if_false, false_and] at hmoves ⊢
      omega

theorem claims_conserved {recipient : Address} (hex : tok.Exact) (hne : recipient ≠ self)
    (hc : Conserved tok self gift s) (h : Claims tok self recipient s s') :
    Conserved tok self gift s' := by
  induction h with
  | refl => exact hc
  | tail _ hstep ih => exact claim_conserved hex hne ih hstep

theorem conserved_call {env : Env} {op : Op} (hex : tok.Exact) (hconf : Configured s)
    (ho : self ∉ op.parties) (hc : Conserved tok self gift s)
    (h : Effect tok self s (.call env op) s') : Conserved tok self gift s' := by
  have hl' : Ledger s' := ledger_step hconf hc.ledger h
  cases h with
  | initializeContract _ _ token _ _ fresh =>
    obtain ⟨htoken, hcategories, -⟩ := hc.fresh fresh
    refine .of_ledger hl' fun t => ?_
    have hbalance := hc.balance t
    have hnothing : claimed (.empty : Store Symbol RecipientCategory) = 0 := rfl
    rw [htoken] at hbalance
    simp only [hcategories, hnothing]
    simpa using hbalance
  | addCategory _ admin id recipient share authorized fresh =>
    have hclaimed : claimed (s.category.set id ⟨id, recipient, share, 0, 0, true⟩) =
        claimed s.category := by
      simp [claimed, Store.total_set, Store.weight_none fresh]
    refine .of_ledger hl' fun t => ?_
    simp only [hclaimed]
    exact hc.balance t
  | updateCategory _ _ _ _ _ _ _ _ _ stored => exact hc.rewrite hl' stored rfl
  | removeCategory _ _ _ _ _ _ stored => exact hc.rewrite hl' stored rfl
  | reactivateCategory _ _ _ _ _ _ stored => exact hc.rewrite hl' stored rfl
  | collectFee _ payer token _ fee tokens positive asset _ paid =>
    refine .of_ledger hl' fun t => ?_
    have hcredit := hex.credit paid (notSelf ho) t
    rw [hc.balance t] at hcredit
    simp only [asset, Option.some.injEq] at hcredit ⊢
    by_cases ht : token = t
    · subst ht
      simp only [if_true] at hcredit ⊢
      omega
    · simp only [ht, Ne.symm ht, if_false] at hcredit ⊢
      omega
  | distribute env count progress s₁ full pending counted takers loop allots =>
    obtain ⟨hclaimed, -⟩ :=
      distribute_ledger env.timestamp hconf hc.ledger full pending counted takers loop allots
    refine .of_ledger hl' fun t => ?_
    obtain ⟨categories, rfl⟩ := allots.frame
    simp only at hclaimed ⊢
    rw [hclaimed]
    exact hc.balance t
  | claims _ op recipient _ claimant claims =>
    have hne : recipient ≠ self := by
      rintro rfl
      cases op <;> cases claimant <;> exact ho (by simp [Op.parties])
    exact claims_conserved hex hne hc claims
  | _ => exact .of_ledger hl' hc.balance

theorem conserved_step (hex : tok.Exact) (hconf : Configured s) (ho : a.Outside tok self s)
    (hc : Conserved tok self gift s) (h : Effect tok self s a s') :
    Conserved tok self (fun t => gift t + accounts.donated tok self t (s, a)) s' := by
  cases a with
  | call env op =>
    simp only [Accounts.donated, accounts, Action.elsewhere, add_zero]
    exact conserved_call hex hconf ho hc h
  | transfers tokens =>
    refine .of_ledger (ledger_step hconf hc.ledger h) fun t => ?_
    cases h
    have := hc.balance t
    simp only [Accounts.donated, accounts, Action.elsewhere]
    omega

/-- A recipient asks for a category. -/
structure Demand where
  env : Env
  id : Symbol
  recipient : Address

def Demand.call (d : Demand) : Action τ := .call d.env (.claim d.id d.recipient)

/-- The recipient asks for itself, and something allocated is not claimed yet. -/
def Demand.Due (holder : Address) (s : State τ) (d : Demand) : Prop :=
  d.env.authorized d.recipient = true ∧ d.recipient ≠ holder ∧
    ∃ c, s.category.get? d.id = some c ∧ c.recipient = d.recipient ∧
      c.totalClaimed < c.totalAllocated

/-- What is due is paid in full. -/
theorem claim_pays (hc : Conserved tok self gift s) (hgift : ∀ t, 0 ≤ gift t)
    (hhonours : tok.Honours) {env : Env} {id : Symbol} {recipient : Address}
    {c : RecipientCategory} (hauth : env.authorized recipient = true)
    (hk : s.category.get? id = some c) (howner : c.recipient = recipient)
    (hdue : c.totalClaimed < c.totalAllocated) :
    ∃ s', claim tok self env id recipient s = .ok (c.totalAllocated - c.totalClaimed, s') ∧
      Claim tok self recipient s s' ∧ s'.category = s.category.set id c.paidOut := by
  subst howner
  obtain ⟨hzero, hle, hfits⟩ := hc.settled id c hk
  have hadmin : s.token ≠ none := by
    cases hadmin : s.admin with
    | none =>
      rw [(hc.fresh hadmin).2.1] at hk
      cases hk
    | some admin => exact hc.asset admin hadmin
  obtain ⟨token, hasset⟩ := Option.ne_none_iff_exists'.mp hadmin
  obtain ⟨tokens, hpaid⟩ := hhonours s.tokens token self c.recipient
    (c.totalAllocated - c.totalClaimed) (by omega) (hc.covers hgift hk hasset)
  have hdiff : I128.InRange (c.totalAllocated - c.totalClaimed) := by
    obtain ⟨-, hmax⟩ := hfits
    refine ⟨le_trans ?_ (sub_nonneg.mpr hle), by omega⟩
    decide
  refine ⟨_, ?_, .mk id c token tokens hk rfl hdue hasset hpaid, rfl⟩
  have hall : c.totalClaimed + (c.totalAllocated - c.totalClaimed) = c.totalAllocated := by ring
  have hpay := (tok.pay_ok).mpr hpaid
  unfold claim claimOne requireAuth loadCategory
  simp only [hauth, if_true, hk, expect, ok_bind, ne_eq, not_true_eq_false, if_false]
  rw [I128.checked_of_inRange hdiff, ok_bind, if_neg (by omega), hall,
    I128.checked_of_inRange hfits, ok_bind]
  unfold getToken transferToken
  simp only [hasset, expect, ok_bind, hc.unlocked, hpay]
  rw [panicIf_of_not (by simp), ok_bind, panicIf_of_not (by omega), ok_bind, ok_bind]
  simp only [ok_bind]
  rw [panicIf_of_not (by omega), ok_bind]
  rfl

/-- Demands on different categories can be met in any order. -/
theorem demands_met (hex : tok.Exact) (hhonours : tok.Honours) (hgift : ∀ t, 0 ≤ gift t)
    {demands : List Demand} (hc : Conserved tok self gift s)
    (hnodup : (demands.map Demand.id).Nodup) (hdue : ∀ d ∈ demands, d.Due self s) :
    ∃ s', execute (next tok self) (demands.map Demand.call) s = .ok s' ∧
      (∀ id, id ∉ demands.map Demand.id → s'.category.get? id = s.category.get? id) ∧
      ∀ d ∈ demands, ∃ c, s.category.get? d.id = some c ∧
        s'.category.get? d.id = some c.paidOut := by
  induction demands generalizing s with
  | nil => exact ⟨s, rfl, fun _ _ => rfl, fun d hd => by cases hd⟩
  | cons d rest ih =>
    obtain ⟨hauth, hne, c, hk, howner, hopen⟩ := hdue d List.mem_cons_self
    obtain ⟨hnew, hrest⟩ := List.nodup_cons.mp hnodup
    obtain ⟨s₁, hclaim, hstep, hcategory⟩ :=
      claim_pays hc hgift hhonours hauth hk howner hopen
    have hother : ∀ id, id ≠ d.id → s₁.category.get? id = s.category.get? id := by
      intro id hid
      rw [hcategory, Store.get?_set_ne _ _ hid]
    have hlater : ∀ e ∈ rest, e.id ≠ d.id := by
      intro e he heq
      exact hnew (heq ▸ List.mem_map_of_mem he)
    obtain ⟨s', hrun, hframe, hpaid⟩ := ih (claim_conserved hex hne hc hstep) hrest (by
      intro e he
      obtain ⟨hauth', hne', hdue'⟩ := hdue e (List.mem_cons_of_mem _ he)
      refine ⟨hauth', hne', ?_⟩
      rw [hother e.id (hlater e he)]
      exact hdue')
    refine ⟨s', ?_, fun id hid => ?_, fun e he => ?_⟩
    · have hnext : next tok self d.call s = .ok s₁ := by
        simp only [Demand.call, next, invoke, hclaim]
        rfl
      simp only [List.map_cons, execute, hnext, ok_bind]
      exact hrun
    · rw [List.map_cons, List.mem_cons, not_or] at hid
      rw [hframe id hid.2, hother id hid.1]
    · rcases List.mem_cons.mp he with rfl | he
      · refine ⟨c, hk, ?_⟩
        rw [hframe e.id hnew, hcategory, Store.get?_set_self]
      · obtain ⟨c', hk', hend⟩ := hpaid e he
        exact ⟨c', (hother e.id (hlater e he)).symm.trans hk', hend⟩

theorem conserved_deployed (tokens : τ) :
    Conserved tok self (accounts.donations tok self (deployed tokens) []) (deployed tokens) :=
  .of_ledger (ledger_deployed tokens) fun t => by
    simp [deployed, Accounts.donations, accounts]

theorem Reachable.ledger (hs : Reachable tok self s) : Ledger s := by
  obtain ⟨tokens, hrun⟩ := hs
  have hboth : Configured s ∧ Ledger s := by
    refine hrun.preserves (P := fun s => Configured s ∧ Ledger s) ?_
      ⟨configured_deployed tokens, ledger_deployed tokens⟩
    rintro s a s' - hn ⟨hconf, hl⟩
    have heffect := next_effect hn
    exact ⟨configured_step hconf heffect, ledger_step hconf hl heffect⟩
  exact hboth.2

theorem Claims.collected {recipient : Address} (h : Claims tok self recipient s s') :
    s'.totalCollected = s.totalCollected := by
  induction h with
  | refl => rfl
  | tail _ hstep ih =>
    cases hstep
    exact ih

theorem collected_fits_step (hfits : I128.InRange s.totalCollected) (h : Effect tok self s a s') :
    I128.InRange s'.totalCollected := by
  cases h with
  | initializeContract => exact I128.inRange_zero
  | collectFee _ _ _ _ _ _ _ _ fits => exact fits
  | distribute _ _ _ s₁ _ _ _ _ _ allots =>
    obtain ⟨categories, rfl⟩ := allots.frame
    exact hfits
  | claims _ _ _ _ _ claims =>
    rw [claims.collected]
    exact hfits
  | _ => exact hfits

theorem Reachable.collected_fits (hs : Reachable tok self s) : I128.InRange s.totalCollected := by
  obtain ⟨tokens, hrun⟩ := hs
  refine hrun.preserves (P := fun s => I128.InRange s.totalCollected) ?_ I128.inRange_zero
  intro s a s' _ hn hfits
  exact collected_fits_step hfits (next_effect hn)

theorem Ledger.allocated_nonneg (hl : Ledger s) : 0 ≤ s.totalAllocated := by
  rw [hl.categories]
  refine Store.total_nonneg fun id c hk => ?_
  obtain ⟨hzero, hle, -⟩ := hl.settled id c hk
  exact hzero.trans hle

theorem history_conserved (hex : tok.Exact) {tokens : τ} {log : List (State τ × Action τ)}
    (hrun : History (next tok self) (fun _ s a => a.Outside tok self s) (deployed tokens) log s) :
    Configured s ∧
      Conserved tok self (accounts.donations tok self (deployed tokens) log) s := by
  refine hrun.preserves (P := fun log s => Configured s ∧
    Conserved tok self (accounts.donations tok self (deployed tokens) log) s)
    ⟨configured_deployed tokens, conserved_deployed tokens⟩ ?_
  rintro log s a s' ho hn ⟨hconf, hc⟩
  have heffect := next_effect hn
  refine ⟨configured_step hconf heffect, ?_⟩
  have hgifts : accounts.donations tok self (deployed tokens) ((s, a) :: log) = fun t =>
      accounts.donations tok self (deployed tokens) log t + accounts.donated tok self t (s, a) :=
    funext fun t => Accounts.donations_cons _ _ _ t
  rw [hgifts]
  exact conserved_step hex hconf ho hc heffect

/-- With exact tokens, and payers and recipients other than the contract itself, the
books agree with each other and with the account, so that whatever is allocated and
not claimed can be claimed, in any order. -/
theorem fees_conserved (hex : tok.Exact) {tokens : τ} {log : List (State τ × Action τ)}
    (hrun : History (next tok self) (fun _ s a => a.Outside tok self s) (deployed tokens) log s) :
    s.totalAllocated = allocated s.category ∧ s.totalAllocated = recorded s.distribution ∧
    (∀ id c, s.category.get? id = some c →
      0 ≤ c.totalClaimed ∧ c.totalClaimed ≤ c.totalAllocated) ∧
    s.totalAllocated ≤ s.totalCollected ∧
    (∀ token, s.token = some token → tok.balance s.tokens token self =
      s.totalCollected - claimed s.category +
        accounts.donations tok self (deployed tokens) log token) ∧
    (tok.Honours →
      (∀ d : Demand, d.Due self s → ∃ c s', s.category.get? d.id = some c ∧
        claim tok self d.env d.id d.recipient s =
          .ok (c.totalAllocated - c.totalClaimed, s')) ∧
      ∀ demands : List Demand, (demands.map Demand.id).Nodup → (∀ d ∈ demands, d.Due self s) →
        ∃ s', execute (next tok self) (demands.map Demand.call) s = .ok s' ∧
          ∀ d ∈ demands, ∃ c, s.category.get? d.id = some c ∧
            s'.category.get? d.id = some c.paidOut) := by
  obtain ⟨-, hc⟩ := history_conserved hex hrun
  have hgift := Accounts.donations_nonneg hex hrun fun _ _ _ => Action.Outside.spares
  refine ⟨hc.categories, hc.records, fun id c hk => ?_, hc.pending, fun token hasset => ?_,
    fun hhonours => ⟨fun d hdue => ?_, fun demands hnodup hdue => ?_⟩⟩
  · obtain ⟨hzero, hle, -⟩ := hc.settled id c hk
    exact ⟨hzero, hle⟩
  · rw [hc.balance token, if_pos hasset]
  · obtain ⟨hauth, -, c, hk, howner, hopen⟩ := hdue
    obtain ⟨s', hclaim, -, -⟩ := claim_pays hc hgift hhonours hauth hk howner hopen
    exact ⟨c, s', hk, hclaim⟩
  · obtain ⟨s', hend, -, hpaid⟩ := demands_met hex hhonours hgift hc hnodup hdue
    exact ⟨s', hend, hpaid⟩

section Runs

open Sample

/-- Fees on two odd amounts, a removal and a batch claim in between. -/
def busy : List Op := opened ++ [
  .collectFee alice 12345,
  .distribute,
  .removeCategory admin "ops",
  .updateCategory admin "dao" none (some 10000),
  .collectFee alice 6789,
  .distribute,
  .claimBatch ["dao", "ops", "dao"] bob]

/-- Of 1912 collected, 1172 are claimed and the other 740 can still be, although the
category they belong to is removed. -/
theorem fees_conserved_busy :
    ∃ s log s', History (next asset contract) (fun _ s a => a.Outside asset contract s) start log s ∧
      allocated s.category = 1912 ∧ recorded s.distribution = 1912 ∧
      asset.balance s.tokens usdc contract = 1912 - 1172 ∧
      claim asset contract env "ops" alice s = .ok (740, s') := by
  have h : After (fun h => h.2.totalAllocated = 1912 ∧ h.2.totalCollected = 1912 ∧
        claimed h.2.category = 1172 ∧ h.2.token = some usdc ∧
        (∃ c ∈ h.2.category.get? "ops", c.recipient = alice ∧ c.totalClaimed = 0 ∧
          c.totalAllocated = 740) ∧
        accounts.donations asset contract start h.1 usdc = 0)
      (record (next asset contract) (fun _ _ _ => True) (busy.map (.call env)) ([], start)) := by
    decide +kernel
  obtain ⟨⟨log, s⟩, hrec, htotal, hcollected, hclaimed, htoken, ⟨c, hk, howner, hzero, hall⟩,
    hgifts⟩ := h.exists_ok
  have hparties : ∀ op ∈ busy, contract ∉ op.parties := by decide
  have hrun : History (next asset contract) (fun _ s a => a.Outside asset contract s)
      start log s :=
    record_map_history hrec fun op hop _ _ _ => hparties op hop
  obtain ⟨hcategories, hrecords, -, -, hbalance, hclaims⟩ := fees_conserved asset_exact hrun
  simp only at htotal hcollected hclaimed hgifts hk
  have haccount : asset.balance s.tokens usdc contract = s.totalCollected - claimed s.category +
      accounts.donations asset contract start log usdc := hbalance usdc htoken
  rw [hcollected, hclaimed, hgifts] at haccount
  have hdue : (⟨env, "ops", alice⟩ : Demand).Due contract s :=
    ⟨rfl, by decide, c, hk, howner, by omega⟩
  obtain ⟨c', s', hk', hclaim⟩ := (hclaims asset_honours).1 ⟨env, "ops", alice⟩ hdue
  obtain rfl : c = c' := Option.some.inj (hk.symm.trans hk')
  rw [hall, hzero] at hclaim
  exact ⟨s, log, s', hrun, by omega, by omega, haccount, hclaim⟩

end Runs

end FeeDistribution
