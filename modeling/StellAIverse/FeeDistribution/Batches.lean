import StellAIverse.FeeDistribution.Conservation
import StellAIverse.Soroban.Batch

/-!
# Batch claims

A batch passes over what is not the caller's, what owes nothing, and what it has already paid. So
it is single claims of the categories that owe something, in the order of the list; and these come
to the same in every order.
-/

namespace FeeDistribution

open Soroban

section Batches

variable {τ : Type} {tok : Token τ} {self token recipient : Address} {env : Env} {s t : State τ}
  {id : Symbol} {ids done order order' : List Symbol} {c : RecipientCategory} {r : ℤ × State τ}

/-- `get_claimable` of a category, if it is the recipient's. -/
def claimableOf (recipient : Address) (s : State τ) (id : Symbol) : ℤ :=
  match s.category.get? id, getClaimable s id with
  | some c, .ok claimable => if c.recipient = recipient then claimable else 0
  | _, _ => 0

/-- Single claims of the listed categories. -/
def claimSingly (tok : Token τ) (self : Address) (env : Env) (recipient : Address) :
    List Symbol → State τ → Result (ℤ × State τ) :=
  Batch.inTurn fun id s => claim tok self env id recipient s

/-- The payment that a claim ends with. -/
def payDue (tok : Token τ) (self recipient token : Address) (id : Symbol) (c : RecipientCategory)
    (s : State τ) : Result (ℤ × State τ) := do
  let s ← transferToken tok { s with category := s.category.set id c.paidOut } token self recipient
    (c.totalAllocated - c.totalClaimed)
  .ok (c.totalAllocated - c.totalClaimed, s)

theorem due_fits (hl : Ledger s) (hk : s.category.get? id = some c) :
    I128.InRange (c.totalAllocated - c.totalClaimed) := by
  obtain ⟨hzero, hle, hfits⟩ := hl.settled id c hk
  exact hfits.of_le (by omega) (by omega)

theorem claimableOf_some (hl : Ledger s) (hk : s.category.get? id = some c) :
    claimableOf recipient s id =
      if c.recipient = recipient then c.totalAllocated - c.totalClaimed else 0 := by
  have hview : getClaimable s id = .ok (c.totalAllocated - c.totalClaimed) := by
    unfold getClaimable loadCategory
    rw [hk]
    exact I128.checked_of_inRange (due_fits hl hk)
  rw [claimableOf, hk, hview]

theorem claimableOf_nonneg (hl : Ledger s) (recipient : Address) (id : Symbol) :
    0 ≤ claimableOf recipient s id := by
  cases hk : s.category.get? id with
  | none => simp [claimableOf, hk]
  | some c =>
    obtain ⟨-, hle, -⟩ := hl.settled id c hk
    rw [claimableOf_some hl hk]
    split <;> omega

/-- A category owes its recipient something. -/
theorem claimableOf_pos (hl : Ledger s) (hpos : 0 < claimableOf recipient s id) :
    ∃ c, s.category.get? id = some c ∧ c.recipient = recipient ∧
      claimableOf recipient s id = c.totalAllocated - c.totalClaimed := by
  cases hk : s.category.get? id with
  | none => simp [claimableOf, hk] at hpos
  | some c =>
    rw [claimableOf_some hl hk] at hpos ⊢
    split at hpos
    · rename_i howner
      exact ⟨c, rfl, howner, by rw [if_pos howner]⟩
    · omega

theorem claimOne_due (hl : Ledger t) (htoken : t.token = some token)
    (hk : t.category.get? id = some c) (howner : c.recipient = recipient)
    (hdue : 0 < c.totalAllocated - c.totalClaimed) (requirePositive : Bool) :
    claimOne tok self id recipient requirePositive t =
      payDue tok self recipient token id c t := by
  obtain ⟨-, -, hfits⟩ := hl.settled id c hk
  have hall : c.totalClaimed + (c.totalAllocated - c.totalClaimed) = c.totalAllocated := by ring
  subst howner
  unfold claimOne loadCategory
  simp only [hk, expect, ok_bind, ne_eq, not_true_eq_false, if_false]
  rw [I128.checked_of_inRange (due_fits hl hk), ok_bind, if_neg (by omega), hall,
    I128.checked_of_inRange hfits, ok_bind]
  simp only [getToken, payDue, RecipientCategory.paidOut, htoken, expect, ok_bind]

theorem claim_due (hl : Ledger t) (htoken : t.token = some token)
    (hk : t.category.get? id = some c) (howner : c.recipient = recipient)
    (hdue : 0 < c.totalAllocated - c.totalClaimed) (hauth : env.authorized recipient = true) :
    claim tok self env id recipient t = payDue tok self recipient token id c t := by
  have hpays : panicIf (c.totalAllocated - c.totalClaimed ≤ 0) "Nothing to claim" = .ok () :=
    panicIf_of_not (by omega)
  unfold claim requireAuth
  rw [if_pos hauth, ok_bind, claimOne_due hl htoken hk howner hdue, payDue, bind_assoc]
  simp only [ok_bind, hpays]

/-- What is passed over. -/
theorem claimOne_skip (hl : Ledger t) (hk : t.category.get? id = some c)
    (hnone : c.recipient = recipient → c.totalAllocated - c.totalClaimed ≤ 0) :
    claimOne tok self id recipient false t = .ok (0, t) := by
  unfold claimOne loadCategory
  simp only [hk, expect, ok_bind]
  split
  · rfl
  · rename_i howner
    rw [I128.checked_of_inRange (due_fits hl hk), ok_bind, if_pos (hnone (not_ne_iff.mp howner))]
    rfl

theorem payDue_ok (h : payDue tok self recipient token id c t = .ok r) :
    ∃ tokens, tok.transfer t.tokens token self recipient (c.totalAllocated - c.totalClaimed) =
        some tokens ∧
      r = (c.totalAllocated - c.totalClaimed, { t with
        category := t.category.set id c.paidOut, tokens, reentrancyLock := false }) := by
  unfold payDue at h
  obtain ⟨s', hpay, h⟩ := bind_ok.mp h
  obtain ⟨-, tokens, hpaid, rfl⟩ := transferToken_ok hpay
  cases h
  exact ⟨tokens, hpaid, rfl⟩

theorem payDue_completes (id : Symbol) (hl : Ledger t) (hdue : 0 < c.totalAllocated - c.totalClaimed)
    {tokens : τ} (hpaid : tok.transfer t.tokens token self recipient
      (c.totalAllocated - c.totalClaimed) = some tokens) :
    ∃ r, payDue tok self recipient token id c t = .ok r := by
  unfold payDue transferToken
  rw [panicIf_of_not (by simp [hl.unlocked]), ok_bind, panicIf_of_not (by omega), ok_bind,
    (tok.pay_ok).mpr hpaid]
  exact ⟨_, rfl⟩

/-- After claims of the listed categories, each of which owed something. -/
structure Paid (tok : Token τ) (holder recipient token : Address) (s : State τ)
    (done : List Symbol) (t : State τ) : Prop where
  categories : ∀ id, t.category.get? id =
    if id ∈ done then (s.category.get? id).map (·.paidOut) else s.category.get? id
  rest : t = { s with category := t.category, tokens := t.tokens }
  pays : tok.settle s.tokens
    (tranches token holder recipient (done.map (claimableOf recipient s))) = some t.tokens

theorem Paid.start : Paid tok self recipient token s [] s where
  categories id := by simp
  rest := rfl
  pays := rfl

theorem Paid.asset (ht : Paid tok self recipient token s done t) : t.token = s.token :=
  congrArg (·.token) ht.rest

theorem Paid.fresh (ht : Paid tok self recipient token s done t) (hfresh : id ∉ done) :
    t.category.get? id = s.category.get? id := by
  rw [ht.categories, if_neg hfresh]

/-- One more claim. -/
theorem Paid.claim (ht : Paid tok self recipient token s done t) (hfresh : id ∉ done)
    (hk : s.category.get? id = some c)
    (hclaimable : claimableOf recipient s id = c.totalAllocated - c.totalClaimed)
    (hlock : s.reentrancyLock = false) (h : payDue tok self recipient token id c t = .ok r) :
    r.1 = claimableOf recipient s id ∧ Paid tok self recipient token s (done ++ [id]) r.2 := by
  obtain ⟨tokens, hpaid, rfl⟩ := payDue_ok h
  refine ⟨hclaimable.symm, ⟨fun id' => ?_, ?_, ?_⟩⟩
  · simp only [Store.get?_set, List.mem_append, List.mem_singleton]
    by_cases he : id' = id
    · subst he
      rw [if_pos rfl, if_pos (.inr rfl), hk]
      rfl
    · rw [if_neg he, ht.categories]
      simp only [he, or_false]
  · have hrest := ht.rest
    simp only
    rw [hrest, hlock]
  · rw [List.map_append, tranches, List.map_append]
    refine Token.settle_append ht.pays ?_
    rw [List.map_singleton, List.map_singleton, hclaimable]
    exact Token.settle_one hpaid

theorem payDue_ledger (hl : Ledger t) (htoken : t.token = some token)
    (hk : t.category.get? id = some c) (howner : c.recipient = recipient)
    (hdue : 0 < c.totalAllocated - c.totalClaimed)
    (h : payDue tok self recipient token id c t = .ok r) : Ledger r.2 := by
  obtain ⟨tokens, hpaid, rfl⟩ := payDue_ok h
  exact claim_ledger hl (.mk id c token tokens hk howner (by omega) htoken hpaid)

/-- What was claimed, or is not owed, is passed over. -/
theorem Paid.skip (hl : Ledger s) (hlt : Ledger t)
    (ht : Paid tok self recipient token s done t) (hk : s.category.get? id = some c)
    (hskip : id ∈ done ∨ claimableOf recipient s id ≤ 0) :
    claimOne tok self id recipient false t = .ok (0, t) := by
  by_cases hdone : id ∈ done
  · have hkt : t.category.get? id = some c.paidOut := by
      rw [ht.categories, if_pos hdone, hk]
      rfl
    refine claimOne_skip hlt hkt fun _ => ?_
    simp [RecipientCategory.paidOut]
  · refine claimOne_skip hlt ((ht.fresh hdone).trans hk) fun howner => ?_
    have hnone := hskip.resolve_left hdone
    rwa [claimableOf_some hl hk, if_pos howner] at hnone

/-- The loop of a batch makes single claims of the categories that are not passed over. -/
theorem Paid.claimEach_eq {total : ℤ} (hl : Ledger s) (htoken : s.token = some token)
    (hauth : env.authorized recipient = true) (hlt : Ledger t)
    (ht : Paid tok self recipient token s done t)
    (hstored : ∀ id ∈ ids, (s.category.get? id).isSome = true) (htotal : 0 ≤ total)
    (hfits : I128.InRange (total +
      ((Batch.firsts (claimableOf recipient s) done ids).map (claimableOf recipient s)).sum)) :
    claimEach tok self recipient ids total t =
      claimSingly tok self env recipient (Batch.firsts (claimableOf recipient s) done ids) t >>=
        fun r => .ok (total + r.1, r.2) := by
  induction ids generalizing done total t with
  | nil => simp [claimEach, claimSingly, Batch.firsts, Batch.inTurn]
  | cons id rest ih =>
    obtain ⟨hhead, hothers⟩ := List.forall_mem_cons.mp hstored
    obtain ⟨c, hk⟩ := Option.isSome_iff_exists.mp hhead
    have hmore : 0 ≤ ((Batch.firsts (claimableOf recipient s) (done ++ [id]) rest).map
        (claimableOf recipient s)).sum :=
      List.sum_nonneg (List.forall_mem_map.mpr fun i _ => claimableOf_nonneg hl recipient i)
    rw [claimEach]
    rw [Batch.firsts] at hfits ⊢
    split
    · rename_i hskip
      rw [if_pos hskip] at hfits
      have hnow : I128.InRange total := by
        refine hfits.of_le htotal (le_add_of_nonneg_right ?_)
        exact List.sum_nonneg (List.forall_mem_map.mpr fun i _ => claimableOf_nonneg hl recipient i)
      rw [ht.skip hl hlt hk hskip, ok_bind]
      simp only [add_zero]
      rw [I128.checked_of_inRange hnow, ok_bind]
      exact ih hlt ht hothers htotal hfits
    · rename_i htake
      rw [if_neg htake, List.map_cons, List.sum_cons] at hfits
      push Not at htake
      obtain ⟨c', hk', howner, hclaimable⟩ := claimableOf_pos hl htake.2
      obtain rfl := Option.some.inj (hk.symm.trans hk')
      have hkt : t.category.get? id = some c := (ht.fresh htake.1).trans hk
      have htokent : t.token = some token := ht.asset.trans htoken
      have hdue : 0 < c.totalAllocated - c.totalClaimed := by omega
      rw [claimOne_due hlt htokent hkt howner hdue, claimSingly, Batch.inTurn,
        claim_due hlt htokent hkt howner hdue hauth, bind_assoc]
      refine bind_congr_ok ?_
      rintro ⟨paid, t₁⟩ hr
      obtain ⟨hpaid, ht'⟩ := ht.claim htake.1 hk hclaimable hl.unlocked hr
      have hlt' := payDue_ledger hlt htokent hkt howner hdue hr
      simp only at hpaid ht' hlt' ⊢
      rw [← hpaid] at hfits
      rw [I128.checked_of_inRange (hfits.of_le (by omega) (by omega)), ok_bind,
        ih hlt' ht' hothers (by omega) (by rw [add_assoc]; exact hfits), bind_assoc]
      simp only [ok_bind, add_assoc]
      rfl

/-- What single claims pay and write. -/
theorem Paid.claims (hl : Ledger s) (htoken : s.token = some token)
    (hauth : env.authorized recipient = true) (hlt : Ledger t)
    (ht : Paid tok self recipient token s done t) (hnodup : (done ++ order).Nodup)
    (howed : ∀ id ∈ order, 0 < claimableOf recipient s id)
    (h : claimSingly tok self env recipient order t = .ok r) :
    r.1 = (order.map (claimableOf recipient s)).sum ∧
      Paid tok self recipient token s (done ++ order) r.2 := by
  induction order generalizing done t r with
  | nil =>
    cases h
    rw [List.append_nil]
    exact ⟨rfl, ht⟩
  | cons id rest ih =>
    obtain ⟨first, others, hclaim, hrest, rfl⟩ := Batch.inTurn_cons.mp h
    obtain ⟨hhead, htail⟩ := List.forall_mem_cons.mp howed
    rw [List.append_cons] at hnodup ⊢
    have hfresh : id ∉ done :=
      fun hmem => List.disjoint_of_nodup_append (List.Nodup.of_append_left hnodup) hmem
        (List.mem_singleton_self id)
    obtain ⟨c, hk, howner, hclaimable⟩ := claimableOf_pos hl hhead
    have hkt : t.category.get? id = some c := (ht.fresh hfresh).trans hk
    have htokent : t.token = some token := ht.asset.trans htoken
    have hdue : 0 < c.totalAllocated - c.totalClaimed := by omega
    rw [claim_due hlt htokent hkt howner hdue hauth] at hclaim
    obtain ⟨hpaid, ht'⟩ := ht.claim hfresh hk hclaimable hl.unlocked hclaim
    obtain ⟨hmore, hend⟩ :=
      ih (payDue_ledger hlt htokent hkt howner hdue hclaim) ht' hnodup htail hrest
    refine ⟨?_, hend⟩
    rw [List.map_cons, List.sum_cons, ← hpaid, ← hmore]

/-- Single claims go through when their payments do. -/
theorem Paid.claims_complete (hl : Ledger s) (htoken : s.token = some token)
    (hauth : env.authorized recipient = true) (hlt : Ledger t)
    (ht : Paid tok self recipient token s done t) (hnodup : (done ++ order).Nodup)
    (howed : ∀ id ∈ order, 0 < claimableOf recipient s id) {tokens : τ}
    (hpays : tok.settle t.tokens
      (tranches token self recipient (order.map (claimableOf recipient s))) = some tokens) :
    ∃ r, claimSingly tok self env recipient order t = .ok r := by
  induction order generalizing done t with
  | nil => exact ⟨_, rfl⟩
  | cons id rest ih =>
    obtain ⟨hhead, htail⟩ := List.forall_mem_cons.mp howed
    rw [List.append_cons] at hnodup
    have hfresh : id ∉ done :=
      fun hmem => List.disjoint_of_nodup_append (List.Nodup.of_append_left hnodup) hmem
        (List.mem_singleton_self id)
    obtain ⟨c, hk, howner, hclaimable⟩ := claimableOf_pos hl hhead
    have hkt : t.category.get? id = some c := (ht.fresh hfresh).trans hk
    have htokent : t.token = some token := ht.asset.trans htoken
    have hdue : 0 < c.totalAllocated - c.totalClaimed := by omega
    obtain ⟨tokens₁, hpaid, hlater⟩ := Token.settle_cons_some.mp hpays
    simp only [hclaimable] at hpaid
    obtain ⟨first, hfirst⟩ := payDue_completes id hlt hdue hpaid
    obtain ⟨-, ht'⟩ := ht.claim hfresh hk hclaimable hl.unlocked hfirst
    have hlt' := payDue_ledger hlt htokent hkt howner hdue hfirst
    obtain ⟨tokens', hpaid', hfirst'⟩ := payDue_ok hfirst
    obtain rfl := Option.some.inj (hpaid.symm.trans hpaid')
    obtain ⟨others, hothers⟩ := ih hlt' ht' hnodup htail (by rw [hfirst']; exact hlater)
    refine ⟨_, Batch.inTurn_cons.mpr ⟨first, others, ?_, hothers, rfl⟩⟩
    rw [claim_due hlt htokent hkt howner hdue hauth]
    exact hfirst

/-- The same storage, whatever the order in which its categories were written, and the same
balances. -/
structure SameLedger (tok : Token τ) (s s' : State τ) : Prop where
  categories : ∀ id, s'.category.get? id = s.category.get? id
  rest : s' = { s with category := s'.category, tokens := s'.tokens }
  balances : ∀ token holder, tok.balance s'.tokens token holder = tok.balance s.tokens token holder

/-- Where the first call goes through, so does the second, with the same payment and storage. -/
def Follows (tok : Token τ) (x y : Result (ℤ × State τ)) : Prop :=
  ∀ r, x = .ok r → ∃ r', y = .ok r' ∧ r'.1 = r.1 ∧ SameLedger tok r.2 r'.2

/-- Both fail, or both pay the same and leave the same storage. -/
def SameOutcome (tok : Token τ) (x y : Result (ℤ × State τ)) : Prop :=
  Follows tok x y ∧ Follows tok y x

theorem SameLedger.trans {s₁ s₂ s₃ : State τ} (h : SameLedger tok s₁ s₂)
    (h' : SameLedger tok s₂ s₃) : SameLedger tok s₁ s₃ where
  categories id := (h'.categories id).trans (h.categories id)
  rest := by
    have hrest := h.rest
    have hrest' := h'.rest
    rw [hrest', hrest]
  balances token holder := (h'.balances token holder).trans (h.balances token holder)

theorem Follows.trans {x y z : Result (ℤ × State τ)} (h : Follows tok x y)
    (h' : Follows tok y z) : Follows tok x z := by
  intro r hx
  obtain ⟨r₁, hy, hpaid₁, hsame₁⟩ := h r hx
  obtain ⟨r₂, hz, hpaid₂, hsame₂⟩ := h' r₁ hy
  exact ⟨r₂, hz, hpaid₂.trans hpaid₁, hsame₁.trans hsame₂⟩

theorem Paid.same (hex : tok.Exact) {s₁ s₂ : State τ}
    (h₁ : Paid tok self recipient token s order s₁) (h₂ : Paid tok self recipient token s order' s₂)
    (hperm : order.Perm order') : SameLedger tok s₁ s₂ where
  categories id := by rw [h₂.categories, h₁.categories, if_congr hperm.mem_iff rfl rfl]
  rest := by
    have hrest₁ := h₁.rest
    have hrest₂ := h₂.rest
    rw [hrest₂, hrest₁]
  balances token' holder := by
    rw [hex.settle h₂.pays, hex.settle h₁.pays, netFlow_tranches, netFlow_tranches,
      (hperm.map _).sum_eq]

theorem claimSingly_perm (hex : tok.Exact) (hhonours : tok.Honours) (hcovered : tok.Covered)
    (hl : Ledger s) (htoken : s.token = some token) (hauth : env.authorized recipient = true)
    (hnodup : order.Nodup) (howed : ∀ id ∈ order, 0 < claimableOf recipient s id)
    (hperm : order.Perm order') (h : claimSingly tok self env recipient order s = .ok r) :
    ∃ r', claimSingly tok self env recipient order' s = .ok r' ∧ r'.1 = r.1 ∧
      SameLedger tok r.2 r'.2 := by
  have howed' : ∀ id ∈ order', 0 < claimableOf recipient s id :=
    fun id hid => howed id (hperm.mem_iff.mpr hid)
  have hnodup' : order'.Nodup := hperm.nodup_iff.mp hnodup
  have hnonneg : ∀ n ∈ order.map (claimableOf recipient s), 0 ≤ n :=
    List.forall_mem_map.mpr fun id hid => (howed id hid).le
  have hstart : Paid tok self recipient token s [] s := .start
  obtain ⟨hpaid, hend⟩ := hstart.claims hl htoken hauth hl hnodup howed h
  obtain ⟨tokens, hpays⟩ := Token.settle_tranches_perm hex hhonours hcovered (hperm.map _) hnonneg
    hend.pays
  obtain ⟨r', h'⟩ := hstart.claims_complete hl htoken hauth hl hnodup' howed' hpays
  obtain ⟨hpaid', hend'⟩ := hstart.claims hl htoken hauth hl hnodup' howed' h'
  refine ⟨r', h', ?_, hend.same hex hend' hperm⟩
  rw [hpaid', hpaid, (hperm.map _).sum_eq]

/-- What different categories owe fits into an amount. -/
theorem claimable_sum_fits (hs : Reachable tok self s) (hnodup : order.Nodup) :
    I128.InRange (order.map (claimableOf recipient s)).sum := by
  have hl := hs.ledger
  have hnonneg : ∀ n ∈ order.map (claimableOf recipient s), 0 ≤ n :=
    List.forall_mem_map.mpr fun id _ => claimableOf_nonneg hl recipient id
  have hweight : ∀ id ∈ order, claimableOf recipient s id ≤
      s.category.weight (fun _ (c : RecipientCategory) => c.totalAllocated) id := by
    intro id _
    cases hk : s.category.get? id with
    | none => simp [claimableOf, hk, Store.weight_none]
    | some c =>
      obtain ⟨hzero, hle, -⟩ := hl.settled id c hk
      rw [claimableOf_some hl hk, Store.weight_some hk]
      split <;> omega
  have hall : (order.map (claimableOf recipient s)).sum ≤ allocated s.category := by
    refine (List.sum_le_sum hweight).trans (Store.sum_weight_le_total hnodup fun id c hk => ?_)
    obtain ⟨hzero, hle, -⟩ := hl.settled id c hk
    exact hzero.trans hle
  rw [← hl.categories] at hall
  exact hs.collected_fits.of_le (List.sum_nonneg hnonneg) (hall.trans hl.pending)

theorem Ledger.token_of_stored (hl : Ledger s) (hk : s.category.get? id = some c) :
    ∃ token, s.token = some token := by
  refine Option.ne_none_iff_exists'.mp ?_
  cases hadmin : s.admin with
  | none =>
    rw [(hl.fresh hadmin).2.1] at hk
    cases hk
  | some admin => exact hl.asset admin hadmin

/-- A batch is single claims of the first occurrences of what is owed. -/
theorem claimBatch_iff (hs : Reachable tok self s)
    (hstored : ∀ id ∈ ids, (s.category.get? id).isSome = true) :
    claimBatch tok self env ids recipient s = .ok r ↔ env.authorized recipient = true ∧
      ids.length ≤ maxBatchSize ∧ Batch.firsts (claimableOf recipient s) [] ids ≠ [] ∧
      claimSingly tok self env recipient (Batch.firsts (claimableOf recipient s) [] ids) s =
        .ok r := by
  have hl := hs.ledger
  unfold claimBatch
  rw [requireAuth_bind, panicIf_bind, panicIf_bind, not_lt]
  refine and_congr_right fun hauth => ?_
  cases ids with
  | nil => simp [Batch.firsts]
  | cons id rest =>
    obtain ⟨c, hk⟩ := Option.isSome_iff_exists.mp (hstored id List.mem_cons_self)
    obtain ⟨token, htoken⟩ := hl.token_of_stored hk
    have hnodup := Batch.nodup_firsts (claimableOf recipient s) (id :: rest) []
    have howed : ∀ i ∈ Batch.firsts (claimableOf recipient s) [] (id :: rest),
        0 < claimableOf recipient s i := fun i hi => (Batch.mem_firsts.mp hi).2.2
    have hfits : I128.InRange ((Batch.firsts (claimableOf recipient s) [] (id :: rest)).map
        (claimableOf recipient s)).sum := claimable_sum_fits hs hnodup
    rw [Paid.start.claimEach_eq hl htoken hauth hl hstored le_rfl (by rwa [zero_add]), bind_assoc]
    simp only [ok_bind, zero_add]
    constructor
    · rintro ⟨-, hlength, h⟩
      obtain ⟨r', hclaims, h⟩ := bind_ok.mp h
      rw [panicIf_bind] at h
      obtain ⟨hpos, h⟩ := h
      cases h
      refine ⟨hlength, fun hnone => ?_, hclaims⟩
      rw [hnone] at hclaims
      cases hclaims
      exact hpos le_rfl
    · rintro ⟨hlength, hsome, hclaims⟩
      obtain ⟨hpaid, -⟩ := Paid.start.claims hl htoken hauth hl hnodup howed hclaims
      have hpos : 0 < r.1 := by
        rw [hpaid]
        exact List.sum_pos _ (List.forall_mem_map.mpr howed) (by rwa [ne_eq, List.map_eq_nil_iff])
      refine ⟨by simp, hlength, bind_ok.mpr ⟨r, hclaims, ?_⟩⟩
      rw [panicIf_bind]
      exact ⟨not_le.mpr hpos, rfl⟩

theorem claimSingly_authorized (hne : order ≠ [])
    (h : claimSingly tok self env recipient order s = .ok r) : env.authorized recipient = true := by
  obtain ⟨id, rest, rfl⟩ := List.exists_cons_of_ne_nil hne
  obtain ⟨first, -, hclaim, -⟩ := Batch.inTurn_cons.mp h
  exact (requireAuth_bind.mp hclaim).1

/-- A batch and single claims of what is owed, in any order. -/
theorem claimBatch_singly (hex : tok.Exact) (hhonours : tok.Honours) (hcovered : tok.Covered)
    (hs : Reachable tok self s) (hstored : ∀ id ∈ ids, (s.category.get? id).isSome = true)
    (hlength : ids.length ≤ maxBatchSize)
    (horder : Batch.Once (claimableOf recipient s) ids order) (hne : order ≠ []) :
    SameOutcome tok (claimBatch tok self env ids recipient s)
      (claimSingly tok self env recipient order s) := by
  have hl := hs.ledger
  have hfirsts := Batch.firsts_once (claimableOf recipient s) ids
  have hperm := hfirsts.perm horder
  have howed : ∀ i ∈ order, 0 < claimableOf recipient s i :=
    fun i hi => ((horder.mem i).mp hi).2
  have howed' : ∀ i ∈ Batch.firsts (claimableOf recipient s) [] ids,
      0 < claimableOf recipient s i := fun i hi => ((hfirsts.mem i).mp hi).2
  obtain ⟨id, hid⟩ := List.exists_mem_of_ne_nil _ hne
  obtain ⟨c, hk, -⟩ := claimableOf_pos hl (howed id hid)
  obtain ⟨token, htoken⟩ := hl.token_of_stored hk
  constructor
  · intro r h
    obtain ⟨hauth, -, -, hclaims⟩ := (claimBatch_iff hs hstored).mp h
    exact claimSingly_perm hex hhonours hcovered hl htoken hauth hfirsts.nodup howed' hperm hclaims
  · intro r h
    have hauth := claimSingly_authorized hne h
    obtain ⟨r', h', hpaid, hsame⟩ := claimSingly_perm hex hhonours hcovered hl htoken hauth
      horder.nodup howed hperm.symm h
    have hsome : Batch.firsts (claimableOf recipient s) [] ids ≠ [] :=
      List.ne_nil_of_mem (hperm.mem_iff.mpr hid)
    exact ⟨r', (claimBatch_iff hs hstored).mpr ⟨hauth, hlength, hsome, h'⟩, hpaid, hsame⟩

/-- Batches of existing categories pay what the distinct ones of them owe their caller. Those of
the same categories have the same outcome, and so do single claims of what is owed, in any order;
if nothing is owed or the list is too long, they fail. -/
theorem claimBatch_of_set (hex : tok.Exact) (hhonours : tok.Honours) (hcovered : tok.Covered)
    (hs : Reachable tok self s) (hstored : ∀ id ∈ ids, (s.category.get? id).isSome = true) :
    (∀ r, claimBatch tok self env ids recipient s = .ok r →
      r.1 = Batch.distinctTotal (claimableOf recipient s) ids) ∧
    (∀ ids', ids'.toFinset = ids.toFinset → ids.length ≤ maxBatchSize →
      ids'.length ≤ maxBatchSize →
      SameOutcome tok (claimBatch tok self env ids recipient s)
        (claimBatch tok self env ids' recipient s)) ∧
    (∀ order, Batch.Once (claimableOf recipient s) ids order → order ≠ [] →
      ids.length ≤ maxBatchSize →
      SameOutcome tok (claimBatch tok self env ids recipient s)
        (claimSingly tok self env recipient order s)) ∧
    (∀ order, Batch.Once (claimableOf recipient s) ids order →
      order = [] ∨ maxBatchSize < ids.length →
      ∀ r, claimBatch tok self env ids recipient s ≠ .ok r) := by
  have hl := hs.ledger
  have hfirsts := Batch.firsts_once (claimableOf recipient s) ids
  refine ⟨fun r h => ?_, fun ids' hset hlength hlength' => ?_,
    fun order horder hne hlength =>
      claimBatch_singly hex hhonours hcovered hs hstored hlength horder hne,
    fun order horder hfails r h => ?_⟩
  · obtain ⟨hauth, -, hsome, hclaims⟩ := (claimBatch_iff hs hstored).mp h
    obtain ⟨id, hid⟩ := List.exists_mem_of_ne_nil _ hsome
    have howed : ∀ i ∈ Batch.firsts (claimableOf recipient s) [] ids,
        0 < claimableOf recipient s i := fun i hi => ((hfirsts.mem i).mp hi).2
    obtain ⟨c, hk, -⟩ := claimableOf_pos hl (howed id hid)
    obtain ⟨token, htoken⟩ := hl.token_of_stored hk
    obtain ⟨hpaid, -⟩ := Paid.start.claims hl htoken hauth hl hfirsts.nodup howed hclaims
    rw [hpaid, hfirsts.sum fun id _ => claimableOf_nonneg hl recipient id]
  · have hmem : ∀ i, i ∈ ids ↔ i ∈ ids' := by
      intro i
      rw [← List.mem_toFinset, ← hset, List.mem_toFinset]
    have hstored' : ∀ id ∈ ids', (s.category.get? id).isSome = true :=
      fun id hid => hstored id ((hmem id).mpr hid)
    have hfirsts' := hfirsts.congr fun i => (hmem i).symm
    by_cases hnone : Batch.firsts (claimableOf recipient s) [] ids = []
    · -- Nothing is owed, and both fail.
      have hempty : ∀ {l : List Symbol}, Batch.Once (claimableOf recipient s) l
          (Batch.firsts (claimableOf recipient s) [] ids) →
          Batch.firsts (claimableOf recipient s) [] l = [] := by
        intro l hl
        rw [hnone] at hl
        exact ((Batch.firsts_once _ l).perm hl).eq_nil
      refine ⟨fun r h => ?_, fun r h => ?_⟩
      · exact absurd hnone ((claimBatch_iff hs hstored).mp h).2.2.1
      · exact absurd (hempty hfirsts') ((claimBatch_iff hs hstored').mp h).2.2.1
    · obtain ⟨hto, hfrom⟩ : SameOutcome tok (claimBatch tok self env ids recipient s)
          (claimSingly tok self env recipient _ s) :=
        claimBatch_singly hex hhonours hcovered hs hstored hlength hfirsts hnone
      obtain ⟨hto', hfrom'⟩ : SameOutcome tok (claimBatch tok self env ids' recipient s)
          (claimSingly tok self env recipient _ s) :=
        claimBatch_singly hex hhonours hcovered hs hstored' hlength' hfirsts' hnone
      exact ⟨hto.trans hfrom', hto'.trans hfrom⟩
  · obtain ⟨-, hlength, hsome, -⟩ := (claimBatch_iff hs hstored).mp h
    rcases hfails with rfl | hlong
    · exact hsome (hfirsts.perm horder).eq_nil
    · omega

end Batches

section Runs

open Sample

/-- Two categories of alice's and one of bob's. -/
def shared : List Op := [
  .initializeContract admin usdc 1000 2000,
  .addCategory admin "ops" alice 5000,
  .addCategory admin "dao" bob 2000,
  .addCategory admin "dev" alice 3000,
  .collectFee alice 1000,
  .distribute]

/-- Alice takes both of hers, in whatever order. -/
theorem claimBatch_of_set_shared :
    ∃ (s : State Balances) (r : ℤ × State Balances), run shared = .ok s ∧
      claimBatch asset contract env ["ops", "dao", "dev", "ops"] alice s = .ok r ∧ r.1 = 80 ∧
      SameOutcome asset (claimBatch asset contract env ["ops", "dao", "dev", "ops"] alice s)
        (claimBatch asset contract env ["dev", "ops", "dao"] alice s) := by
  have h : After (fun s => (∀ id ∈ ["ops", "dao", "dev", "ops"],
        (s.category.get? id).isSome = true) ∧ After (fun r => r.1 = 80)
        (claimBatch asset contract env ["ops", "dao", "dev", "ops"] alice s)) (run shared) := by
    decide +kernel
  obtain ⟨s, hs, hstored, hbatch⟩ := h.exists_ok
  obtain ⟨r, hr, hpaid⟩ := hbatch.exists_ok
  exact ⟨s, r, hs, hr, hpaid, (claimBatch_of_set asset_exact asset_honours asset_covered
    (run_reachable hs) hstored).2.1 _ (by decide) (by decide) (by decide)⟩

/-- A category listed more than fifty times, and once. -/
theorem claimBatch_too_long : ¬ ∀ (s : State Balances) (ids ids' : List Symbol),
    Reachable asset contract s → (∀ id ∈ ids, (s.category.get? id).isSome = true) →
    ids'.toFinset = ids.toFinset →
    SameOutcome asset (claimBatch asset contract env ids alice s)
      (claimBatch asset contract env ids' alice s) := by
  intro hall
  have h : After (fun s => (s.category.get? "ops").isSome = true ∧
        After (fun _ => True) (claimBatch asset contract env ["ops"] alice s)) (run shared) := by
    decide +kernel
  obtain ⟨s, hs, hstored, hbatch⟩ := h.exists_ok
  obtain ⟨r, hr, -⟩ := hbatch.exists_ok
  obtain ⟨-, hfollows⟩ := hall s (List.replicate 51 "ops") ["ops"] (run_reachable hs)
    (fun id hid => List.eq_of_mem_replicate hid ▸ hstored) (by decide)
  obtain ⟨r', hr', -⟩ := hfollows r hr
  have hlong : claimBatch asset contract env (List.replicate 51 "ops") alice s =
      .error (.panic "Batch exceeds maximum size") := rfl
  rw [hlong] at hr'
  cases hr'

end Runs

end FeeDistribution
