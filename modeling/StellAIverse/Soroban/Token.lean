import StellAIverse.Soroban.Result
import StellAIverse.Soroban.Store

/-!
# The host a contract runs on

A call sees the ledger time and the set of addresses that authorised it. Token
contracts are other parties' code: a contract only learns whether a transfer
completed, so they are a parameter, and what accounting needs of them is the
property `Token.Exact`.
-/

namespace Soroban

structure Address where
  id : ℕ
  deriving DecidableEq, Repr

/-- The only party to a call is somebody else. -/
theorem notSelf {self x : Address} (h : self ∉ [x]) : x ≠ self := by
  rintro rfl
  exact h List.mem_cons_self

/-- What the host tells one invocation. -/
structure Env where
  timestamp : ℕ
  authorized : Address → Bool

def requireAuth (env : Env) (a : Address) : Result Unit :=
  if env.authorized a then .ok () else .error .unauthorized

theorem requireAuth_bind {env : Env} {a : Address} {β : Type} {f : Unit → Result β} {r : β} :
    (requireAuth env a >>= f) = .ok r ↔ env.authorized a = true ∧ f () = .ok r := by
  unfold requireAuth
  split <;> simp_all [bind, Except.bind]

theorem requireAuth_avoids {e : Fault} {env : Env} {a : Address} (he : e ≠ .unauthorized) :
    Avoids e (requireAuth env a) := by
  unfold Avoids requireAuth
  split <;> simp [he.symm]

/-- Every token contract of the ledger, over one shared token state. -/
structure Token (τ : Type) where
  balance : τ → Address → Address → ℤ
  transfer : τ → Address → Address → Address → ℤ → Option τ

namespace Token

variable {τ : Type} (tok : Token τ)

/-- `TokenClient::transfer`; a transfer the token refuses traps the caller. -/
def pay (t : τ) (token source target : Address) (amount : ℤ) : Result τ :=
  match tok.transfer t token source target amount with
  | some t' => .ok t'
  | none => .error .callFailed

theorem pay_ok {t t' : τ} {token source target : Address} {amount : ℤ} :
    tok.pay t token source target amount = .ok t' ↔
      tok.transfer t token source target amount = some t' := by
  unfold pay
  split <;> simp_all

theorem pay_bind {t : τ} {token source target : Address} {amount : ℤ} {β : Type}
    {f : τ → Result β} {r : β} :
    (tok.pay t token source target amount >>= f) = .ok r ↔
      ∃ t', tok.transfer t token source target amount = some t' ∧ f t' = .ok r := by
  simp [bind_ok, pay_ok]

theorem pay_avoids {e : Fault} {t : τ} {token source target : Address} {amount : ℤ}
    (he : e ≠ .callFailed) : Avoids e (tok.pay t token source target amount) := by
  unfold Avoids pay
  split <;> simp [he.symm]

/-- A transfer moves exactly the stated non-negative amount, and no account is
ever in debt. -/
structure Exact : Prop where
  nonneg : ∀ t token holder, 0 ≤ tok.balance t token holder
  amount : ∀ t token source target n t',
    tok.transfer t token source target n = some t' → 0 ≤ n
  moves : ∀ t token source target n t',
    tok.transfer t token source target n = some t' → ∀ token' holder,
      tok.balance t' token' holder = tok.balance t token' holder
        - (if token' = token ∧ holder = source then n else 0)
        + (if token' = token ∧ holder = target then n else 0)

/-- Transfers of amounts the source account covers go through. -/
def Honours : Prop :=
  ∀ t token source target n, 0 ≤ n → n ≤ tok.balance t token source →
    ∃ t', tok.transfer t token source target n = some t'

/-- Only amounts that the source account covers go through. -/
def Covered : Prop :=
  ∀ t token source target n t', tok.transfer t token source target n = some t' →
    n ≤ tok.balance t token source

variable {tok}

/-- A payment into an account from somebody else. -/
theorem Exact.credit (h : tok.Exact) {t t' : τ} {token source target : Address} {n : ℤ}
    (ht : tok.transfer t token source target n = some t') (hne : source ≠ target)
    (token' : Address) :
    tok.balance t' token' target =
      tok.balance t token' target + if token' = token then n else 0 := by
  rw [h.moves t token source target n t' ht token' target]
  simp [Ne.symm hne]

/-- A payment out of an account to somebody else. -/
theorem Exact.spend (h : tok.Exact) {t t' : τ} {token source target : Address} {n : ℤ}
    (ht : tok.transfer t token source target n = some t') (hne : target ≠ source)
    (token' : Address) :
    tok.balance t' token' source =
      tok.balance t token' source - if token' = token then n else 0 := by
  rw [h.moves t token source target n t' ht token' source]
  simp [Ne.symm hne]

/-- A payment out of an account, to whomever. -/
theorem Exact.debit (h : tok.Exact) {t t' : τ} {token source target : Address} {n : ℤ}
    (ht : tok.transfer t token source target n = some t') (token' : Address) :
    (tok.balance t token' source - if token' = token then n else 0) ≤
      tok.balance t' token' source := by
  have hn := h.amount t token source target n t' ht
  rw [h.moves t token source target n t' ht token' source]
  by_cases hk : token' = token ∧ source = target
  · simp [hk, hn]
  · rw [if_neg hk]
    simp

theorem Exact.debit_same (h : tok.Exact) {t t' : τ} {token source target : Address} {n : ℤ}
    (ht : tok.transfer t token source target n = some t') :
    tok.balance t token source - n ≤ tok.balance t' token source := by
  have hout := h.debit ht token
  rwa [if_pos rfl] at hout

end Token

/-- A transfer between two accounts. -/
structure Payment where
  token : Address
  source : Address
  target : Address
  amount : ℤ

/-- What a payment adds to one account. -/
def Payment.flow (token holder : Address) (p : Payment) : ℤ :=
  (if token = p.token ∧ holder = p.target then p.amount else 0) -
    (if token = p.token ∧ holder = p.source then p.amount else 0)

/-- A payment into an account from somebody else. -/
theorem Payment.flow_in {token token' source holder : Address} {n : ℤ} (h : source ≠ holder) :
    Payment.flow token holder ⟨token', source, holder, n⟩ = if token = token' then n else 0 := by
  simp [Payment.flow, h.symm]

/-- A payment out of an account to somebody else. -/
theorem Payment.flow_out {token token' holder target : Address} {n : ℤ} (h : target ≠ holder) :
    Payment.flow token holder ⟨token', holder, target, n⟩ = -if token = token' then n else 0 := by
  simp [Payment.flow, h.symm]

/-- A payment out of an account, to whomever. -/
theorem Payment.flow_out_ge {token token' holder target : Address} {n : ℤ} (hn : 0 ≤ n) :
    (-if token = token' then n else 0) ≤ Payment.flow token holder ⟨token', holder, target, n⟩ := by
  by_cases ht : token = token' <;> by_cases hh : holder = target <;>
    simp [Payment.flow, ht, hh, hn]

def netFlow (token holder : Address) (payments : List Payment) : ℤ :=
  (payments.map (Payment.flow token holder)).sum

@[simp] theorem netFlow_nil (token holder : Address) : netFlow token holder [] = 0 := rfl

@[simp] theorem netFlow_cons (token holder : Address) (p : Payment) (rest : List Payment) :
    netFlow token holder (p :: rest) = p.flow token holder + netFlow token holder rest := by
  simp [netFlow]

theorem netFlow_append (token holder : Address) (payments payments' : List Payment) :
    netFlow token holder (payments ++ payments') =
      netFlow token holder payments + netFlow token holder payments' := by
  simp [netFlow]

theorem netFlow_perm {token holder : Address} {payments payments' : List Payment}
    (h : payments.Perm payments') : netFlow token holder payments = netFlow token holder payments' :=
  (h.map _).sum_eq

/-- A payment of an amount, if it is positive. -/
def leg (token source target : Address) (amount : ℤ) : List Payment :=
  if amount > 0 then [⟨token, source, target, amount⟩] else []

/-- A payment out of an account to somebody else, if it is positive. -/
theorem leg_out {token token' holder target : Address} {amount : ℤ} (h : target ≠ holder) :
    netFlow token holder (leg token' holder target amount) =
      -if token = token' then max amount 0 else 0 := by
  unfold leg
  split
  · rw [netFlow_cons, netFlow_nil, add_zero, Payment.flow_out h, max_eq_left (by omega)]
  · rw [max_eq_right (by omega)]
    simp

/-- A payment out of an account, if it is positive, to whomever. -/
theorem leg_out_ge {token token' holder target : Address} {amount : ℤ} :
    (-if token = token' then max amount 0 else 0) ≤
      netFlow token holder (leg token' holder target amount) := by
  unfold leg
  by_cases hpos : amount > 0
  · rw [if_pos hpos, netFlow_cons, netFlow_nil, add_zero, max_eq_left hpos.le]
    exact Payment.flow_out_ge hpos.le
  · rw [if_neg hpos, max_eq_right (by omega)]
    simp

namespace Token

variable {τ : Type} (tok : Token τ)

/-- Payments made one after the other. -/
def settle (t : τ) : List Payment → Option τ
  | [] => some t
  | p :: rest =>
    match tok.transfer t p.token p.source p.target p.amount with
    | some t' => settle t' rest
    | none => none

variable {tok}

theorem settle_cons {t t' t'' : τ} {token source target : Address} {amount : ℤ}
    {rest : List Payment} (h : tok.transfer t token source target amount = some t')
    (hrest : tok.settle t' rest = some t'') :
    tok.settle t (⟨token, source, target, amount⟩ :: rest) = some t'' := by
  simp [settle, h, hrest]

theorem settle_cons_some {t t'' : τ} {p : Payment} {rest : List Payment} :
    tok.settle t (p :: rest) = some t'' ↔
      ∃ t', tok.transfer t p.token p.source p.target p.amount = some t' ∧
        tok.settle t' rest = some t'' := by
  simp only [settle]
  cases tok.transfer t p.token p.source p.target p.amount <;> simp

theorem settle_one {t t' : τ} {token source target : Address} {amount : ℤ}
    (h : tok.transfer t token source target amount = some t') :
    tok.settle t [⟨token, source, target, amount⟩] = some t' :=
  settle_cons h rfl

/-- A payment that is covered goes through, if there is anything to pay. -/
theorem Honours.leg (h : tok.Honours) {t : τ} {token source : Address} (target : Address)
    {amount : ℤ} (hle : amount ≤ tok.balance t token source) :
    ∃ t', tok.settle t (leg token source target amount) = some t' := by
  unfold Soroban.leg
  by_cases hpos : amount > 0
  · obtain ⟨t', ht⟩ := h t token source target amount hpos.le hle
    rw [if_pos hpos]
    exact ⟨t', settle_one ht⟩
  · rw [if_neg hpos]
    exact ⟨t, rfl⟩

theorem settle_append {t t' t'' : τ} {payments payments' : List Payment}
    (h : tok.settle t payments = some t') (h' : tok.settle t' payments' = some t'') :
    tok.settle t (payments ++ payments') = some t'' := by
  induction payments generalizing t with
  | nil =>
    cases h
    exact h'
  | cons p rest ih =>
    obtain ⟨t₁, ht, hrest⟩ := settle_cons_some.mp h
    exact settle_cons ht (ih hrest)

/-- Exact tokens move an account by the net flow of the payments. -/
theorem Exact.settle (hex : tok.Exact) {t t' : τ} {payments : List Payment}
    (h : tok.settle t payments = some t') (token holder : Address) :
    tok.balance t' token holder = tok.balance t token holder + netFlow token holder payments := by
  induction payments generalizing t with
  | nil =>
    cases h
    simp
  | cons p rest ih =>
    obtain ⟨t₁, ht, hrest⟩ := settle_cons_some.mp h
    have hmoves := hex.moves t _ _ _ _ t₁ ht token holder
    rw [ih hrest, hmoves, netFlow_cons, Payment.flow]
    ring

end Token

/-- Payments of several amounts between the same two accounts. -/
def tranches (token source target : Address) (amounts : List ℤ) : List Payment :=
  amounts.map fun n => ⟨token, source, target, n⟩

/-- They move what one payment of their sum moves. -/
theorem netFlow_tranches (token holder : Address) (token' source target : Address)
    (amounts : List ℤ) : netFlow token holder (tranches token' source target amounts) =
      Payment.flow token holder ⟨token', source, target, amounts.sum⟩ := by
  induction amounts with
  | nil => simp [tranches, Payment.flow]
  | cons n rest ih =>
    rw [tranches, List.map_cons, netFlow_cons]
    rw [tranches] at ih
    rw [ih, List.sum_cons]
    simp only [Payment.flow]
    split_ifs <;> ring

namespace Token

variable {τ : Type} {tok : Token τ}

/-- Which parts an account can pay: each of them, if it pays itself, and all together otherwise. -/
theorem settle_tranches_iff (hex : tok.Exact) (hhonours : tok.Honours) (hcovered : tok.Covered)
    {token source target : Address} {amounts : List ℤ} (hnonneg : ∀ n ∈ amounts, 0 ≤ n) {t : τ} :
    (∃ t', tok.settle t (tranches token source target amounts) = some t') ↔
      ((∀ n ∈ amounts, n ≤ tok.balance t token source) ∧
        (source ≠ target → amounts.sum ≤ tok.balance t token source)) := by
  induction amounts generalizing t with
  | nil =>
    simp only [tranches, List.map_nil, settle, List.sum_nil]
    exact ⟨fun _ => ⟨nofun, fun _ => hex.nonneg t token source⟩, fun _ => ⟨t, rfl⟩⟩
  | cons n rest ih =>
    obtain ⟨hhead, htail⟩ := List.forall_mem_cons.mp hnonneg
    have hsum : 0 ≤ rest.sum := List.sum_nonneg htail
    -- What is left for the rest after the first part.
    have hleft : ∀ t₁, tok.transfer t token source target n = some t₁ →
        tok.balance t₁ token source =
          tok.balance t token source - (if source ≠ target then n else 0) := by
      intro t₁ ht
      rw [hex.moves _ _ _ _ _ _ ht token source, if_pos ⟨rfl, rfl⟩]
      by_cases hself : source = target <;> simp [hself]
    rw [List.forall_mem_cons, List.sum_cons]
    constructor
    · rintro ⟨t', h⟩
      obtain ⟨t₁, ht, h⟩ := settle_cons_some.mp h
      obtain ⟨heach, hall⟩ := (ih htail).mp ⟨t', h⟩
      rw [hleft t₁ ht] at heach hall
      have hfirst := hcovered _ _ _ _ _ _ ht
      refine ⟨⟨hfirst, fun m hm => (heach m hm).trans ?_⟩, fun hne => ?_⟩
      · split <;> omega
      · have hrest := hall hne
        rw [if_pos hne] at hrest
        omega
    · rintro ⟨⟨hfirst, heach⟩, hall⟩
      obtain ⟨t₁, ht⟩ := hhonours t token source target n hhead hfirst
      have hlater : ∃ t', tok.settle t₁ (tranches token source target rest) = some t' := by
        refine (ih htail).mpr ⟨fun m hm => ?_, fun hne => ?_⟩
        · rw [hleft t₁ ht]
          have hle := List.single_le_sum htail m hm
          by_cases hne : source ≠ target
          · have htotal := hall hne
            rw [if_pos hne]
            omega
          · rw [if_neg hne, sub_zero]
            exact heach m hm
        · have htotal := hall hne
          rw [hleft t₁ ht, if_pos hne]
          omega
      obtain ⟨t', hrest⟩ := hlater
      exact ⟨t', settle_cons ht hrest⟩

/-- The order of the parts does not matter. -/
theorem settle_tranches_perm (hex : tok.Exact) (hhonours : tok.Honours) (hcovered : tok.Covered)
    {token source target : Address} {amounts amounts' : List ℤ} (hperm : amounts.Perm amounts')
    (hnonneg : ∀ n ∈ amounts, 0 ≤ n) {t t' : τ}
    (h : tok.settle t (tranches token source target amounts) = some t') :
    ∃ t'', tok.settle t (tranches token source target amounts') = some t'' := by
  obtain ⟨heach, hall⟩ := (settle_tranches_iff hex hhonours hcovered hnonneg).mp ⟨t', h⟩
  refine (settle_tranches_iff hex hhonours hcovered fun n hn => hnonneg n (hperm.mem_iff.mpr hn)).mpr
    ⟨fun n hn => heach n (hperm.mem_iff.mpr hn), fun hne => ?_⟩
  rw [← hperm.sum_eq]
  exact hall hne

end Token

/-- Balances of the asset contract, per token and holder. -/
abbrev Balances := Store (Address × Address) ℕ

namespace Balances

def of (t : Balances) (token holder : Address) : ℕ := (t.get? (token, holder)).getD 0

def give (t : Balances) (token holder : Address) (n : ℕ) : Balances :=
  t.set (token, holder) n

/-- Issue the listed amounts, each a token, a holder and a sum. -/
def issue : List (Address × Address × ℕ) → Balances
  | [] => .empty
  | (token, holder, n) :: rest => (issue rest).give token holder n

/-- The asset contract refuses negative amounts and uncovered transfers. -/
def move (t : Balances) (token source target : Address) (n : ℤ) : Option Balances :=
  if 0 ≤ n ∧ n.toNat ≤ t.of token source then
    let t := t.give token source (t.of token source - n.toNat)
    some (t.give token target (t.of token target + n.toNat))
  else none

theorem of_give (t : Balances) (token holder token' holder' : Address) (n : ℕ) :
    (t.give token holder n).of token' holder' =
      if token' = token ∧ holder' = holder then n else t.of token' holder' := by
  unfold of give
  rw [Store.get?_set]
  simp only [Prod.mk.injEq]
  split <;> simp

/-- What a balance counts for the supply of a token. -/
def counts (token : Address) (key : Address × Address) (n : ℕ) : ℤ := if key.1 = token then n else 0

/-- What there is of a token. -/
def supply (t : Balances) (token : Address) : ℤ := t.total (counts token)

theorem weight_counts (t : Balances) (token holder : Address) :
    t.weight (counts token) (token, holder) = t.of token holder := by
  unfold Store.weight of counts
  cases t.get? (token, holder) <;> simp

/-- Different holders have no more than there is. -/
theorem sum_le_supply (t : Balances) (token : Address) {holders : List Address}
    (hnodup : holders.Nodup) :
    (holders.map fun holder => (t.of token holder : ℤ)).sum ≤ t.supply token := by
  have hkeys : (holders.map fun holder => (token, holder)).Nodup :=
    hnodup.map fun _ _ he => (Prod.mk.inj he).2
  have hle := Store.sum_weight_le_total (w := counts token) (s := t) hkeys fun key n _ => by
    unfold counts
    split <;> simp
  rw [List.map_map] at hle
  simpa [supply, Function.comp_def, weight_counts] using hle

end Balances

/-- The asset contract every issued token uses. -/
def asset : Token Balances where
  balance t token holder := t.of token holder
  transfer := Balances.move

theorem asset_exact : asset.Exact where
  nonneg t token holder := Int.natCast_nonneg _
  amount t token source target n t' h := by
    simp only [asset, Balances.move] at h
    split at h
    · rename_i hc
      exact hc.1
    · cases h
  moves t token source target n t' h token' holder := by
    simp only [asset, Balances.move] at h ⊢
    split at h
    · rename_i hc
      obtain ⟨h0, hle⟩ := hc
      cases h
      simp only [Balances.of_give]
      by_cases ht : token' = token
      · subst ht
        by_cases hs : holder = source <;> by_cases hg : holder = target <;>
          by_cases hst : target = source <;> simp_all
      · simp [ht]
    · cases h

theorem asset_covered : asset.Covered := by
  intro t token source target n t' h
  simp only [asset, Balances.move] at h ⊢
  split at h
  · rename_i hcovers
    have := hcovers.1
    omega
  · cases h

theorem asset_honours : asset.Honours := by
  intro t token source target n hn hle
  simp only [asset, Balances.move] at hle ⊢
  rw [if_pos ⟨hn, by omega⟩]
  exact ⟨_, rfl⟩

end Soroban
