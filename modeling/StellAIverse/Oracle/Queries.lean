import StellAIverse.Soroban.Quota
import StellAIverse.Oracle.Accounts

/-!
# Which limit a caller meets

Queries of guests, of subscribers and of several feeds at once are counted in one record of the caller.
The record keeps the window and the maximum of whichever came first, so a caller whose first
query was of another kind meets the limit of that kind. As long as the kinds do not meet, the
limits are those of the caller's tier.
-/

namespace Oracle

open Soroban RateLimiter

variable {s s' s₁ : State} {a : Action} {log : List (State × Action)} {env : Ledger}
  {caller other : Address} {feedId : String} {times : List ℕ} {windowSeconds maxQueries : ℕ}

/-- The window and the maximum. -/
def QueryRateLimit.kind (rateLimit : QueryRateLimit) : ℕ × ℕ :=
  (rateLimit.windowSeconds, rateLimit.maxQueries)

/-- The call is counted in the caller's record. -/
def Action.Asks (caller : Address) (a : Action) : Prop :=
  a.op.query?.map (·.1) = some caller ∨ a.op.batch? = some caller

instance (caller : Address) (a : Action) : Decidable (a.Asks caller) :=
  inferInstanceAs (Decidable (_ ∨ _))

/-- The call is a query for one feed, without a subscription to it. -/
def AsksAsGuest (caller : Address) (e : State × Action) : Prop :=
  ∃ key ∈ e.2.op.query?, key.1 = caller ∧ (e.1.subscription.get? key).isNone = true

instance (caller : Address) (e : State × Action) : Decidable (AsksAsGuest caller e) :=
  inferInstanceAs (Decidable (∃ key ∈ _, _))

/-- When the caller's queries were accepted, the latest first. -/
def queryTimes (caller : Address) (log : List (State × Action)) : List ℕ :=
  (log.filter fun e => e.2.Asks caller).map fun e => e.2.env.timestamp

/-- When those without a subscription were. -/
def guestTimes (caller : Address) (log : List (State × Action)) : List ℕ :=
  (log.filter (AsksAsGuest caller)).map fun e => e.2.env.timestamp

/-- The limit that a query is to meet: the guest's, or the subscriber's. -/
def limitFor (s : State) (key : Address × String) : ℕ × ℕ :=
  if (s.subscription.get? key).isNone = true then (86400, 5) else (3600, 1000)

/-- If there is a record of the caller, it was set up for queries like this one. -/
def Suits (s : State) (key : Address × String) : Prop :=
  ∀ rateLimit ∈ s.rateLimit.get? key.1, rateLimit.kind = limitFor s key

/-- Every query that the caller made for one feed suited the record it met. -/
def Suited (caller : Address) (log : List (State × Action)) : Prop :=
  ∀ e ∈ log, ∀ key ∈ e.2.op.query?, key.1 = caller → Suits e.1 key

/-- The record counts these queries. -/
def Tracks (times : List ℕ) : Option QueryRateLimit → Prop
  | none => times = []
  | some rateLimit => 0 < rateLimit.maxQueries ∧ Quota rateLimit.windowSeconds rateLimit.maxQueries
      times rateLimit.windowStart rateLimit.queriesUsed

/-- What is counted is tracked, in the kind of record that is there. -/
theorem checkGlobalRateLimit_tracks (hmax : 0 < maxQueries)
    (h : checkGlobalRateLimit env caller windowSeconds maxQueries s = .ok s')
    (htracks : Tracks times (s.rateLimit.get? caller)) :
    ∃ rateLimit, s'.rateLimit = s.rateLimit.set caller rateLimit ∧
      Tracks (env.timestamp :: times) (some rateLimit) ∧
      rateLimit.kind =
        ((s.rateLimit.get? caller).map QueryRateLimit.kind).getD (windowSeconds, maxQueries) := by
  unfold checkGlobalRateLimit at h
  simp only [U64.sub_bind, failIf_bind, U32.add_bind] at h
  obtain ⟨hclock, hroom, -, h⟩ := h
  cases h
  refine ⟨_, rfl, ?_⟩
  cases hfound : s.rateLimit.get? caller with
  | none =>
    rw [hfound] at htracks hclock hroom
    simp only [Option.getD_none, Nat.sub_self, Nat.not_lt_zero, gt_iff_lt, if_false, Option.map_none]
    rw [show times = [] from htracks]
    exact ⟨⟨hmax, .first _ hmax⟩, rfl⟩
  | some rateLimit =>
    rw [hfound] at htracks hclock hroom
    obtain ⟨hpos, hquota⟩ := htracks
    simp only [Option.getD_some, Option.map_some] at hclock hroom ⊢
    split
    · rename_i hpassed
      exact ⟨⟨hpos, hquota.reopen (by omega) hpos⟩, rfl⟩
    · rename_i hopen
      rw [if_neg hopen] at hroom
      exact ⟨⟨hpos, hquota.count hclock (by omega) (by omega)⟩, rfl⟩

/-- A query is tracked, in a new record as a query of its own kind. -/
theorem consumeQuery_tracks (h : consumeQuery env caller feedId 3600 1000 s = .ok s')
    (htracks : Tracks times (s.rateLimit.get? caller)) :
    ∃ rateLimit, s'.rateLimit = s.rateLimit.set caller rateLimit ∧
      Tracks (env.timestamp :: times) (some rateLimit) ∧
      rateLimit.kind = ((s.rateLimit.get? caller).map QueryRateLimit.kind).getD
        (limitFor s (caller, feedId)) := by
  unfold consumeQuery at h
  unfold limitFor
  split at h
  · rename_i hnone
    rw [hnone]
    exact checkGlobalRateLimit_tracks (by decide) h htracks
  · rename_i subscription hfound
    simp only [failIf_bind] at h
    rw [hfound]
    have hspent : (if subscription.tier = .unlimited then s
        else spendQuery caller feedId subscription s).rateLimit = s.rateLimit := by
      split <;> rfl
    rw [← hspent] at htracks ⊢
    exact checkGlobalRateLimit_tracks (by decide) h.2.2 htracks

/-- A query that is rejected for rate meets a record whose window is open and full. -/
theorem checkGlobalRateLimit_rejects (hmax : 0 < maxQueries)
    (htracks : Tracks times (s.rateLimit.get? caller))
    (h : checkGlobalRateLimit env caller windowSeconds maxQueries s =
      .error Error.rateLimitExceeded) :
    ∃ rateLimit ∈ s.rateLimit.get? caller,
      env.timestamp ≤ rateLimit.windowStart + rateLimit.windowSeconds ∧
        rateLimit.maxQueries ≤ rateLimit.queriesUsed := by
  by_contra hopen
  refine absurd h ?_
  unfold checkGlobalRateLimit
  refine (U64.sub_avoids (by decide)).bind fun elapsed helapsed => ?_
  refine (failIf_avoids_of_not ?_).bind fun _ _ =>
    (U32.add_avoids (by decide)).bind fun _ _ => avoids_ok _
  obtain ⟨-, rfl⟩ := U64.sub_ok.mp helapsed
  cases hfound : s.rateLimit.get? caller with
  | none =>
    simp only [Option.getD_none, Nat.sub_self, Nat.not_lt_zero, gt_iff_lt, if_false]
    omega
  | some rateLimit =>
    rw [hfound] at htracks
    simp only [Option.getD_some]
    split
    · exact not_le.mpr htracks.1
    · rename_i hwithin
      refine fun hfull => hopen ⟨rateLimit, hfound, ?_, hfull⟩
      omega

/-- A subscriber's query is rejected for rate if the subscription is used up or the record full. -/
theorem consumeQuery_rejects {subscription : FeedSubscription}
    (hfound : s.subscription.get? (caller, feedId) = some subscription)
    (htracks : Tracks times (s.rateLimit.get? caller))
    (h : consumeQuery env caller feedId 3600 1000 s = .error Error.rateLimitExceeded) :
    (subscription.queriesRemaining = 0 ∧ subscription.tier ≠ .unlimited) ∨
      ∃ rateLimit ∈ s.rateLimit.get? caller,
        env.timestamp ≤ rateLimit.windowStart + rateLimit.windowSeconds ∧
          rateLimit.maxQueries ≤ rateLimit.queriesUsed := by
  by_cases hused : subscription.queriesRemaining = 0 ∧ subscription.tier ≠ .unlimited
  · exact .inl hused
  · refine .inr ?_
    have hspent : (if subscription.tier = .unlimited then s
        else spendQuery caller feedId subscription s).rateLimit = s.rateLimit := by
      split <;> rfl
    have hlimiter : checkGlobalRateLimit env caller 3600 1000
        (if subscription.tier = .unlimited then s else spendQuery caller feedId subscription s) =
          .error Error.rateLimitExceeded := by
      by_contra hpassed
      refine absurd h ?_
      unfold consumeQuery
      rw [hfound]
      refine (failIf_avoids (by decide)).bind fun _ _ => ?_
      exact (failIf_avoids_of_not hused).bind fun _ _ => hpassed
    rw [← hspent] at htracks ⊢
    exact checkGlobalRateLimit_rejects (by decide) htracks hlimiter

section Rejections

open PriceAggregator

/-- The call is not rejected for rate. -/
abbrev InRate {α : Type} (x : Result α) : Prop := Avoids Error.rateLimitExceeded x

theorem index_inRate {values : List ℤ} {i : ℕ} : InRate (index values i) :=
  expect_avoids (by decide)

theorem fit_inRate {n : ℤ} : InRate (I128.fit n) := I128.fit_avoids (by decide)

theorem div_inRate {n m : ℤ} : InRate (I128.div n m) :=
  I128.div_avoids_of_ne (by decide) (by decide)

theorem removeOutliers_inRate {entries : List PriceEntry} : InRate (removeOutliers entries) := by
  unfold removeOutliers
  split
  · exact avoids_ok _
  · refine index_inRate.bind fun _ _ => index_inRate.bind fun _ _ => ?_
    refine fit_inRate.bind fun _ _ => fit_inRate.bind fun _ _ => div_inRate.bind fun _ _ => ?_
    exact fit_inRate.bind fun _ _ => fit_inRate.bind fun _ _ => avoids_ok _

theorem validPrices_inRate {maxStaleness : ℕ} {entries : List PriceEntry} :
    InRate (validPrices env maxStaleness entries) := by
  induction entries with
  | nil => exact avoids_ok _
  | cons entry rest ih =>
    unfold validPrices isStale
    refine Avoids.bind ?_ fun stale _ => ih.bind fun valid _ => ?_
    · exact (U64.sub_avoids (by decide)).bind fun _ _ => avoids_ok _
    · dsimp only
      split <;> exact avoids_ok _

theorem medianOf_inRate {prices : List ℤ} : InRate (medianOf prices) := by
  unfold medianOf
  refine index_inRate.bind fun _ _ => ?_
  split
  · exact index_inRate.bind fun _ _ => fit_inRate.bind fun _ _ => div_inRate
  · exact avoids_ok _

theorem aggregatePrices_inRate {entries : List PriceEntry} {minSources maxStaleness : ℕ} :
    InRate (aggregatePrices env entries minSources maxStaleness) := by
  unfold aggregatePrices
  refine (failIf_avoids (by decide)).bind fun _ _ => validPrices_inRate.bind fun _ _ => ?_
  refine (failIf_avoids (by decide)).bind fun _ _ => index_inRate.bind fun _ _ => ?_
  exact index_inRate.bind fun _ _ => medianOf_inRate.bind fun _ _ => avoids_ok _

theorem weigh_inRate {now length : ℕ} {samples : List HistoricalPrice} {sum : ℤ} :
    InRate (weigh now samples sum length) := by
  induction samples generalizing sum length with
  | nil => exact avoids_ok _
  | cons sample rest ih =>
    unfold weigh
    refine fit_inRate.bind fun _ _ => fit_inRate.bind fun _ _ => ?_
    exact (U64.add_avoids (by decide)).bind fun _ _ => ih

theorem calculateTwap_inRate {history : List HistoricalPrice} :
    InRate (calculateTwap env history windowSeconds) := by
  unfold calculateTwap
  dsimp only
  split
  · exact avoids_ok _
  · refine weigh_inRate.bind fun _ _ => ?_
    split
    · exact avoids_ok _
    · exact div_inRate.bind fun _ _ => avoids_ok _

theorem gatherPrices_inRate {feed : PriceFeed} : InRate (gatherPrices feed feedId s) := by
  unfold gatherPrices
  dsimp only
  split
  · exact (U32.add_avoids (by decide)).bind fun _ _ => avoids_ok _
  · exact avoids_ok _

/-- A query that is rejected for rate is rejected by the limiter. -/
theorem next_rejects (hquery : a.op.query? = some (caller, feedId))
    (h : next a s = .error Error.rateLimitExceeded) :
    consumeQuery a.env caller feedId 3600 1000 s = .error Error.rateLimitExceeded := by
  by_contra hpassed
  have hpassed : InRate (consumeQuery a.env caller feedId 3600 1000 s) := hpassed
  refine absurd h ?_
  obtain ⟨env, op⟩ := a
  cases op with
  | getAggregatedPrice caller feedId =>
    cases hquery
    refine Avoids.map (hpassed.bind fun s₁ _ => ?_)
    refine (okOr_avoids (by decide)).bind fun feed _ => ?_
    refine (failIf_avoids (by decide)).bind fun _ _ => ?_
    dsimp only
    refine (failIf_avoids (by decide)).bind fun _ _ => gatherPrices_inRate.bind fun _ _ => ?_
    refine removeOutliers_inRate.bind fun _ _ => aggregatePrices_inRate.bind fun _ _ => ?_
    exact (failIf_avoids (by decide)).bind fun _ _ => avoids_ok _
  | getHistoricalPrices caller feedId limit =>
    cases hquery
    refine Avoids.map (hpassed.bind fun s₁ _ => ?_)
    exact (failIf_avoids (by decide)).bind fun _ _ => avoids_ok _
  | getCustomData caller feedId =>
    cases hquery
    refine Avoids.map (hpassed.bind fun s₁ _ => ?_)
    refine (okOr_avoids (by decide)).bind fun feed _ => ?_
    refine (failIf_avoids (by decide)).bind fun _ _ => ?_
    refine (U64.sub_avoids (by decide)).bind fun _ _ => ?_
    exact (failIf_avoids (by decide)).bind fun _ _ => avoids_ok _
  | getTwap caller feedId windowSeconds =>
    cases hquery
    refine Avoids.map (hpassed.bind fun s₁ _ => ?_)
    refine (failIf_avoids (by decide)).bind fun _ _ => calculateTwap_inRate.bind fun _ _ => ?_
    exact (okOr_avoids (by decide)).bind fun _ _ => avoids_ok _
  | _ => cases hquery

end Rejections

/-- A query for one feed is none for several. -/
theorem Op.no_batch {op : Op} {asked : Address × String} (h : op.query? = some asked) :
    op.batch? = none := by
  cases op <;> first | rfl | cases h

theorem not_asks (hquery : a.op.query? = none) (hbatch : a.op.batch? = none) :
    ¬ a.Asks caller := by
  rintro (hasks | hasks)
  · rw [hquery] at hasks
    cases hasks
  · rw [hbatch] at hasks
    cases hasks

theorem queryTimes_of_asks (h : a.Asks caller) :
    queryTimes caller ((s, a) :: log) = a.env.timestamp :: queryTimes caller log := by
  unfold queryTimes
  rw [List.filter_cons_of_pos (by simpa using h)]
  rfl

theorem queryTimes_of_not_asks (h : ¬ a.Asks caller) :
    queryTimes caller ((s, a) :: log) = queryTimes caller log := by
  unfold queryTimes
  rw [List.filter_cons_of_neg (by simpa using h)]

theorem guestTimes_of_not_asks (h : ¬ AsksAsGuest caller (s, a)) :
    guestTimes caller ((s, a) :: log) = guestTimes caller log := by
  unfold guestTimes
  rw [List.filter_cons_of_neg (by simpa using h)]

theorem AsksAsGuest.asks (h : AsksAsGuest caller (s, a)) : a.Asks caller := by
  obtain ⟨key, hkey, rfl, -⟩ := h
  exact .inl (by rw [Option.mem_def.mp hkey]; rfl)

/-- A guest's queries are among the caller's. -/
theorem eventsIn_guestTimes_le (length start : ℕ) :
    eventsIn length start (guestTimes caller log) ≤
      eventsIn length start (queryTimes caller log) := by
  unfold eventsIn guestTimes queryTimes
  rw [List.countP_map, List.countP_map, List.countP_filter, List.countP_filter]
  refine List.countP_mono_left fun e _ he => ?_
  simp only [Function.comp_apply, Bool.and_eq_true, decide_eq_true_eq] at he ⊢
  exact ⟨he.1, he.2.asks⟩

/-- The caller's record counts what was accepted; where all queries suited it, a guest's queries
have set it up as a guest's. -/
structure Books (caller : Address) (log : List (State × Action)) (s : State) : Prop where
  tracked : Tracks (queryTimes caller log) (s.rateLimit.get? caller)
  guest : Suited caller log → guestTimes caller log ≠ [] →
    ∃ rateLimit ∈ s.rateLimit.get? caller, rateLimit.kind = (86400, 5)

theorem Suited.tail (h : Suited caller ((s, a) :: log)) : Suited caller log :=
  fun e he => h e (List.mem_cons_of_mem _ he)

/-- A call that is not counted for the caller. -/
theorem Books.skip (h : Books caller log s) (hasks : ¬ a.Asks caller)
    (hkept : s'.rateLimit.get? caller = s.rateLimit.get? caller) :
    Books caller ((s, a) :: log) s' := by
  constructor
  · rw [queryTimes_of_not_asks hasks, hkept]
    exact h.tracked
  · rw [guestTimes_of_not_asks fun hguest => hasks hguest.asks, hkept]
    exact fun hsuited => h.guest hsuited.tail

/-- A call that is counted for the caller, in a record of the kind that was there. -/
theorem Books.count {rateLimit : QueryRateLimit} {kind : ℕ × ℕ} (h : Books caller log s)
    (hasks : a.Asks caller) (hlimit : s'.rateLimit = s.rateLimit.set caller rateLimit)
    (htracks : Tracks (a.env.timestamp :: queryTimes caller log) (some rateLimit))
    (hkind : rateLimit.kind = ((s.rateLimit.get? caller).map QueryRateLimit.kind).getD kind)
    (hguest : AsksAsGuest caller (s, a) → Suited caller ((s, a) :: log) →
      rateLimit.kind = (86400, 5)) : Books caller ((s, a) :: log) s' := by
  have hfound : s'.rateLimit.get? caller = some rateLimit := by rw [hlimit, Store.get?_set_self]
  constructor
  · rw [queryTimes_of_asks hasks, hfound]
    exact htracks
  · intro hsuited hnonempty
    refine ⟨rateLimit, hfound, ?_⟩
    by_cases hnow : AsksAsGuest caller (s, a)
    · exact hguest hnow hsuited
    · rw [guestTimes_of_not_asks hnow] at hnonempty
      obtain ⟨old, hold, hkept⟩ := h.guest hsuited.tail hnonempty
      rw [hkind, Option.mem_def.mp hold]
      exact hkept

/-- A guest's query that suits the record is counted in a guest's record. -/
theorem kind_of_guest {rateLimit : QueryRateLimit}
    (hkind : rateLimit.kind = ((s.rateLimit.get? caller).map QueryRateLimit.kind).getD
      (limitFor s (caller, feedId)))
    (hnone : (s.subscription.get? (caller, feedId)).isNone = true)
    (hsuits : Suits s (caller, feedId)) : rateLimit.kind = (86400, 5) := by
  have hlimit : limitFor s (caller, feedId) = (86400, 5) := if_pos hnone
  rw [hkind]
  cases hfound : s.rateLimit.get? caller with
  | none => exact hlimit
  | some old => exact (hsuits old hfound).trans hlimit

theorem Books.step (h : ∀ caller, Books caller log s) (haccount : Account s a s')
    (caller : Address) : Books caller ((s, a) :: log) s' := by
  cases haccount with
  | office _ _ _ _ noQuery noBatch _ rateLimit =>
    exact (h caller).skip (not_asks noQuery noBatch) (by rw [rateLimit])
  | registered _ _ _ _ _ _ _ _ _ _ _ _ _ rateLimit =>
    exact (h caller).skip (not_asks rfl rfl) (by rw [rateLimit])
  | priced _ _ _ _ _ _ _ rateLimit =>
    exact (h caller).skip (not_asks rfl rfl) (by rw [rateLimit])
  | data _ _ _ _ _ _ rateLimit =>
    exact (h caller).skip (not_asks rfl rfl) (by rw [rateLimit])
  | queried _ asker feedId s₁ _ query consumed _ rateLimit =>
    obtain ⟨new, hlimit, htracks, hkind⟩ := consumeQuery_tracks consumed (h asker).tracked
    rw [← rateLimit] at hlimit
    by_cases hsame : caller = asker
    · subst hsame
      have hasks : a.Asks caller := .inl (by rw [query]; rfl)
      refine (h caller).count hasks hlimit htracks hkind fun hguest hsuited => ?_
      obtain ⟨key, hkey, -, hnone⟩ := hguest
      cases query.symm.trans hkey
      exact kind_of_guest hkind hnone (hsuited _ List.mem_cons_self _ query rfl)
    · refine (h caller).skip (fun hasks => ?_) ?_
      · rcases hasks with hasks | hasks
        · rw [query] at hasks
          exact hsame (Option.some.inj hasks).symm
        · rw [Op.no_batch query] at hasks
          cases hasks
      · rw [hlimit, Store.get?_set_ne _ _ hsame]
  | batched env asker feedIds _ consumed =>
    obtain ⟨new, hlimit, htracks, hkind⟩ :=
      checkGlobalRateLimit_tracks (by decide) consumed (h asker).tracked
    by_cases hsame : caller = asker
    · subst hsame
      refine (h caller).count (.inr rfl) hlimit htracks hkind fun hguest _ => ?_
      obtain ⟨key, hkey, -⟩ := hguest
      cases hkey
    · refine (h caller).skip (fun hasks => ?_) ?_
      · rcases hasks with hasks | hasks
        · cases hasks
        · exact hsame (Option.some.inj hasks).symm
      · rw [hlimit, Store.get?_set_ne _ _ hsame]

theorem books (h : Run log s) : ∀ caller, Books caller log s := by
  refine h.preserves (P := fun log s => ∀ caller, Books caller log s) (fun caller => ?_) ?_
  · exact ⟨rfl, fun _ hnonempty => (hnonempty rfl).elim⟩
  · exact fun _ _ _ _ _ hdone hbooks => Books.step hbooks (next_account hdone)

/-- In every run a subscriber's query that suits the record it meets is rejected for rate only if
the subscription is used up, or the caller's queries of the last hour are 1000. If all queries of a
caller for one feed suited the record they met, no window of a day has more than five of them
without a subscription. -/
theorem limits_follow_tier (h : Run log s) (caller : Address) :
    (∀ a feedId subscription, a.op.query? = some (caller, feedId) →
      s.subscription.get? (caller, feedId) = some subscription → Suits s (caller, feedId) →
      next a s = .error Error.rateLimitExceeded →
      (subscription.queriesRemaining = 0 ∧ subscription.tier ≠ .unlimited) ∨
        1000 ≤ (queryTimes caller log).countP (a.env.timestamp ≤ · + 3600)) ∧
    (Suited caller log → ∀ start ∈ windowStarts 86400 (queryTimes caller log),
      eventsIn 86400 start (guestTimes caller log) ≤ 5) := by
  have hbooks : Books caller log s := books h caller
  have htracked := hbooks.tracked
  constructor
  · intro a feedId subscription hquery hfound hsuits hrejected
    refine (consumeQuery_rejects hfound htracked (next_rejects hquery hrejected)).imp_right ?_
    rintro ⟨rateLimit, hlimit, hopen, hfull⟩
    have hkind : rateLimit.kind = (3600, 1000) := by
      rw [hsuits rateLimit hlimit, limitFor, hfound]
      rfl
    obtain ⟨hwindow, hmaximum⟩ := Prod.mk.inj hkind
    rw [Option.mem_def.mp hlimit] at htracked
    obtain ⟨-, hquota⟩ := htracked
    rw [hwindow, hmaximum] at hquota
    rw [hwindow] at hopen
    rw [hmaximum] at hfull
    exact hfull.trans (hquota.used_le_recent hopen)
  · intro hsuited start hstart
    by_cases hnone : guestTimes caller log = []
    · rw [hnone]
      exact Nat.zero_le _
    · obtain ⟨rateLimit, hlimit, hkind⟩ := hbooks.guest hsuited hnone
      obtain ⟨hwindow, hmaximum⟩ := Prod.mk.inj hkind
      rw [Option.mem_def.mp hlimit] at htracked
      obtain ⟨-, hquota⟩ := htracked
      rw [hwindow, hmaximum] at hquota
      exact (eventsIn_guestTimes_le 86400 start).trans (hquota.within start hstart)

section Samples

instance (s : State) (key : Address × String) : Decidable (Suits s key) :=
  inferInstanceAs (Decidable (∀ rateLimit ∈ s.rateLimit.get? key.1, _))

instance (caller : Address) (log : List (State × Action)) : Decidable (Suited caller log) :=
  inferInstanceAs (Decidable (∀ e ∈ log, ∀ key ∈ e.2.op.query?, _))

/-- A query for the latest price in the history. -/
def ask (caller : Address) (t : ℕ) : Action := ⟨at' t, .getHistoricalPrices caller "ETH" 1⟩

def grant (tier : SubscriptionTier) : Action :=
  ⟨at' 10, .grantSubscription governor reader "ETH" tier 86400⟩

/-- The reader uses up a free subscription, and Bob asks as a guest. -/
def asking : List Action :=
  [⟨at' 0, .initializeContract governor governor⟩, grant .free] ++
    List.replicate 10 (ask reader 10) ++ List.replicate 5 (ask bob 20)

/-- The reader is rejected since the subscription is used up, and Bob was let in five times. -/
theorem limits_follow_tier_asking : ∃ log s subscription, Run log s ∧
    next (ask reader 30) s = .error Error.rateLimitExceeded ∧
    s.subscription.get? (reader, "ETH") = some subscription ∧ subscription.queriesRemaining = 0 ∧
    (guestTimes bob log).length = 5 ∧ eventsIn 86400 20 (guestTimes bob log) ≤ 5 := by
  have h : After (fun r => (∃ subscription ∈ r.2.subscription.get? (reader, "ETH"),
        (next (ask reader 30) r.2).map (fun _ => ()) = .error Error.rateLimitExceeded) ∧
      Suits r.2 (reader, "ETH") ∧ Suited bob r.1 ∧ (queryTimes reader r.1).length = 10 ∧
      20 ∈ windowStarts 86400 (queryTimes bob r.1) ∧ (guestTimes bob r.1).length = 5)
      (record next (fun log _ a => OnTime Action.time? log a) asking ([], deployed)) := by
    decide +kernel
  obtain ⟨⟨log, s⟩, hrec, ⟨subscription, hfound, hrejected⟩, hsuits, hsuited, hfew, hstart,
    hfive⟩ := h.exists_ok
  have hrun : Run log s := record_run hrec
  obtain ⟨hreader, -⟩ := limits_follow_tier hrun reader
  obtain ⟨-, hbob⟩ := limits_follow_tier hrun bob
  refine ⟨log, s, subscription, hrun, map_error.mp hrejected, hfound, ?_, hfive,
    hbob hsuited 20 hstart⟩
  rcases hreader (ask reader 30) "ETH" subscription rfl hfound hsuits (map_error.mp hrejected) with
    hused | hmany
  · exact hused.1
  · have hcount := hmany.trans List.countP_le_length
    dsimp only at hfew
    rw [hfew] at hcount
    omega

/-- A caller who asked as a guest first is rejected with a hundred queries left, after five in all;
one who asked for several feeds first is let in six times as a guest. -/
theorem first_query_decides :
    (∃ log s subscription, Run log s ∧ s.subscription.get? (reader, "ETH") = some subscription ∧
      subscription.queriesRemaining = 100 ∧ 30 ≤ subscription.expiresAt ∧
      (queryTimes reader log).length = 5 ∧
      next (ask reader 30) s = .error Error.rateLimitExceeded) ∧
    ∃ log s, Run log s ∧ (s.subscription.get? (bob, "ETH")).isNone = true ∧
      20 ∈ windowStarts 86400 (queryTimes bob log) ∧
      eventsIn 86400 20 (guestTimes bob log) = 6 := by
  constructor
  · have h : After (fun r => ∃ subscription ∈ r.2.subscription.get? (reader, "ETH"),
        subscription.queriesRemaining = 100 ∧ 30 ≤ subscription.expiresAt ∧
        (queryTimes reader r.1).length = 5 ∧
        (next (ask reader 30) r.2).map (fun _ => ()) = .error Error.rateLimitExceeded)
        (record next (fun log _ a => OnTime Action.time? log a)
          (⟨at' 0, .initializeContract governor governor⟩ ::
            List.replicate 5 (ask reader 10) ++ [grant .basic]) ([], deployed)) := by
      decide +kernel
    obtain ⟨⟨log, s⟩, hrec, subscription, hfound, hleft, hlive, hfive, hrejected⟩ := h.exists_ok
    exact ⟨log, s, subscription, record_run hrec, hfound, hleft, hlive, hfive,
      map_error.mp hrejected⟩
  · have h : After (fun r => (r.2.subscription.get? (bob, "ETH")).isNone = true ∧
        20 ∈ windowStarts 86400 (queryTimes bob r.1) ∧
        eventsIn 86400 20 (guestTimes bob r.1) = 6)
        (record next (fun log _ a => OnTime Action.time? log a)
          (⟨at' 20, .getLatestPricesBatch bob ["ETH"]⟩ :: List.replicate 6 (ask bob 20))
          ([], deployed)) := by
      decide +kernel
    obtain ⟨⟨log, s⟩, hrec, hguest, hstart, hsix⟩ := h.exists_ok
    exact ⟨log, s, record_run hrec, hguest, hstart, hsix⟩

end Samples

end Oracle
