import StellAIverse.Oracle.Accounts

/-!
# Whether a provider's updates are all counted

The counts of a record miss no update. The rating misses the accepted prices: it rises with custom
data only, so it reflects the accepted updates of providers that submitted no price, or
enough data to be rated highest.
-/

namespace Oracle

open Soroban

variable {s s' : State} {a : Action} {log : List (State × Action)} {env : Ledger}
  {provider other : Address} {feedId : String} {price : ℤ} {p old : OracleProvider}
  {ok : List (State × Action) → State → Action → Prop}

/-- A completed submission is counted as what it is. -/
def Counted (feedId : String) (provider : Address) (a : Action) (s s' : State) : Prop :=
  Changes provider (if Trips feedId s a then .tried else .succeeded) s s'

/-- The call submitted a price of the provider that was accepted. -/
def AcceptsPrice (provider : Address) (e : State × Action) : Prop :=
  ∃ target ∈ e.2.op.submitted?, target.2 = provider ∧ ¬ Trips target.1 e.1 e.2

/-- The call submitted data of the provider, which was registered. -/
def AcceptsData (provider : Address) (e : State × Action) : Prop :=
  e.2.op.dataFrom? = some provider ∧ (e.1.provider.get? provider).isSome = true

instance (provider : Address) (e : State × Action) : Decidable (AcceptsPrice provider e) :=
  inferInstanceAs (Decidable (∃ target ∈ _, _))

instance (provider : Address) (e : State × Action) : Decidable (AcceptsData provider e) :=
  inferInstanceAs (Decidable (_ ∧ _))

def acceptedPrices (provider : Address) (log : List (State × Action)) : ℕ :=
  log.countP fun e => AcceptsPrice provider e

def acceptedData (provider : Address) (log : List (State × Action)) : ℕ :=
  log.countP fun e => AcceptsData provider e

/-- Every accepted update of the provider. -/
def acceptedUpdates (provider : Address) (log : List (State × Action)) : ℕ :=
  acceptedPrices provider log + acceptedData provider log

def reputationOf (provider : Address) (s : State) : Option ℕ :=
  (s.provider.get? provider).map (·.reputationScore)

/-- An accepted price is counted as it should be at the highest reputation only. -/
theorem copied_eq_succeeded : p.copied = p.succeeded ↔ p.reputationScore = 100 := by
  unfold OracleProvider.copied OracleProvider.succeeded
  rw [OracleProvider.mk.injEq]
  simp only [true_and, and_true]
  omega

theorem acceptsPrice_submit : AcceptsPrice provider (s, ⟨env, .submitPrice other feedId price⟩) ↔
    other = provider ∧ ¬ Trips feedId s ⟨env, .submitPrice other feedId price⟩ := by
  unfold AcceptsPrice Op.submitted?
  simp

theorem not_acceptsPrice (h : a.op.submitted? = none) : ¬ AcceptsPrice provider (s, a) := by
  rintro ⟨target, htarget, -⟩
  rw [h] at htarget
  cases htarget

theorem not_acceptsData (h : a.op.dataFrom? = none) : ¬ AcceptsData provider (s, a) := by
  rintro ⟨hdata, -⟩
  rw [h] at hdata
  cases hdata

/-- A query submits nothing. -/
theorem Op.submits_nothing {op : Op} {asked : Address × String} (h : op.query? = some asked) :
    op.submitted? = none ∧ op.dataFrom? = none := by
  cases op <;> first | exact ⟨rfl, rfl⟩ | cases h

theorem acceptedPrices_cons : acceptedPrices provider ((s, a) :: log) =
    acceptedPrices provider log + if AcceptsPrice provider (s, a) then 1 else 0 := by
  unfold acceptedPrices
  rw [List.countP_cons]
  simp only [decide_eq_true_eq]

theorem acceptedData_cons : acceptedData provider ((s, a) :: log) =
    acceptedData provider log + if AcceptsData provider (s, a) then 1 else 0 := by
  unfold acceptedData
  rw [List.countP_cons]
  simp only [decide_eq_true_eq]

/-- A completed submission is counted as it should be, if it trips the breaker or the provider is
rated highest. -/
theorem submission_counted_iff (h : submitPrice env provider feedId price s = .ok s') :
    Counted feedId provider ⟨env, .submitPrice provider feedId price⟩ s s' ↔
      Trips feedId s ⟨env, .submitPrice provider feedId price⟩ ∨
        reputationOf provider s = some 100 := by
  obtain ⟨hlisted, hchanges, -⟩ := submitPrice_changes h
  obtain ⟨old, hfound⟩ := Option.isSome_iff_exists.mp hlisted
  unfold Counted
  by_cases htrips : Trips feedId s ⟨env, .submitPrice provider feedId price⟩
  · rw [if_pos htrips] at hchanges ⊢
    exact ⟨fun _ => .inl htrips, fun _ => hchanges⟩
  · rw [if_neg htrips] at hchanges ⊢
    have hrating : reputationOf provider s = some 100 ↔ old.copied = old.succeeded := by
      rw [copied_eq_succeeded, reputationOf, hfound, Option.map_some, Option.some.injEq]
    rw [or_iff_right htrips, hrating]
    constructor
    · intro hcounted
      have hsame := (hchanges provider).symm.trans (hcounted provider)
      rw [if_pos rfl, if_pos rfl, hfound] at hsame
      exact Option.some.inj hsame
    · intro hsame other
      rw [hchanges other, hfound, Option.map_some, Option.map_some, hsame]

/-- What the record says about the updates of the log. -/
structure Tally (provider : Address) (log : List (State × Action)) (p : OracleProvider) : Prop where
  successful : p.successfulUpdates = acceptedUpdates provider log
  total : p.successfulUpdates ≤ p.totalUpdates
  rating : p.reputationScore = min 100 (50 + acceptedData provider log)

/-- Every record is a tally, and nobody has updates accepted without a record. -/
def Tallied (log : List (State × Action)) (s : State) : Prop :=
  ∀ provider, (s.provider.get? provider = none → acceptedUpdates provider log = 0) ∧
    ∀ p, s.provider.get? provider = some p → Tally provider log p

/-- A call that accepts nothing of the provider leaves its tally as it is. -/
theorem tally_skip (hprice : ¬ AcceptsPrice provider (s, a)) (hdata : ¬ AcceptsData provider (s, a)) :
    acceptedData provider ((s, a) :: log) = acceptedData provider log ∧
      acceptedUpdates provider ((s, a) :: log) = acceptedUpdates provider log := by
  unfold acceptedUpdates
  rw [acceptedPrices_cons, acceptedData_cons, if_neg hprice, if_neg hdata]
  exact ⟨rfl, rfl⟩

theorem Tally.skip (h : Tally provider log p) (hprice : ¬ AcceptsPrice provider (s, a))
    (hdata : ¬ AcceptsData provider (s, a)) : Tally provider ((s, a) :: log) p := by
  obtain ⟨hcount, hupdates⟩ :
      acceptedData provider ((s, a) :: log) = acceptedData provider log ∧
        acceptedUpdates provider ((s, a) :: log) = acceptedUpdates provider log :=
    tally_skip hprice hdata
  exact ⟨h.successful.trans hupdates.symm, h.total, h.rating.trans (by rw [hcount])⟩

/-- A new record is a tally of nothing. -/
theorem Tally.start (hnone : acceptedUpdates provider log = 0) (hrating : p.reputationScore = 50)
    (hunused : p.totalUpdates = 0 ∧ p.successfulUpdates = 0) : Tally provider log p := by
  have hdata : acceptedData provider log = 0 := by
    unfold acceptedUpdates at hnone
    omega
  exact ⟨by rw [hunused.2, hnone], by rw [hunused.2]; exact Nat.zero_le _, by rw [hrating, hdata]; rfl⟩

theorem Tally.tried (h : Tally provider log p) (hprice : ¬ AcceptsPrice provider (s, a))
    (hdata : ¬ AcceptsData provider (s, a)) : Tally provider ((s, a) :: log) p.tried := by
  have hskip := h.skip hprice hdata
  exact ⟨hskip.successful, hskip.total.trans (Nat.le_succ _), hskip.rating⟩

theorem Tally.copied (h : Tally provider log p) (hprice : AcceptsPrice provider (s, a))
    (hdata : ¬ AcceptsData provider (s, a)) : Tally provider ((s, a) :: log) p.copied := by
  have hcount : acceptedUpdates provider ((s, a) :: log) = acceptedUpdates provider log + 1 := by
    unfold acceptedUpdates
    rw [acceptedPrices_cons, acceptedData_cons, if_pos hprice, if_neg hdata]
    omega
  refine ⟨?_, Nat.succ_le_succ h.total, ?_⟩
  · rw [hcount, ← h.successful]
    rfl
  · rw [acceptedData_cons, if_neg hdata]
    exact h.rating

theorem Tally.succeeded (h : Tally provider log p) (hprice : ¬ AcceptsPrice provider (s, a))
    (hdata : AcceptsData provider (s, a)) : Tally provider ((s, a) :: log) p.succeeded := by
  have hcount : acceptedUpdates provider ((s, a) :: log) = acceptedUpdates provider log + 1 := by
    unfold acceptedUpdates
    rw [acceptedPrices_cons, acceptedData_cons, if_neg hprice, if_pos hdata]
    omega
  refine ⟨?_, Nat.succ_le_succ h.total, ?_⟩
  · rw [hcount, ← h.successful]
    rfl
  · change min 100 (p.reputationScore + 1) = _
    rw [acceptedData_cons, if_pos hdata, h.rating]
    omega

/-- Nothing is accepted of a provider whose record the call does not touch. -/
theorem Tallied.skip (h : Tallied log s) (provider : Address)
    (hprice : ¬ AcceptsPrice provider (s, a)) (hdata : ¬ AcceptsData provider (s, a))
    (hkept : s'.provider.get? provider = s.provider.get? provider) :
    (s'.provider.get? provider = none → acceptedUpdates provider ((s, a) :: log) = 0) ∧
      ∀ p, s'.provider.get? provider = some p → Tally provider ((s, a) :: log) p := by
  rw [hkept]
  refine ⟨fun hnone => ?_, fun p hfound => ((h provider).2 p hfound).skip hprice hdata⟩
  rw [(tally_skip hprice hdata).2]
  exact (h provider).1 hnone

/-- A price is tallied as tried or copied, with the record. -/
theorem Tallied.priced (h : Tallied log s) (listed : (s.provider.get? other).isSome = true)
    (changes : Changes other
      (if Trips feedId s ⟨env, .submitPrice other feedId price⟩ then .tried else .copied) s s') :
    Tallied ((s, ⟨env, .submitPrice other feedId price⟩) :: log) s' := by
  intro provider
  have hdata : ¬ AcceptsData provider (s, ⟨env, .submitPrice other feedId price⟩) :=
    not_acceptsData rfl
  by_cases hsame : provider = other
  · subst hsame
    obtain ⟨old, hfound⟩ := Option.isSome_iff_exists.mp listed
    have hold := (h provider).2 old hfound
    rw [changes provider, if_pos rfl, hfound, Option.map_some]
    refine ⟨fun hnone => (by cases hnone), fun p hp => ?_⟩
    cases hp
    by_cases htrips : Trips feedId s ⟨env, .submitPrice provider feedId price⟩
    · rw [if_pos htrips]
      exact hold.tried (fun haccepts => (acceptsPrice_submit.mp haccepts).2 htrips) hdata
    · rw [if_neg htrips]
      exact hold.copied (acceptsPrice_submit.mpr ⟨rfl, htrips⟩) hdata
  · refine h.skip provider (fun haccepts => ?_) hdata ?_
    · exact hsame (acceptsPrice_submit.mp haccepts).1.symm
    · rw [changes provider, if_neg hsame]

/-- Custom data is tallied with the record, if there is one. -/
theorem Tallied.data {data : String} (h : Tallied log s)
    (changes : Changes other .succeeded s s') :
    Tallied ((s, ⟨env, .submitCustomData other feedId data⟩) :: log) s' := by
  intro provider
  have hprice : ¬ AcceptsPrice provider (s, ⟨env, .submitCustomData other feedId data⟩) :=
    not_acceptsPrice rfl
  by_cases hsame : provider = other
  · subst hsame
    cases hfound : s.provider.get? provider with
    | none =>
      refine h.skip provider hprice (fun haccepts => ?_) ?_
      · rw [AcceptsData, hfound] at haccepts
        cases haccepts.2
      · rw [changes provider, if_pos rfl, hfound, Option.map_none]
    | some old =>
      have hdata : AcceptsData provider (s, ⟨env, .submitCustomData provider feedId data⟩) :=
        ⟨rfl, by rw [hfound]; rfl⟩
      rw [changes provider, if_pos rfl, hfound, Option.map_some]
      refine ⟨fun hnone => (by cases hnone), fun p hp => ?_⟩
      cases hp
      exact ((h provider).2 old hfound).succeeded hprice hdata
  · refine h.skip provider hprice (fun haccepts => ?_) ?_
    · exact hsame (Option.some.inj haccepts.1).symm
    · rw [changes provider, if_neg hsame]

/-- A new record starts a new tally. -/
theorem Tallied.registered {new : OracleProvider} (h : Tallied log s)
    (hnothing : ∀ provider, ¬ AcceptsPrice provider (s, a) ∧ ¬ AcceptsData provider (s, a))
    (fresh : s.provider.get? other = none) (rating : new.reputationScore = 50)
    (unused : new.totalUpdates = 0 ∧ new.successfulUpdates = 0)
    (written : s'.provider = s.provider.set other new) : Tallied ((s, a) :: log) s' := by
  intro provider
  obtain ⟨hprice, hdata⟩ := hnothing provider
  by_cases hsame : provider = other
  · subst hsame
    have hstart : Tally provider log new := .start ((h provider).1 fresh) rating unused
    rw [written, Store.get?_set, if_pos rfl]
    refine ⟨fun hnone => (by cases hnone), fun p hfound => ?_⟩
    cases hfound
    exact hstart.skip hprice hdata
  · refine h.skip provider hprice hdata ?_
    rw [written, Store.get?_set, if_neg hsame]

theorem Tallied.step (h : Tallied log s) (haccount : Account s a s') :
    Tallied ((s, a) :: log) s' := by
  cases haccount with
  | office _ _ noPrice noData _ _ kept =>
    exact fun provider =>
      h.skip provider (not_acceptsPrice noPrice) (not_acceptsData noData) (by rw [kept])
  | queried _ _ _ _ _ query _ kept =>
    obtain ⟨noPrice, noData⟩ := Op.submits_nothing query
    exact fun provider =>
      h.skip provider (not_acceptsPrice noPrice) (not_acceptsData noData) (by rw [kept])
  | batched _ _ _ _ _ kept =>
    exact fun provider =>
      h.skip provider (not_acceptsPrice rfl) (not_acceptsData rfl) (by rw [kept])
  | registered _ _ _ _ _ _ _ _ _ fresh rating unused written =>
    exact h.registered (fun _ => ⟨not_acceptsPrice rfl, not_acceptsData rfl⟩) fresh rating unused
      written
  | priced _ _ _ _ _ listed changes => exact h.priced listed changes
  | data _ _ _ _ _ changes => exact h.data changes

theorem tallied (h : History next ok deployed log s) : Tallied log s :=
  h.preserves (fun _ => ⟨fun _ => rfl, fun _ hp => (by cases hp)⟩)
    fun _ _ _ _ _ hdone hlog => hlog.step (next_account hdone)

/-- Prices accepted of a provider rated highest come after enough data. -/
theorem enough_data (h : History next ok deployed log s)
    (hrated : ∀ e ∈ log, AcceptsPrice provider e → reputationOf provider e.1 = some 100) :
    acceptedPrices provider log = 0 ∨ 50 ≤ acceptedData provider log := by
  induction h with
  | nil => exact .inl rfl
  | @cons log s s' a run _ _ ih =>
    rw [acceptedPrices_cons, acceptedData_cons]
    by_cases haccepts : AcceptsPrice provider (s, a)
    · have hrating := hrated _ List.mem_cons_self haccepts
      obtain ⟨p, hfound, hp⟩ := Option.map_eq_some_iff.mp hrating
      have htally := (tallied run provider).2 p hfound
      have hhighest := htally.rating.symm.trans hp
      omega
    · rw [if_neg haccepts]
      have hbefore := ih fun e he => hrated e (List.mem_cons_of_mem _ he)
      omega

/-- A completed submission raises the counts and the reputation as it should if and only if it trips
the breaker, which raises the total only, or the reputation is the highest already. In every
run the successful updates are the accepted ones, and no more than all; the reputation reflects
them if and only if no price of the provider was accepted or 50 times its data was, so in
particular if prices were only accepted at the highest reputation. -/
theorem updates_counted_iff (h : History next ok deployed log s) :
    (∀ env provider feedId price s', next ⟨env, .submitPrice provider feedId price⟩ s = .ok s' →
      (Counted feedId provider ⟨env, .submitPrice provider feedId price⟩ s s' ↔
        Trips feedId s ⟨env, .submitPrice provider feedId price⟩ ∨
          reputationOf provider s = some 100)) ∧
    ∀ provider p, s.provider.get? provider = some p →
      p.successfulUpdates = acceptedUpdates provider log ∧
      p.successfulUpdates ≤ p.totalUpdates ∧
      (p.reputationScore = min 100 (50 + acceptedUpdates provider log) ↔
        acceptedPrices provider log = 0 ∨ 50 ≤ acceptedData provider log) ∧
      ((∀ e ∈ log, AcceptsPrice provider e → reputationOf provider e.1 = some 100) →
        p.reputationScore = min 100 (50 + acceptedUpdates provider log)) := by
  refine ⟨fun env provider feedId price s' hdone => submission_counted_iff hdone,
    fun provider p hfound => ?_⟩
  have htally := (tallied h provider).2 p hfound
  have hreflects : p.reputationScore = min 100 (50 + acceptedUpdates provider log) ↔
      acceptedPrices provider log = 0 ∨ 50 ≤ acceptedData provider log := by
    rw [htally.rating, acceptedUpdates]
    omega
  exact ⟨htally.successful, htally.total, hreflects,
    fun hrated => hreflects.mpr (enough_data h hrated)⟩

section Samples

/-- Alice has submitted so much data that she is rated highest. -/
def trusted : List Action :=
  [⟨at' 0, .initializeContract governor governor⟩,
    ⟨at' 0, .registerProvider governor alice .custom true 10 1⟩,
    ⟨at' 0, .createPriceFeed governor ethFeed⟩,
    ⟨at' 0, .createCustomFeed governor "weather" "weather" "text" 100 [alice]⟩] ++
    List.replicate 50 ⟨at' 1, .submitCustomData alice "weather" "sunny"⟩

def trustedPrice : Action := ⟨at' 1, .submitPrice alice "ETH" 1000⟩

/-- At the highest reputation an accepted price is counted like everything before it. -/
theorem updates_counted_iff_trusted : ∃ log s s' p, Run log s ∧ next trustedPrice s = .ok s' ∧
    Counted "ETH" alice trustedPrice s s' ∧ s.provider.get? alice = some p ∧
    p.successfulUpdates = 50 ∧ p.reputationScore = min 100 (50 + acceptedUpdates alice log) := by
  have h : After (fun r => (∃ p ∈ r.2.provider.get? alice,
        p.reputationScore = 100 ∧ p.successfulUpdates = 50) ∧
      acceptedPrices alice r.1 = 0 ∧ After (fun _ => True) (next trustedPrice r.2))
      (record next (fun log _ a => OnTime Action.time? log a) trusted ([], deployed)) := by
    decide +kernel
  obtain ⟨⟨log, s⟩, hrec, ⟨p, hfound, hrating, hcount⟩, hnone, h⟩ := h.exists_ok
  obtain ⟨s', hs', -⟩ := h.exists_ok
  have hrun : Run log s := record_run hrec
  have hhighest : reputationOf alice s = some 100 := by
    rw [reputationOf, hfound, Option.map_some, hrating]
  obtain ⟨hprices, hrecords⟩ := updates_counted_iff hrun
  obtain ⟨-, -, hreflects, -⟩ := hrecords alice p hfound
  exact ⟨log, s, s', p, hrun, hs', (hprices (at' 1) alice "ETH" 1000 s' hs').mpr (.inr hhighest),
    hfound, hcount, hreflects.mpr (.inl hnone)⟩

/-- Alice's first price is accepted and counted, and her reputation does not rise. -/
theorem rating_lost : ∃ log s s' p p', Run log s ∧ next trustedPrice s = .ok s' ∧
    ¬ Trips "ETH" s trustedPrice ∧
    s.provider.get? alice = some p ∧ s'.provider.get? alice = some p' ∧
    p'.successfulUpdates = p.successfulUpdates + 1 ∧
    p.reputationScore = 50 ∧ p'.reputationScore ≠ min 100 (p.reputationScore + 1) ∧
    ¬ Counted "ETH" alice trustedPrice s s' := by
  have h : After (fun r => OnTime Action.time? r.1 trustedPrice ∧ ¬ Trips "ETH" r.2 trustedPrice ∧
      ∃ p ∈ r.2.provider.get? alice, p.reputationScore = 50 ∧
        After (fun s' => ∃ p' ∈ s'.provider.get? alice, p'.reputationScore = 50 ∧
          p'.successfulUpdates = p.successfulUpdates + 1) (next trustedPrice r.2))
      (record next (fun log _ a => OnTime Action.time? log a) (tripped.take 4) ([], deployed)) := by
    decide +kernel
  obtain ⟨⟨log, s⟩, hrec, hontime, hquiet, p, hfound, hrating, h⟩ := h.exists_ok
  obtain ⟨s', hs', p', hfound', hrating', hcount⟩ := h.exists_ok
  have hrun : Run log s := record_run hrec
  refine ⟨log, s, s', p, p', hrun, hs', hquiet, hfound, hfound', hcount, hrating, ?_, ?_⟩
  · rw [hrating, hrating']
    decide
  · intro hcounted
    have hraised := hcounted alice
    rw [if_pos rfl, if_neg hquiet, hfound, hfound', Option.map_some] at hraised
    have hsame := congrArg OracleProvider.reputationScore (Option.some.inj hraised)
    rw [hrating', OracleProvider.succeeded, hrating] at hsame
    cases hsame

end Samples

end Oracle
