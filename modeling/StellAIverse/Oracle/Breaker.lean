import StellAIverse.Oracle.Effects

/-!
# What a tripped breaker stops, and what it keeps

The price that trips the breaker is stored like any other. For the hour of the cooldown the
feed is halted, unless the administrator resets the breaker; what is served afterwards
is the stored price, until later ones take its places.
-/

namespace Oracle

open Soroban

variable {s s' s₀ : State} {a : Action} {log recent old : List (State × Action)}
  {feedId : String} {provider : Address} {price : ℤ} {env : Ledger}

/-- The ledger time of a call. -/
def Action.time? (a : Action) : Option ℕ := some a.env.timestamp

/-- A run of calls that come on time. -/
abbrev Run : List (State × Action) → State → Prop :=
  History next (fun log _ a => OnTime Action.time? log a) deployed

/-- The call leaves the breaker of the feed triggered. -/
def Trips (feedId : String) (s : State) (a : Action) : Prop :=
  ∃ s' cbState, next a s = .ok s' ∧ s'.circuitBreaker.get? feedId = some cbState ∧
    cbState.triggered = true

def Action.Resets (feedId : String) (a : Action) : Prop :=
  ∃ admin, a.op = .resetCircuitBreaker admin feedId

/-- The call submits a price to the feed. -/
def Action.Submits (feedId : String) (a : Action) : Prop :=
  a.op.submitted?.map (·.1) = some feedId

instance (feedId : String) (a : Action) : Decidable (a.Submits feedId) :=
  inferInstanceAs (Decidable (_ = _))

def submissions (feedId : String) (log : List (State × Action)) : ℕ :=
  log.countP fun e => e.2.Submits feedId

/-- Nobody gets a price out of the feed at this time, or into it. -/
def Halted (env : Ledger) (feedId : String) (s : State) : Prop :=
  (∀ caller r, getAggregatedPrice env caller feedId s ≠ .ok r) ∧
    ∀ provider price s', submitPrice env provider feedId price s ≠ .ok s'

def historyOf (s : State) (feedId : String) : List HistoricalPrice :=
  (s.priceHistory.get? feedId).getD []

def PriceEntry.historical (entry : PriceEntry) : HistoricalPrice where
  price := entry.price
  timestamp := entry.timestamp
  blockNumber := entry.blockNumber
  aggregated := false

/-- The breaker is triggered, and can resume at this time. -/
def TrippedUntil (feedId : String) (resumeAt : ℕ) (s : State) : Prop :=
  ∃ cbState, s.circuitBreaker.get? feedId = some cbState ∧ cbState.triggered = true ∧
    cbState.canResumeAt = some resumeAt

theorem TrippedUntil.not_passes {resumeAt : ℕ} (h : TrippedUntil feedId resumeAt s)
    (hearly : env.timestamp < resumeAt) : ¬ Passes env feedId s := by
  obtain ⟨cbState, hfound, hon, hresume⟩ := h
  intro hpasses
  unfold Passes CircuitBreaker.isTriggered at hpasses
  rw [hfound] at hpasses
  simp only [hon, hresume, hearly, if_true] at hpasses
  cases hpasses

theorem TrippedUntil.halted {resumeAt : ℕ} (h : TrippedUntil feedId resumeAt s)
    (hearly : env.timestamp < resumeAt) : Halted env feedId s := by
  constructor
  · intro caller r hr
    exact h.not_passes hearly (getAggregatedPrice_ok hr).1
  · intro provider price s' hs'
    cases submitPrice_effect hs' with
    | aside _ _ other => cases other
    | submitted _ _ _ _ _ _ _ _ passes => exact h.not_passes hearly passes

theorem TrippedUntil.others {resumeAt : ℕ} {other : String} (h : TrippedUntil feedId resumeAt s)
    (hothers : OthersKept other s s') (hne : feedId ≠ other) : TrippedUntil feedId resumeAt s' := by
  obtain ⟨cbState, hfound, hon, hresume⟩ := h
  exact ⟨cbState, (hothers feedId hne).trans hfound, hon, hresume⟩

/-- Before its time a tripped breaker stays so, unless it is reset. -/
theorem TrippedUntil.step {resumeAt : ℕ} (h : TrippedUntil feedId resumeAt s)
    (hlisted : s.priceFeed.get? feedId ≠ none) (hearly : a.env.timestamp < resumeAt)
    (hreset : ¬ a.Resets feedId) (heffect : Effect s a s') : TrippedUntil feedId resumeAt s' := by
  cases heffect with
  | aside _ _ _ _ breaker => exact ⟨h.choose, by rw [breaker]; exact h.choose_spec⟩
  | created _ _ args _ _ fresh _ _ _ _ others =>
    refine h.others others ?_
    rintro rfl
    exact hlisted fresh
  | reset _ admin feedId' =>
    refine h.others (othersKept_set rfl) ?_
    rintro rfl
    exact hreset ⟨admin, rfl⟩
  | aggregated _ _ feedId' _ passes _ others =>
    refine h.others others ?_
    rintro rfl
    exact h.not_passes hearly passes
  | submitted _ _ feedId' _ _ _ _ _ passes _ others =>
    refine h.others others ?_
    rintro rfl
    exact h.not_passes hearly passes

/-- Feeds are not taken off the list. -/
theorem listed_step (h : s.priceFeed.get? feedId ≠ none) (heffect : Effect s a s') :
    s'.priceFeed.get? feedId ≠ none := by
  cases heffect with
  | aside _ _ _ kept => rwa [kept.priceFeed]
  | created _ _ args _ _ _ priceFeed =>
    rw [priceFeed, Store.get?_set]
    split
    · exact Option.some_ne_none _
    · exact h
  | reset => exact h
  | aggregated _ _ _ _ _ kept => rwa [kept.priceFeed]
  | submitted _ _ _ _ _ _ _ _ _ stored =>
    rw [stored.priceFeed]
    exact h

/-- The latest price of a feed goes with the next submission to it. -/
theorem latestPrice_step (hother : ¬ a.Submits feedId) (heffect : Effect s a s') :
    s'.latestPrice.get? feedId = s.latestPrice.get? feedId := by
  cases heffect with
  | aside _ _ _ kept => rw [kept.latestPrice]
  | created _ _ _ _ _ _ _ latestPrice => rw [latestPrice]
  | reset => rfl
  | aggregated _ _ _ _ _ kept => rw [kept.latestPrice]
  | submitted _ _ feedId' _ _ _ _ _ _ stored =>
    rw [stored.latestPrice, storePrice, Store.get?_set, if_neg]
    rintro rfl
    exact hother rfl

/-- The price of a provider goes with its next submission to the feed. -/
theorem providerPrice_step (hother : a.op.submitted? ≠ some (feedId, provider))
    (heffect : Effect s a s') :
    s'.providerPrice.get? (feedId, provider) = s.providerPrice.get? (feedId, provider) := by
  cases heffect with
  | aside _ _ _ kept => rw [kept.providerPrice]
  | created _ _ _ _ _ _ _ _ providerPrice => rw [providerPrice]
  | reset => rfl
  | aggregated _ _ _ _ _ kept => rw [kept.providerPrice]
  | submitted _ _ _ _ _ _ _ _ _ stored =>
    rw [stored.providerPrice, storePrice, Store.get?_set, if_neg]
    intro hsame
    cases hsame
    exact hother rfl

/-- A sample with fewer than 999 after it survives one more. -/
theorem pushHistory_keeps (older newer : List HistoricalPrice) (sample entry : HistoricalPrice)
    (hroom : newer.length + 1 < 1000) :
    ∃ older', pushHistory (older ++ sample :: newer) entry =
      older' ++ sample :: (newer ++ [entry]) := by
  unfold pushHistory
  split
  · rename_i hfull
    rw [List.length_append, List.length_cons] at hfull
    cases older with
    | nil =>
      rw [List.length_nil] at hfull
      omega
    | cons oldest older => exact ⟨older, by simp⟩
  · exact ⟨older, by simp⟩

/-- The samples of a feed are added to by its submissions. -/
theorem priceHistory_step {older newer : List HistoricalPrice} {sample : HistoricalPrice}
    (h : historyOf s feedId = older ++ sample :: newer) (hlisted : s.priceFeed.get? feedId ≠ none)
    (hroom : (newer.length + if a.Submits feedId then 1 else 0) < 1000) (heffect : Effect s a s') :
    ∃ older' newer', historyOf s' feedId = older' ++ sample :: newer' ∧
      newer'.length = newer.length + if a.Submits feedId then 1 else 0 := by
  have hsame : ∀ {s' : State}, historyOf s' feedId = historyOf s feedId → ¬ a.Submits feedId →
      ∃ older' newer', historyOf s' feedId = older' ++ sample :: newer' ∧
        newer'.length = newer.length + if a.Submits feedId then 1 else 0 := by
    intro s' hkept hother
    exact ⟨older, newer, hkept.trans h, by rw [if_neg hother]; rfl⟩
  cases heffect with
  | aside _ _ other kept =>
    refine hsame (by rw [historyOf, kept.priceHistory, historyOf]) ?_
    rw [Action.Submits, other]
    exact Option.some_ne_none _ ∘ Eq.symm
  | created _ _ args _ _ fresh _ _ _ priceHistory =>
    refine hsame ?_ fun hop => by cases hop
    have hne : feedId ≠ args.feedId := by
      rintro rfl
      exact hlisted fresh
    rw [historyOf, priceHistory, Store.get?_set, if_neg hne, historyOf]
  | reset => exact hsame rfl fun hop => by cases hop
  | aggregated _ _ _ _ _ kept =>
    exact hsame (by rw [historyOf, kept.priceHistory, historyOf]) fun hop => by cases hop
  | submitted env provider feedId' price _ _ providerData _ _ stored =>
    by_cases hfeed : feedId = feedId'
    · subst hfeed
      have hop : Action.Submits feedId ⟨env, .submitPrice provider feedId price⟩ := rfl
      rw [if_pos hop] at hroom
      let entry := entryAt env provider providerData.providerType price
      obtain ⟨older', hpush⟩ := pushHistory_keeps older newer sample entry.historical hroom
      refine ⟨older', newer ++ [entry.historical], ?_, ?_⟩
      · rw [historyOf, stored.priceHistory, storePrice, Store.get?_set, if_pos rfl,
          Option.getD_some]
        exact (congrArg (pushHistory · _) h).trans hpush
      · rw [List.length_append, if_pos hop]
        rfl
    · refine hsame ?_ fun hop => hfeed (Option.some.inj hop).symm
      rw [historyOf, stored.priceHistory, storePrice, Store.get?_set, if_neg hfeed, historyOf]

/-- What is left of a tripped price after the calls of `recent`, in a run that was at `now`. -/
structure Remains (feedId : String) (entry : PriceEntry) (now : ℕ)
    (recent : List (State × Action)) (s : State) : Prop where
  listed : s.priceFeed.get? feedId ≠ none
  tripped : (∀ e ∈ recent, ¬ e.2.Resets feedId) → now < entry.timestamp + 3600 →
    TrippedUntil feedId (entry.timestamp + 3600) s
  latest : (∀ e ∈ recent, ¬ e.2.Submits feedId) → s.latestPrice.get? feedId = some entry
  own : (∀ e ∈ recent, e.2.op.submitted? ≠ some (feedId, entry.provider)) →
    s.providerPrice.get? (feedId, entry.provider) = some entry
  recorded : submissions feedId recent < 1000 → ∃ older newer,
    historyOf s feedId = older ++ entry.historical :: newer ∧
      newer.length = submissions feedId recent

theorem Remains.start (htrip : Trips feedId s ⟨env, .submitPrice provider feedId price⟩)
    (hdone : next ⟨env, .submitPrice provider feedId price⟩ s = .ok s') :
    ∃ kind, Remains feedId (entryAt env provider kind price) env.timestamp [] s' := by
  obtain ⟨s'', cbState, hs'', hfound, hon⟩ := htrip
  cases hdone.symm.trans hs''
  cases next_effect hdone with
  | aside _ _ other => cases other
  | submitted _ _ _ _ _ config providerData listed _ stored _ tripped =>
    let entry := entryAt env provider providerData.providerType price
    obtain ⟨older, hpush⟩ : ∃ older, pushHistory (historyOf s feedId) entry.historical =
      older ++ [entry.historical] := ⟨_, rfl⟩
    refine ⟨providerData.providerType, ?_,
      fun _ _ => ⟨cbState, hfound, hon, tripped cbState hfound hon⟩,
      fun _ => ?_, fun _ => ?_, fun _ => ⟨older, [], ?_, rfl⟩⟩
    · rw [stored.priceFeed]
      exact fun hnone => Option.some_ne_none _ (listed.symm.trans hnone)
    · rw [stored.latestPrice, storePrice, Store.get?_set, if_pos rfl]
    · rw [stored.providerPrice, storePrice, Store.get?_set, if_pos rfl]
    · rw [historyOf, stored.priceHistory, storePrice, Store.get?_set, if_pos rfl]
      exact hpush

theorem Remains.step {entry : PriceEntry} {now : ℕ} (h : Remains feedId entry now recent s)
    (htime : now ≤ a.env.timestamp) (heffect : Effect s a s') :
    Remains feedId entry a.env.timestamp ((s, a) :: recent) s' where
  listed := listed_step h.listed heffect
  tripped hreset hearly :=
    (h.tripped (fun e he => hreset e (List.mem_cons_of_mem _ he)) (htime.trans_lt hearly)).step
      h.listed hearly (hreset _ List.mem_cons_self) heffect
  latest hother := by
    rw [latestPrice_step (hother _ List.mem_cons_self) heffect]
    exact h.latest fun e he => hother e (List.mem_cons_of_mem _ he)
  own hother := by
    rw [providerPrice_step (hother _ List.mem_cons_self) heffect]
    exact h.own fun e he => hother e (List.mem_cons_of_mem _ he)
  recorded hroom := by
    have hcount : submissions feedId ((s, a) :: recent) =
        submissions feedId recent + if a.Submits feedId then 1 else 0 := by
      unfold submissions
      rw [List.countP_cons]
      simp only [decide_eq_true_eq]
    obtain ⟨older, newer, hhistory, hlength⟩ := h.recorded (by omega)
    rw [hcount, ← hlength] at hroom ⊢
    exact priceHistory_step hhistory h.listed hroom heffect

/-- A call that trips the breaker of a feed halts the feed for an hour, unless the breaker is
reset. Its price stays the latest one, which the next one is compared with, until
somebody submits to the feed; it stays the provider's own until the provider submits to
the feed, and in the history until 1000 more prices are submitted. -/
theorem tripped_price
    (h : Run (recent ++ (s₀, ⟨env, .submitPrice provider feedId price⟩) :: old) s)
    (htrip : Trips feedId s₀ ⟨env, .submitPrice provider feedId price⟩) :
    ∃ entry : PriceEntry, entry.price = price ∧ entry.timestamp = env.timestamp ∧
      entry.provider = provider ∧
      ((∀ e ∈ recent, ¬ e.2.Resets feedId) → ∀ env' : Ledger,
        clock Action.time? (recent ++ (s₀, ⟨env, .submitPrice provider feedId price⟩) :: old) ≤
          env'.timestamp → env'.timestamp < env.timestamp + 3600 → Halted env' feedId s) ∧
      ((∀ e ∈ recent, ¬ e.2.Submits feedId) →
        getLatestPrice feedId s = some entry ∧ previousPrice s feedId = price) ∧
      ((∀ e ∈ recent, e.2.op.submitted? ≠ some (feedId, provider)) →
        ∀ providers, provider ∈ providers → entry ∈ collectPrices s feedId providers) ∧
      (submissions feedId recent < 1000 → ∀ now windowSeconds, env.timestamp ≤ now →
        now ≤ env.timestamp + windowSeconds →
        entry.historical ∈ PriceAggregator.samplesIn now windowSeconds (historyOf s feedId)) := by
  obtain ⟨kind, hremains⟩ : ∃ kind, Remains feedId (entryAt env provider kind price)
      (clock Action.time? (recent ++ (s₀, ⟨env, .submitPrice provider feedId price⟩) :: old))
      recent s := by
    refine h.after (P := fun recent s => ∃ kind, Remains feedId (entryAt env provider kind price)
      (clock Action.time? (recent ++ (s₀, ⟨env, .submitPrice provider feedId price⟩) :: old))
      recent s) (fun s' _ hdone => Remains.start htrip hdone) ?_
    rintro recent s a s' hontime hdone ⟨kind, hremains⟩
    exact ⟨kind, hremains.step (hontime _ rfl) (next_effect hdone)⟩
  refine ⟨entryAt env provider kind price, rfl, rfl, rfl, fun hreset env' htime hearly => ?_,
    fun hother => ?_, fun hother providers hprovider => ?_,
    fun hroom now windowSeconds hafter hwithin => ?_⟩
  · exact (hremains.tripped hreset (htime.trans_lt hearly)).halted hearly
  · have hlatest := hremains.latest hother
    refine ⟨hlatest, ?_⟩
    rw [previousPrice, hlatest]
    rfl
  · exact List.mem_filterMap.mpr ⟨provider, hprovider, hremains.own hother⟩
  · obtain ⟨older, newer, hhistory, -⟩ := hremains.recorded hroom
    have hmem : (entryAt env provider kind price).historical ∈ historyOf s feedId := by
      rw [hhistory]
      exact List.mem_append_right _ List.mem_cons_self
    refine List.mem_filter.mpr ⟨hmem, decide_eq_true ⟨?_, hafter⟩⟩
    change now - windowSeconds ≤ env.timestamp
    omega

section Samples

def governor : Address := ⟨1⟩

def alice : Address := ⟨2⟩

def bob : Address := ⟨3⟩

def reader : Address := ⟨4⟩

/-- A ledger at a time, where everybody signs. -/
def at' (timestamp : ℕ) : Ledger := ⟨⟨timestamp, fun _ => true⟩, 1⟩

/-- A feed whose price may change by 1% at a time. -/
def ethFeed : FeedArgs where
  feedId := "ETH"
  assetSymbol := "ETH"
  description := "ether"
  decimals := 8
  minUpdateInterval := 1
  maxStaleness := 100000
  maxPriceChangeBps := 100
  providers := [alice, bob]
  enableCircuitBreaker := true

/-- Alice submits 1000, and Bob trips the breaker with 1200. -/
def tripped : List Action :=
  [⟨at' 0, .initializeContract governor governor⟩,
    ⟨at' 0, .registerProvider governor alice .custom true 10 1⟩,
    ⟨at' 0, .registerProvider governor bob .custom true 10 1⟩,
    ⟨at' 0, .createPriceFeed governor ethFeed⟩,
    ⟨at' 1, .submitPrice alice "ETH" 1000⟩]

def trip : Action := ⟨at' 3, .submitPrice bob "ETH" 1200⟩

/-- The price that trips the breaker is the latest one at once, and what the next one is compared
with; an hour later it is aggregated and averaged. -/
theorem tripped_price_served : ∃ old s₀ s r twap,
    Run ((s₀, trip) :: old) s ∧ Trips "ETH" s₀ trip ∧
    (getLatestPrice "ETH" s).map (·.price) = some 1200 ∧ previousPrice s "ETH" = 1200 ∧
    getAggregatedPrice (at' 3603) reader "ETH" s = .ok r ∧ r.1.price = 1100 ∧
    getTwap (at' 3603) reader "ETH" 3600 s = .ok twap ∧ twap.1 = 1200 := by
  have h : After (fun r => After (fun s => OnTime Action.time? r.1 trip ∧
      (∃ cbState ∈ s.circuitBreaker.get? "ETH", cbState.triggered = true) ∧
      (getLatestPrice "ETH" s).map (·.price) = some 1200 ∧ previousPrice s "ETH" = 1200 ∧
      After (fun r => r.1.price = 1100) (getAggregatedPrice (at' 3603) reader "ETH" s) ∧
      After (fun r => r.1 = 1200) (getTwap (at' 3603) reader "ETH" 3600 s)) (next trip r.2))
      (record next (fun log _ a => OnTime Action.time? log a) tripped ([], deployed)) := by
    decide +kernel
  obtain ⟨⟨old, s₀⟩, hrec, h⟩ := h.exists_ok
  obtain ⟨s, hs, hontime, ⟨cbState, hfound, hon⟩, hlatest, hprevious, hagg, htwap⟩ := h.exists_ok
  obtain ⟨r, hr, hprice⟩ := hagg.exists_ok
  obtain ⟨twap, htwap, haverage⟩ := htwap.exists_ok
  have hrun : Run old s₀ := record_run hrec
  exact ⟨old, s₀, s, r, twap, .cons hrun hontime hs, ⟨s, cbState, hs, hfound, hon⟩, hlatest,
    hprevious, hr, hprice, htwap, haverage⟩

/-- Ten seconds after the trip nothing has changed that. -/
theorem tripped_price_halts : ∃ log s, Run log s ∧ Halted (at' 3602) "ETH" s ∧
    previousPrice s "ETH" = 1200 := by
  let later : Action := ⟨at' 13, .grantSubscription governor reader "ETH" .basic 86400⟩
  have h : After (fun r => After (fun s => OnTime Action.time? r.1 trip ∧
      (∃ cbState ∈ s.circuitBreaker.get? "ETH", cbState.triggered = true) ∧
      After (fun s' => OnTime Action.time? ((r.2, trip) :: r.1) later) (next later s))
      (next trip r.2))
      (record next (fun log _ a => OnTime Action.time? log a) tripped ([], deployed)) := by
    decide +kernel
  obtain ⟨⟨old, s₀⟩, hrec, h⟩ := h.exists_ok
  obtain ⟨s, hs, hontime, ⟨cbState, hfound, hon⟩, h⟩ := h.exists_ok
  obtain ⟨s', hs', hlater⟩ := h.exists_ok
  have hstart : Run old s₀ := record_run hrec
  have hrun : Run ([(s, later)] ++ (s₀, trip) :: old) s' :=
    .cons (.cons hstart hontime hs) hlater hs'
  obtain ⟨_, -, -, -, hhalted, hlatest, -⟩ := tripped_price hrun ⟨s, cbState, hs, hfound, hon⟩
  have hkept : ∀ e ∈ [(s, later)], ¬ e.2.Resets "ETH" ∧ ¬ e.2.Submits "ETH" := by
    intro e he
    rw [List.mem_singleton.mp he]
    have hother : ¬ later.Submits "ETH" := by decide
    refine ⟨fun ⟨_, hop⟩ => ?_, hother⟩
    cases hop
  refine ⟨_, s', hrun, hhalted (fun e he => (hkept e he).1) (at' 3602) ?_ ?_,
    (hlatest fun e he => (hkept e he).2).2⟩
  · change 13 ≤ 3602
    decide
  · change 3602 < 3 + 3600
    decide

end Samples

end Oracle
