import StellAIverse.Soroban.StepFunction
import StellAIverse.Oracle.Breaker

/-!
# The time-weighted average of a feed

The prices submitted to a feed make a step function of time. The history of the feed is the end of
the list they make, so a trailing window of it averages that function, from the first
sample in the window on.
-/

namespace Oracle

open Soroban

variable {s s' : State} {a : Action} {log : List (State × Action)} {feedId : String} {env : Ledger}
  {provider : Address} {price : ℤ}

/-- The price that a call submits to the feed, as the history keeps it. -/
def Action.sample? (feedId : String) (a : Action) : Option HistoricalPrice :=
  match a.op with
  | .submitPrice _ target price =>
    if target = feedId then some {
      price, timestamp := a.env.timestamp, blockNumber := a.env.sequence, aggregated := false }
    else none
  | _ => none

/-- The prices submitted to the feed, the first one first. -/
def submittedPrices (feedId : String) (log : List (State × Action)) : List HistoricalPrice :=
  (log.filterMap fun e => e.2.sample? feedId).reverse

/-- The price of the feed as a function of time. -/
def priceAt (feedId : String) (log : List (State × Action)) : ℕ → ℤ :=
  stepAt HistoricalPrice.timestamp HistoricalPrice.price (submittedPrices feedId log)

theorem submittedPrices_cons : submittedPrices feedId ((s, a) :: log) =
    submittedPrices feedId log ++ (a.sample? feedId).toList := by
  unfold submittedPrices
  rw [List.filterMap_cons]
  cases a.sample? feedId with
  | none => exact (List.append_nil _).symm
  | some sample => exact List.reverse_cons

theorem sample?_isSome : (a.sample? feedId).isSome = decide (a.Submits feedId) := by
  obtain ⟨env, op⟩ := a
  cases op with
  | submitPrice provider target price =>
    by_cases h : target = feedId <;>
      simp [Action.sample?, Action.Submits, Op.submitted?, h]
  | _ => rfl

theorem length_submittedPrices :
    (submittedPrices feedId log).length = submissions feedId log := by
  unfold submittedPrices submissions
  rw [List.length_reverse, List.length_filterMap_eq_countP]
  simp only [sample?_isSome]

theorem sample?_eq_none (h : ¬ a.Submits feedId) : a.sample? feedId = none := by
  rw [← Option.not_isSome_iff_eq_none, sample?_isSome, decide_eq_true_eq]
  exact h

/-- Pushing onto the last 1000 entries gives the last 1000 entries. -/
theorem pushHistory_drop (prices : List HistoricalPrice) (entry : HistoricalPrice) :
    pushHistory (prices.drop (prices.length - 1000)) entry =
      (prices ++ [entry]).drop ((prices ++ [entry]).length - 1000) := by
  unfold pushHistory
  rw [List.length_drop, List.length_append, List.length_singleton,
    List.drop_append_of_le_length (by omega)]
  split
  · have hfull : prices.length - 1000 + 1 = prices.length + 1 - 1000 := by omega
    rw [List.drop_drop, hfull]
  · have hroom : prices.length - 1000 = prices.length + 1 - 1000 := by omega
    rw [hroom]

/-- What the prices of a feed are like in a run. -/
structure Kept (feedId : String) (log : List (State × Action)) (s : State) : Prop where
  history : historyOf s feedId =
    (submittedPrices feedId log).drop ((submittedPrices feedId log).length - 1000)
  unlisted : s.priceFeed.get? feedId = none → submittedPrices feedId log = []
  ordered : Chronological HistoricalPrice.timestamp (submittedPrices feedId log)
  past : ∀ sample ∈ submittedPrices feedId log, sample.timestamp ≤ clock Action.time? log
  positive : ∀ sample ∈ submittedPrices feedId log, 0 < sample.price

theorem submitPrice_positive (h : submitPrice env provider feedId price s = .ok s') :
    0 < price := by
  unfold submitPrice at h
  simp only [requireAuth_bind, failIf_bind] at h
  exact not_le.mp h.2.1

/-- A call that submits nothing to the feed keeps its prices. -/
theorem Kept.other (h : Kept feedId log s) (hother : ¬ a.Submits feedId)
    (hontime : OnTime Action.time? log a) (hhistory : historyOf s' feedId = historyOf s feedId)
    (hlisted : s'.priceFeed.get? feedId = none → s.priceFeed.get? feedId = none) :
    Kept feedId ((s, a) :: log) s' := by
  have hsame : submittedPrices feedId ((s, a) :: log) = submittedPrices feedId log := by
    rw [submittedPrices_cons, sample?_eq_none hother, Option.toList_none, List.append_nil]
  constructor
  · rw [hsame, hhistory]
    exact h.history
  · rw [hsame]
    exact h.unlisted ∘ hlisted
  · rw [hsame]
    exact h.ordered
  · rw [hsame]
    exact fun sample hmem => (h.past sample hmem).trans (hontime.clock_le s)
  · rw [hsame]
    exact h.positive

/-- A price that is submitted to the feed is the last one, and pushed onto the history. -/
theorem Kept.submit (h : Kept feedId log s)
    (hontime : OnTime Action.time? log ⟨env, .submitPrice provider feedId price⟩)
    (hpositive : 0 < price) {entry : HistoricalPrice}
    (hentry : Action.sample? feedId ⟨env, .submitPrice provider feedId price⟩ = some entry)
    (hhistory : historyOf s' feedId = pushHistory (historyOf s feedId) entry)
    (hlisted : s'.priceFeed.get? feedId ≠ none) :
    Kept feedId ((s, ⟨env, .submitPrice provider feedId price⟩) :: log) s' := by
  have hprices : submittedPrices feedId ((s, ⟨env, .submitPrice provider feedId price⟩) :: log) =
      submittedPrices feedId log ++ [entry] := by
    rw [submittedPrices_cons, hentry, Option.toList_some]
  have hfields : entry.timestamp = env.timestamp ∧ entry.price = price := by
    simp only [Action.sample?, if_pos] at hentry
    cases hentry
    exact ⟨rfl, rfl⟩
  have hclock : clock Action.time? log ≤ env.timestamp := hontime _ rfl
  have hall : ∀ {P : HistoricalPrice → Prop}, (∀ sample ∈ submittedPrices feedId log, P sample) →
      P entry → ∀ sample ∈ submittedPrices feedId log ++ [entry], P sample := by
    intro P hold hnew sample hsample
    rcases List.mem_append.mp hsample with hsample | hsample
    · exact hold sample hsample
    · rw [List.mem_singleton.mp hsample]
      exact hnew
  constructor
  · rw [hprices, ← pushHistory_drop, ← h.history, hhistory]
  · exact fun hnone => (hlisted hnone).elim
  · rw [hprices]
    refine List.pairwise_append.mpr ⟨h.ordered, List.pairwise_singleton _ _, ?_⟩
    intro sample hsample newest hnewest
    rw [List.mem_singleton.mp hnewest, hfields.1]
    exact (h.past sample hsample).trans hclock
  · rw [hprices]
    exact hall (fun sample hsample => (h.past sample hsample).trans (hontime.clock_le s))
      hfields.1.le
  · rw [hprices]
    exact hall h.positive (hpositive.trans_eq hfields.2.symm)

theorem Kept.step (h : Kept feedId log s) (hontime : OnTime Action.time? log a)
    (hdone : next a s = .ok s') : Kept feedId ((s, a) :: log) s' := by
  cases next_effect hdone with
  | aside _ _ other kept =>
    refine h.other ?_ hontime (by rw [historyOf, kept.priceHistory, historyOf])
      (by rw [kept.priceFeed]; exact id)
    rw [Action.Submits, other]
    exact Option.some_ne_none _ ∘ Eq.symm
  | created env admin args _ config fresh priceFeed _ _ priceHistory =>
    have hother : ¬ Action.Submits feedId ⟨env, .createPriceFeed admin args⟩ :=
      fun hop => by cases hop
    by_cases hfeed : feedId = args.feedId
    · subst hfeed
      have hempty := h.unlisted fresh
      refine h.other hother hontime ?_ fun _ => fresh
      rw [h.history, hempty, historyOf, priceHistory, Store.get?_set, if_pos rfl]
      rfl
    · refine h.other hother hontime ?_ fun hnone => ?_
      · rw [historyOf, priceHistory, Store.get?_set, if_neg hfeed, historyOf]
      · rwa [priceFeed, Store.get?_set, if_neg hfeed] at hnone
  | reset => exact h.other (fun hop => by cases hop) hontime rfl id
  | aggregated _ _ _ _ _ kept =>
    exact h.other (fun hop => by cases hop) hontime
      (by rw [historyOf, kept.priceHistory, historyOf]) (by rw [kept.priceFeed]; exact id)
  | submitted env provider target price _ config providerData found _ stored =>
    by_cases hfeed : feedId = target
    · subst hfeed
      refine h.submit hontime (submitPrice_positive hdone) (if_pos rfl) ?_ ?_
      · rw [historyOf, stored.priceHistory, storePrice, Store.get?_set, if_pos rfl,
          Option.getD_some]
        rfl
      · rw [stored.priceFeed]
        exact fun hnone => Option.some_ne_none _ (found.symm.trans hnone)
    · refine h.other (fun hop => hfeed (Option.some.inj hop).symm) hontime ?_ ?_
      · rw [historyOf, stored.priceHistory, storePrice, Store.get?_set, if_neg hfeed, historyOf]
      · rw [stored.priceFeed]
        exact id

theorem kept_of_run (h : Run log s) : Kept feedId log s :=
  h.preserves ⟨List.drop_nil.symm, fun _ => rfl, .nil, fun _ hmem => (by cases hmem),
    fun _ hmem => (by cases hmem)⟩
    fun _ _ _ _ hontime hdone hkept => hkept.step hontime hdone

open PriceAggregator

theorem weigh_ok {now length : ℕ} {samples : List HistoricalPrice} {sum : ℤ} {r : ℤ × ℕ}
    (hfits : I128.InRange sum) (h : weigh now samples sum length = .ok r) :
    r.1 = sum + weightedSum HistoricalPrice.timestamp HistoricalPrice.price now samples ∧
      r.2 = length + totalLength HistoricalPrice.timestamp now samples ∧ I128.InRange r.1 := by
  induction samples generalizing sum length with
  | nil =>
    cases h
    exact ⟨(add_zero _).symm, rfl, hfits⟩
  | cons sample rest ih =>
    unfold weigh at h
    simp only [I128.mul_bind, I128.add_bind, U64.add_bind] at h
    obtain ⟨-, hnext, -, h⟩ := h
    obtain ⟨hsum, hlength, hlast⟩ := ih hnext h
    exact ⟨hsum.trans (add_assoc _ _ _), hlength.trans (Nat.add_assoc _ _ _), hlast⟩

/-- Of positive prices the sum and its parts fit if the whole does. -/
theorem weigh_of_inRange {now length : ℕ} {samples : List HistoricalPrice} {sum : ℤ}
    (hsum : 0 ≤ sum) (hpositive : ∀ sample ∈ samples, 0 < sample.price)
    (hrange : I128.InRange
      (sum + weightedSum HistoricalPrice.timestamp HistoricalPrice.price now samples))
    (hlength : length + totalLength HistoricalPrice.timestamp now samples < 2 ^ 64) :
    ∃ r, weigh now samples sum length = .ok r := by
  induction samples generalizing sum length with
  | nil => exact ⟨_, rfl⟩
  | cons sample rest ih =>
    let segment := nextTime HistoricalPrice.timestamp now rest - sample.timestamp
    have hlater : ∀ later ∈ rest, 0 < later.price := fun later hmem =>
      hpositive later (List.mem_cons_of_mem _ hmem)
    have hpart : 0 ≤ sample.price * (segment : ℤ) :=
      mul_nonneg (hpositive sample List.mem_cons_self).le (Int.natCast_nonneg _)
    have hrest : 0 ≤ weightedSum HistoricalPrice.timestamp HistoricalPrice.price now rest :=
      weightedSum_nonneg fun later hmem => (hlater later hmem).le
    change I128.InRange (sum + (sample.price * (segment : ℤ) +
      weightedSum HistoricalPrice.timestamp HistoricalPrice.price now rest)) at hrange
    change length + (segment + totalLength HistoricalPrice.timestamp now rest) < 2 ^ 64 at hlength
    have hfits : I128.InRange (sample.price * (segment : ℤ)) := hrange.of_le hpart (by linarith)
    have hnext : I128.InRange (sum + sample.price * (segment : ℤ)) :=
      hrange.of_le (add_nonneg hsum hpart) (by linarith)
    have hroom : length + segment < 2 ^ 64 := by omega
    rw [← add_assoc] at hrange hlength
    obtain ⟨r, hr⟩ := ih (add_nonneg hsum hpart) hlater hrange hlength
    refine ⟨r, ?_⟩
    unfold weigh
    simp only [I128.mul_bind, I128.add_bind, U64.add_bind]
    exact ⟨hfits, hnext, hroom, hr⟩

section Window

variable {history rest : List HistoricalPrice} {first : HistoricalPrice} {windowSeconds : ℕ}

theorem samplesIn_le :
    ∀ sample ∈ samplesIn env.timestamp windowSeconds history, sample.timestamp ≤ env.timestamp :=
  fun _ hmem => (of_decide_eq_true (List.mem_filter.mp hmem).2).2

/-- If the call returns, it returns the average of the step function of the samples. -/
theorem calculateTwap_ok {average : Option ℤ}
    (hsamples : samplesIn env.timestamp windowSeconds history = first :: rest)
    (hordered : Chronological HistoricalPrice.timestamp (first :: rest))
    (h : calculateTwap env history windowSeconds = .ok average) :
    average = some (timeAverage first.timestamp env.timestamp
      (stepAt HistoricalPrice.timestamp HistoricalPrice.price (first :: rest))) ∧
    I128.InRange (∑ t ∈ Finset.Ico first.timestamp env.timestamp,
      stepAt HistoricalPrice.timestamp HistoricalPrice.price (first :: rest) t) := by
  have hnow : ∀ sample ∈ first :: rest, sample.timestamp ≤ env.timestamp := by
    rw [← hsamples]
    exact samplesIn_le
  have hlast : (first :: rest).getLast? = some ((first :: rest).getLast (List.cons_ne_nil _ _)) :=
    List.getLast?_eq_some_getLast _
  unfold calculateTwap at h
  rw [hsamples] at h
  simp only [hlast] at h
  obtain ⟨⟨sum, length⟩, hweigh, h⟩ := bind_ok.mp h
  obtain ⟨hsum, hlength, hfits⟩ := weigh_ok I128.inRange_zero hweigh
  rw [zero_add, ← integral_eq_weightedSum hordered hnow] at hsum
  rw [Nat.zero_add, totalLength_eq hordered hnow] at hlength
  dsimp only at hsum hlength hfits h
  rw [← hsum]
  refine ⟨?_, hfits⟩
  unfold timeAverage
  split at h
  · rename_i hzero
    cases h
    rw [if_neg (by omega), stepAt_last hnow, hlast]
    rfl
  · rename_i hpos
    obtain ⟨-, -, h⟩ := I128.div_bind.mp h
    cases h
    rw [if_pos (by omega), ← hsum, hlength]

/-- The call returns if the integral fits. -/
theorem calculateTwap_of_inRange
    (hsamples : samplesIn env.timestamp windowSeconds history = first :: rest)
    (hordered : Chronological HistoricalPrice.timestamp (first :: rest))
    (hpositive : ∀ sample ∈ first :: rest, 0 < sample.price) (htime : env.timestamp < 2 ^ 64)
    (hrange : I128.InRange (∑ t ∈ Finset.Ico first.timestamp env.timestamp,
      stepAt HistoricalPrice.timestamp HistoricalPrice.price (first :: rest) t)) :
    ∃ average, calculateTwap env history windowSeconds = .ok average := by
  have hnow : ∀ sample ∈ first :: rest, sample.timestamp ≤ env.timestamp := by
    rw [← hsamples]
    exact samplesIn_le
  have hlast : (first :: rest).getLast? = some ((first :: rest).getLast (List.cons_ne_nil _ _)) :=
    List.getLast?_eq_some_getLast _
  obtain ⟨⟨sum, length⟩, hweigh⟩ : ∃ r, weigh env.timestamp (first :: rest) 0 0 = .ok r := by
    refine weigh_of_inRange le_rfl hpositive ?_ ?_
    · rwa [zero_add, ← integral_eq_weightedSum hordered hnow]
    · rw [Nat.zero_add, totalLength_eq hordered hnow]
      omega
  obtain ⟨-, -, hfits⟩ := weigh_ok I128.inRange_zero hweigh
  unfold calculateTwap
  rw [hsamples]
  simp only [hlast, hweigh, ok_bind]
  split
  · exact ⟨_, rfl⟩
  · refine ⟨_, I128.div_bind.mpr ⟨?_, I128.inRange_tdiv hfits ?_, rfl⟩⟩ <;> omega

/-- From its first sample on, a window of the history shows the price of the feed. -/
theorem Kept.window (h : Kept feedId log s) (htime : clock Action.time? log ≤ env.timestamp)
    (hsamples : samplesIn env.timestamp windowSeconds (historyOf s feedId) = first :: rest) :
    ∃ older, submittedPrices feedId log = older ++ first :: rest := by
  let prices := submittedPrices feedId log
  have hordered : Chronological HistoricalPrice.timestamp (historyOf s feedId) := by
    rw [h.history]
    exact h.ordered.drop
  have hpast : ∀ sample ∈ historyOf s feedId, sample.timestamp ≤ env.timestamp := by
    rw [h.history]
    exact fun sample hmem => (h.past sample (List.mem_of_mem_drop hmem)).trans htime
  obtain ⟨evicted, hevicted⟩ : ∃ evicted, prices = evicted ++ historyOf s feedId := by
    rw [h.history]
    exact ⟨_, (List.take_append_drop _ _).symm⟩
  obtain ⟨older, holder⟩ : ∃ older, historyOf s feedId =
      older ++ samplesIn env.timestamp windowSeconds (historyOf s feedId) :=
    exists_append_window hordered hpast
  rw [hsamples] at holder
  exact ⟨evicted ++ older, by rw [List.append_assoc, ← holder]; exact hevicted⟩

end Window

/-- The average of some samples lies between two of their prices. -/
theorem average_between {now : ℕ} (first : HistoricalPrice) (rest : List HistoricalPrice)
    (hstart : first.timestamp ≤ now) :
    ∃ low ∈ first :: rest, ∃ high ∈ first :: rest,
      low.price ≤ timeAverage first.timestamp now
          (stepAt HistoricalPrice.timestamp HistoricalPrice.price (first :: rest)) ∧
        timeAverage first.timestamp now
          (stepAt HistoricalPrice.timestamp HistoricalPrice.price (first :: rest)) ≤ high.price := by
  have hne : (first :: rest).toFinset.Nonempty :=
    ⟨first, List.mem_toFinset.mpr List.mem_cons_self⟩
  obtain ⟨low, hlow, hmin⟩ := Finset.exists_min_image _ HistoricalPrice.price hne
  obtain ⟨high, hhigh, hmax⟩ := Finset.exists_max_image _ HistoricalPrice.price hne
  refine ⟨low, List.mem_toFinset.mp hlow, high, List.mem_toFinset.mp hhigh,
    timeAverage_between hstart fun t ht _ => ?_⟩
  obtain ⟨sample, hmem, -, hvalue⟩ : ∃ sample ∈ first :: rest, sample.timestamp ≤ t ∧
      stepAt HistoricalPrice.timestamp HistoricalPrice.price (first :: rest) t = sample.price :=
    stepAt_mem ⟨first, List.mem_cons_self, ht⟩
  rw [hvalue]
  exact ⟨hmin sample (List.mem_toFinset.mpr hmem), hmax sample (List.mem_toFinset.mpr hmem)⟩

/-- A query returns the average of the history it finds. -/
theorem getTwap_ok {caller : Address} {windowSeconds : ℕ} {r : ℤ × State}
    (h : getTwap env caller feedId windowSeconds s = .ok r) :
    calculateTwap env (historyOf s feedId) windowSeconds = .ok (some r.1) := by
  unfold getTwap at h
  obtain ⟨s₁, hquery, h⟩ := bind_ok.mp h
  obtain ⟨_, _, rfl⟩ := consumeQuery_ok hquery
  rw [failIf_bind] at h
  obtain ⟨average, haverage, h⟩ := bind_ok.mp h.2
  obtain ⟨twap, htwap, h⟩ := okOr_bind.mp h
  cases h
  rw [← htwap]
  exact haverage

/-- In every run the history of a feed is the last 1000 prices submitted to it, in the order of
time. So for every window no segment ends before it starts. If a sample lies in the window, what
is returned is the average of the feed's price from the first sample in the window to now; it is
returned if and only if the integral fits, and it lies between two prices submitted in the
window. -/
theorem twap_is_average (h : Run log s) (htime : clock Action.time? log ≤ env.timestamp)
    (windowSeconds : ℕ) :
    historyOf s feedId = (submittedPrices feedId log).drop (submissions feedId log - 1000) ∧
    Chronological HistoricalPrice.timestamp (historyOf s feedId) ∧
    (∀ segment ∈ segments HistoricalPrice.timestamp env.timestamp
      (samplesIn env.timestamp windowSeconds (historyOf s feedId)), segment.1 ≤ segment.2) ∧
    ∀ first, (samplesIn env.timestamp windowSeconds (historyOf s feedId)).head? = some first →
      ∃ average, average = timeAverage first.timestamp env.timestamp (priceAt feedId log) ∧
        (∀ caller r, getTwap env caller feedId windowSeconds s = .ok r → r.1 = average) ∧
        (env.timestamp < 2 ^ 64 →
          (calculateTwap env (historyOf s feedId) windowSeconds = .ok (some average) ↔
            I128.InRange (∑ t ∈ Finset.Ico first.timestamp env.timestamp,
              priceAt feedId log t))) ∧
        ∃ low ∈ samplesIn env.timestamp windowSeconds (submittedPrices feedId log),
          ∃ high ∈ samplesIn env.timestamp windowSeconds (submittedPrices feedId log),
            low.price ≤ average ∧ average ≤ high.price := by
  have hkept : Kept feedId log s := kept_of_run h
  have hordered : Chronological HistoricalPrice.timestamp (historyOf s feedId) := by
    rw [hkept.history]
    exact hkept.ordered.drop
  refine ⟨?_, hordered, segments_forward (hordered.filter _) samplesIn_le, fun first hfirst => ?_⟩
  · rw [hkept.history, length_submittedPrices]
  obtain ⟨rest, hsamples⟩ := List.head?_eq_some_iff.mp hfirst
  have hwindow : Chronological HistoricalPrice.timestamp (first :: rest) := by
    rw [← hsamples]
    exact hordered.filter _
  obtain ⟨older, hprices⟩ := hkept.window htime hsamples
  have hin : ∀ sample ∈ first :: rest,
      sample ∈ samplesIn env.timestamp windowSeconds (submittedPrices feedId log) := by
    intro sample hmem
    refine List.mem_filter.mpr ⟨?_, ?_⟩
    · rw [hprices]
      exact List.mem_append_right _ hmem
    · rw [← hsamples] at hmem
      exact (List.mem_filter.mp hmem).2
  have hstart : first.timestamp ≤ env.timestamp :=
    (of_decide_eq_true (List.mem_filter.mp (hin first List.mem_cons_self)).2).2
  -- From the first sample on, what was submitted before it does not matter.
  have hshown : ∀ t, first.timestamp ≤ t → priceAt feedId log t =
      stepAt HistoricalPrice.timestamp HistoricalPrice.price (first :: rest) t := by
    intro t ht
    unfold priceAt
    rw [hprices]
    exact stepAt_append ⟨first, List.mem_cons_self, ht⟩
  have haverage := timeAverage_congr hstart fun t ht _ => hshown t ht
  have hintegral : ∑ t ∈ Finset.Ico first.timestamp env.timestamp, priceAt feedId log t =
      ∑ t ∈ Finset.Ico first.timestamp env.timestamp,
        stepAt HistoricalPrice.timestamp HistoricalPrice.price (first :: rest) t :=
    Finset.sum_congr rfl fun t ht => hshown t (Finset.mem_Ico.mp ht).1
  refine ⟨_, rfl, fun caller r hr => ?_, fun hclock => ⟨fun hreturned => ?_, fun hrange => ?_⟩, ?_⟩
  · obtain ⟨hsome, -⟩ := calculateTwap_ok hsamples hwindow (getTwap_ok hr)
    rw [haverage]
    exact Option.some.inj hsome
  · rw [hintegral]
    exact (calculateTwap_ok hsamples hwindow hreturned).2
  · rw [hintegral] at hrange
    have hpositive : ∀ sample ∈ first :: rest, 0 < sample.price := fun sample hmem =>
      hkept.positive sample (by rw [hprices]; exact List.mem_append_right _ hmem)
    obtain ⟨average, hreturned⟩ :=
      calculateTwap_of_inRange hsamples hwindow hpositive hclock hrange
    rw [hreturned, haverage, (calculateTwap_ok hsamples hwindow hreturned).1]
  · obtain ⟨low, hlow, high, hhigh, hbounds⟩ := average_between first rest hstart
    rw [haverage]
    exact ⟨low, hin low hlow, high, hin high hhigh, hbounds⟩

/-- The first price counts for two seconds and the second for eight. -/
theorem twap_is_average_ether : ∃ log s r, Run log s ∧
    getTwap (at' 11) reader "ETH" 60 s = .ok r ∧ r.1 = 1160 ∧
    r.1 = timeAverage 1 11 (priceAt "ETH" log) := by
  have h : After (fun r => clock Action.time? r.1 ≤ 11 ∧
      (∃ first ∈ (samplesIn 11 60 (historyOf r.2 "ETH")).head?, first.timestamp = 1) ∧
      After (fun twap => twap.1 = 1160) (getTwap (at' 11) reader "ETH" 60 r.2))
      (record next (fun log _ a => OnTime Action.time? log a) (tripped ++ [trip]) ([], deployed)) := by
    decide +kernel
  obtain ⟨⟨log, s⟩, hrec, htime, ⟨first, hfirst, hstart⟩, h⟩ := h.exists_ok
  obtain ⟨r, hr, hprice⟩ := h.exists_ok
  have hrun : Run log s := record_run hrec
  have hclock : clock Action.time? log ≤ (at' 11).timestamp := htime
  obtain ⟨-, -, -, hwindow⟩ := twap_is_average hrun hclock 60
  obtain ⟨average, haverage, hreturned, -⟩ := hwindow first hfirst
  refine ⟨log, s, r, hrun, hr, hprice, ?_⟩
  rw [hreturned reader r hr, haverage, hstart]
  rfl

end Oracle
