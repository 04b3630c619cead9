import StellAIverse.Oracle.Aggregation

/-!
# A minority of providers

A provider may submit any positive price: the breaker stores what trips it. What protects a
reader is the median. As long as fewer than three eighths of the gathered prices come from
providers that misbehave, what is served lies in the range of the others.
-/

namespace Oracle

open Soroban PriceAggregator

variable {s s' : State} {a : Action} {feedId : String} {env : Ledger} {caller : Address}
  {feed : PriceFeed} {aggregated : AggregatedPrice} {entries filtered : List PriceEntry}
  {maxStaleness minSources : ℕ} {honest : Address → Bool} {low high : ℤ}

def pricesOf (entries : List PriceEntry) : List ℤ := entries.map (·.price)

/-- An honest provider submits prices of this feed within the range; anything else may be called
by anybody, with the signatures it needs. -/
def Within (honest : Address → Bool) (feedId : String) (low high : ℤ) (a : Action) : Prop :=
  match a.op with
  | .submitPrice provider id price =>
    id = feedId → honest provider = true → low ≤ price ∧ price ≤ high
  | _ => True

/-- The gathered prices that are not from honest providers. -/
def strangers (honest : Address → Bool) (entries : List PriceEntry) : ℕ :=
  entries.countP fun entry => honest entry.provider = false

/-- Nothing between the quartiles is an outlier. -/
theorem removeOutliers_keeps (h : removeOutliers entries = .ok filtered) :
    ∃ keep : ℤ → Bool, pricesOf filtered = (pricesOf entries).filter keep ∧
      ∀ v, lowerQuartile (pricesOf entries) ≤ v → v ≤ upperQuartile (pricesOf entries) →
        keep v = true := by
  have hlength : (pricesOf entries).length = entries.length := List.length_map _
  unfold removeOutliers at h
  split at h
  · cases h
    exact ⟨fun _ => true, (List.filter_eq_self.mpr fun _ _ => rfl).symm, fun _ _ _ => rfl⟩
  · rename_i hmany
    have hsorted : sorted (entries.map (·.price)) = inOrder (pricesOf entries) := rfl
    dsimp only at h
    rw [hsorted, length_inOrder, index_of_lt (by rw [length_inOrder]; omega), ok_bind,
      index_of_lt (by rw [length_inOrder]; omega), ok_bind] at h
    simp only [I128.sub_bind, I128.mul_bind, I128.div_bind, I128.add_bind] at h
    obtain ⟨-, -, -, -, -, -, h⟩ := h
    have hquartiles : lowerQuartile (pricesOf entries) ≤ upperQuartile (pricesOf entries) :=
      inOrder_le (by omega) (by omega)
    rw [← lowerQuartile, ← upperQuartile] at h
    generalize lowerQuartile (pricesOf entries) = q1 at *
    generalize upperQuartile (pricesOf entries) = q3 at *
    cases h
    have hmargin : 0 ≤ (150 * (q3 - q1)).tdiv 100 := Int.tdiv_nonneg (by omega) (by omega)
    refine ⟨fun price => decide (q1 - (150 * (q3 - q1)).tdiv 100 ≤ price ∧
      price ≤ q3 + (150 * (q3 - q1)).tdiv 100), ?_, fun value hlow hhigh => ?_⟩
    · unfold pricesOf
      rw [List.filter_map]
      rfl
    · rw [decide_eq_true_eq]
      omega

theorem validPrices_all {prices : List ℤ}
    (h : validPrices env maxStaleness entries = .ok (prices, true)) : prices = pricesOf entries := by
  induction entries generalizing prices with
  | nil =>
    cases h
    rfl
  | cons entry rest ih =>
    unfold validPrices at h
    obtain ⟨stale, -, h⟩ := bind_ok.mp h
    obtain ⟨⟨rested, fresh⟩, hrest, h⟩ := bind_ok.mp h
    dsimp only at h
    split at h
    · cases h
    · cases h
      exact congrArg (entry.price :: ·) (ih hrest)

/-- With nothing stale, the price is the median of all of them. -/
theorem aggregatePrices_median (hsources : 0 < minSources)
    (h : aggregatePrices env entries minSources maxStaleness = .ok aggregated)
    (hfresh : aggregated.isFresh = true) : aggregated.price = median (pricesOf entries) := by
  unfold aggregatePrices at h
  rw [failIf_bind] at h
  obtain ⟨-, h⟩ := h
  obtain ⟨⟨prices, fresh⟩, hvalid, h⟩ := bind_ok.mp h
  dsimp only at h
  rw [failIf_bind] at h
  obtain ⟨henough, h⟩ := h
  obtain ⟨minPrice, -, h⟩ := bind_ok.mp h
  obtain ⟨maxPrice, -, h⟩ := bind_ok.mp h
  obtain ⟨price, hprice, h⟩ := bind_ok.mp h
  cases h
  cases hfresh
  have hne : prices ≠ [] := List.length_pos_iff.mp (by omega)
  rw [← validPrices_all hvalid]
  exact ((medianOf_ok_iff hne).mp hprice).2.symm

/-- A stored price of an honest provider is within the range. -/
def Sound (honest : Address → Bool) (feedId : String) (low high : ℤ) (s : State) : Prop :=
  ∀ provider entry, s.providerPrice.get? (feedId, provider) = some entry →
    honest entry.provider = true → low ≤ entry.price ∧ entry.price ≤ high

theorem sound_next (hwithin : Within honest feedId low high a) (hdone : next a s = .ok s')
    (h : Sound honest feedId low high s) : Sound honest feedId low high s' := by
  have hkept : s'.providerPrice = s.providerPrice → Sound honest feedId low high s' := by
    intro hsame provider entry hfound
    exact h provider entry (hsame ▸ hfound)
  cases next_effect hdone with
  | aside _ _ _ kept => exact hkept kept.providerPrice
  | created _ _ _ _ _ _ _ _ providerPrice => exact hkept providerPrice
  | reset => exact hkept rfl
  | aggregated _ _ _ _ _ kept => exact hkept kept.providerPrice
  | submitted _ submitter id price _ _ _ _ _ stored =>
    intro provider entry hfound
    rw [stored.providerPrice, storePrice, Store.get?_set] at hfound
    split at hfound
    · rename_i hkey
      cases hfound
      exact hwithin (congrArg Prod.fst hkey).symm
    · exact h provider entry hfound

theorem gathered_stored {entry : PriceEntry} (h : entry ∈ gathered feed feedId s) :
    ∃ provider, s.providerPrice.get? (feedId, provider) = some entry := by
  unfold gathered collectPrices at h
  split at h
  · simp only [List.mem_append, List.mem_filterMap] at h
    rcases h with ⟨provider, -, h⟩ | ⟨provider, -, h⟩ <;> exact ⟨provider, h⟩
  · obtain ⟨provider, -, h⟩ := List.mem_filterMap.mp h
    exact ⟨provider, h⟩

/-- Only an open feed is served. -/
theorem open_of_serves (h : Serves env caller feedId s aggregated)
    (hfound : s.priceFeed.get? feedId = some feed) : Open env caller feedId feed s := by
  obtain ⟨s', h⟩ := h
  obtain ⟨s₁, hquery, h⟩ := bind_ok.mp h
  obtain ⟨subscription, rateLimit, rfl⟩ := consumeQuery_ok hquery
  obtain ⟨feed', hfound', h⟩ := okOr_bind.mp h
  cases hfound.symm.trans hfound'
  obtain ⟨hactive, h⟩ := failIf_bind.mp h
  rcases hlook : CircuitBreaker.isTriggered env feedId { s with subscription, rateLimit } with
    ⟨triggered, s₂⟩
  simp only [hlook] at h
  obtain ⟨hpasses, -⟩ := failIf_bind.mp h
  have hsame : (CircuitBreaker.isTriggered env feedId { s with subscription, rateLimit }).1 =
      (CircuitBreaker.isTriggered env feedId s).1 := isTriggered_congr rfl
  refine ⟨⟨_, hquery⟩, hfound, eq_true_of_ne_false hactive, ?_⟩
  rw [Passes, ← hsame, hlook]
  exact eq_false_of_ne_true hpasses

/-- In every run in which the honest providers keep their prices of a feed within a range, a price
that is served lies in that range, as long as fewer than three eighths of the gathered prices are
from others. -/
theorem minority_outvoted (h : Steps next (fun _ a => Within honest feedId low high a) deployed s)
    (hserved : Serves env caller feedId s aggregated)
    (hfound : s.priceFeed.get? feedId = some feed)
    (hfew : 2 * strangers honest (gathered feed feedId s) <
      (gathered feed feedId s).length - (gathered feed feedId s).length / 4) :
    low ≤ aggregated.price ∧ aggregated.price ≤ high := by
  have hsound : Sound honest feedId low high s :=
    h.preserves (P := Sound honest feedId low high)
      (fun _ _ _ hwithin hdone => sound_next hwithin hdone) (fun _ _ hfound => by cases hfound)
  obtain ⟨-, filtered, hremoved, haggregated, hfresh⟩ := (serves_iff (open_of_serves hserved hfound)).mp hserved
  obtain ⟨keep, hkept, hkeep⟩ := removeOutliers_keeps hremoved
  have hlength : (pricesOf (gathered feed feedId s)).length = (gathered feed feedId s).length :=
    List.length_map _
  have houtside : (pricesOf (gathered feed feedId s)).countP
      (fun value => ¬ (low ≤ value ∧ value ≤ high)) ≤ strangers honest (gathered feed feedId s) := by
    unfold pricesOf strangers
    rw [List.countP_map]
    refine List.countP_mono_left fun entry hentry hout => ?_
    obtain ⟨provider, hfound⟩ := gathered_stored hentry
    have hin := hsound provider entry hfound
    simp only [Function.comp_apply, decide_eq_true_eq] at hout ⊢
    exact eq_false_of_ne_true (hout ∘ hin)
  rw [aggregatePrices_median requiredSources_pos haggregated hfresh, hkept]
  exact median_filter_between hkeep (by omega)

section Samples

def carol : Address := ⟨5⟩

def dave : Address := ⟨6⟩

def fiveFeed : FeedArgs :=
  { ethFeed with providers := [alice, bob, carol, dave, reader], enableCircuitBreaker := false }

/-- The reader's own price is far off; there is no breaker to notice. -/
def stuffed : List Action :=
  quiet.take 4 ++
    [⟨at' 0, .registerProvider governor carol .custom true 10 1⟩,
    ⟨at' 0, .registerProvider governor dave .custom true 10 1⟩,
    ⟨at' 0, .createPriceFeed governor fiveFeed⟩,
    ⟨at' 1, .submitPrice alice "ETH" 1000⟩, ⟨at' 2, .submitPrice bob "ETH" 1005⟩,
    ⟨at' 3, .submitPrice carol "ETH" 1002⟩, ⟨at' 4, .submitPrice dave "ETH" 1003⟩,
    ⟨at' 5, .submitPrice reader "ETH" 9999⟩]

/-- The reader's price is removed as an outlier. -/
theorem minority_outvoted_reader : ∃ s feed filtered aggregated,
    (gathered feed "ETH" s).length = 5 ∧
      removeOutliers (gathered feed "ETH" s) = .ok filtered ∧ filtered.length = 4 ∧
      Serves (at' 6) reader "ETH" s aggregated ∧
      1000 ≤ aggregated.price ∧ aggregated.price ≤ 1005 := by
  have h : After (fun s => ∃ feed ∈ s.priceFeed.get? "ETH", (gathered feed "ETH" s).length = 5 ∧
      After (fun filtered => filtered.length = 4) (removeOutliers (gathered feed "ETH" s)) ∧
      2 * strangers (· ≠ reader) (gathered feed "ETH" s) <
        (gathered feed "ETH" s).length - (gathered feed "ETH" s).length / 4 ∧
      After (fun _ => True) (getAggregatedPrice (at' 6) reader "ETH" s))
      (execute next stuffed deployed) := by
    decide +kernel
  obtain ⟨s, hs, feed, hfound, hfive, hremoved, hfew, hserved⟩ := h.exists_ok
  obtain ⟨filtered, hfiltered, hfour⟩ := hremoved.exists_ok
  obtain ⟨⟨aggregated, s'⟩, hs', -⟩ := hserved.exists_ok
  have hrun : Steps next (fun _ a => Within (· ≠ reader) "ETH" 1000 1005 a) deployed s :=
    execute_steps stuffed (by simp [stuffed, quiet, Within]) hs
  exact ⟨s, feed, filtered, aggregated, hfive, hfiltered, hfour, ⟨s', hs'⟩,
    minority_outvoted hrun ⟨s', hs'⟩ hfound hfew⟩

/-- Three of eight are too many: next to them, the low prices of the others are outliers, and the
price is above them all. -/
example : (removeOutliers ([0, 0, 100, 100, 100, 103, 103, 103].map
    (entryAt (at' 1) alice .custom))).map (median ∘ pricesOf) = .ok 101 := by
  decide +kernel

end Samples

end Oracle
