import StellAIverse.FeeDistribution.Conservation
import StellAIverse.Soroban.Apportionment

/-!
# What a distribution gives to whom

Every active category gets its share rounded down, in the order of the ids, and the last one gets
what that leaves.
-/

namespace FeeDistribution

open Soroban

section Loop

variable {τ : Type} {s s' : State τ} {pending : ℤ} {count : ℕ} {ids : List Symbol}
  {progress : Progress} {categories : Store Symbol RecipientCategory}

/-- The listed categories that take part in a distribution. -/
def taking (categories : Store Symbol RecipientCategory) (ids : List Symbol) : List Symbol :=
  ids.filter fun id => decide (0 < taken categories id)

theorem takers_eq_length : takers categories ids = (taking categories ids).length :=
  List.countP_eq_length_filter

/-- A share of the pending fees, rounded down. -/
def shareOf (pending : ℤ) (categories : Store Symbol RecipientCategory) (id : Symbol) : ℤ :=
  Apportionment.part pending bpsDenominator (taken categories) id

/-- All that the loop appends to the allocations. -/
theorem allocateAll_closed {r : Progress × State τ}
    (h : allocateAll pending count ids progress s = .ok r) (hpending : 0 ≤ pending)
    (hcount : progress.processed + takers s.category ids = count) {front : List Symbol}
    {last : Symbol} (htaking : taking s.category ids = front ++ [last]) :
    r.1.allocations = progress.allocations ++
      (front.map (fun id => ⟨id, shareOf pending s.category id⟩) ++
        [⟨last, pending - (progress.allocatedSum + (front.map (shareOf pending s.category)).sum)⟩])
    := by
  induction ids generalizing progress s front with
  | nil => simp [taking] at htaking
  | cons id rest ih =>
    unfold allocateAll at h
    obtain ⟨⟨progress₁, s₁⟩, hone, h⟩ := bind_ok.mp h
    rw [takers_cons] at hcount
    obtain ⟨c, hk, ⟨hpass, heq⟩ | ⟨htakes, amount, hamount, -, heq⟩⟩ := allocate_cases hone
    · cases heq
      have hzero : ¬ 0 < taken s.category id := by rwa [taken_pos hk]
      rw [if_neg hzero] at hcount
      rw [taking, List.filter_cons, if_neg (by simpa using hzero)] at htaking
      exact ih h hcount htaking
    · cases heq
      have hsame := taken_allotted hk amount
      have hpos : 0 < taken s.category id := (taken_pos hk).mpr htakes
      have htaken : taken s.category id = c.shareBps := by rw [taken_some hk, if_pos htakes]
      have hform := allocation_ok hamount
      rw [if_pos hpos] at hcount
      rw [taking, List.filter_cons, if_pos (by simpa using hpos)] at htaking
      have hothers : takers s.category rest = (taking s.category rest).length := takers_eq_length
      cases front with
      | nil =>
        -- The last taker: nobody after it takes part.
        obtain ⟨rfl, hnone⟩ := List.cons.inj htaking
        rw [taking, hnone, List.length_nil] at hothers
        rw [if_pos (beq_iff_eq.mpr (by omega))] at hform
        have hidle : takers (s.category.set id (c.allotted amount)) rest = 0 := by
          unfold takers at hothers ⊢
          rw [hsame, hothers]
        obtain rfl := allocateAll_idle h hidle
        simp [hform]
      | cons id' front =>
        rw [List.cons_append] at htaking
        obtain ⟨rfl, hrest⟩ := List.cons.inj htaking
        rw [taking, hrest, List.length_append, List.length_singleton] at hothers
        rw [if_neg (by simp only [beq_iff_eq]; omega)] at hform
        have hshare : amount = shareOf pending s.category id := by
          rw [hform, shareOf, Apportionment.part, htaken, bpsDenominator,
            Int.tdiv_eq_ediv_of_nonneg (mul_nonneg hpending (Int.natCast_nonneg _))]
        have hkeep : shareOf pending (s.category.set id (c.allotted amount)) =
            shareOf pending s.category := by
          unfold shareOf
          rw [hsame]
        rw [ih h (by simp only [takers, hsame] at hcount ⊢; omega)
          (by simp only [taking, hsame]; exact hrest), hkeep]
        simp [hshare, add_assoc]

/-- A subtraction of `distribute` that fails. -/
def SubtractionFault (e : Fault) : Prop :=
  e = .panic "Pending underflow" ∨ e = .panic "Remainder underflow"

theorem SubtractionFault.ne_panic {e : Fault} (he : SubtractionFault e) {message : String}
    (h : message ≠ "Pending underflow" ∧ message ≠ "Remainder underflow") : e ≠ .panic message := by
  rintro rfl
  rcases he with he | he
  · exact h.1 (Fault.panic.inj he)
  · exact h.2 (Fault.panic.inj he)

theorem SubtractionFault.ne_host {e : Fault} (he : SubtractionFault e) :
    e ≠ .divisionByZero ∧ e ≠ .overflow := by
  rcases he with rfl | rfl <;> decide

section Avoids

variable {e : Fault}

/-- What is left covers a share of it. -/
theorem allocation_avoids (he : SubtractionFault e) {sum : ℤ} {share : ℕ} {last : Bool}
    (hfits : I128.InRange pending)
    (hpending : 0 ≤ pending) (hsum : 0 ≤ sum)
    (hroom : sum * 10000 + pending * share ≤ pending * 10000) :
    Avoids e (allocation pending sum share last) := by
  have hshare : 0 ≤ pending * (share : ℤ) := mul_nonneg hpending (Int.natCast_nonneg _)
  unfold allocation
  refine (I128.checked_avoids (he.ne_panic (by decide))).bind fun scaled hscaled => ?_
  refine (I128.div_avoids_of_ne he.ne_host.1 he.ne_host.2).bind fun amount hamount => ?_
  obtain ⟨-, rfl⟩ := I128.checked_ok.mp hscaled
  obtain ⟨-, -, rfl⟩ := I128.div_ok.mp hamount
  split
  · have hfloor := I128.tdiv_mul_le hshare (show (0 : ℤ) < bpsDenominator by decide)
    have hnonneg := Int.tdiv_nonneg hshare (show (0 : ℤ) ≤ bpsDenominator by decide)
    simp only [bpsDenominator] at hfloor hnonneg ⊢
    refine (I128.checked_avoids_of_inRange (hfits.of_le ?_ ?_)).bind fun left hleft => ?_
    · omega
    · omega
    obtain ⟨-, rfl⟩ := I128.checked_ok.mp hleft
    refine (I128.checked_avoids_of_inRange (hfits.of_le ?_ ?_)).bind fun _ _ => ?_
    · omega
    · omega
    exact I128.checked_avoids (he.ne_panic (by decide))
  · exact avoids_ok _

theorem taken_sum_of_idle (h : takers categories ids = 0) :
    (ids.map (taken categories)).sum = 0 := by
  refine List.sum_eq_zero (List.forall_mem_map.mpr fun id hid => ?_)
  have hnone := List.countP_eq_zero.mp h id hid
  simpa using hnone

/-- While the shares still to come fit into what is left, nothing is taken that is not there. -/
theorem allocateAll_avoids (he : SubtractionFault e) (hfits : I128.InRange pending)
    (hpending : 0 ≤ pending)
    (hcount : progress.processed + takers s.category ids = count)
    (hsum : 0 ≤ progress.allocatedSum)
    (hroom : progress.allocatedSum * 10000 + pending * (ids.map (taken s.category)).sum ≤
      pending * 10000) :
    Avoids e (allocateAll pending count ids progress s) := by
  induction ids generalizing progress s with
  | nil => exact avoids_ok _
  | cons id rest ih =>
    rw [takers_cons] at hcount
    rw [List.map_cons, List.sum_cons, Nat.cast_add, mul_add] at hroom
    have hrest : 0 ≤ pending * ((rest.map (taken s.category)).sum : ℤ) :=
      mul_nonneg hpending (Int.natCast_nonneg _)
    unfold allocateAll
    refine Avoids.bind ?_ fun r hone => ?_
    · unfold allocate
      refine (expect_avoids (he.ne_panic (by decide))).bind fun c hload => ?_
      split
      · exact avoids_ok _
      · rename_i htakes
        have hk := expect_ok.mp hload
        rw [taken_some hk, if_pos (not_not.mp htakes)] at hroom
        refine (allocation_avoids he hfits hpending hsum (by omega)).bind fun _ _ => ?_
        refine (I128.checked_avoids (he.ne_panic (by decide))).bind fun _ _ => ?_
        exact (I128.checked_avoids (he.ne_panic (by decide))).bind fun _ _ => avoids_ok _
    · obtain ⟨c, hk, ⟨hpass, rfl⟩ | ⟨htakes, amount, hamount, -, rfl⟩⟩ := allocate_cases hone
      · have hzero : ¬ 0 < taken s.category id := by rwa [taken_pos hk]
        have hshare : 0 ≤ pending * (taken s.category id : ℤ) :=
          mul_nonneg hpending (Int.natCast_nonneg _)
        rw [if_neg hzero] at hcount
        exact ih hcount hsum (by omega)
      · have hsame := taken_allotted hk amount
        have hshare : 0 ≤ pending * (c.shareBps : ℤ) := mul_nonneg hpending (Int.natCast_nonneg _)
        have hform := allocation_ok hamount
        rw [if_pos ((taken_pos hk).mpr htakes)] at hcount
        rw [taken_some hk, if_pos htakes] at hroom
        refine ih ?_ ?_ ?_
        · simp only [takers, hsame] at hcount ⊢
          omega
        · split at hform
          · simp only
            omega
          · have hnonneg := Int.tdiv_nonneg hshare (show (0 : ℤ) ≤ 10000 by decide)
            simp only
            omega
        · simp only [hsame]
          by_cases hlast : progress.processed + 1 = count
          · rw [if_pos (beq_iff_eq.mpr hlast)] at hform
            rw [taken_sum_of_idle (show takers s.category rest = 0 by omega)]
            simp only [hform, add_sub_cancel, Nat.cast_zero, mul_zero, add_zero, le_refl]
          · rw [if_neg (by simpa using hlast)] at hform
            have hfloor := I128.tdiv_mul_le hshare (show (0 : ℤ) < 10000 by decide)
            rw [hform]
            omega

theorem countActive_avoids (he : SubtractionFault e) {n : ℕ} : Avoids e (countActive s ids n) := by
  induction ids generalizing n with
  | nil => exact avoids_ok _
  | cons id rest ih =>
    unfold countActive
    exact (expect_avoids (he.ne_panic (by decide))).bind fun _ _ => ih

end Avoids

end Loop

section Distributions

variable {τ : Type} {tok : Token τ} {self : Address} {s s' : State τ} {a : Action τ} {env : Env}

theorem Allots.kept {done : List CategoryAllocation} (h : Allots s done s') {id : Symbol}
    (hid : id ∉ done.map CategoryAllocation.categoryId) :
    s'.category.get? id = s.category.get? id := by
  induction h with
  | nil => rfl
  | cons id' c amount stored _ _ ih =>
    rw [List.map_cons, List.mem_cons, not_or] at hid
    rw [ih hid.2, Store.get?_set_ne _ _ hid.1]

theorem Allots.credited {done : List CategoryAllocation} (h : Allots s done s')
    (hnodup : (done.map CategoryAllocation.categoryId).Nodup) {a : CategoryAllocation}
    (ha : a ∈ done) {c : RecipientCategory} (hk : s.category.get? a.categoryId = some c) :
    s'.category.get? a.categoryId = some (c.allotted a.amount) := by
  induction h with
  | nil => cases ha
  | cons id c' amount stored _ more ih =>
    obtain ⟨hfresh, hrest⟩ := List.nodup_cons.mp hnodup
    rcases List.mem_cons.mp ha with rfl | hlater
    · obtain rfl := Option.some.inj (hk.symm.trans stored)
      rw [more.kept hfresh, Store.get?_set_self]
    · have hne : a.categoryId ≠ id := by
        intro he
        have hmem := List.mem_map_of_mem (f := CategoryAllocation.categoryId) hlater
        rw [he] at hmem
        exact hfresh hmem
      exact ih hrest hlater ((Store.get?_set_ne _ _ hne).trans hk)

/-- Whether a category is stored and active. -/
def isActive (s : State τ) (id : Symbol) : Bool := (s.category.get? id).any (·.active)

theorem Configured.taking_eq (hc : Configured s) :
    taking s.category s.categoryIds = s.categoryIds.filter (isActive s) := by
  refine List.filter_congr fun id hid => ?_
  obtain ⟨c, hk⟩ := Option.isSome_iff_exists.mp ((hc.listed id).mp hid)
  obtain ⟨hactive, -⟩ := hc.sized id c hk
  rw [isActive, hk, Option.any_some, Bool.eq_iff_iff, decide_eq_true_eq, taken_pos hk]
  exact ⟨fun htakes => htakes.1, fun hon => ⟨hon, (hactive hon).1⟩⟩

/-- A distribution of `pending`: who is listed, and what each of them gets. -/
structure Distributes (s : State τ) (pending : ℤ) (r : DistributionRecord × State τ) : Prop where
  amount : r.1.totalAmount = pending
  sum : (r.1.allocations.map CategoryAllocation.amount).sum = pending
  listed : r.1.allocations.map CategoryAllocation.categoryId = s.categoryIds.filter (isActive s)
  once : (r.1.allocations.map CategoryAllocation.categoryId).Nodup
  every : ∀ id, isActive s id = true → id ∈ r.1.allocations.map CategoryAllocation.categoryId
  front : ∀ front last, r.1.allocations = front ++ [last] → ∀ a ∈ front, ∀ c,
    s.category.get? a.categoryId = some c → a.amount = pending * c.shareBps / 10000
  last : ∀ front last, r.1.allocations = front ++ [last] → ∀ c,
    s.category.get? last.categoryId = some c → pending * c.shareBps / 10000 ≤ last.amount ∧
      last.amount < pending * c.shareBps / 10000 + (s.categoryIds.filter (isActive s)).length
  credited : ∀ a ∈ r.1.allocations, ∀ c, s.category.get? a.categoryId = some c →
    r.2.category.get? a.categoryId = some (c.allotted a.amount)
  kept : ∀ id, isActive s id = false → r.2.category.get? id = s.category.get? id

theorem taking_sum (categories : Store Symbol RecipientCategory) (ids : List Symbol) :
    ((taking categories ids).map (taken categories)).sum = (ids.map (taken categories)).sum := by
  induction ids with
  | nil => rfl
  | cons id rest ih =>
    rw [taking, List.filter_cons]
    split
    · rw [List.map_cons, List.sum_cons, List.map_cons, List.sum_cons, ← ih]
      rfl
    · rename_i hnone
      have hzero : taken categories id = 0 := by simpa using hnone
      rw [List.map_cons, List.sum_cons, ← ih, hzero, zero_add]
      rfl

/-- The shares of those who take part make up the whole. -/
theorem Configured.taking_whole (hc : Configured s) (hfull : s.totalSharesBps = 10000) :
    (((taking s.category s.categoryIds).map (taken s.category)).sum : ℤ) = bpsDenominator := by
  rw [taking_sum, hc.taken_sum, hfull]
  rfl

theorem taken_of_taking {ids : List Symbol} {id : Symbol} {c : RecipientCategory}
    (hid : id ∈ taking s.category ids) (hk : s.category.get? id = some c) :
    taken s.category id = c.shareBps := by
  rw [taking, List.mem_filter, decide_eq_true_eq, taken_pos hk] at hid
  rw [taken_some hk, if_pos hid.2]

theorem distributes (hc : Configured s) {r : DistributionRecord × State τ}
    (h : distribute env s = .ok r) : Distributes s (s.totalCollected - s.totalAllocated) r := by
  obtain ⟨hfull, hpending, count, progress, s₁, hcounted, hcount, hloop, hallots, hrecord, hr⟩ :=
    distribute_ok h
  have htakers := countActive_ok hcounted
  rw [zero_add, takers_eq_length] at htakers
  have htaking := hc.taking_eq
  have hsome : taking s.category s.categoryIds ≠ [] :=
    List.ne_nil_of_length_pos (by omega)
  obtain ⟨front, last, hends⟩ := (List.eq_nil_or_concat _).resolve_left hsome
  rw [List.concat_eq_append] at hends
  have hclosed := allocateAll_closed hloop hpending.le
    (by rw [takers_eq_length, htakers, zero_add]) hends
  simp only [List.nil_append, zero_add] at hclosed
  have hwhole := hc.taking_whole hfull
  rw [hends] at hwhole
  have hids : progress.allocations.map CategoryAllocation.categoryId =
      s.categoryIds.filter (isActive s) := by
    rw [← htaking, hends, hclosed, List.map_append, List.map_map]
    simp [Function.comp_def]
  have hshare : ∀ id ∈ front ++ [last], ∀ c, s.category.get? id = some c →
      taken s.category id = c.shareBps :=
    fun id hid c hk => taken_of_taking (hends ▸ hid) hk
  have hlist : r.1.allocations = progress.allocations := by rw [hrecord]
  have hstored : r.2.category = s₁.category := by rw [hr]
  have hnodup : (s.categoryIds.filter (isActive s)).Nodup := hc.once.filter _
  refine ⟨?_, ?_, ?_, ?_, ?_, ?_, ?_, ?_, ?_⟩
  · rw [hrecord]
  · rw [hlist, hclosed, List.map_append, List.sum_append, List.map_map]
    simp [Function.comp_def]
  · rw [hlist, hids]
  · rw [hlist, hids]
    exact hnodup
  · intro id hon
    rw [hlist, hids, List.mem_filter, hc.listed]
    refine ⟨?_, hon⟩
    cases hk : s.category.get? id with
    | none => simp [isActive, hk] at hon
    | some c => rfl
  · intro front' last' heq a ha c hk
    rw [hlist, hclosed] at heq
    obtain ⟨rfl, -⟩ := List.append_inj' heq rfl
    obtain ⟨id, hid, rfl⟩ := List.mem_map.mp ha
    simp only [shareOf, Apportionment.part, bpsDenominator]
    rw [hshare id (List.mem_append_left _ hid) c hk]
  · intro front' last' heq c hk
    rw [hlist, hclosed] at heq
    obtain ⟨-, hlast⟩ := List.append_inj' heq rfl
    obtain rfl := List.head_eq_of_cons_eq hlast
    have hbounds := Apportionment.last_bounds (by decide) hpending.le hwhole
    rw [Apportionment.part, hshare last (by simp) c hk, ← hends, htaking] at hbounds
    exact hbounds
  · intro a ha c hk
    rw [hstored]
    rw [hlist] at ha
    exact hallots.credited (by rw [hids]; exact hnodup) ha hk
  · intro id hoff
    rw [hstored]
    refine hallots.kept ?_
    rw [hids, List.mem_filter, hoff]
    simp

/-- No subtraction of a distribution fails. -/
theorem distribute_avoids (hs : Reachable tok self s) {e : Fault} (he : SubtractionFault e) :
    Avoids e (distribute env s) := by
  have hc := hs.configured
  have hcovered := hs.ledger.pending
  have hnonneg := hs.ledger.allocated_nonneg
  have hfits : I128.InRange (s.totalCollected - s.totalAllocated) :=
    hs.collected_fits.of_le (by omega) (by omega)
  unfold distribute
  refine (panicIf_avoids (he.ne_panic (by decide))).bind fun _ hfull => ?_
  refine (I128.checked_avoids_of_inRange hfits).bind fun pending hpending => ?_
  obtain ⟨-, rfl⟩ := I128.checked_ok.mp hpending
  refine (panicIf_avoids (he.ne_panic (by decide))).bind fun _ _ => ?_
  refine (countActive_avoids he).bind fun count hcounted => ?_
  have htakers := countActive_ok hcounted
  refine (panicIf_avoids (he.ne_panic (by decide))).bind fun _ _ => ?_
  refine (allocateAll_avoids he hfits (by omega) htakers.symm le_rfl ?_).bind fun r _ => ?_
  · have htotal : s.totalSharesBps = 10000 := not_ne_iff.mp (panicIf_ok hfull)
    rw [hc.taken_sum, htotal, zero_mul, zero_add]
    rfl
  · refine (I128.checked_avoids (he.ne_panic (by decide))).bind fun _ _ => ?_
    refine Avoids.bind ?_ fun _ _ => avoids_ok _
    unfold U64.checked
    split
    · exact avoids_ok _
    · exact fun hfault => he.ne_panic (by decide) (Except.error.inj hfault).symm

/-- Whenever a distribution succeeds, it divides the pending fees among the active categories, each
with its share rounded down and the last one with the rest; and no subtraction of it ever fails. -/
theorem distribute_exact (hs : Reachable tok self s) :
    (∀ r, distribute env s = .ok r → Distributes s (s.totalCollected - s.totalAllocated) r) ∧
    distribute env s ≠ .error (.panic "Pending underflow") ∧
    distribute env s ≠ .error (.panic "Remainder underflow") :=
  ⟨fun _ h => distributes hs.configured h,
    distribute_avoids hs (.inl rfl), distribute_avoids hs (.inr rfl)⟩

end Distributions

section Runs

open Sample

/-- Three thirds with a removed category between them. -/
def thirds : List Op := [
  .initializeContract admin usdc 1000 2000,
  .addCategory admin "ops" alice 3335,
  .addCategory admin "old" bob 1,
  .addCategory admin "dao" bob 3335,
  .addCategory admin "dev" alice 3329,
  .removeCategory admin "old",
  .updateCategory admin "dev" none (some 3330),
  .collectFee alice 1000]

/-- Of a hundred pending fees the last of the three takes the unit that rounding leaves. -/
theorem distribute_exact_thirds :
    ∃ (s : State Balances) (r : DistributionRecord × State Balances), run thirds = .ok s ∧
      distribute env s = .ok r ∧ Distributes s 100 r ∧
      r.1.allocations.map (fun a => (a.categoryId, a.amount)) =
        [("ops", 33), ("dao", 33), ("dev", 34)] := by
  have h : After (fun s => s.totalCollected = 100 ∧ s.totalAllocated = 0 ∧
      After (fun r => r.1.allocations.map (fun a => (a.categoryId, a.amount)) =
        [("ops", 33), ("dao", 33), ("dev", 34)]) (distribute env s)) (run thirds) := by
    decide +kernel
  obtain ⟨s, hs, hcollected, hallocated, hdistribute⟩ := h.exists_ok
  obtain ⟨r, hr, hlist⟩ := hdistribute.exists_ok
  have hexact := (distribute_exact (run_reachable hs)).1 r hr
  rw [hcollected, hallocated, sub_zero] at hexact
  exact ⟨s, r, hs, hr, hexact, hlist⟩

end Runs

end FeeDistribution
