import StellAIverse.Marketplace.Runs

/-!
# Royalties of collections

Each member of a collection has a copy of the collection's royalty, in one place for
all collections. The copies are right as long as the collections that share an agent
agree: whoever acts last writes the copy, and leaving one collection erases it for all.
-/

namespace Marketplace

open Soroban

theorem addEach_ok {config : RoyaltyConfig} {agentIds members members' : List ℕ}
    {royalties royalties' : Store ℕ RoyaltyConfig}
    (h : addEach config agentIds (members, royalties) = .ok (members', royalties'))
    (hnodup : members.Nodup) :
    members'.Nodup ∧ (∀ m, m ∈ members' ↔ m ∈ members ∨ m ∈ agentIds) ∧
      ∀ m, royalties'.get? m =
        if m ∈ agentIds ∧ m ∉ members then some config else royalties.get? m := by
  induction agentIds generalizing members royalties with
  | nil =>
    cases h
    exact ⟨hnodup, by simp, by simp⟩
  | cons agentId rest ih =>
    unfold addEach at h
    obtain ⟨-, h⟩ := panicIf_bind.mp h
    by_cases hin : agentId ∈ members
    · rw [if_pos hin] at h
      obtain ⟨hnodup', hmem, hcopies⟩ := ih h hnodup
      refine ⟨hnodup', ?_, ?_⟩
      · intro m
        rw [hmem m, List.mem_cons]
        constructor
        · tauto
        · rintro (hm | rfl | hm)
          · exact .inl hm
          · exact .inl hin
          · exact .inr hm
      · intro m
        rw [hcopies m]
        by_cases hm : m ∈ members
        · simp [hm]
        · have : m ≠ agentId := fun he => hm (he ▸ hin)
          simp [hm, this]
    · rw [if_neg hin] at h
      have hnew : (members ++ [agentId]).Nodup := by
        rw [List.nodup_append]
        refine ⟨hnodup, List.nodup_singleton agentId, ?_⟩
        rintro a ha b hb rfl
        exact hin (List.mem_singleton.mp hb ▸ ha)
      obtain ⟨hnodup', hmem, hcopies⟩ := ih h hnew
      refine ⟨hnodup', ?_, ?_⟩
      · intro m
        rw [hmem m, List.mem_append, List.mem_singleton, List.mem_cons]
        tauto
      · intro m
        rw [hcopies m, Store.get?_set]
        by_cases hm : m = agentId
        · subst hm
          simp [hin]
        · simp [hm]

theorem mem_dropLast {members : List ℕ} {agentId m : ℕ} (hnodup : members.Nodup) :
    m ∈ dropLast members agentId ↔ m ∈ members ∧ m ≠ agentId := by
  unfold dropLast
  rw [List.mem_reverse, (List.nodup_reverse.mpr hnodup).mem_erase_iff, List.mem_reverse, and_comm]

theorem dropLast_nodup {members : List ℕ} {agentId : ℕ} (hnodup : members.Nodup) :
    (dropLast members agentId).Nodup :=
  List.nodup_reverse.mpr ((List.nodup_reverse.mpr hnodup).erase agentId)

theorem removeEach_spec (agentIds : List ℕ) {members : List ℕ} (royalties : Store ℕ RoyaltyConfig)
    (hnodup : members.Nodup) :
    (removeEach agentIds (members, royalties)).1.Nodup ∧
      (∀ m, m ∈ (removeEach agentIds (members, royalties)).1 ↔ m ∈ members ∧ m ∉ agentIds) ∧
      ∀ m, (removeEach agentIds (members, royalties)).2.get? m =
        if m ∈ agentIds ∧ m ∈ members then none else royalties.get? m := by
  induction agentIds generalizing members royalties with
  | nil => exact ⟨hnodup, by simp [removeEach], by simp [removeEach]⟩
  | cons agentId rest ih =>
    unfold removeEach
    by_cases hin : agentId ∈ members
    · rw [if_pos hin]
      obtain ⟨hnodup', hmem, hcopies⟩ := ih (royalties.remove agentId) (dropLast_nodup hnodup)
      refine ⟨hnodup', ?_, ?_⟩
      · intro m
        rw [hmem m, mem_dropLast hnodup, List.mem_cons]
        tauto
      · intro m
        rw [hcopies m, Store.get?_remove]
        by_cases hm : m = agentId
        · subst hm
          simp [hin]
        · simp [hm, mem_dropLast hnodup]
    · rw [if_neg hin]
      obtain ⟨hnodup', hmem, hcopies⟩ := ih royalties hnodup
      refine ⟨hnodup', ?_, ?_⟩
      · intro m
        rw [hmem m, List.mem_cons]
        constructor
        · rintro ⟨hm, hrest⟩
          exact ⟨hm, by rintro (rfl | h); exacts [hin hm, hrest h]⟩
        · tauto
      · intro m
        rw [hcopies m]
        by_cases hm : m = agentId
        · subst hm
          simp [hin]
        · simp [hm]

/-- Members have the royalty of their collection, and nobody else has one. -/
structure InStep (s : State) : Prop where
  numbered : ∀ id coll, s.collection.get? id = some coll → id ≤ s.collectionCounter.getD 0
  distinct : ∀ id coll, s.collection.get? id = some coll → coll.members.Nodup
  copied : ∀ id coll, s.collection.get? id = some coll → ∀ m ∈ coll.members,
    s.collectionRoyalty.get? m = some coll.royaltyConfig
  strangers : ∀ m, (∀ id coll, s.collection.get? id = some coll → m ∉ coll.members) →
    s.collectionRoyalty.get? m = none

theorem InStep.aside {s s' : State} (h : InStep s) (ha : Aside s s') : InStep s' := by
  obtain ⟨hnumbered, hdistinct, hcopied, hstrangers⟩ := h
  refine ⟨?_, ?_, ?_, ?_⟩
  · rw [ha.collection, ha.collectionCounter]
    exact hnumbered
  · rw [ha.collection]
    exact hdistinct
  · rw [ha.collection, ha.collectionRoyalty]
    exact hcopied
  · rw [ha.collection, ha.collectionRoyalty]
    exact hstrangers

/-- The other collections of an agent meet a condition. -/
def Elsewhere (s : State) (collectionId agentId : ℕ) (ok : Collection → Prop) : Prop :=
  ∀ e ∈ s.collection.list, e.1 ≠ collectionId → agentId ∈ e.2.members → ok e.2

instance (s : State) (collectionId agentId : ℕ) (ok : Collection → Prop)
    [∀ coll, Decidable (ok coll)] : Decidable (Elsewhere s collectionId agentId ok) :=
  inferInstanceAs (Decidable (∀ e ∈ s.collection.list,
    e.1 ≠ collectionId → agentId ∈ e.2.members → ok e.2))

/-- Collections that share an agent have the same royalty, and an agent leaves its only
collection; nothing is collected before the initialisation. -/
def Op.Agrees (s : State) : Op → Prop
  | .initContract _ => s.collectionCounter.getD 0 = 0
  | .addToCollection _ collectionId agentIds => ∀ coll ∈ s.collection.get? collectionId,
      ∀ m ∈ agentIds, m ∉ coll.members →
        Elsewhere s collectionId m (·.royaltyConfig = coll.royaltyConfig)
  | .setCollectionRoyalty _ collectionId recipients totalBps =>
      ∀ coll ∈ s.collection.get? collectionId, ∀ m ∈ coll.members,
        Elsewhere s collectionId m (·.royaltyConfig = ⟨recipients, totalBps, 0, none⟩)
  | .removeFromCollection _ collectionId agentIds =>
      ∀ coll ∈ s.collection.get? collectionId, ∀ m ∈ agentIds, m ∈ coll.members →
        Elsewhere s collectionId m fun _ => False
  | _ => True

instance (s : State) : (op : Op) → Decidable (op.Agrees s)
  | .initContract _ => inferInstanceAs (Decidable (s.collectionCounter.getD 0 = 0))
  | .addToCollection .. => inferInstanceAs (Decidable (∀ _ ∈ _, ∀ _ ∈ _, _))
  | .setCollectionRoyalty .. => inferInstanceAs (Decidable (∀ _ ∈ _, ∀ _ ∈ _, _))
  | .removeFromCollection .. => inferInstanceAs (Decidable (∀ _ ∈ _, ∀ _ ∈ _, _))
  | .setExecutionHub .. | .setPlatformFee .. | .setRoyalty .. | .createListing ..
  | .batchCreateListings .. | .cancelListing .. | .batchCancelListings ..
  | .cleanupExpiredListings .. | .buyAgent .. | .verifySale .. | .transferOwnership ..
  | .recordSale .. | .callback .. | .makeOffer .. | .acceptOffer .. | .rejectOffer ..
  | .makeCounterOffer .. | .acceptCounterOffer .. | .rejectCounterOffer .. | .createAuction ..
  | .createAuctionWithExtension .. | .placeBid .. | .placeBidWithExtension ..
  | .finalizeAuction .. | .createDutchAuction .. | .dutchBuyNow .. | .createSealedBidAuction ..
  | .commitBid .. | .revealBid .. | .finalizeSealedAuction .. | .createCollection ..
  | .createNftListing .. | .buyNftListing .. | .cancelNftListing .. => .isTrue trivial

theorem Elsewhere.get {s : State} {collectionId agentId id : ℕ} {ok : Collection → Prop}
    {coll : Collection} (h : Elsewhere s collectionId agentId ok)
    (hfound : s.collection.get? id = some coll) (hid : id ≠ collectionId)
    (hmem : agentId ∈ coll.members) : ok coll :=
  h (id, coll) (Store.mem_list.mpr hfound) hid hmem

section Steps

variable {self hub : Address} {env : Env} {s s' : State}

/-- A collection is written, and with it the copies of some agents. -/
theorem InStep.write (h : InStep s) {collectionId : ℕ} {old coll : Collection}
    {royalties : Store ℕ RoyaltyConfig} (hfound : s.collection.get? collectionId = some old)
    (hnodup : coll.members.Nodup)
    (hcopied : ∀ m ∈ coll.members, royalties.get? m = some coll.royaltyConfig)
    (hothers : ∀ id other, id ≠ collectionId → s.collection.get? id = some other →
      ∀ m ∈ other.members, royalties.get? m = some other.royaltyConfig)
    (hleft : ∀ m, m ∉ coll.members → m ∈ old.members → royalties.get? m = none)
    (hkept : ∀ m, m ∉ coll.members → m ∉ old.members →
      royalties.get? m = s.collectionRoyalty.get? m) :
    InStep { s with
      collection := s.collection.set collectionId coll, collectionRoyalty := royalties } := by
  refine ⟨?_, ?_, ?_, ?_⟩
  · exact Store.forall_set h.numbered (h.numbered collectionId old hfound)
  · exact Store.forall_set h.distinct hnodup
  · intro id other hother
    rw [Store.get?_set] at hother
    split at hother
    · cases hother
      exact hcopied
    · rename_i hid
      exact hothers id other hid hother
  · intro m hnone
    have hm : m ∉ coll.members := hnone collectionId coll (Store.get?_set_self ..)
    by_cases hold : m ∈ old.members
    · exact hleft m hm hold
    · rw [hkept m hm hold]
      refine h.strangers m ?_
      intro id other hother
      by_cases hid : id = collectionId
      · subst hid
        cases hfound.symm.trans hother
        exact hold
      · exact hnone id other ((Store.get?_set_ne s.collection coll hid).trans hother)

theorem InStep.grouped (h : InStep s) {coll : Collection} (hunused : coll.members = []) :
    InStep { s with
      collectionCounter := some (s.collectionCounter.getD 0 + 1)
      collection := s.collection.set (s.collectionCounter.getD 0 + 1) coll } := by
  have hfresh : ∀ id other, s.collection.get? id = some other →
      id ≠ s.collectionCounter.getD 0 + 1 := by
    intro id other hother
    have := h.numbered id other hother
    omega
  refine ⟨?_, ?_, ?_, ?_⟩
  · refine Store.forall_set (fun id other hother => ?_) le_rfl
    exact (h.numbered id other hother).trans (Nat.le_succ _)
  · exact Store.forall_set h.distinct (by rw [hunused]; exact List.nodup_nil)
  · refine Store.forall_set h.copied ?_
    intro m hm
    rw [hunused] at hm
    cases hm
  · intro m hnone
    refine h.strangers m fun id other hother => hnone id other ?_
    exact (Store.get?_set_ne s.collection coll (hfresh id other hother)).trans hother

theorem InStep.added (h : InStep s) {creator : Address} {collectionId : ℕ}
    {agentIds members : List ℕ} {coll : Collection} {royalties : Store ℕ RoyaltyConfig}
    (hok : (Op.addToCollection creator collectionId agentIds).Agrees s)
    (hfound : s.collection.get? collectionId = some coll)
    (hdone : addEach coll.royaltyConfig agentIds (coll.members, s.collectionRoyalty) =
      .ok (members, royalties)) (updatedAt : ℕ) :
    InStep { s with
      collection := s.collection.set collectionId { coll with members, updatedAt }
      collectionRoyalty := royalties } := by
  obtain ⟨hnodup, hmem, hcopies⟩ := addEach_ok hdone (h.distinct collectionId coll hfound)
  refine h.write hfound hnodup ?_ ?_ ?_ ?_
  · intro m hm
    rw [hcopies m]
    split
    · rfl
    · rename_i hold
      refine h.copied collectionId coll hfound m ?_
      have := (hmem m).mp hm
      tauto
  · intro id other hid hother m hm
    rw [hcopies m]
    split
    · rename_i hnew
      exact congrArg some
        ((hok coll hfound m hnew.1 hnew.2).get hother hid hm).symm
    · exact h.copied id other hother m hm
  · intro m hm hold
    exact absurd ((hmem m).mpr (.inl hold)) hm
  · intro m hm _
    have hnot : m ∉ agentIds := fun hin => hm ((hmem m).mpr (.inr hin))
    rw [hcopies m, if_neg (fun hnew => hnot hnew.1)]

theorem InStep.removed (h : InStep s) {creator : Address} {collectionId : ℕ} {agentIds : List ℕ}
    {coll : Collection} (hok : (Op.removeFromCollection creator collectionId agentIds).Agrees s)
    (hfound : s.collection.get? collectionId = some coll) (updatedAt : ℕ) :
    InStep { s with
      collection := s.collection.set collectionId { coll with
        members := (removeEach agentIds (coll.members, s.collectionRoyalty)).1, updatedAt }
      collectionRoyalty := (removeEach agentIds (coll.members, s.collectionRoyalty)).2 } := by
  obtain ⟨hnodup, hmem, hcopies⟩ :=
    removeEach_spec agentIds s.collectionRoyalty (h.distinct collectionId coll hfound)
  refine h.write hfound hnodup ?_ ?_ ?_ ?_
  · intro m hm
    have hstays := (hmem m).mp hm
    rw [hcopies m, if_neg (fun hgone => hstays.2 hgone.1)]
    exact h.copied collectionId coll hfound m hstays.1
  · intro id other hid hother m hm
    rw [hcopies m]
    split
    · rename_i hgone
      exact False.elim ((hok coll hfound m hgone.1 hgone.2).get hother hid hm)
    · exact h.copied id other hother m hm
  · intro m hm hold
    have hgone : m ∈ agentIds := by
      by_contra hnot
      exact hm ((hmem m).mpr ⟨hold, hnot⟩)
    rw [hcopies m, if_pos ⟨hgone, hold⟩]
  · intro m _ hold
    rw [hcopies m, if_neg (fun hgone => hold hgone.2)]

theorem InStep.shared (h : InStep s) {creator : Address} {collectionId : ℕ}
    {recipients : List RoyaltyRecipient} {totalBps : ℕ} {coll : Collection}
    (hok : (Op.setCollectionRoyalty creator collectionId recipients totalBps).Agrees s)
    (hfound : s.collection.get? collectionId = some coll) (updatedAt : ℕ) :
    InStep { s with
      collection := s.collection.set collectionId { coll with
        royaltyConfig := ⟨recipients, totalBps, 0, none⟩, updatedAt }
      collectionRoyalty := coll.members.foldl
        (fun royalties member => royalties.set member ⟨recipients, totalBps, 0, none⟩)
        s.collectionRoyalty } := by
  refine h.write hfound (h.distinct collectionId coll hfound) ?_ ?_ ?_ ?_
  · intro m hm
    rw [Store.get?_foldl_set, if_pos hm]
  · intro id other hid hother m hm
    rw [Store.get?_foldl_set]
    split
    · rename_i hshared
      exact congrArg some ((hok coll hfound m hshared).get hother hid hm).symm
    · exact h.copied id other hother m hm
  · intro m hm hold
    exact absurd hold hm
  · intro m hm _
    rw [Store.get?_foldl_set, if_neg hm]

theorem inStep_effect {op : Op} (h : InStep s) (hok : op.Agrees s)
    (heffect : Effect self hub env s op s') : InStep s' := by
  cases heffect with
  | initialized =>
    refine ⟨?_, h.distinct, h.copied, h.strangers⟩
    intro id coll hfound
    exact (h.numbered id coll hfound).trans_eq hok
  | listed _ _ chain => exact h.aside (.chain (fun _ _ => Listed.aside) chain)
  | takenDown _ _ chain => exact h.aside (.chain (fun _ _ => TakenDown.aside) chain)
  | called _ _ effect => exact h.aside effect.aside
  | grouped _ coll unused => exact h.grouped unused
  | added creator collectionId agentIds members coll royalties found done =>
    exact h.added hok found done env.timestamp
  | removed creator collectionId agentIds coll found => exact h.removed hok found env.timestamp
  | shared creator collectionId recipients totalBps coll found =>
    exact h.shared hok found env.timestamp
  | bid _ _ effect => cases effect <;> exact ⟨h.numbered, h.distinct, h.copied, h.strangers⟩
  | administered | opened | won | unsold | ended | committed | nftSold =>
    exact ⟨h.numbered, h.distinct, h.copied, h.strangers⟩

/-- The condition on an invocation; the hub does nothing to collections. -/
def Action.Agrees (s : State) : Action → Prop
  | .call _ op => op.Agrees s
  | .hub _ _ => True

instance (s : State) : (a : Action) → Decidable (a.Agrees s)
  | .call _ op => inferInstanceAs (Decidable (op.Agrees s))
  | .hub _ _ => .isTrue trivial

theorem inStep_next {a : Action} (h : InStep s) (hok : a.Agrees s)
    (hnext : next self hub a s = .ok s') : InStep s' := by
  cases a with
  | call env op => exact inStep_effect h hok (invoke_effect hnext)
  | hub env op => exact h.aside (hub_aside hnext)

theorem inStep_deployed (agents : Store ℕ Agent) : InStep (deployed agents) where
  numbered _ _ h := by cases h
  distinct _ _ h := by cases h
  copied _ _ h := by cases h
  strangers _ _ := rfl

/-- In every run in which collections that share an agent have the same royalty and agents leave
only collections that are their only one, every member has the royalty of its collection, once,
and an agent in no collection has none. -/
theorem royalties_in_step {agents : Store ℕ Agent}
    (hrun : Steps (next self hub) (fun s a => a.Agrees s) (deployed agents) s) :
    (∀ id coll, s.collection.get? id = some coll →
      coll.members.Nodup ∧
        ∀ m ∈ coll.members, s.collectionRoyalty.get? m = some coll.royaltyConfig) ∧
    ∀ m, (∀ id coll, s.collection.get? id = some coll → m ∉ coll.members) →
      s.collectionRoyalty.get? m = none := by
  have h : InStep s :=
    hrun.preserves (fun s a s' hok hn h => inStep_next h hok hn) (inStep_deployed agents)
  exact ⟨fun id coll hfound => ⟨h.distinct id coll hfound, h.copied id coll hfound⟩, h.strangers⟩

end Steps

section Runs

open Sample

/-- Two collections with one royalty share an agent; each agent leaves its only collection, and
the royalty of a collection changes. -/
def twoCollections : List (ℕ × Op) := [
  (0, .initContract admin),
  (1, .createCollection alice "first" 500),
  (1, .createCollection bob "second" 500),
  (2, .addToCollection alice 1 [1, 2, 1]),
  (3, .addToCollection bob 2 [1]),
  (4, .removeFromCollection alice 1 [2, 7]),
  (5, .addToCollection bob 2 [2]),
  (6, .createCollection carol "third" 0),
  (7, .addToCollection carol 3 [8]),
  (8, .setCollectionRoyalty carol 3 [⟨carol, 300, "artist"⟩] 300)]

theorem royalties_in_step_twoCollections :
    ∃ s coll, Steps (next market hubContract) (fun s a => a.Agrees s) start s ∧
      s.collection.get? 2 = some coll ∧ coll.members = [1, 2] ∧ coll.members.Nodup ∧
      s.collectionRoyalty.get? 1 = some coll.royaltyConfig ∧
      s.collectionRoyalty.get? 8 = some ⟨[⟨carol, 300, "artist"⟩], 300, 0, none⟩ := by
  have h : After (fun h => ∃ coll ∈ h.2.collection.get? 2, coll.members = [1, 2] ∧
        h.2.collectionRoyalty.get? 8 = some ⟨[⟨carol, 300, "artist"⟩], 300, 0, none⟩)
      (record (next market hubContract) (fun _ s a => a.Agrees s) (calls twoCollections)
        ([], start)) := by
    decide +kernel
  obtain ⟨⟨log, s⟩, hrec, coll, hcoll, hmembers, hcarol⟩ := h.exists_ok
  have hrun : Steps (next market hubContract) (fun s a => a.Agrees s) start s :=
    (record_map_history hrec fun _ _ _ _ hok => hok).steps fun _ _ _ hok => hok
  obtain ⟨hnodup, hcopied⟩ := (royalties_in_step hrun).1 2 coll hcoll
  have hmem : (1 : ℕ) ∈ coll.members := by
    rw [hmembers]
    decide
  exact ⟨s, coll, hrun, hcoll, hmembers, hnodup, hcopied 1 hmem, hcarol⟩

/-- The second collection's royalty takes the place of the first one's. -/
def overlap : List (ℕ × Op) := [
  (0, .initContract admin),
  (1, .createCollection alice "first" 500),
  (1, .createCollection bob "second" 1000),
  (2, .addToCollection alice 1 [1]),
  (3, .addToCollection bob 2 [1])]

theorem overlap_out_of_step :
    ¬ ∀ s, Steps (next market hubContract) (fun _ _ => True) start s →
      ∀ id coll, s.collection.get? id = some coll →
        ∀ m ∈ coll.members, s.collectionRoyalty.get? m = some coll.royaltyConfig := by
  intro hall
  have h : After (fun s => ∃ coll ∈ s.collection.get? 1, 1 ∈ coll.members ∧
        s.collectionRoyalty.get? 1 ≠ some coll.royaltyConfig)
      (execute (next market hubContract) (calls overlap) start) := by
    decide +kernel
  obtain ⟨s, hs, coll, hcoll, hmem, hne⟩ := h.exists_ok
  have hrun : Steps (next market hubContract) (fun _ _ => True) start s :=
    execute_steps _ (fun _ _ _ => trivial) hs
  exact hne (hall s hrun 1 coll hcoll 1 hmem)

end Runs

end Marketplace
