import StellAIverse.Marketplace.Exclusivity

/-!
# Sales are what was bought

A sale is spread over a purchase and the steps of its workflow, with one slot for each
listing in between. Anybody can call the steps, and they do not ask whose slot it is. But
no slot is ever filled: a purchase has the hub call the marketplace back, and traps. So
nobody is given what somebody else bought, and agents change hands by auctions only.
-/

namespace Marketplace

open Soroban

/-- The listing that encoded arguments name. -/
def listingOf (encodedArgs : Bytes) : Option ℕ := (decodeU64 encodedArgs).toOption

/-- The calls on the marketplace that are steps of a sale or callbacks. -/
def Action.calls (self : Address) (s : State) : Action → List Call
  | .call _ op => op.call?.toList
  | .hub host op =>
    match ExecutionHub.next ⟨host, op⟩ { s.hub with calls := [] } with
    | .ok after => callsOn self after.calls
    | .error _ => []

/-- The invocation transfers the agent of a listing. -/
def Transfers (self : Address) (listingId : ℕ) (e : State × Action) : Prop :=
  ∃ encodedArgs, Call.execStep 1 encodedArgs ∈ e.2.calls self e.1 ∧
    listingOf encodedArgs = some listingId

/-- The workflow of a purchase, with the listing, the buyer and the amount. -/
def Action.purchase? (s : State) : Action → Option (ℕ × ℕ × Address × ℤ)
  | .call _ op => (op.purchase? s).map fun bought => (s.hub.workflowCounter.getD 0 + 1, bought)
  | .hub _ _ => none

def Bought (log : List (State × Action)) (workflowId : ℕ) (bought : ℕ × Address × ℤ) : Prop :=
  ∃ e ∈ log, e.2.purchase? e.1 = some (workflowId, bought)

/-- The listing is active, and its agent is with the seller. -/
def OnSale (s : State) (listingId : ℕ) : Prop :=
  ∃ listing agent, s.listing.get? listingId = some listing ∧ listing.active = true ∧
    s.agent.get? listing.assetId = some agent ∧ agent.owner = listing.seller

def Closed (s : State) (listingId : ℕ) : Prop :=
  ∃ listing, s.listing.get? listingId = some listing ∧ listing.active = false

/-- The listings that a call asks to be taken down. -/
def Op.takesDown : Op → List ℕ
  | .cancelListing listingId _ => [listingId]
  | .batchCancelListings _ listingIds | .cleanupExpiredListings listingIds => listingIds
  | _ => []

def Action.takesDown : Action → List ℕ
  | .call _ op => op.takesDown
  | .hub _ _ => []

/-- The invocation cancels a listing, or cleans it up after it expired. -/
def TakesDown (self hub : Address) (listingId : ℕ) (e : State × Action) : Prop :=
  listingId ∈ e.2.takesDown ∧ ¬ Closed e.1 listingId ∧
    After (Closed · listingId) (next self hub e.2 e.1)

/-- A record of a sale, by a step of a workflow that was bought: of a listing that was active and
had not expired, the first and before it was taken down. -/
structure Sale (market hub : Address) (id : ℕ) (record : TransactionRecord)
    (older : List (State × Action)) (t : State) (host : ExecutionHub.Host) (workflowId : ℕ) :
    Prop where
  unwritten : t.transaction.get? id = none
  written : After (·.transaction.get? id = some record)
    (next market hub (.hub host (.executeWorkflowStep workflowId)) t)
  bought : Bought older workflowId (record.listingId, record.buyer, record.amount)
  listed : ∃ listing, t.listing.get? record.listingId = some listing ∧ listing.active = true ∧
    record.timestamp ≤ listing.expiresAt
  first : ∀ id' record', t.transaction.get? id' = some record' → record'.txnType = .sale →
    record'.listingId ≠ record.listingId
  standing : ∀ e ∈ older, ¬ TakesDown market hub record.listingId e

/-- The record stands for a sale by the step of one invocation in the log. -/
def SoldIn (self hub : Address) (log : List (State × Action)) (id : ℕ)
    (record : TransactionRecord) : Prop :=
  ∃ recent t host workflowId older,
    log = recent ++ (t, .hub host (.executeWorkflowStep workflowId)) :: older ∧
      Sale self hub id record older t host workflowId

/-- An active auction of the agent is won, by its new owner. -/
def WonBy (s s' : State) (agentId : ℕ) (owner : Address) : Prop :=
  ∃ id auction auction', s.auction.get? id = some auction ∧ auction.status = .active ∧
    s'.auction.get? id = some auction' ∧ auction'.status = .won ∧ auction'.agentId = agentId ∧
    auction'.highestBidder = some owner

/-- Nobody new has an agent. -/
def OwnersKept (agents agents' : Store ℕ Agent) : Prop :=
  ∀ id agent', agents'.get? id = some agent' →
    ∃ agent, agents.get? id = some agent ∧ agent'.owner = agent.owner

section Steps

variable {self hub : Address} {env : Env} {op : Op} {s s' : State} {log : List (State × Action)}
  {agents agents' agents'' : Store ℕ Agent}

theorem OwnersKept.refl (agents : Store ℕ Agent) : OwnersKept agents agents :=
  fun _ agent' h => ⟨agent', h, rfl⟩

theorem OwnersKept.trans (h : OwnersKept agents agents') (h' : OwnersKept agents' agents'') :
    OwnersKept agents agents'' := by
  intro id agent'' hfound''
  obtain ⟨agent', hfound', howner'⟩ := h' id agent'' hfound''
  obtain ⟨agent, hfound, howner⟩ := h id agent' hfound'
  exact ⟨agent, hfound, howner'.trans howner⟩

theorem ownersKept_set {agentId : ℕ} {agent new : Agent}
    (hfound : agents.get? agentId = some agent) (howner : new.owner = agent.owner) :
    OwnersKept agents (agents.set agentId new) := by
  intro id agent' hfound'
  rw [Store.get?_set] at hfound'
  split at hfound'
  · rename_i hid
    cases hfound'
    exact ⟨agent, by rw [hid, hfound], howner⟩
  · exact ⟨agent', hfound', rfl⟩

/-- The agent that is sold goes to the buyer, and the others stay where they are. -/
theorem owner_sold {id agentId : ℕ} {auction auction' : Auction} {agent new : Agent}
    (hfound : s.auction.get? id = some auction) (hactive : auction.status = .active)
    (hfound' : s'.auction.get? id = some auction') (hwon : auction'.status = .won)
    (hleader : auction'.highestBidder = some new.owner)
    (hagents : s'.agent = s.agent.set auction'.agentId new)
    (hthere : s'.agent.get? agentId = some agent) :
    (∃ old, s.agent.get? agentId = some old ∧ agent.owner = old.owner) ∨
      WonBy s s' agentId agent.owner := by
  rw [hagents, Store.get?_set] at hthere
  split at hthere
  · rename_i hid
    cases hthere
    exact .inr ⟨id, auction, auction', hfound, hactive, hfound', hwon, hid.symm, hleader⟩
  · exact .inl ⟨agent, hthere, rfl⟩

/-- An agent changes its owner only when an auction of it is won. -/
theorem owner_effect (hnoSale : NoSale s) (heffect : Effect self hub env s op s') {agentId : ℕ}
    {agent' : Agent} (hthere : s'.agent.get? agentId = some agent') :
    (∃ agent, s.agent.get? agentId = some agent ∧ agent'.owner = agent.owner) ∨
      WonBy s s' agentId agent'.owner := by
  have hkept : OwnersKept s.agent s'.agent →
      (∃ agent, s.agent.get? agentId = some agent ∧ agent'.owner = agent.owner) ∨
        WonBy s s' agentId agent'.owner :=
    fun h => .inl (h agentId agent' hthere)
  cases heffect with
  | listed _ _ chain =>
    refine hkept ?_
    clear hkept hthere
    induction chain with
    | refl => exact .refl _
    | tail _ hlast ih =>
      cases hlast with
      | mk id seller price kind expiresAt agent found => exact ih.trans (ownersKept_set found rfl)
  | takenDown _ _ chain =>
    refine hkept ?_
    clear hkept hthere
    induction chain with
    | refl => exact .refl _
    | tail _ hlast ih =>
      cases hlast with
      | released id listing agent _ _ there => exact ih.trans (ownersKept_set there rfl)
      | unheld => exact ih
  | called _ _ effect =>
    refine hkept ?_
    rw [hnoSale.call effect]
    exact .refl _
  | opened _ auction agent extensionConfig opens => exact hkept (ownersKept_set opens.there rfl)
  | bid _ _ effect =>
    cases effect with
    | boughtNow id buyer amount auction agent record positive found dutch active =>
      exact owner_sold found active (Store.get?_set_self ..) rfl rfl rfl hthere
    | raised | revealed => exact hkept (.refl _)
  | won _ id buyer auction agent record is found active past leader =>
    exact owner_sold found active (Store.get?_set_self ..) rfl leader rfl hthere
  | ended _ id auction agent agents is found active there freed =>
    refine hkept ?_
    split at freed
    · obtain ⟨-, rfl⟩ := freed
      exact ownersKept_set there rfl
    · rw [freed]
      exact .refl _
  | administered | initialized | unsold | committed | grouped | added | removed | shared
  | nftSold => exact hkept (.refl _)

/-- A transfer without a pending sale traps. -/
theorem transferOwnership_unsold (h : NoSale s) (encodedArgs : Bytes) :
    transferOwnership env encodedArgs s ≠ .ok s' := by
  intro hdone
  unfold transferOwnership at hdone
  obtain ⟨listingId, -, hdone⟩ := bind_ok.mp hdone
  obtain ⟨listing, -, hdone⟩ := loadListing_bind.mp hdone
  obtain ⟨pending, hbought, -⟩ := expect_bind.mp hdone
  cases (h.pendingSale listingId).symm.trans hbought

theorem runCalls_unsold {calls : List Call} (h : NoSale s)
    (hrun : runCalls self env calls s = .ok s') (encodedArgs : Bytes) :
    Call.execStep 1 encodedArgs ∉ calls := by
  induction calls generalizing s with
  | nil => exact List.not_mem_nil
  | cons call rest ih =>
    obtain ⟨s₁, hcall, hrest⟩ := bind_ok.mp hrun
    rw [List.mem_cons, not_or]
    refine ⟨?_, ih ?_ hrest⟩
    · rintro rfl
      exact transferOwnership_unsold h encodedArgs hcall
    · rw [h.call (runCall_effect hcall)]
      exact h

/-- What completes transfers no agent of a listing. -/
theorem next_unsold {a : Action} (h : NoSale s) (hn : next self hub a s = .ok s')
    (listingId : ℕ) : ¬ Transfers self listingId (s, a) := by
  rintro ⟨encodedArgs, hmem, -⟩
  cases a with
  | call env op =>
    have hcall : op.call? = some (.execStep 1 encodedArgs) := Option.mem_toList.mp hmem
    cases op with
    | transferOwnership | callback =>
      cases hcall
      exact transferOwnership_unsold h encodedArgs hn
    | _ => cases hcall
  | hub host op =>
    obtain ⟨after, hafter, hcalls⟩ := bind_ok.mp hn
    simp only [Action.calls, hafter] at hmem
    have hstored : NoSale { s with hub := after } := ⟨h.pendingSale, h.wfListing⟩
    exact runCalls_unsold hstored hcalls encodedArgs hmem

/-- No record is that of a sale by listing. -/
def Unrecorded (s : State) : Prop :=
  ∀ id record, s.transaction.get? id = some record → record.txnType ≠ .sale

theorem Unrecorded.effect (h : Unrecorded s) (hnoSale : NoSale s)
    (heffect : Effect self hub env s op s') : Unrecorded s' := by
  have hnew : ∀ {id : ℕ} {new : TransactionRecord}, new.txnType ≠ .sale →
      ∀ id' record, (s.transaction.set id new).get? id' = some record → record.txnType ≠ .sale :=
    fun hkind => Store.forall_set h hkind
  cases heffect with
  | listed _ _ chain =>
    induction chain with
    | refl => exact h
    | tail _ hlast ih =>
      cases hlast
      exact ih
  | takenDown _ _ chain =>
    induction chain with
    | refl => exact h
    | tail _ hlast ih => cases hlast <;> exact ih
  | called _ _ effect =>
    rw [hnoSale.call effect]
    exact h
  | bid _ _ effect =>
    cases effect with
    | boughtNow _ _ _ _ _ record _ _ _ _ _ _ kind => exact hnew (by rw [kind]; decide)
    | raised | revealed => exact h
  | won _ _ _ _ _ record _ _ _ _ _ _ _ kind => exact hnew (by rw [kind]; decide)
  | nftSold _ _ record kind => exact hnew (by rw [kind]; decide)
  | administered | initialized | opened | unsold | ended | committed | grouped | added | removed
  | shared => exact h

/-- Nothing was bought or sold by listing, and agents changed their owners by auctions. -/
structure Unbought (market hub : Address) (log : List (State × Action)) (s : State) : Prop where
  noSale : NoSale s
  unrecorded : Unrecorded s
  purchases : ∀ e ∈ log, e.2.purchase? e.1 = none
  transfers : ∀ e ∈ log, ∀ listingId, ¬ Transfers market listingId e
  owners : ∀ e ∈ log, ∀ s', next market hub e.2 e.1 = .ok s' → ∀ agentId agent',
    s'.agent.get? agentId = some agent' →
      (∃ agent, e.1.agent.get? agentId = some agent ∧ agent'.owner = agent.owner) ∨
        WonBy e.1 s' agentId agent'.owner

theorem unbought_deployed (agents : Store ℕ Agent) : Unbought self hub [] (deployed agents) where
  noSale := noSale_deployed agents
  unrecorded _ _ h := by cases h
  purchases _ he := by cases he
  transfers _ he := by cases he
  owners _ he := by cases he

theorem Unbought.next {a : Action} (h : Unbought self hub log s) (hn : next self hub a s = .ok s') :
    Unbought self hub ((s, a) :: log) s' where
  noSale := h.noSale.next hn
  unrecorded := by
    cases a with
    | call env op => exact h.unrecorded.effect h.noSale (invoke_effect hn)
    | hub host op =>
      obtain ⟨after, rfl⟩ := h.noSale.onHub hn
      exact h.unrecorded
  purchases := by
    refine List.forall_mem_cons.mpr ⟨?_, h.purchases⟩
    cases a with
    | call env op =>
      change (op.purchase? s).map _ = none
      rw [invoke_purchase hn]
      rfl
    | hub => rfl
  transfers := List.forall_mem_cons.mpr ⟨next_unsold h.noSale hn, h.transfers⟩
  owners := by
    refine List.forall_mem_cons.mpr ⟨?_, h.owners⟩
    intro t ht agentId agent' hthere
    cases hn.symm.trans ht
    cases a with
    | call env op => exact owner_effect h.noSale (invoke_effect hn) hthere
    | hub host op =>
      obtain ⟨after, rfl⟩ := h.noSale.onHub hn
      exact .inl ⟨agent', hthere, rfl⟩

/-- In every run an agent is transferred only while its listing is active and the seller has it, and
the record of a sale is that of the one purchase whose workflow wrote it, the first of its listing
and before it was taken down or expired: no purchase completes, and an agent changes its owner only
when an auction of it is won. -/
theorem sales_keep_faith {agents : Store ℕ Agent}
    (hrun : History (next self hub) (fun _ _ _ => True) (deployed agents) log s) :
    (∀ e ∈ log, ∀ listingId, Transfers self listingId e → OnSale e.1 listingId) ∧
    (∀ id record, s.transaction.get? id = some record → record.txnType = .sale →
      SoldIn self hub log id record) ∧
    (∀ id id' record record', s.transaction.get? id = some record →
      s.transaction.get? id' = some record' → record.txnType = .sale → record'.txnType = .sale →
        record.listingId = record'.listingId → id = id') ∧
    (∀ e ∈ log, e.2.purchase? e.1 = none) ∧
    ∀ e ∈ log, ∀ s', next self hub e.2 e.1 = .ok s' → ∀ agentId agent agent',
      e.1.agent.get? agentId = some agent → s'.agent.get? agentId = some agent' →
        agent'.owner = agent.owner ∨ WonBy e.1 s' agentId agent'.owner := by
  have h : Unbought self hub log s := by
    refine hrun.preserves (P := Unbought self hub) (unbought_deployed agents) ?_
    exact fun log s a s' _ hn hs => hs.next hn
  refine ⟨?_, ?_, ?_, h.purchases, ?_⟩
  · exact fun e he listingId htransfers => absurd htransfers (h.transfers e he listingId)
  · exact fun id record hfound hsale => absurd hsale (h.unrecorded id record hfound)
  · exact fun id _ record _ hfound _ hsale => absurd hsale (h.unrecorded id record hfound)
  · intro e he s' hn agentId agent agent' hthere hthere'
    refine (h.owners e he s' hn agentId agent' hthere').imp_left ?_
    rintro ⟨old, hold, howner⟩
    cases hthere.symm.trans hold
    exact howner

end Steps

section Runs

open Sample

/-- What Bob offers would do, but the purchase cannot call back. -/
example : (execute (next market hubContract) (calls [
    (0, .initContract admin),
    (0, .setExecutionHub admin hubContract),
    (1, .createListing 1 alice 0 100 none),
    (10, .buyAgent 1 bob 100)]) start).map (fun _ => ()) = .error .callFailed := by
  rfl

theorem sales_keep_faith_relisted :
    ∃ s log, History (next market hubContract) (fun _ _ _ => True) start log s ∧
      ∃ e ∈ log, ∃ s', next market hubContract e.2 e.1 = .ok s' ∧ WonBy e.1 s' 1 bob := by
  obtain ⟨⟨log, s⟩, hrec, e, he, ⟨agent, hthere, howner⟩, hafter⟩ := After.exists_ok
    (r := record (next market hubContract) (fun _ _ _ => True) relisted ([], start))
    (P := fun h => ∃ e ∈ h.1, (∃ agent ∈ e.1.agent.get? 1, agent.owner = alice) ∧
      After (fun s => ∃ agent ∈ s.agent.get? 1, agent.owner = bob)
        (next market hubContract e.2 e.1))
    (by decide +kernel)
  have hrun : History (next market hubContract) (fun _ _ _ => True) start log s :=
    record_history relisted (fun _ _ _ _ hok => hok) .nil hrec
  obtain ⟨s', hn, agent', hthere', howner'⟩ := hafter.exists_ok
  have hchange := (sales_keep_faith hrun).2.2.2.2 e he s' hn 1 agent agent' hthere hthere'
  refine ⟨s, log, hrun, e, he, s', hn, ?_⟩
  rw [← howner']
  refine hchange.resolve_left ?_
  rw [howner, howner']
  decide

end Runs

end Marketplace
