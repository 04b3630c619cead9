import StellAIverse.Marketplace.Effects
import StellAIverse.Soroban.History

/-!
# Runs

What the calls of the hub preserve, its entry points preserve. No sale is ever pending:
a purchase does not complete, and nothing else fills the slot of a listing. So the steps
of sales, the rollbacks and the callbacks change nothing, whoever calls them.
-/

namespace Marketplace

open Soroban

section Preservation

variable {self hub : Address} {env : Env} {host : ExecutionHub.Host} {op : ExecutionHub.Op}
  {P : State → Prop} {s s' : State}

theorem runCalls_preserve {calls : List Call} (h : runCalls self env calls s = .ok s') (hs : P s)
    (step : ∀ s s', CallEffect s s' → P s → P s') : P s' := by
  induction calls generalizing s with
  | nil =>
    cases h
    exact hs
  | cons call rest ih =>
    obtain ⟨s₁, hcall, h⟩ := bind_ok.mp h
    exact ih h (step s s₁ (runCall_effect hcall) hs)

/-- What the calls preserve, and what does not depend on the hub, its entry points preserve. -/
theorem hub_preserves (h : next self hub (.hub host op) s = .ok s')
    (hs : ∀ after, P { s with hub := after }) (step : ∀ s s', CallEffect s s' → P s → P s') :
    P s' := by
  obtain ⟨after, -, h⟩ := bind_ok.mp h
  exact runCalls_preserve h (hs after) step

end Preservation

/-- Auctions and collections are as they were. -/
structure Aside (s s' : State) : Prop where
  auctionCounter : s'.auctionCounter = s.auctionCounter
  auction : s'.auction = s.auction
  bidRecord : s'.bidRecord = s.bidRecord
  sealedCommit : s'.sealedCommit = s.sealedCommit
  sealedReveal : s'.sealedReveal = s.sealedReveal
  collectionCounter : s'.collectionCounter = s.collectionCounter
  collection : s'.collection = s.collection
  collectionRoyalty : s'.collectionRoyalty = s.collectionRoyalty

section Aside

variable {self hub : Address} {now : ℕ} {s s' s'' : State}

theorem Aside.refl (s : State) : Aside s s := ⟨rfl, rfl, rfl, rfl, rfl, rfl, rfl, rfl⟩

theorem Aside.trans (h : Aside s s') (h' : Aside s' s'') : Aside s s'' :=
  ⟨h'.1.trans h.1, h'.2.trans h.2, h'.3.trans h.3, h'.4.trans h.4, h'.5.trans h.5,
    h'.6.trans h.6, h'.7.trans h.7, h'.8.trans h.8⟩

theorem Aside.chain {R : State → State → Prop} (hstep : ∀ s s', R s s' → Aside s s')
    (h : Relation.ReflTransGen R s s') : Aside s s' := by
  induction h with
  | refl => exact .refl s
  | tail _ hlast ih => exact ih.trans (hstep _ _ hlast)

theorem Listed.aside (h : Listed self now s s') : Aside s s' := by
  cases h
  exact ⟨rfl, rfl, rfl, rfl, rfl, rfl, rfl, rfl⟩

theorem TakenDown.aside (h : TakenDown self now s s') : Aside s s' := by
  cases h <;> exact ⟨rfl, rfl, rfl, rfl, rfl, rfl, rfl, rfl⟩

theorem CallEffect.aside (h : CallEffect s s') : Aside s s' := by
  cases h <;> exact ⟨rfl, rfl, rfl, rfl, rfl, rfl, rfl, rfl⟩

/-- The hub does nothing else than sales. -/
theorem hub_aside {host : ExecutionHub.Host} {op : ExecutionHub.Op}
    (h : next self hub (.hub host op) s = .ok s') : Aside s s' :=
  hub_preserves (P := Aside s) h (fun _ => ⟨rfl, rfl, rfl, rfl, rfl, rfl, rfl, rfl⟩)
    fun _ _ heffect hs => hs.trans heffect.aside

end Aside

/-- No sale is pending, and no workflow is one of a sale. -/
structure NoSale (s : State) : Prop where
  pendingSale : ∀ listingId, s.pendingSale.get? listingId = none
  wfListing : ∀ workflowId, s.wfListing.get? workflowId = none

section NoSale

variable {self hub : Address} {env : Env} {s s' : State}

theorem noSale_deployed (agents : Store ℕ Agent) : NoSale (deployed agents) :=
  ⟨fun _ => rfl, fun _ => rfl⟩

/-- Then steps of sales, rollbacks and callbacks change nothing. -/
theorem NoSale.call (h : NoSale s) (heffect : CallEffect s s') : s' = s := by
  cases heffect with
  | kept => rfl
  | stepped listingId pending bought => cases (h.pendingSale listingId).symm.trans bought
  | done workflowId listingId named => cases (h.wfListing workflowId).symm.trans named

theorem NoSale.onHub {host : ExecutionHub.Host} {op : ExecutionHub.Op} (h : NoSale s)
    (hn : next self hub (.hub host op) s = .ok s') : ∃ after, s' = { s with hub := after } := by
  obtain ⟨after, -, hcalls⟩ := bind_ok.mp hn
  refine ⟨after, ?_⟩
  refine runCalls_preserve (P := (· = { s with hub := after })) hcalls rfl fun t t' heffect ht => ?_
  subst ht
  exact NoSale.call ⟨h.pendingSale, h.wfListing⟩ heffect

theorem NoSale.effect {op : Op} (h : NoSale s) (heffect : Effect self hub env s op s') :
    NoSale s' := by
  cases heffect with
  | listed _ _ chain =>
    induction chain with
    | refl => exact h
    | tail _ hlast ih =>
      cases hlast
      exact ⟨ih.pendingSale, ih.wfListing⟩
  | takenDown _ _ chain =>
    induction chain with
    | refl => exact h
    | tail _ hlast ih => cases hlast <;> exact ⟨ih.pendingSale, ih.wfListing⟩
  | called _ _ effect =>
    rw [h.call effect]
    exact h
  | bid _ _ effect => cases effect <;> exact ⟨h.pendingSale, h.wfListing⟩
  | administered | initialized | opened | won | unsold | ended | committed | grouped | added
  | removed | shared | nftSold => exact ⟨h.pendingSale, h.wfListing⟩

theorem NoSale.next {a : Action} (h : NoSale s) (hn : next self hub a s = .ok s') : NoSale s' := by
  cases a with
  | call env op => exact h.effect (invoke_effect hn)
  | hub host op =>
    obtain ⟨after, rfl⟩ := h.onHub hn
    exact ⟨h.pendingSale, h.wfListing⟩

end NoSale

namespace Sample

def market : Address := ⟨0⟩

def hubContract : Address := ⟨1⟩

def admin : Address := ⟨2⟩

def alice : Address := ⟨3⟩

def bob : Address := ⟨4⟩

def carol : Address := ⟨5⟩

/-- Everyone signs. -/
def env (t : ℕ) : Env := ⟨t, fun _ => true⟩

/-- The agents 1 and 2 are Alice's. -/
def start : State := deployed ((Store.empty.set 1 ⟨alice, 0, 0, false, none⟩).set 2
  ⟨alice, 0, 0, false, none⟩)

/-- Calls on the marketplace at their times. -/
def calls (ops : List (ℕ × Op)) : List Action := ops.map fun e => .call (env e.1) e.2

end Sample

end Marketplace
