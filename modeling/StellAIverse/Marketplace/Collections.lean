import StellAIverse.Marketplace.Contract

/-!
# Collections

The royalty of a collection is copied to each of its members, under a key of the
agent that all collections share.
-/

namespace Marketplace

open Soroban

def maxCollectionNameLen : ℕ := 64

def loadCollection (s : State) (collectionId : ℕ) : Result Collection :=
  expect (s.collection.get? collectionId) "Collection not found"

def createCollection (env : Env) (creator : Address) (name : String) (royaltyBps : ℕ) (s : State) :
    Result State := do
  requireAuth env creator
  panicIf (name.utf8ByteSize = 0 ∨ name.utf8ByteSize > maxCollectionNameLen)
    "Invalid collection name"
  panicIf (royaltyBps > maxRoyaltyPercentage) "Royalty exceeds maximum"
  let collectionId ← nextId s.collectionCounter "Collection ID overflow"
  .ok { s with
    collectionCounter := some collectionId
    collection := s.collection.set collectionId {
      collectionId, creator, name
      members := []
      royaltyConfig := ⟨[], royaltyBps, 0, none⟩
      createdAt := env.timestamp
      updatedAt := env.timestamp } }

/-- The collection, if it is its creator's to change. -/
def loadOwn (env : Env) (creator : Address) (collectionId : ℕ) (s : State) : Result Collection := do
  let coll ← loadCollection s collectionId
  panicIf (coll.creator ≠ creator) "Only creator can modify collection"
  .ok { coll with updatedAt := env.timestamp }

/-- Members and royalties of agents after some agents joined. -/
def addEach (config : RoyaltyConfig) :
    List ℕ → List ℕ × Store ℕ RoyaltyConfig → Result (List ℕ × Store ℕ RoyaltyConfig)
  | [], r => .ok r
  | agentId :: rest, (members, royalties) => do
    panicIf (agentId = 0) "Invalid agent ID"
    addEach config rest
      (if agentId ∈ members then (members, royalties)
      else (members ++ [agentId], royalties.set agentId config))

def addToCollection (env : Env) (creator : Address) (collectionId : ℕ) (agentIds : List ℕ)
    (s : State) : Result State := do
  requireAuth env creator
  panicIf (collectionId = 0) "Invalid collection ID"
  let coll ← loadOwn env creator collectionId s
  panicIf (agentIds.length = 0 ∨ agentIds.length > maxBatchSize) "Batch size out of bounds"
  let (members, royalties) ←
    addEach coll.royaltyConfig agentIds (coll.members, s.collectionRoyalty)
  .ok { s with
    collection := s.collection.set collectionId { coll with members }
    collectionRoyalty := royalties }

/-- The last of the places an agent has among the members goes. -/
def dropLast (members : List ℕ) (agentId : ℕ) : List ℕ := (members.reverse.erase agentId).reverse

/-- Members and royalties of agents after some agents left. -/
def removeEach : List ℕ → List ℕ × Store ℕ RoyaltyConfig → List ℕ × Store ℕ RoyaltyConfig
  | [], r => r
  | agentId :: rest, (members, royalties) =>
    removeEach rest
      (if agentId ∈ members then (dropLast members agentId, royalties.remove agentId)
      else (members, royalties))

def removeFromCollection (env : Env) (creator : Address) (collectionId : ℕ) (agentIds : List ℕ)
    (s : State) : Result State := do
  requireAuth env creator
  panicIf (collectionId = 0) "Invalid collection ID"
  let coll ← loadOwn env creator collectionId s
  panicIf (agentIds.length = 0 ∨ agentIds.length > maxBatchSize) "Batch size out of bounds"
  let (members, royalties) := removeEach agentIds (coll.members, s.collectionRoyalty)
  .ok { s with
    collection := s.collection.set collectionId { coll with members }
    collectionRoyalty := royalties }

def sumShares : List RoyaltyRecipient → ℕ → Result ℕ
  | [], sum => .ok sum
  | recipient :: rest, sum => do
    let sum ← U32.checked (sum + recipient.shareBps) "Royalty overflow"
    sumShares rest sum

def setCollectionRoyalty (env : Env) (creator : Address) (collectionId : ℕ)
    (recipients : List RoyaltyRecipient) (totalBps : ℕ) (s : State) : Result State := do
  requireAuth env creator
  panicIf (collectionId = 0) "Invalid collection ID"
  panicIf (totalBps > maxRoyaltyPercentage) "Royalty exceeds maximum"
  let coll ← loadOwn env creator collectionId s
  let sum ← sumShares recipients 0
  panicIf (sum ≠ totalBps) "Royalty share total mismatch"
  .ok { s with
    collection :=
      s.collection.set collectionId { coll with royaltyConfig := ⟨recipients, totalBps, 0, none⟩ }
    collectionRoyalty :=
      coll.members.foldl (fun royalties member => royalties.set member ⟨recipients, totalBps, 0, none⟩)
        s.collectionRoyalty }

end Marketplace
