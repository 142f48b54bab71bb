import SubstrateClient.Rpc.Delivery
import SubstrateClient.Types.ChangeSetJson

/-!
# A replica of the storage

A subscriber to storage keys gets the changes of one block after another, and may keep a copy of the storage by making
the same changes.  Until the subscription quits the copy is the node's storage after some block, as far as the changes
can tell it: they do not tell a deleted key from one with an empty value.
-/

namespace SubstrateClient.Rpc

open JsonText Interleaving
open SubstrateClient.Types
open StorageChangeSet (NodeChange nodeJson received)

/-- `unmarshal` of a subscription with a channel of change sets.  The errors do not print the value. -/
def unmarshalChangeSet : Option Json → Except RpcError StorageChangeSet
  | none => .error (.failure "unexpected end of JSON input")
  | some value =>
      match StorageChangeSet.unmarshalValue value with
      | .ok set => .ok set
      | .error _ | .panic | .outOfFuel => .error (.failure "json: cannot unmarshal")

/-- The channel of one subscription carries change sets, those of the others may carry something else. -/
def changeSetElement (Other : Type) : ElementType (StorageChangeSet ⊕ Other) where
  unmarshal result := (unmarshalChangeSet result).map .inl
  isNil _ := false

/-! ## Storage and replica -/

/-- The storage of a node. -/
abbrev NodeStorage : Type := List UInt8 → Option (List UInt8)

/-- The changes of a block. -/
def NodeStorage.change (storage : NodeStorage) (block : Hash × List NodeChange) : NodeStorage :=
  block.2.foldl (fun storage change => Function.update storage change.1 change.2) storage

/-- The storage without the difference between no value and an empty one. -/
def NodeStorage.seen (storage : NodeStorage) (key : List UInt8) : List UInt8 := (storage key).getD []

/-- What a subscriber makes of a change set. -/
def replay (replica : List UInt8 → List UInt8) (set : StorageChangeSet) : List UInt8 → List UInt8 :=
  set.changes.foldl (fun replica change => Function.update replica change.storageKey change.storageData) replica

/-- The change set that is received for a block. -/
def receivedSet (block : Hash × List NodeChange) : StorageChangeSet := ⟨block.1, block.2.map received⟩

theorem seen_update (storage : NodeStorage) (change : NodeChange) :
    NodeStorage.seen (Function.update storage change.1 change.2) =
      Function.update storage.seen (received change).storageKey (received change).storageData := by
  funext key
  by_cases same : key = change.1
  · subst same
    simp [NodeStorage.seen, received]
  · simp [NodeStorage.seen, received, Function.update_of_ne same]

/-- The replica follows the storage through a block. -/
theorem replay_receivedSet (storage : NodeStorage) (block : Hash × List NodeChange) :
    replay storage.seen (receivedSet block) = (storage.change block).seen := by
  obtain ⟨hash, changes⟩ := block
  rw [replay, receivedSet, NodeStorage.change]
  induction changes generalizing storage with
  | nil => rfl
  | cons change changes ih =>
      rw [List.map_cons, List.foldl_cons, List.foldl_cons, ← seen_update]
      exact ih _

/-- The replica follows the storage through several blocks. -/
theorem foldl_replay (storage : NodeStorage) (blocks : List (Hash × List NodeChange)) :
    (blocks.map receivedSet).foldl replay storage.seen = (blocks.foldl NodeStorage.change storage).seen := by
  induction blocks generalizing storage with
  | nil => rfl
  | cons block blocks ih =>
      rw [List.map_cons, List.foldl_cons, List.foldl_cons, replay_receivedSet]
      exact ih _

theorem unmarshalChangeSet_nodeJson (block : Hash × List NodeChange) :
    unmarshalChangeSet (some (nodeJson block.1 block.2)) = .ok (receivedSet block) := by
  rw [unmarshalChangeSet, StorageChangeSet.unmarshalValue_nodeJson]
  rfl

/-! ## Delivery -/

namespace Client

/-- If the node tells the changes of each block, then whatever else happens on the connection, a running subscription
has handed out change sets that lead from the storage at its start to the storage after the last of their blocks, up
to the difference between deleted keys and empty values.  The other subscriptions may be to anything. -/
theorem storage_replica {Other : Type} (etype : Nat → ElementType (StorageChangeSet ⊕ Other)) (canReconnect : Bool)
    (client : Client (StorageChangeSet ⊕ Other)) (reached : (next etype).Reaches (initClient canReconnect) client)
    (sub : Nat) (own : etype sub = changeSetElement Other) (storage : NodeStorage)
    (blocks : List (Hash × List NodeChange))
    (told : client.core.notified sub = blocks.map fun block => some (nodeJson block.1 block.2))
    (running : (client.subs sub).quit = false) :
    ∃ sets : List StorageChangeSet, (client.subs sub).sent = sets.map .inl ∧
      sets.foldl replay storage.seen = ((blocks.take sets.length).foldl NodeStorage.change storage).seen := by
  have front := sent_prefix_of_reaches sub reached running
  have decoded : (client.core.notified sub).map (etype sub).unmarshal =
      ((blocks.map receivedSet).map .inl).map .ok := by
    rw [told, own, List.map_map, List.map_map, List.map_map]
    refine List.map_congr_left fun block _ => ?_
    simp [changeSetElement, unmarshalChangeSet_nodeJson, Except.map]
  rw [decoded] at front
  have sent : (client.subs sub).sent = ((blocks.take (client.subs sub).sent.length).map receivedSet).map .inl := by
    have taken := List.prefix_iff_eq_take.mp front
    rw [List.length_map, ← List.map_take, ← List.map_take, ← List.map_take] at taken
    exact List.map_injective_iff.mpr (fun _ _ => Except.ok.inj) taken
  refine ⟨(blocks.take (client.subs sub).sent.length).map receivedSet, sent, ?_⟩
  rw [foldl_replay, List.length_map, List.length_take, ← List.take_take, List.take_length]

/-- Two blocks, which write a key and delete it. -/
def sampleBlocks : List (Hash × List NodeChange) := [(zeroBytes 32, [([1], some [2])]), (zeroBytes 32, [([1], none)])]

/-- A subscription that has handed out the first block and holds the second. -/
def mirrored : List Action :=
  subscribed.take 13 ++ [.read (sampleBlocks.map fun block => some (notification (nodeJson block.1 block.2))) true,
    .acceptRead, .handle, .deliver, .handle, .deliver, .handle, .subscription 0 .send]

theorem storage_replica_mirrored :
    ∃ client : Client (StorageChangeSet ⊕ Json),
      (next fun _ => changeSetElement Json).run mirrored (initClient true) = some client ∧
      (client.subs 0).sent.length = 1 ∧
      ∃ sets : List StorageChangeSet, (client.subs 0).sent = sets.map .inl ∧
        sets.foldl replay (fun _ => []) =
          ((sampleBlocks.take sets.length).foldl NodeStorage.change fun _ => none).seen :=
  ⟨_, rfl, rfl,
    storage_replica (fun _ => changeSetElement Json) true _ ⟨mirrored, rfl⟩ 0 rfl (fun _ => none) sampleBlocks rfl rfl⟩

end Client

end SubstrateClient.Rpc
