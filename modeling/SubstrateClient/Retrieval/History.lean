import Mathlib.Order.CompletePartialOrder
import SubstrateClient.Registry.Parser
import SubstrateClient.Retrieval.Retriever

/-!
# Results and earlier calls

When every RPC succeeds, the outside of a retriever is a fixed chain.  A call then uses the registry
left by earlier calls as long as that registry parses the data, and the registry of the block only
after a failure.
-/

namespace SubstrateClient.Retrieval

open Registry

/-- A chain whose nodes always answer: metadata by block, and what factory and parser return. -/
structure Chain (Hash Meta Reg Data Res : Type) where
  latest : Meta
  metadataAt : Hash → Meta
  createRegistry : Meta → Outcome GoError Reg
  parse : Reg → Data → Outcome GoError Res

/-- A call whose answer is known. -/
def answer {α : Type} (outcome : Outcome GoError α) : Call Unit α :=
  ⟨fun world => (outcome, world), fun _ => le_rfl⟩

variable {Hash Meta Reg Data Res : Type}

/-- The chain as the outside of a retriever. -/
def Chain.outside (chain : Chain Hash Meta Reg Data Res) : Outside Unit Hash Meta Reg Data Res where
  getMetadataLatest := answer (.ok chain.latest)
  getMetadata blockHash := answer (.ok (chain.metadataAt blockHash))
  createRegistry metadata := answer (chain.createRegistry metadata)
  parse registry data := answer (chain.parse registry data)

/-- The state after earlier calls. -/
def afterCalls {S ε α : Type} (call : Hash → Session S ε α) (earlier : List Hash) (state : S) : S :=
  earlier.foldl (fun state blockHash => (call blockHash state).2) state

section Steady

variable {chain : Chain Hash Meta Reg Data Res}

theorem answer_eq_ok {α : Type} {outcome : Outcome GoError α} {world after : Unit} {value : α} :
    (answer outcome).run world = (.ok value, after) ↔ outcome = .ok value :=
  ⟨fun ran => congrArg Prod.fst ran, fun known => Prod.ext known rfl⟩

/-- A first attempt with a known answer is the result. -/
theorem execWithFallback_answer {α : Type} {opts : Opts} {call : Unit × Held Meta Reg → Outcome GoError α}
    {fallbackFn : Session (Unit × Held Meta Reg) GoError Unit} {state : Unit × Held Meta Reg} {value : α}
    (known : call state = .ok value) :
    execWithFallback opts (some fun now => (answer (call now)).fromRetriever now) (some fallbackFn) state =
      (.ok value, state) :=
  execWithFallback_of_ok (Session.within_eq_ok.mpr ⟨state.1, answer_eq_ok.mpr known, rfl⟩)

/-- What is loaded for a block is the registry created from its metadata. -/
theorem LoadedBetween.created {blockHash : Hash} {held : Held Meta Reg} {start now : Unit}
    (loaded : LoadedBetween chain.outside blockHash held start now) :
    held.metadata = chain.metadataAt blockHash ∧
      chain.createRegistry (chain.metadataAt blockHash) = .ok held.registry := by
  obtain ⟨_, _, _, _, retrieved, created, _⟩ := loaded
  have at_block : chain.metadataAt blockHash = held.metadata := by
    simpa using answer_eq_ok.mp retrieved
  rw [at_block]
  exact ⟨rfl, answer_eq_ok.mp created⟩

/-- The parsing stage uses the registry that is held, or the one of the block if that fails. -/
theorem parseStage_eq_ok {errRegistryCreation errParsing : GoError} {parsingOpts : Opts}
    {blockHash : Hash} {data : Data} {state after : Unit × Held Meta Reg} {res : Res}
    (ran : parseStage chain.outside errRegistryCreation errParsing parsingOpts blockHash data state =
      (.ok res, after)) :
    chain.parse state.2.registry data = .ok res ∨
      ¬ (chain.parse state.2.registry data).Succeeds ∧ ∃ registry,
        chain.createRegistry (chain.metadataAt blockHash) = .ok registry ∧
          chain.parse registry data = .ok res := by
  by_cases parses : (chain.parse state.2.registry data).Succeeds
  · obtain ⟨value, parsed⟩ := parses
    have attempt := Session.mapError_eq_ok.mp ran
    have first := (execWithFallback_answer parsed).symm.trans attempt
    rw [parsed, Outcome.ok.inj (congrArg Prod.fst first)]
    exact .inl rfl
  · right
    obtain ⟨kept, parsing, _, parsed⟩ := ensures_parseStage.of_eq_ok
      ⟨kept_refl blockHash state, le_rfl⟩ ran
    have parsed : chain.parse after.2.registry data = .ok res := answer_eq_ok.mp parsed
    rcases kept.held with same | loaded
    · rw [same] at parsed
      exact absurd ⟨res, parsed⟩ parses
    · exact ⟨parses, after.2.registry, loaded.created.2, parsed⟩

/-- Every call leaves the registry of a block that was asked for, or of the start. -/
theorem afterCalls_source {call : Hash → Session (Unit × Held Meta Reg) RetrieverError Res}
    (keeps : ∀ blockHash start, Kept chain.outside blockHash start (call blockHash start).2)
    (earlier : List Hash) (start : Unit × Held Meta Reg) :
    (afterCalls call earlier start).2 = start.2 ∨ ∃ blockHash ∈ earlier,
      (afterCalls call earlier start).2.metadata = chain.metadataAt blockHash ∧
        chain.createRegistry (chain.metadataAt blockHash) =
          .ok (afterCalls call earlier start).2.registry := by
  induction earlier generalizing start with
  | nil => exact .inl rfl
  | cons blockHash earlier ih =>
      rcases ih (call blockHash start).2 with same | ⟨other, member, loaded⟩
      · rcases (keeps blockHash start).held with unchanged | loaded
        · exact .inl (same.trans unchanged)
        · refine .inr ⟨blockHash, List.mem_cons_self, ?_⟩
          rw [afterCalls, List.foldl_cons, ← afterCalls, same]
          exact loaded.created
      · exact .inr ⟨other, List.mem_cons_of_mem _ member, loaded⟩

end Steady

/-- Metadata and registry come from the latest metadata at the start, or from an earlier block. -/
def Sourced (chain : Chain Hash Meta Reg Data Res) (earlier : List Hash) (held : Held Meta Reg) : Prop :=
  (held.metadata = chain.latest ∨ ∃ other ∈ earlier, held.metadata = chain.metadataAt other) ∧
    chain.createRegistry held.metadata = .ok held.registry

/-- The registry used for a block, after earlier calls, when the data can be retrieved with some
metadata only. -/
structure FollowsHistory (chain : Chain Hash Meta Reg Data Res) (retrievable : Meta → Prop)
    (data : Data) (earlier : List Hash) (blockHash : Hash) (held : Held Meta Reg) (res : Res) : Prop where
  /-- What is held comes from the start or from an earlier block. -/
  sourced : Sourced chain earlier held
  /-- The registry that is held is used if it parses the data. -/
  by_held : retrievable held.metadata → (chain.parse held.registry data).Succeeds →
    chain.parse held.registry data = .ok res
  /-- Otherwise the registry of the block is used. -/
  by_block : ¬ (retrievable held.metadata ∧ (chain.parse held.registry data).Succeeds) → ∃ registry,
    chain.createRegistry (chain.metadataAt blockHash) = .ok registry ∧ chain.parse registry data = .ok res

/-- The event storage: whatever metadata the storage key is made from, the data are those of the
block. -/
structure EventStorage (Hash Meta Data : Type) where
  getStorageEvents : Meta → Hash → Outcome GoError Data
  storageEvents : Hash → Data
  retrieved : ∀ {metadata blockHash data}, getStorageEvents metadata blockHash = .ok data →
    data = storageEvents blockHash

section Steady

variable {chain : Chain Hash Meta Reg Data Res} {parsingOpts : Opts}

theorem sourced_of_created {errRegistryCreation : GoError}
    {call : Hash → Session (Unit × Held Meta Reg) RetrieverError Res}
    (keeps : ∀ blockHash start, Kept chain.outside blockHash start (call blockHash start).2)
    {start : Held Meta Reg} {now : Unit}
    (created : loadState chain.outside errRegistryCreation none () = (.ok start, now))
    (earlier : List Hash) :
    Sourced chain earlier (afterCalls call earlier (now, start)).2 := by
  rcases afterCalls_source keeps earlier (now, start) with same | ⟨other, member, at_block, loaded⟩
  · obtain ⟨_, middle, retrieved, creation⟩ := (ensures_loadState none ()).of_eq_ok rfl created
    have latest : chain.latest = start.metadata := Outcome.ok.inj (answer_eq_ok.mp retrieved)
    rw [same]
    exact ⟨.inl latest.symm, answer_eq_ok.mp creation⟩
  · rw [← at_block] at loaded
    exact ⟨.inr ⟨other, member, at_block⟩, loaded⟩

/-- The parsing stage uses the registry that is held, or the one of the block if that fails. -/
theorem followsHistory_of_parseStage {errRegistryCreation errParsing : GoError}
    {retrievable : Meta → Prop} {data : Data} {earlier : List Hash} {blockHash : Hash}
    {state after : Unit × Held Meta Reg} {res : Res} (possible : retrievable state.2.metadata)
    (sourced : Sourced chain earlier state.2)
    (ran : parseStage chain.outside errRegistryCreation errParsing parsingOpts blockHash data state =
      (.ok res, after)) :
    FollowsHistory chain retrievable data earlier blockHash state.2 res where
  sourced := sourced
  by_held := fun _ parses => (parseStage_eq_ok ran).resolve_right fun other => other.1 parses
  by_block := by
    intro unusable
    rcases parseStage_eq_ok ran with parsed | ⟨_, refreshed⟩
    · exact absurd ⟨possible, res, parsed⟩ unusable
    · exact refreshed

/-- A held registry that parses the data gives the result, and nothing is refreshed. -/
theorem getEvents_of_parse {getStorageEvents : Meta → Hash → Outcome GoError Data} {storageOpts : Opts}
    {blockHash : Hash} {state : Unit × Held Meta Reg} {data : Data} {res : Res}
    (known : getStorageEvents state.2.metadata blockHash = .ok data)
    (parsed : chain.parse state.2.registry data = .ok res) :
    getEvents chain.outside (fun metadata hash => answer (getStorageEvents metadata hash)) storageOpts
      parsingOpts blockHash state = (.ok res, state) := by
  refine Session.bind_eq_ok.mpr ⟨data, state, ?_, ?_⟩
  · exact Session.mapError_eq_ok.mpr (execWithFallback_answer known)
  · exact Session.mapError_eq_ok.mpr (execWithFallback_answer parsed)

theorem getEvents_follows {storage : EventStorage Hash Meta Data} {storageOpts : Opts}
    {earlier : List Hash} {blockHash : Hash} {state after : Unit × Held Meta Reg} {res : Res}
    (sourced : Sourced chain earlier state.2)
    (ran : getEvents chain.outside (fun metadata hash => answer (storage.getStorageEvents metadata hash))
      storageOpts parsingOpts blockHash state = (.ok res, after)) :
    FollowsHistory chain (fun metadata => (storage.getStorageEvents metadata blockHash).Succeeds)
      (storage.storageEvents blockHash) earlier blockHash state.2 res := by
  obtain ⟨data, middle, retrieval, parsing⟩ := Session.bind_eq_ok.mp ran
  by_cases retrievable : (storage.getStorageEvents state.2.metadata blockHash).Succeeds
  · obtain ⟨stored, known⟩ := retrievable
    have first := (execWithFallback_answer known).symm.trans (Session.mapError_eq_ok.mp retrieval)
    obtain ⟨same, unchanged⟩ := Prod.mk.inj first
    obtain rfl : stored = data := Outcome.ok.inj same
    subst unchanged
    rw [storage.retrieved known] at parsing
    exact followsHistory_of_parseStage ⟨stored, known⟩ sourced parsing
  · obtain ⟨kept, _, _, delivered⟩ := ensures_storageStage.of_eq_ok rfl retrieval
    have delivered := answer_eq_ok.mp delivered
    rcases kept.held with same | loaded
    · rw [same] at delivered
      exact absurd ⟨data, delivered⟩ retrievable
    · refine ⟨sourced, fun possible => absurd possible retrievable, fun _ => ?_⟩
      rw [storage.retrieved delivered] at parsing
      rcases parseStage_eq_ok parsing with parsed | ⟨_, refreshed⟩
      · exact ⟨middle.2.registry, loaded.created.2, parsed⟩
      · exact refreshed

theorem getExtrinsics_follows {blockAt : Hash → Data} {chainOpts : Opts} {earlier : List Hash}
    {blockHash : Hash} {state after : Unit × Held Meta Reg} {res : Res}
    (sourced : Sourced chain earlier state.2)
    (ran : getExtrinsics chain.outside (fun hash => answer (.ok (blockAt hash))) chainOpts parsingOpts
      blockHash state = (.ok res, after)) :
    FollowsHistory chain (fun _ => True) (blockAt blockHash) earlier blockHash state.2 res := by
  obtain ⟨block, middle, retrieval, parsing⟩ := Session.bind_eq_ok.mp ran
  obtain ⟨⟨_, same⟩, _, _, delivered⟩ := ensures_blockStage.of_eq_ok rfl retrieval
  obtain rfl : blockAt blockHash = block := Outcome.ok.inj (answer_eq_ok.mp delivered)
  obtain rfl : middle = state := Prod.ext rfl same
  exact followsHistory_of_parseStage trivial sourced parsing

end Steady

/-! ## The retrievers of the registry -/

/-- A registry with the cells of its recursive decoders. -/
structure BuiltRegistry (κ : Type) where
  registry : TypeRegistry κ
  cells : Cells

/-- The runtimes of a chain, and what factory and parser are given to work with. -/
structure Runtimes (Hash : Type) where
  latest : MetadataV14
  metadataAt : Hash → MetadataV14
  factory : Factory
  mapOrder : MapOrder
  creationFuel : Nat
  parsingFuel : Nat

/-- A method of the factory; its storages are reset by every creation, so one factory does for all. -/
def Runtimes.create {κ : Type} (runtimes : Runtimes Hash)
    (createRegistry : MetadataV14 → MapOrder → Nat → Build (TypeRegistry κ)) (metadata : MetadataV14) :
    Outcome GoError (BuiltRegistry κ) := do
  let (registry, final) ← createRegistry metadata runtimes.mapOrder runtimes.creationFuel runtimes.factory
  pure ⟨registry, final.cells⟩

/-- The chain of an event retriever. -/
def Runtimes.events (runtimes : Runtimes Hash) :
    Chain Hash MetadataV14 (BuiltRegistry Types.EventID) (List UInt8) (List Event) where
  latest := runtimes.latest
  metadataAt := runtimes.metadataAt
  createRegistry := runtimes.create createEventRegistry
  parse built := parseEvents built.cells built.registry runtimes.parsingFuel

/-- The chain of an extrinsic retriever. -/
def Runtimes.extrinsics (σ : Type) (runtimes : Runtimes Hash) :
    Chain Hash MetadataV14 (BuiltRegistry Types.CallIndex) (List (BlockExtrinsic σ))
      (List (ParsedExtrinsic σ)) where
  latest := runtimes.latest
  metadataAt := runtimes.metadataAt
  createRegistry := runtimes.create createCallRegistry
  parse built := parseExtrinsics built.cells built.registry runtimes.parsingFuel

/-- After any earlier calls the result for a block is the parse under the registry that is held, if it
parses the data, and under the registry of the block otherwise. -/
theorem results_follow_history {Hash σ : Type} (runtimes : Runtimes Hash)
    (storage : EventStorage Hash MetadataV14 (List UInt8)) (blockAt : Hash → List (BlockExtrinsic σ))
    (retrievalOpts parsingOpts : Opts) (earlier : List Hash) (blockHash : Hash) :
    (∀ start events after,
      let call := getEvents runtimes.events.outside
        (fun metadata hash => answer (storage.getStorageEvents metadata hash)) retrievalOpts parsingOpts
      newEventRetriever runtimes.events.outside () = (.ok start, ()) →
        call blockHash (afterCalls call earlier ((), start)) = (.ok events, after) →
        FollowsHistory runtimes.events
          (fun metadata => (storage.getStorageEvents metadata blockHash).Succeeds)
          (storage.storageEvents blockHash) earlier blockHash (afterCalls call earlier ((), start)).2
          events) ∧
      ∀ start parsed after,
        let call := getExtrinsics (runtimes.extrinsics σ).outside (fun hash => answer (.ok (blockAt hash)))
          retrievalOpts parsingOpts
        newExtrinsicRetriever (runtimes.extrinsics σ).outside () = (.ok start, ()) →
          call blockHash (afterCalls call earlier ((), start)) = (.ok parsed, after) →
          FollowsHistory (runtimes.extrinsics σ) (fun _ => True) (blockAt blockHash) earlier blockHash
            (afterCalls call earlier ((), start)).2 parsed := by
  constructor
  · intro start events after call created ran
    have keeps : ∀ hash state, Kept runtimes.events.outside hash state (call hash state).2 :=
      fun hash state =>
        (ensures_getEvents.weaken (fun res now holds => holds.1) fun now kept => kept).after rfl
    exact getEvents_follows (sourced_of_created keeps (Session.mapError_eq_ok.mp created) earlier) ran
  · intro start parsed after call created ran
    have keeps : ∀ hash state, Kept (runtimes.extrinsics σ).outside hash state (call hash state).2 :=
      fun hash state =>
        (ensures_getExtrinsics.weaken (fun res now holds => holds.1) fun now kept => kept).after rfl
    exact getExtrinsics_follows (sourced_of_created keeps (Session.mapError_eq_ok.mp created) earlier) ran

/-- Metadata with one event of the given name. -/
def oneEventMetadata (name : String) : MetadataV14 where
  pallets := [⟨"System", false, (0 : Int), true, (1 : Int), false, (0 : Int), 0⟩]
  efficientLookup := toMap
    [⟨(1 : Int), ["Event"], { isVariant := true, variant := [⟨name, [], 1⟩] }⟩]

/-- A chain that was upgraded at block one: `System.Done` became `System.Finished`. -/
def upgradedChain : Runtimes Nat where
  latest := oneEventMetadata "Finished"
  metadataAt := fun block => oneEventMetadata (if block = 0 then "Done" else "Finished")
  factory := newFactory [] []
  mapOrder := .newestFirst
  creationFuel := 1
  parsingFuel := 1

/-- Every block holds one event without fields and topics. -/
def oneEventStorage : EventStorage Nat MetadataV14 (List UInt8) where
  getStorageEvents _ _ := .ok [0x04, 2, 0, 1, 0]
  storageEvents _ := [0x04, 2, 0, 1, 0]
  retrieved := fun known => (Outcome.ok.inj known).symm

/-- What the retriever holds after it was created on the upgraded chain. -/
def finishedHeld : Held MetadataV14 (BuiltRegistry Types.EventID) :=
  ⟨oneEventMetadata "Finished", [((0, 1), ⟨"System.Finished", []⟩)], []⟩

/-- The event of the blocks, under the name of the later runtime. -/
def finishedEvent : Event := ⟨"System.Finished", [], (0, 1), ⟨false, 0, false, true⟩, []⟩

/-- The event of block zero is named after the runtime that was current when the retriever was
created, not after the runtime of the block. -/
theorem getEvents_names_later_runtime :
    newEventRetriever upgradedChain.events.outside () = (.ok finishedHeld, ()) ∧
      getEvents upgradedChain.events.outside
        (fun metadata hash => answer (oneEventStorage.getStorageEvents metadata hash))
        newDefaultExecOpts (withMaxRetryCount 1 newDefaultExecOpts) 0 ((), finishedHeld) =
          (.ok [finishedEvent], ((), finishedHeld)) ∧
      ∃ registry, upgradedChain.events.createRegistry (upgradedChain.metadataAt 0) = .ok registry ∧
        upgradedChain.events.parse registry (oneEventStorage.storageEvents 0) =
          .ok [⟨"System.Done", [], (0, 1), ⟨false, 0, false, true⟩, []⟩] := by
  exact ⟨rfl, getEvents_of_parse rfl rfl, _, rfl, rfl⟩

theorem results_follow_history_upgraded :
    FollowsHistory upgradedChain.events
      (fun metadata => (oneEventStorage.getStorageEvents metadata 0).Succeeds)
      (oneEventStorage.storageEvents 0) [1] 0 finishedHeld [finishedEvent] := by
  have calls : ∀ block, getEvents upgradedChain.events.outside
      (fun metadata hash => answer (oneEventStorage.getStorageEvents metadata hash))
      newDefaultExecOpts newDefaultExecOpts block ((), finishedHeld) =
        (.ok [finishedEvent], ((), finishedHeld)) :=
    fun block => getEvents_of_parse rfl rfl
  have earlier : afterCalls (getEvents upgradedChain.events.outside
      (fun metadata hash => answer (oneEventStorage.getStorageEvents metadata hash))
      newDefaultExecOpts newDefaultExecOpts) [1] ((), finishedHeld) = ((), finishedHeld) :=
    congrArg Prod.snd (calls 1)
  have follows := (results_follow_history (σ := Unit) upgradedChain oneEventStorage (fun _ => [])
    newDefaultExecOpts newDefaultExecOpts [1] 0).1 finishedHeld [finishedEvent] ((), finishedHeld) rfl
    (by rw [earlier, calls])
  rwa [earlier] at follows

end SubstrateClient.Retrieval
