import SubstrateClient.Retrieval.Exec

/-!
# Retrievers of events and extrinsics

A retriever holds metadata and the registry built from them, and refreshes both when retrieval or
parsing fails.  Everything it calls is outside: nodes, factories and parsers may fail at any time and
may keep a state of their own, so they are arbitrary sessions over a state `W` in which time passes.
-/

namespace SubstrateClient.Retrieval

def errInternalStateUpdate : GoError := .declared "internal state update"
def errBlockRetrieval : GoError := .declared "block retrieval"
def errExtrinsicParsing : GoError := .declared "extrinsic parsing"
def errMetadataRetrieval : GoError := .declared "metadata retrieval"
def errCallRegistryCreation : GoError := .declared "call registry creation"
def errStorageEventRetrieval : GoError := .declared "storage event retrieval"
def errEventParsing : GoError := .declared "event parsing"
def errEventRegistryCreation : GoError := .declared "event registry creation"

/-- An error of a retriever: a declared constant around the error of an executor. -/
structure RetrieverError where
  outer : GoError
  inner : ExecError
  deriving DecidableEq, Repr

/-- A call to the outside, after which no less time has passed. -/
structure Call (W α : Type) [Preorder W] where
  run : Session W GoError α
  advances : ∀ world, world ≤ (run world).2

/-- What both retrievers call: the metadata RPC, a method of the factory, and a parser. -/
structure Outside (W Hash Meta Reg Data Res : Type) [Preorder W] where
  getMetadataLatest : Call W Meta
  getMetadata : Hash → Call W Meta
  createRegistry : Meta → Call W Reg
  parse : Reg → Data → Call W Res

/-- The fields of a retriever that change. -/
structure Held (Meta Reg : Type) where
  metadata : Meta
  registry : Reg
  deriving DecidableEq

variable {W Hash Meta Reg Data Res : Type} [Preorder W]

/-- Run a call to the outside next to the fields of the retriever. -/
def Call.fromRetriever {α : Type} (call : Call W α) : Session (W × Held Meta Reg) GoError α :=
  call.run.within Prod.fst fun state world => (world, state.2)

section Methods

variable (outside : Outside W Hash Meta Reg Data Res) (errRegistryCreation : GoError)

/-- Metadata, at the block if there is one, and the registry built from them. -/
def loadState (blockHash : Option Hash) : Session W GoError (Held Meta Reg) := do
  let metadata ← (match blockHash with
    | none => outside.getMetadataLatest
    | some blockHash => outside.getMetadata blockHash).run.mapError (.wrap errMetadataRetrieval)
  let registry ← (outside.createRegistry metadata).run.mapError (.wrap errRegistryCreation)
  pure ⟨metadata, registry⟩

/-- The methods `updateInternalState` of the two retrievers. -/
def updateInternalState (blockHash : Option Hash) : Session (W × Held Meta Reg) GoError Unit := do
  let held ← (loadState outside errRegistryCreation blockHash).within Prod.fst
    fun state world => (world, state.2)
  Session.modify fun state => (state.1, held)

/-- The parsing stage of the two retrievers. -/
def parseStage (errParsing : GoError) (parsingOpts : Opts) (blockHash : Hash) (data : Data) :
    Session (W × Held Meta Reg) RetrieverError Res :=
  (execWithFallback parsingOpts
    (some fun state => (outside.parse state.2.registry data).fromRetriever state)
    (some (updateInternalState outside errRegistryCreation (some blockHash)))).mapError fun inner =>
      ⟨errParsing, inner⟩

end Methods

/-- `NewEventRetriever`. -/
def newEventRetriever (outside : Outside W Hash Meta Reg Data Res) :
    Session W GoError (Held Meta Reg) :=
  (loadState outside errEventRegistryCreation none).mapError (.wrap errInternalStateUpdate)

/-- The retrieval of the storage data in `GetEvents`. -/
def storageStage (outside : Outside W Hash Meta Reg Data Res)
    (getStorageEvents : Meta → Hash → Call W Data) (storageOpts : Opts) (blockHash : Hash) :
    Session (W × Held Meta Reg) RetrieverError Data :=
  (execWithFallback storageOpts
    (some fun state => (getStorageEvents state.2.metadata blockHash).fromRetriever state)
    (some (updateInternalState outside errEventRegistryCreation (some blockHash)))).mapError fun inner =>
      ⟨errStorageEventRetrieval, inner⟩

/-- `GetEvents`. -/
def getEvents (outside : Outside W Hash Meta Reg Data Res)
    (getStorageEvents : Meta → Hash → Call W Data) (storageOpts parsingOpts : Opts) (blockHash : Hash) :
    Session (W × Held Meta Reg) RetrieverError Res := do
  let storageEvents ← storageStage outside getStorageEvents storageOpts blockHash
  parseStage outside errEventRegistryCreation errEventParsing parsingOpts blockHash storageEvents

/-- `NewExtrinsicRetriever`. -/
def newExtrinsicRetriever (outside : Outside W Hash Meta Reg Data Res) :
    Session W GoError (Held Meta Reg) :=
  (loadState outside errCallRegistryCreation none).mapError (.wrap errInternalStateUpdate)

/-- The retrieval of the block in `GetExtrinsics`, whose fallback does nothing. -/
def blockStage (getBlock : Hash → Call W Data) (chainOpts : Opts) (blockHash : Hash) :
    Session (W × Held Meta Reg) RetrieverError Data :=
  (execWithFallback chainOpts (some (getBlock blockHash).fromRetriever)
    (some (pure ()))).mapError fun inner => ⟨errBlockRetrieval, inner⟩

/-- `GetExtrinsics`. -/
def getExtrinsics (outside : Outside W Hash Meta Reg Data Res) (getBlock : Hash → Call W Data)
    (chainOpts parsingOpts : Opts) (blockHash : Hash) :
    Session (W × Held Meta Reg) RetrieverError Res := do
  let block ← blockStage getBlock chainOpts blockHash
  parseStage outside errCallRegistryCreation errExtrinsicParsing parsingOpts blockHash block

/-! ## What a retriever holds -/

section Invariants

variable (outside : Outside W Hash Meta Reg Data Res)

/-- The registry was created from the metadata next to it. -/
def Built (state : W × Held Meta Reg) : Prop :=
  ∃ asked answered, (outside.createRegistry state.2.metadata).run asked =
    (.ok state.2.registry, answered) ∧ answered ≤ state.1

/-- Between two moments the metadata at the block were retrieved, and the registry was created from
them. -/
def LoadedBetween (blockHash : Hash) (held : Held Meta Reg) (start now : W) : Prop :=
  ∃ asked middle answered, start ≤ asked ∧
    (outside.getMetadata blockHash).run asked = (.ok held.metadata, middle) ∧
    (outside.createRegistry held.metadata).run middle = (.ok held.registry, answered) ∧ answered ≤ now

/-- Since the start of a call time has passed, and the retriever holds what it held or what was loaded
for the block. -/
structure Kept (blockHash : Hash) (start now : W × Held Meta Reg) : Prop where
  later : start.1 ≤ now.1
  held : now.2 = start.2 ∨ LoadedBetween outside blockHash now.2 start.1 now.1

/-- The result is the parse of delivered data under the registry held after the call. -/
structure ReturnsParse (blockHash : Hash) (delivers : Data → W → W → Prop)
    (start : W × Held Meta Reg) (res : Res) (after : W × Held Meta Reg) : Prop where
  held : after.2 = start.2 ∨ LoadedBetween outside blockHash after.2 start.1 after.1
  parsed : ∃ data asked answered parsing, start.1 ≤ asked ∧ delivers data asked answered ∧
    answered ≤ parsing ∧ (outside.parse after.2.registry data).run parsing = (.ok res, after.1)

variable {outside} {blockHash : Hash} {start : W × Held Meta Reg}

theorem LoadedBetween.later {held : Held Meta Reg} {began now then_ : W}
    (loaded : LoadedBetween outside blockHash held began now) (le : now ≤ then_) :
    LoadedBetween outside blockHash held began then_ := by
  obtain ⟨asked, middle, answered, since, retrieved, created, until_now⟩ := loaded
  exact ⟨asked, middle, answered, since, retrieved, created, until_now.trans le⟩

theorem kept_refl (blockHash : Hash) (state : W × Held Meta Reg) : Kept outside blockHash state state :=
  ⟨le_rfl, .inl rfl⟩

theorem Kept.advance {now : W × Held Meta Reg} {world : W} (kept : Kept outside blockHash start now)
    (le : now.1 ≤ world) : Kept outside blockHash start (world, now.2) :=
  ⟨kept.later.trans le, kept.held.imp_right fun loaded => loaded.later le⟩

theorem Kept.built {now : W × Held Meta Reg} (kept : Kept outside blockHash start now)
    (built : Built outside start) : Built outside now := by
  rcases kept.held with same | ⟨_, middle, answered, _, _, created, until_now⟩
  · obtain ⟨asked, answered, created, until_start⟩ := built
    rw [← same] at created
    exact ⟨asked, answered, created, until_start.trans kept.later⟩
  · exact ⟨middle, answered, created, until_now⟩

/-- Time passes during a call to the outside. -/
theorem Call.ensures {α : Type} (call : Call W α) (now : W) :
    Session.Ensures (· = now) call.run
      (fun value after => call.run now = (.ok value, after) ∧ now ≤ after) (fun after => now ≤ after) := by
  rintro current rfl
  have advances := call.advances current
  generalize call.run current = ending at advances ⊢
  obtain ⟨outcome, after⟩ := ending
  cases outcome with
  | ok value => exact ⟨rfl, advances⟩
  | error _ | panic | outOfFuel => exact advances

/-- Loading asks for the metadata and then for the registry. -/
theorem ensures_loadState {errRegistryCreation : GoError} (blockHash : Option Hash) (began : W) :
    Session.Ensures (· = began) (loadState outside errRegistryCreation blockHash)
      (fun held now => began ≤ now ∧ ∃ middle,
        (match blockHash with
          | none => outside.getMetadataLatest
          | some blockHash => outside.getMetadata blockHash).run began = (.ok held.metadata, middle) ∧
        (outside.createRegistry held.metadata).run middle = (.ok held.registry, now))
      (fun now => began ≤ now) := by
  unfold loadState
  refine ((Call.ensures _ began).mapError _).bind fun metadata middle retrieved => ?_
  have creation : Session.Ensures (· = middle)
      (((outside.createRegistry metadata).run.mapError (.wrap errRegistryCreation) >>= fun registry =>
        pure (Held.mk metadata registry) : Session W GoError (Held Meta Reg)))
      (fun held now => middle ≤ now ∧ held.metadata = metadata ∧
        (outside.createRegistry metadata).run middle = (.ok held.registry, now)) (fun now => middle ≤ now) :=
    ((Call.ensures _ middle).mapError _).bind fun registry => Session.ensures_pure _
      fun now created => ⟨created.2, rfl, created.1⟩
  refine (creation middle rfl).weaken ?_ fun now le => retrieved.2.trans le
  rintro held now ⟨le, rfl, created⟩
  exact ⟨retrieved.2.trans le, middle, retrieved.1, created⟩

/-- Whether or not an update succeeds, the retriever holds what it held or what was loaded. -/
theorem ensures_updateInternalState (errRegistryCreation : GoError) {since : W} :
    Session.Ensures (fun now => Kept outside blockHash start now ∧ since ≤ now.1)
      (updateInternalState outside errRegistryCreation (some blockHash))
      (fun _ now => Kept outside blockHash start now ∧ since ≤ now.1)
      (fun now => Kept outside blockHash start now ∧ since ≤ now.1) := by
  have load : Session.Ensures (fun now => Kept outside blockHash start now ∧ since ≤ now.1)
      ((loadState outside errRegistryCreation (some blockHash)).within Prod.fst
        fun state world => (world, state.2))
      (fun held now => (start.1 ≤ now.1 ∧ LoadedBetween outside blockHash held start.1 now.1) ∧
        since ≤ now.1)
      (fun now => Kept outside blockHash start now ∧ since ≤ now.1) := by
    rintro now ⟨kept, lasted⟩
    refine Session.ends_within ((ensures_loadState (some blockHash) now.1 now.1 rfl).weaken ?_ ?_)
    · rintro held world ⟨le, middle, retrieved, created⟩
      refine ⟨⟨kept.later.trans le, ?_⟩, lasted.trans le⟩
      exact ⟨now.1, middle, world, kept.later, retrieved, created, le_rfl⟩
    · exact fun world le => ⟨kept.advance le, lasted.trans le⟩
  exact load.bind fun held => Session.ensures_modify fun now loaded =>
    ⟨⟨loaded.1.1, .inr loaded.1.2⟩, loaded.2⟩

/-- An update that does not succeed changes nothing that is held. -/
theorem updateInternalState_failed {errRegistryCreation : GoError} {blockHash : Option Hash}
    {state : W × Held Meta Reg}
    (failed : (updateInternalState outside errRegistryCreation blockHash state).1 ≠ .ok ()) :
    (updateInternalState outside errRegistryCreation blockHash state).2.2 = state.2 := by
  have load : Session.Ensures (· = state)
      ((loadState outside errRegistryCreation blockHash).within Prod.fst
        fun state world => (world, state.2))
      (fun _ _ => True) (fun after => after.2 = state.2) := by
    rintro now rfl
    refine Session.ends_within ?_
    exact (ensures_loadState blockHash now.1 now.1 rfl).weaken (fun _ _ _ => trivial) fun _ _ => rfl
  have update : Session.Ensures (· = state) (updateInternalState outside errRegistryCreation blockHash)
      (fun _ _ => True) (fun after => after.2 = state.2) :=
    load.bind fun held => Session.ensures_modify fun _ _ => trivial
  exact update.of_ne_ok rfl fun _ => failed

/-- A call to the outside keeps what is held, and hands on what it returns. -/
theorem ensures_fromRetriever {α : Type} {call : W × Held Meta Reg → Call W α} {since : W} :
    Session.Ensures (fun now => Kept outside blockHash start now ∧ since ≤ now.1)
      (fun now => (call now).fromRetriever now)
      (fun value now => (Kept outside blockHash start now ∧ since ≤ now.1) ∧ ∃ asked, since ≤ asked ∧
        start.1 ≤ asked ∧ (call (asked, now.2)).run asked = (.ok value, now.1))
      (fun now => Kept outside blockHash start now ∧ since ≤ now.1) := by
  intro now holds
  refine Session.ends_within ((Call.ensures (call now) now.1 now.1 rfl).weaken ?_ ?_)
  · intro value after ran
    exact ⟨⟨holds.1.advance ran.2, holds.2.trans ran.2⟩, now.1, holds.2, holds.1.later, ran.1⟩
  · exact fun after advanced => ⟨holds.1.advance advanced, holds.2.trans advanced⟩

/-- The parsing stage returns the parse under the registry held at its end. -/
theorem ensures_parseStage {errRegistryCreation errParsing : GoError} {parsingOpts : Opts} {data : Data}
    {since : W} :
    Session.Ensures (fun now => Kept outside blockHash start now ∧ since ≤ now.1)
      (parseStage outside errRegistryCreation errParsing parsingOpts blockHash data)
      (fun res now => Kept outside blockHash start now ∧ ∃ parsing, since ≤ parsing ∧
        (outside.parse now.2.registry data).run parsing = (.ok res, now.1))
      (Kept outside blockHash start) := by
  have attempt := @ensures_fromRetriever _ _ _ _ _ _ _ outside blockHash start Res
    (fun now => outside.parse now.2.registry data) since
  have stage := (ensures_execWithFallback parsingOpts attempt
    (ensures_updateInternalState errRegistryCreation)).mapError fun inner =>
      (⟨errParsing, inner⟩ : RetrieverError)
  refine stage.weaken ?_ fun now holds => holds.1
  rintro res now ⟨holds, parsing, lasted, _, ran⟩
  exact ⟨holds.1, parsing, lasted, ran⟩

/-- What the retrieval stage delivers is what the parsing stage parses. -/
theorem ensures_stages {errRegistryCreation errParsing : GoError} {parsingOpts : Opts}
    {retrieval : Session (W × Held Meta Reg) RetrieverError Data} {delivers : Data → W → W → Prop}
    (ensures : Session.Ensures (· = start) retrieval
      (fun data now => ∃ asked, start.1 ≤ asked ∧ delivers data asked now.1 ∧
        Kept outside blockHash start now) (Kept outside blockHash start)) :
    Session.Ensures (· = start)
      (retrieval >>= parseStage outside errRegistryCreation errParsing parsingOpts blockHash)
      (fun res now => Kept outside blockHash start now ∧
        ReturnsParse outside blockHash delivers start res now) (Kept outside blockHash start) := by
  refine ensures.bind fun data now delivered => ?_
  obtain ⟨asked, since, delivers_data, kept⟩ := delivered
  refine (ensures_parseStage now ⟨kept, le_rfl⟩).weaken ?_ fun after holds => holds
  rintro res after ⟨kept_after, parsing, lasted, ran⟩
  exact ⟨kept_after, kept_after.held, data, asked, now.1, parsing, since, delivers_data, lasted, ran⟩

/-- The storage data are delivered for the metadata held at the end of the stage. -/
theorem ensures_storageStage {getStorageEvents : Meta → Hash → Call W Data} {storageOpts : Opts} :
    Session.Ensures (· = start) (storageStage outside getStorageEvents storageOpts blockHash)
      (fun data now => Kept outside blockHash start now ∧ ∃ asked, start.1 ≤ asked ∧
        (getStorageEvents now.2.metadata blockHash).run asked = (.ok data, now.1))
      (Kept outside blockHash start) := by
  have attempt := @ensures_fromRetriever _ _ _ _ _ _ _ outside blockHash start Data
    (fun now => getStorageEvents now.2.metadata blockHash) start.1
  have stage := (ensures_execWithFallback storageOpts attempt
    (ensures_updateInternalState errEventRegistryCreation)).mapError fun inner =>
      (⟨errStorageEventRetrieval, inner⟩ : RetrieverError)
  rintro now rfl
  refine (stage now ⟨kept_refl blockHash now, le_rfl⟩).weaken ?_ fun after holds => holds.1
  rintro data after ⟨holds, asked, since, _, ran⟩
  exact ⟨holds.1, asked, since, ran⟩

/-- The block is delivered, and what is held does not change. -/
theorem ensures_blockStage {getBlock : Hash → Call W Data} {chainOpts : Opts} :
    Session.Ensures (· = start) (blockStage getBlock chainOpts blockHash)
      (fun data now => (start.1 ≤ now.1 ∧ now.2 = start.2) ∧ ∃ asked, start.1 ≤ asked ∧
        (getBlock blockHash).run asked = (.ok data, now.1))
      (fun now => start.1 ≤ now.1 ∧ now.2 = start.2) := by
  have attempt : Session.Ensures (fun now => start.1 ≤ now.1 ∧ now.2 = start.2)
      (getBlock blockHash).fromRetriever
      (fun data now => (start.1 ≤ now.1 ∧ now.2 = start.2) ∧ ∃ asked, start.1 ≤ asked ∧
        (getBlock blockHash).run asked = (.ok data, now.1))
      (fun now => start.1 ≤ now.1 ∧ now.2 = start.2) := by
    rintro now ⟨since, same⟩
    refine Session.ends_within ((Call.ensures (getBlock blockHash) now.1 now.1 rfl).weaken ?_ ?_)
    · exact fun data after ran => ⟨⟨since.trans ran.2, same⟩, now.1, since, ran.1⟩
    · exact fun after advanced => ⟨since.trans advanced, same⟩
  have stage := (ensures_execWithFallback chainOpts attempt
    (Session.ensures_pure () fun _ holds => holds)).mapError fun inner =>
      (⟨errBlockRetrieval, inner⟩ : RetrieverError)
  rintro now rfl
  exact stage now ⟨le_rfl, rfl⟩

/-- A call that returns events returns the parse of what was delivered for the block. -/
theorem ensures_getEvents {getStorageEvents : Meta → Hash → Call W Data} {storageOpts parsingOpts : Opts} :
    Session.Ensures (· = start) (getEvents outside getStorageEvents storageOpts parsingOpts blockHash)
      (fun res now => Kept outside blockHash start now ∧ ReturnsParse outside blockHash
        (fun data asked answered => ∃ metadata,
          (getStorageEvents metadata blockHash).run asked = (.ok data, answered)) start res now)
      (Kept outside blockHash start) := by
  refine ensures_stages (ensures_storageStage.weaken ?_ fun now kept => kept)
  rintro data now ⟨kept, asked, since, ran⟩
  exact ⟨asked, since, ⟨now.2.metadata, ran⟩, kept⟩

/-- A call that returns extrinsics returns the parse of what was delivered for the block. -/
theorem ensures_getExtrinsics {getBlock : Hash → Call W Data} {chainOpts parsingOpts : Opts} :
    Session.Ensures (· = start) (getExtrinsics outside getBlock chainOpts parsingOpts blockHash)
      (fun res now => Kept outside blockHash start now ∧ ReturnsParse outside blockHash
        (fun data asked answered => (getBlock blockHash).run asked = (.ok data, answered)) start res now)
      (Kept outside blockHash start) := by
  refine ensures_stages (ensures_blockStage.weaken ?_ fun now kept => ⟨kept.1, .inl kept.2⟩)
  rintro data now ⟨kept, asked, since, ran⟩
  exact ⟨asked, since, ran, kept.1, .inl kept.2⟩

end Invariants

/-! ## Whole runs -/

/-- The states of a retriever: after its creation, after time has passed, and after every call. -/
inductive Reached (create : Session W GoError (Held Meta Reg))
    (call : Hash → Session (W × Held Meta Reg) RetrieverError Res) : W × Held Meta Reg → Prop
  | created {began now : W} {held : Held Meta Reg} (ran : create began = (.ok held, now)) :
      Reached create call (now, held)
  | elapsed {now later : W} {held : Held Meta Reg} (reached : Reached create call (now, held))
      (le : now ≤ later) : Reached create call (later, held)
  | called {state : W × Held Meta Reg} (reached : Reached create call state) (blockHash : Hash) :
      Reached create call (call blockHash state).2

/-- What is stated of a retriever in every state of every run. -/
structure Sound (outside : Outside W Hash Meta Reg Data Res)
    (errRegistryCreation : GoError) (call : Hash → Session (W × Held Meta Reg) RetrieverError Res)
    (delivers : Hash → Data → W → W → Prop) (state : W × Held Meta Reg) : Prop where
  /-- The registry is the one created from the metadata. -/
  built : Built outside state
  /-- A call that returns returns the parse under the registry held before or created for the block. -/
  parses : ∀ blockHash res after, call blockHash state = (.ok res, after) →
    ReturnsParse outside blockHash (delivers blockHash) state res after
  /-- A failed update leaves metadata and registry as they were. -/
  failed_update : ∀ blockHash, (updateInternalState outside errRegistryCreation blockHash state).1 ≠ .ok () →
    (updateInternalState outside errRegistryCreation blockHash state).2.2 = state.2

section Runs

variable {outside : Outside W Hash Meta Reg Data Res}

theorem built_of_loadState {errRegistryCreation : GoError} {began now : W} {held : Held Meta Reg}
    (ran : loadState outside errRegistryCreation none began = (.ok held, now)) :
    Built outside (now, held) := by
  obtain ⟨_, middle, _, created⟩ := (ensures_loadState none began).of_eq_ok rfl ran
  exact ⟨middle, now, created, le_rfl⟩

/-- The registry is built from the metadata in every state, if every call keeps it so. -/
theorem Reached.built {errRegistryCreation : GoError}
    {call : Hash → Session (W × Held Meta Reg) RetrieverError Res}
    (keeps : ∀ blockHash start, Kept outside blockHash start (call blockHash start).2)
    {state : W × Held Meta Reg}
    (reached : Reached ((loadState outside errRegistryCreation none).mapError
      (.wrap errInternalStateUpdate)) call state) : Built outside state := by
  induction reached with
  | created ran => exact built_of_loadState (Session.mapError_eq_ok.mp ran)
  | elapsed _ le ih =>
      obtain ⟨asked, answered, created, until_now⟩ := ih
      exact ⟨asked, answered, created, until_now.trans le⟩
  | called _ blockHash ih => exact (keeps blockHash _).built ih

end Runs

/-- In every run the registry is the one built from the metadata, and every returned result is a parse
under the registry held before the call or created during it from the metadata at the block. -/
theorem retrievers_sound {W Hash Meta Reg Data Res : Type} [Preorder W]
    (outside : Outside W Hash Meta Reg Data Res) (getStorageEvents : Meta → Hash → Call W Data)
    (getBlock : Hash → Call W Data) (retrievalOpts parsingOpts : Opts) :
    (∀ state, Reached (newEventRetriever outside)
        (getEvents outside getStorageEvents retrievalOpts parsingOpts) state →
      Sound outside errEventRegistryCreation (getEvents outside getStorageEvents retrievalOpts parsingOpts)
        (fun blockHash data asked answered => ∃ metadata,
          (getStorageEvents metadata blockHash).run asked = (.ok data, answered)) state) ∧
      ∀ state, Reached (newExtrinsicRetriever outside)
          (getExtrinsics outside getBlock retrievalOpts parsingOpts) state →
        Sound outside errCallRegistryCreation (getExtrinsics outside getBlock retrievalOpts parsingOpts)
          (fun blockHash data asked answered => (getBlock blockHash).run asked = (.ok data, answered))
          state := by
  constructor
  · intro state reached
    refine ⟨reached.built fun blockHash start => ?_, fun blockHash res after ran => ?_,
      fun blockHash failed => updateInternalState_failed failed⟩
    · exact (ensures_getEvents.weaken (fun res now holds => holds.1) fun now kept => kept).after rfl
    · exact (ensures_getEvents.of_eq_ok rfl ran).2
  · intro state reached
    refine ⟨reached.built fun blockHash start => ?_, fun blockHash res after ran => ?_,
      fun blockHash failed => updateInternalState_failed failed⟩
    · exact (ensures_getExtrinsics.weaken (fun res now holds => holds.1) fun now kept => kept).after rfl
    · exact (ensures_getExtrinsics.of_eq_ok rfl ran).2

/-- A chain with a clock.  Metadata, registry and data of a block are its number; metadata are out of
reach at every third moment, and data are parsed under the registry of their own block only. -/
def flakyChain : Outside Nat Nat Nat Nat Nat Nat where
  getMetadataLatest := ⟨fun now => (.ok 0, now + 1), Nat.le_succ⟩
  getMetadata blockHash := ⟨fun now => (if now % 3 = 0 then .error .eof else .ok blockHash, now + 1),
    Nat.le_succ⟩
  createRegistry metadata := ⟨fun now => (.ok metadata, now + 1), Nat.le_succ⟩
  parse registry data := ⟨fun now => (if registry = data then .ok data else .error .eof, now + 1),
    Nat.le_succ⟩

/-- The data of a block are its number. -/
def flakyRetrieval (blockHash : Nat) : Call Nat Nat := ⟨fun now => (.ok blockHash, now + 1), Nat.le_succ⟩

theorem retrievers_sound_flaky :
    getEvents flakyChain (fun _ => flakyRetrieval) newDefaultExecOpts newDefaultExecOpts 5 (7, ⟨0, 0⟩) =
        (.ok 5, (14, ⟨5, 5⟩)) ∧
      Sound flakyChain errEventRegistryCreation
        (getEvents flakyChain (fun _ => flakyRetrieval) newDefaultExecOpts newDefaultExecOpts)
        (fun blockHash data asked answered => ∃ metadata : Nat,
          ((fun _ => flakyRetrieval) metadata blockHash).run asked = (.ok data, answered)) (14, ⟨5, 5⟩) := by
  have ran : getEvents flakyChain (fun _ => flakyRetrieval) newDefaultExecOpts newDefaultExecOpts 5
      (7, ⟨0, 0⟩) = (.ok 5, (14, ⟨5, 5⟩)) := by decide +kernel
  have created : Reached (newEventRetriever flakyChain)
      (getEvents flakyChain (fun _ => flakyRetrieval) newDefaultExecOpts newDefaultExecOpts)
      (7, ⟨0, 0⟩) := Reached.created (show newEventRetriever flakyChain 5 = _ from rfl)
  have called := created.called 5
  rw [ran] at called
  exact ⟨ran, (retrievers_sound flakyChain (fun _ => flakyRetrieval) flakyRetrieval newDefaultExecOpts
    newDefaultExecOpts).1 _ called⟩

end SubstrateClient.Retrieval
