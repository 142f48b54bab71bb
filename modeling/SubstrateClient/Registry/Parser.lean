import SubstrateClient.Registry.Reencoding
import SubstrateClient.Types.Extrinsic

/-!
# Parsing events and extrinsics

`ParseEvents` reads a number of events and then phase, identifier, fields and topics of each;
`ParseExtrinsics` decodes the arguments of every call of a block.
-/

namespace SubstrateClient.Registry

open ByteParser Scale SubstrateClient.Types

def errEventsCountDecoding : GoError := .declared "events count decoding"
def errEventPhaseDecoding : GoError := .declared "event phase decoding"
def errEventIDDecoding : GoError := .declared "event ID decoding"
def errEventDecoderNotFound : GoError := .declared "event decoder not found"
def errEventFieldsDecoding : GoError := .declared "event fields decoding"
def errEventTopicsDecoding : GoError := .declared "event topics decoding"
def errCallDecoderNotFound : GoError := .declared "call decoder not found"
def errCallFieldsDecoding : GoError := .declared "call fields decoding"

/-- `parser.Event`. -/
structure Event where
  name : String
  fields : DecodedFields
  eventID : EventID
  phase : Phase
  topics : List Hash

/-- The error of an event, with the number of the event. -/
def eventError (outer : GoError) (index : Nat) (inner : GoError) : GoError :=
  .wrap outer (.annotated ("event #" ++ toString index ++ ": ") inner)

section Events

variable [Runtime .none] (cells : Cells) (eventRegistry : TypeRegistry EventID)

/-- What a round of the loop of `ParseEvents` does once phase and identifier are read. -/
def parseEventBody (index fuel : Nat) (phase : Phase) (eventID : EventID) : Decoder Event :=
  match eventRegistry.lookup eventID with
  | none =>
      fail (.withMsg errEventDecoderNotFound ("event #" ++ toString index ++ " with ID: [" ++
        toString eventID.1.toNat ++ " " ++ toString eventID.2.toNat ++ "]"))
  | some eventDecoder => do
      let fields ← (eventDecoder.decode cells fuel).mapError (eventError errEventFieldsDecoding index)
      let topics ← decodeTopics.mapError (eventError errEventTopicsDecoding index)
      pure ⟨eventDecoder.name, fields, eventID, phase, topics⟩

/-- One round of the loop of `ParseEvents`. -/
def parseEvent (index fuel : Nat) : Decoder Event := do
  let phase ← Phase.decode.mapError (eventError errEventPhaseDecoding index)
  let eventID ← EventID.decode.mapError (eventError errEventIDDecoding index)
  parseEventBody cells eventRegistry index fuel phase eventID

/-- The loop of `ParseEvents`: so many events, numbered from the given one. -/
def parseEventLoop (fuel : Nat) : Nat → Nat → Decoder (List Event)
  | _, 0 => pure []
  | index, count + 1 => do
      let event ← parseEvent cells eventRegistry index fuel
      let events ← parseEventLoop fuel (index + 1) count
      pure (event :: events)

/-- The body of `ParseEvents` as a parser, with the bytes it leaves; the count is cut to 64 bits. -/
def readEvents (fuel : Nat) : Decoder (List Event) := do
  let eventsCount ← decodeUintCompact.mapError (.wrap errEventsCountDecoding)
  parseEventLoop cells eventRegistry fuel 0 (eventsCount % 2 ^ 64)

/-- `ParseEvents`. -/
def parseEvents (fuel : Nat) (storageData : List UInt8) : Outcome GoError (List Event) := do
  let result ← readEvents cells eventRegistry fuel storageData
  pure result.1

end Events

/-- What `ParseExtrinsics` uses of an extrinsic of a block. -/
structure BlockExtrinsic (σ : Type) where
  call : Call
  version : UInt8
  signature : σ

/-- `parser.Extrinsic`. -/
structure ParsedExtrinsic (σ : Type) where
  name : String
  callFields : DecodedFields
  callIndex : CallIndex
  version : UInt8
  signature : σ

/-- The error of an extrinsic, with the number of the extrinsic. -/
def extrinsicText (index : Nat) : String := "extrinsic #" ++ toString index

section Extrinsics

variable [Runtime .none] {σ : Type} (cells : Cells) (callRegistry : TypeRegistry CallIndex)

/-- One round of the loop of `ParseExtrinsics`. -/
def parseExtrinsic (fuel index : Nat) (extrinsic : BlockExtrinsic σ) :
    Outcome GoError (ParsedExtrinsic σ) :=
  match callRegistry.lookup extrinsic.call.callIndex with
  | none => .error (.wrap errCallDecoderNotFound (.text (extrinsicText index)))
  | some callDecoder => do
      let decoded ← (callDecoder.decode cells fuel extrinsic.call.args).mapError fun inner =>
        .wrap errCallFieldsDecoding (.annotated (extrinsicText index ++ ": ") inner)
      pure ⟨callDecoder.name, decoded.1, extrinsic.call.callIndex, extrinsic.version,
        extrinsic.signature⟩

/-- The loop of `ParseExtrinsics`, numbering the extrinsics from the given one. -/
def parseExtrinsicLoop (fuel : Nat) :
    Nat → List (BlockExtrinsic σ) → Outcome GoError (List (ParsedExtrinsic σ))
  | _, [] => pure []
  | index, extrinsic :: extrinsics => do
      let first ← parseExtrinsic cells callRegistry fuel index extrinsic
      let later ← parseExtrinsicLoop fuel (index + 1) extrinsics
      pure (first :: later)

/-- `ParseExtrinsics`. -/
def parseExtrinsics (fuel : Nat) (extrinsics : List (BlockExtrinsic σ)) :
    Outcome GoError (List (ParsedExtrinsic σ)) :=
  parseExtrinsicLoop cells callRegistry fuel 0 extrinsics

end Extrinsics

/-! ## More fuel -/

section Fuel

variable [Runtime .none] {cells : Cells} {eventRegistry : TypeRegistry EventID}

theorem settling_parseEventBody (index : Nat) (phase : Phase) (eventID : EventID) :
    Settling fun fuel => parseEventBody cells eventRegistry index fuel phase eventID := by
  unfold parseEventBody
  cases eventRegistry.lookup eventID with
  | none => exact settling_const _
  | some eventDecoder =>
      refine ((eventDecoder.settling_decode cells).mapError _).bind fun fields => ?_
      exact settling_const _

theorem settling_parseEvent (index : Nat) :
    Settling fun fuel => parseEvent cells eventRegistry index fuel :=
  (settling_const _).bind fun phase => (settling_const _).bind fun eventID =>
    settling_parseEventBody index phase eventID

theorem settling_parseEventLoop (index count : Nat) :
    Settling fun fuel => parseEventLoop cells eventRegistry fuel index count := by
  induction count generalizing index with
  | zero => exact settling_const _
  | succ count ih =>
      exact (settling_parseEvent index).bind fun event => (ih (index + 1)).bind fun events =>
        settling_const _

end Fuel

/-! ## Written events are parsed -/

section Written

variable (cells : Cells) (eventRegistry : TypeRegistry EventID)

/-- An event as it stands in the storage, given the bytes of its fields. -/
def encodeEvent (entry : Event × List UInt8) : Written := do
  let phase ← entry.1.phase.encode
  let topics ← encodeTopics entry.1.topics
  pure (phase ++ entry.1.eventID.encode ++ entry.2 ++ topics)

/-- The number of events, then the events. -/
def encodeEvents (entries : List (Event × List UInt8)) : Written := do
  let count ← encodeUintCompact entries.length
  let chunks ← entries.mapM encodeEvent
  pure (count ++ chunks.flatten)

/-- The event has a proper phase and not too many topics, and the registry's decoder for its
identifier reads its fields from the bytes, whatever follows them. -/
structure Parseable (entry : Event × List UInt8) : Prop where
  phase : entry.1.phase.WellFormed
  topics : entry.1.topics.length < 2 ^ 32
  fields : ∃ eventDecoder, eventRegistry.lookup entry.1.eventID = some eventDecoder ∧
    eventDecoder.name = entry.1.name ∧
    ∀ rest, eventDecoder.Decodes cells (entry.2 ++ rest) entry.1.fields rest

variable {cells eventRegistry}

/-- One event is parsed from its bytes. -/
theorem Parseable.yields {entry : Event × List UInt8} (parseable : Parseable cells eventRegistry entry) :
    ∃ bytes, encodeEvent entry = .ok bytes ∧ ∀ index rest,
      Yields (fun fuel => parseEvent cells eventRegistry index fuel) (bytes ++ rest) entry.1 rest := by
  obtain ⟨phase, phase_encoded, phase_reads⟩ := Phase.encode_reads parseable.phase
  obtain ⟨topics, topics_encoded, topics_reads⟩ :=
    encodeTopics_reads (Nat.le_pred_of_lt parseable.topics)
  obtain ⟨eventDecoder, found, named, decodes⟩ := parseable.fields
  refine ⟨phase ++ entry.1.eventID.encode ++ entry.2 ++ topics, ?_, fun index rest => ?_⟩
  · rw [encodeEvent, phase_encoded, topics_encoded]
    rfl
  · obtain ⟨fuel, run⟩ := decodes (topics ++ rest)
    refine ⟨fuel, ?_⟩
    refine bind_eq_ok.mpr ⟨entry.1.phase, entry.1.eventID.encode ++ (entry.2 ++ (topics ++ rest)), ?_, ?_⟩
    · simpa only [List.append_assoc] using (phase_reads.mapError _) _
    refine bind_eq_ok.mpr ⟨entry.1.eventID, entry.2 ++ (topics ++ rest), ?_, ?_⟩
    · exact ((EventID.encode_reads entry.1.eventID).mapError _) _
    rw [parseEventBody, found]
    refine bind_eq_ok.mpr ⟨entry.1.fields, topics ++ rest, Outcome.mapError_eq_ok.mpr run, ?_⟩
    refine bind_eq_ok.mpr ⟨entry.1.topics, rest, (topics_reads.mapError _) rest, ?_⟩
    rw [named]
    rfl

/-- The loop parses one event after the other. -/
theorem yields_parseEventLoop {entries : List (Event × List UInt8)}
    (each : ∀ entry ∈ entries, Parseable cells eventRegistry entry) :
    ∃ chunks, entries.mapM encodeEvent = .ok chunks ∧ ∀ index rest,
      Yields (fun fuel => parseEventLoop cells eventRegistry fuel index entries.length)
        (chunks.flatten ++ rest) (entries.map Prod.fst) rest := by
  induction entries with
  | nil => exact ⟨[], rfl, fun index rest => ⟨0, rfl⟩⟩
  | cons entry entries ih =>
      obtain ⟨parseable, others⟩ := List.forall_mem_cons.mp each
      obtain ⟨bytes, encoded, yields⟩ := parseable.yields
      obtain ⟨chunks, others_encoded, others_yield⟩ := ih others
      refine ⟨bytes :: chunks, ?_, fun index rest => ?_⟩
      · rw [List.mapM_cons, encoded, others_encoded]
        rfl
      · rw [List.flatten_cons, List.append_assoc]
        refine (yields_bind (settling_parseEvent index) fun event =>
          (settling_parseEventLoop (index + 1) entries.length).bind fun events =>
            settling_const (pure (event :: events))).mpr ?_
        obtain ⟨fuel, run⟩ := others_yield (index + 1) rest
        exact ⟨entry.1, _, yields index _, fuel, bind_eq_ok.mpr ⟨_, rest, run, rfl⟩⟩

/-- Behind the number of events the loop parses all of them and stops. -/
theorem yields_readEvents {entries : List (Event × List UInt8)} (few : entries.length < 2 ^ 32)
    (each : ∀ entry ∈ entries, Parseable cells eventRegistry entry) :
    ∃ bytes, encodeEvents entries = .ok bytes ∧ ∀ trailing,
      Yields (fun fuel => readEvents cells eventRegistry fuel) (bytes ++ trailing) (entries.map Prod.fst)
        trailing := by
  obtain ⟨chunks, encoded, yields⟩ := yields_parseEventLoop each
  have small : entries.length < 2 ^ 64 := few.trans (by norm_num)
  refine ⟨compactBytes entries.length ++ chunks.flatten, ?_, fun trailing => ?_⟩
  · rw [encodeEvents, encodeUintCompact_eq (lt_compact_bound small), encoded]
    rfl
  · obtain ⟨fuel, run⟩ := yields 0 trailing
    have count := ((reads_compactBytes (lt_compact_bound small)).mapError
      (GoError.wrap errEventsCountDecoding)) (chunks.flatten ++ trailing)
    refine ⟨fuel, ?_⟩
    rw [List.append_assoc]
    refine bind_eq_ok.mpr ⟨entries.length, chunks.flatten ++ trailing, count, ?_⟩
    rw [Nat.mod_eq_of_lt small]
    exact run

end Written

/-- `ParseEvents` returns exactly the written events, in order, whatever follows them. -/
theorem parseEvents_encodeEvents (cells : Cells) (eventRegistry : TypeRegistry EventID)
    (entries : List (Event × List UInt8)) (trailing : List UInt8) (few : entries.length < 2 ^ 32)
    (each : ∀ entry ∈ entries, Parseable cells eventRegistry entry) :
    ∃ bytes, encodeEvents entries = .ok bytes ∧ ∃ fuel,
      parseEvents cells eventRegistry fuel (bytes ++ trailing) = .ok (entries.map Prod.fst) := by
  obtain ⟨bytes, encoded, yields⟩ := yields_readEvents few each
  obtain ⟨fuel, run⟩ := yields trailing
  exact ⟨bytes, encoded, fuel, Outcome.bind_eq_ok.mpr ⟨(entries.map Prod.fst, trailing), run, rfl⟩⟩

/-- The registry of a chain whose only event is `System.Sent`, with a number and a list of numbers. -/
def sentRegistry : TypeRegistry EventID :=
  [((0, 1), ⟨"System.Sent", [⟨"to", .value (.num .u8), 2⟩, ⟨"memo", .slice (.value (.num .u8)), 3⟩]⟩)]

/-- An event `System.Sent` of the extrinsic with the given number. -/
def sentEvent (extrinsic : UInt32) (topics : List Hash) : Event where
  name := "System.Sent"
  fields := [⟨"to", .scalar (.num .u8 (5 : UInt8)), 2⟩,
    ⟨"memo", .slice [.scalar (.num .u8 (1 : UInt8)), .scalar (.num .u8 (2 : UInt8))], 3⟩]
  eventID := (0, 1)
  phase := ⟨true, extrinsic, false, false⟩
  topics := topics

theorem parseable_sentEvent (extrinsic : UInt32) {topics : List Hash} (few : topics.length < 2 ^ 32) :
    Parseable [] sentRegistry (sentEvent extrinsic topics, [5, 8, 1, 2]) where
  phase := .inl ⟨extrinsic, rfl⟩
  topics := few
  fields := by
    have spelled : FieldsForm (WireForm .plain [] 2)
        [⟨"to", .value (.num .u8), 2⟩, ⟨"memo", .slice (.value (.num .u8)), 3⟩]
        (sentEvent extrinsic topics).fields ([5] ++ [8, 1, 2]) :=
      .cons (wireForm_u8 .plain [] 5).deeper (.single (wireForm_bytes .plain []))
    exact ⟨_, rfl, rfl, FieldsForm.decodes spelled⟩

/-- Two events of one extrinsic, the second with a topic, each with the bytes of its fields. -/
def sentEntries : List (Event × List UInt8) :=
  [(sentEvent 1 [], [5, 8, 1, 2]), (sentEvent 1 [List.Vector.replicate 32 9], [5, 8, 1, 2])]

theorem parseable_sentEntries : ∀ entry ∈ sentEntries, Parseable [] sentRegistry entry := by
  intro entry member
  rcases List.mem_pair.mp member with rfl | rfl
  · exact parseable_sentEvent 1 (Nat.two_pow_pos 32)
  · exact parseable_sentEvent 1 (Nat.one_lt_two_pow (by norm_num))

theorem parseEvents_encodeEvents_sent :
    ∃ bytes, encodeEvents sentEntries = .ok bytes ∧ ∃ fuel,
      parseEvents [] sentRegistry fuel (bytes ++ [7]) =
        .ok [sentEvent 1 [], sentEvent 1 [List.Vector.replicate 32 9]] :=
  parseEvents_encodeEvents [] sentRegistry sentEntries [7] (by decide) parseable_sentEntries

end SubstrateClient.Registry
