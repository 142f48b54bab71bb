import SubstrateClient.MetadataFormat.EventNames
import SubstrateClient.Registry.EventRecords
import SubstrateClient.SliceStore

/-!
# Events in the slices of a target

`DecodeEventRecords` with metadata of any version.  It appends every event to the slice of the field
that is named after module and event, while the slices of other fields keep what they held.  Slices that
a client has cut from one array may overwrite each other.
-/

namespace SubstrateClient.Registry

open ByteParser Scale SubstrateClient.Types
open MetadataFormat (Metadata viewText)

variable {types : MethodTypes}

/-- `EventRecordsRaw`. -/
abbrev EventRecordsRaw : Type := List UInt8

/-- An element of the slice of an event. -/
structure EventStruct (types : MethodTypes) where
  phase : Phase
  /-- The values of all fields but the first. -/
  values : List (HolderValue types)

def EventRecord.eventStruct (record : EventRecord types) : EventStruct types :=
  ⟨record.phase, record.values⟩

/-- The slices of the target, by the names of their fields. -/
abbrev EventSlices (types : MethodTypes) : Type := SliceStore String (EventStruct types)

/-- The name `%v_%v` of the field for an event.  No field has a name that is not UTF-8. -/
def eventFieldName (moduleName eventName : Text) : Option String :=
  String.fromUTF8? ⟨(moduleName ++ 0x5f :: eventName).toArray⟩

/-! ## Decoding -/

section Rounds

variable (m : Metadata) (fieldByName : String → Option (TargetField types))

/-- The field for an event, with its name. -/
def eventField (moduleName eventName : Text) : Option (String × TargetField types) := do
  let fieldName ← eventFieldName moduleName eventName
  let field ← fieldByName fieldName
  pure (fieldName, field)

/-- What a round of `DecodeEventRecords` does once phase and identifier are read. -/
def decodeEventBody (index : Nat) (phase : Phase) (id : EventID) : Decoder (EventRecord types) :=
  match m.findEventNamesForEventID id with
  | .ok (moduleName, eventName) =>
      match eventField fieldByName moduleName eventName with
      | none => fail (.printed (Utf8Text.bytes "unable to find field " ++ moduleName ++ [0x5f] ++ eventName ++
          Utf8Text.bytes (" for event #" ++ toString index ++ " with EventID [" ++ toString id.1.toNat ++ " " ++
            toString id.2.toNat ++ "]")))
      | some (fieldName, field) => decodeHolder index phase id fieldName field
  | .error err =>
      fail (.annotated ("unable to find event with EventID [" ++ toString id.1.toNat ++ " " ++
        toString id.2.toNat ++ "] in metadata for event #" ++ toString index ++ ": ") err)
  | .panic => abort
  | .outOfFuel => exhaust

/-- A round of `DecodeEventRecords` up to the record that it appends. -/
def decodeEvent (index : Nat) : Decoder (EventRecord types) := do
  let phase ← Phase.decode.mapError
    (.annotated ("unable to decode Phase for event #" ++ toString index ++ ": "))
  let id ← EventID.decode.mapError
    (.annotated ("unable to decode EventID for event #" ++ toString index ++ ": "))
  decodeEventBody m fieldByName index phase id

variable (room : String → Nat → Nat)

/-- The loop of `DecodeEventRecords`.  Events before an error stay in their slices. -/
def decodeEventLoop : Nat → Nat → EventSlices types → List UInt8 →
    EventSlices types × Outcome GoError (List UInt8)
  | _, 0, slices, input => (slices, .ok input)
  | index, count + 1, slices, input =>
      match decodeEvent m fieldByName index input with
      | .ok (record, rest) =>
          decodeEventLoop (index + 1) count
            (slices.append room record.fieldName record.eventStruct) rest
      | .error err => (slices, .error err)
      | .panic => (slices, .panic)
      | .outOfFuel => (slices, .outOfFuel)

end Rounds

/-- `EventRecordsRaw.DecodeEventRecords`: the slices of the target afterwards, and what is returned. -/
def EventRecordsRaw.decodeEventRecords (room : String → Nat → Nat) (e : EventRecordsRaw) (m : Metadata)
    (t : Target types) (slices : EventSlices types) : EventSlices types × Outcome GoError Unit :=
  match t with
  | .notPointer => (slices, .error (.text "target must be a pointer"))
  | .nilPointer => (slices, .error (.text "target is a nil pointer"))
  | .notStruct => (slices, .error (.text "target must point to a struct"))
  | .struct fieldByName =>
      match decodeUintCompact e with
      | .ok (n, input) =>
          -- `Uint64` keeps the low 64 bits of the number of events.
          let (after, outcome) := decodeEventLoop m fieldByName room 0 (n % 2 ^ 64) slices input
          (after, (fun _ => ()) <$> outcome)
      | .error err => (slices, .error err)
      | .panic => (slices, .panic)
      | .outOfFuel => (slices, .outOfFuel)

/-! ## The stream of events -/

/-- An event as it stands in the stream: phase, identifier, and the fields of the struct that the target
declares for the names which the metadata give for the identifier. -/
def ReadsEvent (m : Metadata) (fieldByName : String → Option (TargetField types))
    (input : List UInt8) (record : EventRecord types) (rest : List UInt8) : Prop :=
  ∃ id afterPhase afterID moduleName eventName field fields,
    Phase.decode input = .ok (record.phase, afterPhase) ∧
    EventID.decode afterPhase = .ok (id, afterID) ∧
    m.findEventNamesForEventID id = .ok (moduleName, eventName) ∧
    eventFieldName moduleName eventName = some record.fieldName ∧
    fieldByName record.fieldName = some field ∧ field.holder = some fields ∧
    fields.tail.mapM HolderField.decode afterID = .ok (record.values, rest)

/-- The records of events that follow each other in the stream. -/
inductive EventStream (m : Metadata) (fieldByName : String → Option (TargetField types)) :
    List UInt8 → List (EventRecord types) → List UInt8 → Prop
  | done (input : List UInt8) : EventStream m fieldByName input [] input
  | event {input middle rest : List UInt8} {record : EventRecord types}
      {records : List (EventRecord types)} (first : ReadsEvent m fieldByName input record middle)
      (others : EventStream m fieldByName middle records rest) :
      EventStream m fieldByName input (record :: records) rest

/-- The names of the fields of a target. -/
def Target.fieldNames : Target types → Set String
  | .struct fieldByName => {name | (fieldByName name).isSome = true}
  | _ => ∅

/-- What a successful run has done to the slices: every field has its old elements, followed by those
events of the stream that are named after it, and a field without events has the same slice. -/
def AppendsEvents (e : EventRecordsRaw) (m : Metadata) (t : Target types)
    (before after : EventSlices types) : Prop :=
  ∃ fieldByName n input records rest, t = .struct fieldByName ∧
    decodeUintCompact e = .ok (n, input) ∧ records.length = n % 2 ^ 64 ∧
    EventStream m fieldByName input records rest ∧
    ∀ fieldName ∈ t.fieldNames,
      after.elements fieldName = before.elements fieldName ++
        (records.filter (·.fieldName = fieldName)).map EventRecord.eventStruct ∧
      ((∀ record ∈ records, record.fieldName ≠ fieldName) →
        after.slices fieldName = before.slices fieldName)

section Runs

variable {m : Metadata} {fieldByName : String → Option (TargetField types)} {room : String → Nat → Nat}

theorem readsEvent_of_decodeEvent {index : Nat} {input rest : List UInt8} {record : EventRecord types}
    (run : decodeEvent m fieldByName index input = .ok (record, rest)) :
    ReadsEvent m fieldByName input record rest := by
  obtain ⟨phase, afterPhase, phase_read, run⟩ := bind_eq_ok.mp run
  obtain ⟨id, afterID, id_read, run⟩ := bind_eq_ok.mp run
  rw [mapError_apply, Outcome.mapError_eq_ok] at phase_read id_read
  unfold decodeEventBody at run
  cases found : m.findEventNamesForEventID id with
  | ok names =>
      obtain ⟨moduleName, eventName⟩ := names
      rw [found] at run
      dsimp only at run
      cases target : eventField fieldByName moduleName eventName with
      | none =>
          rw [target] at run
          cases run
      | some named =>
          obtain ⟨fieldName, field⟩ := named
          rw [target] at run
          obtain ⟨fields, values, has_holder, _, decoded, rfl⟩ := fields_of_decodeHolder run
          obtain ⟨name, name_eq, target⟩ := Option.bind_eq_some_iff.mp target
          obtain ⟨declared, is_field, returned⟩ := Option.bind_eq_some_iff.mp target
          cases returned
          exact ⟨id, afterPhase, afterID, moduleName, eventName, field, fields, phase_read, id_read,
            found, name_eq, is_field, has_holder, decoded⟩
  | error _ | panic | outOfFuel =>
      rw [found] at run
      cases run

/-- What a record adds to the slices. -/
def EventRecord.entry (record : EventRecord types) : String × EventStruct types :=
  (record.fieldName, record.eventStruct)

/-- By induction on the number of events: the slices are what appending the events read so far makes
of them. -/
theorem eventStream_of_decodeEventLoop {index count : Nat} {slices after : EventSlices types}
    {input rest : List UInt8}
    (run : decodeEventLoop m fieldByName room index count slices input = (after, .ok rest)) :
    ∃ records, records.length = count ∧ EventStream m fieldByName input records rest ∧
      after = slices.appendAll room (records.map EventRecord.entry) := by
  induction count generalizing index slices input with
  | zero =>
      cases run
      exact ⟨[], rfl, .done _, rfl⟩
  | succ count ih =>
      rw [decodeEventLoop] at run
      cases decoded : decodeEvent m fieldByName index input with
      | ok result =>
          obtain ⟨record, middle⟩ := result
          rw [decoded] at run
          obtain ⟨records, rfl, others, rfl⟩ := ih run
          exact ⟨record :: records, rfl, .event (readsEvent_of_decodeEvent decoded) others, rfl⟩
      | error _ | panic | outOfFuel =>
          rw [decoded] at run
          cases run

/-- Every event of a stream has a field. -/
theorem EventStream.isSome_fieldByName {input rest : List UInt8} {records : List (EventRecord types)}
    (stream : EventStream m fieldByName input records rest) :
    ∀ record ∈ records, (fieldByName record.fieldName).isSome = true := by
  induction stream with
  | done _ => simp
  | event first _ ih =>
      obtain ⟨_, _, _, _, _, field, _, _, _, _, _, is_field, _, _⟩ := first
      intro record member
      obtain rfl | member := List.mem_cons.mp member
      · exact Option.isSome_of_eq_some is_field
      · exact ih record member

/-- The bytes and the metadata determine an event. -/
theorem ReadsEvent.unique {input rest rest' : List UInt8} {record record' : EventRecord types}
    (reads : ReadsEvent m fieldByName input record rest)
    (reads' : ReadsEvent m fieldByName input record' rest') : record = record' ∧ rest = rest' := by
  obtain ⟨id, afterPhase, afterID, moduleName, eventName, field, fields, phase_read, id_read, found,
    name_eq, is_field, has_holder, decoded⟩ := reads
  obtain ⟨_, _, _, _, _, _, _, phase_read', id_read', found', name_eq', is_field', has_holder',
    decoded'⟩ := reads'
  obtain ⟨fieldName, phase, values⟩ := record
  obtain ⟨fieldName', phase', values'⟩ := record'
  dsimp only at *
  cases phase_read.symm.trans phase_read'
  cases id_read.symm.trans id_read'
  cases found.symm.trans found'
  cases name_eq.symm.trans name_eq'
  cases is_field.symm.trans is_field'
  cases has_holder.symm.trans has_holder'
  cases decoded.symm.trans decoded'
  exact ⟨rfl, rfl⟩

/-- The bytes and the metadata determine as many events as there are to be read. -/
theorem EventStream.unique {input rest rest' : List UInt8} {records records' : List (EventRecord types)}
    (stream : EventStream m fieldByName input records rest)
    (stream' : EventStream m fieldByName input records' rest')
    (same_length : records.length = records'.length) : records = records' := by
  induction stream generalizing records' with
  | done _ => exact (List.length_eq_zero_iff.mp same_length.symm).symm
  | event first _ ih =>
      cases stream' with
      | done _ => cases same_length
      | event first' others' =>
          obtain ⟨rfl, rfl⟩ := first.unique first'
          rw [ih others' (Nat.succ.inj same_length)]

/-- A run returns nil if the target is a struct and the loop over all events comes to its end. -/
theorem decodeEventRecords_eq_nil {e : EventRecordsRaw} {t : Target types}
    {before after : EventSlices types} :
    e.decodeEventRecords room m t before = (after, .ok ()) ↔
      ∃ fieldByName n input rest, t = .struct fieldByName ∧ decodeUintCompact e = .ok (n, input) ∧
        decodeEventLoop m fieldByName room 0 (n % 2 ^ 64) before input = (after, .ok rest) := by
  constructor
  · intro run
    cases t with
    | struct fieldByName =>
        unfold EventRecordsRaw.decodeEventRecords at run
        cases counted : decodeUintCompact e with
        | ok result =>
            obtain ⟨n, input⟩ := result
            rw [counted] at run
            dsimp only at run
            cases looped : decodeEventLoop m fieldByName room 0 (n % 2 ^ 64) before input with
            | mk slices outcome =>
                rw [looped] at run
                obtain ⟨rfl, returned⟩ := Prod.mk.inj run
                cases outcome with
                | ok rest => exact ⟨fieldByName, n, input, rest, rfl, rfl, looped⟩
                | error _ | panic | outOfFuel => cases returned
        | error _ | panic | outOfFuel =>
            rw [counted] at run
            cases run
    | notPointer | nilPointer | notStruct => cases run
  · rintro ⟨fieldByName, n, input, rest, rfl, counted, looped⟩
    unfold EventRecordsRaw.decodeEventRecords
    rw [counted]
    dsimp only
    rw [looped]
    rfl

end Runs

theorem filter_map_entry (records : List (EventRecord types)) (fieldName : String) :
    ((records.map EventRecord.entry).filter (·.1 = fieldName)).map Prod.snd =
      (records.filter (·.fieldName = fieldName)).map EventRecord.eventStruct := by
  rw [List.filter_map, List.map_map]
  rfl

/-- `DecodeEventRecords` scatters the events over separate slices and loses none. -/
theorem appendsEvents_of_separate (room : String → Nat → Nat) (e : EventRecordsRaw) (m : Metadata)
    (t : Target types) (before after : EventSlices types) (separate : before.Separate t.fieldNames)
    (run : e.decodeEventRecords room m t before = (after, .ok ())) :
    AppendsEvents e m t before after := by
  obtain ⟨fieldByName, n, input, rest, rfl, counted, looped⟩ := decodeEventRecords_eq_nil.mp run
  obtain ⟨records, length_eq, stream, rfl⟩ := eventStream_of_decodeEventLoop looped
  refine ⟨fieldByName, n, input, records, rest, rfl, counted, length_eq, stream, ?_⟩
  intro fieldName is_field
  constructor
  · have inside : ∀ entry ∈ records.map EventRecord.entry,
        entry.1 ∈ (Target.struct fieldByName).fieldNames :=
      List.forall_mem_map.mpr stream.isSome_fieldByName
    rw [SliceStore.elements_appendAll room separate inside is_field, filter_map_entry]
  · intro others
    exact SliceStore.slices_appendAll_of_forall_ne room (List.forall_mem_map.mpr others) before

/-! ## Version 14 -/

theorem toByteArray_of_fromUTF8? {bytes : ByteArray} {text : String}
    (valid : String.fromUTF8? bytes = some text) : text.toByteArray = bytes := by
  unfold String.fromUTF8? at valid
  split at valid
  · cases valid
    rfl
  · cases valid

theorem bytes_of_fromUTF8? {text : Text} {string : String}
    (valid : String.fromUTF8? ⟨text.toArray⟩ = some string) : Utf8Text.bytes string = text := by
  rw [Utf8Text.bytes, String.toUTF8_eq_toByteArray, toByteArray_of_fromUTF8? valid]

theorem fromUTF8?_toByteArray (text : String) : String.fromUTF8? text.toByteArray = some text := by
  unfold String.fromUTF8?
  rw [dif_pos text.isValidUTF8]
  rfl

theorem eventFieldName_of_valid {moduleName eventName : Text} {module event : String}
    (module_valid : String.fromUTF8? ⟨moduleName.toArray⟩ = some module)
    (event_valid : String.fromUTF8? ⟨eventName.toArray⟩ = some event) :
    eventFieldName moduleName eventName = some (module ++ "_" ++ event) := by
  have joined : (⟨(moduleName ++ 0x5f :: eventName).toArray⟩ : ByteArray) =
      (module ++ "_" ++ event).toByteArray := by
    rw [String.toByteArray_append, String.toByteArray_append, toByteArray_of_fromUTF8? module_valid,
      toByteArray_of_fromUTF8? event_valid]
    apply ByteArray.ext
    rw [ByteArray.data_append, ByteArray.data_append]
    simp
    rfl
  rw [eventFieldName, joined, fromUTF8?_toByteArray]

/-- The names of modules and events are UTF-8. -/
def ReadableNames (metadata : MetadataFormat.MetadataV14) : Prop :=
  ∀ id moduleName eventName, metadata.findEventNamesForEventID id = .ok (moduleName, eventName) →
    (∃ module, String.fromUTF8? ⟨moduleName.toArray⟩ = some module) ∧
      ∃ event, String.fromUTF8? ⟨eventName.toArray⟩ = some event

section View

variable {m : Metadata} {fieldByName : String → Option (TargetField types)} {room : String → Nat → Nat}

theorem eventField_of_valid {moduleName eventName : Text} {module event : String}
    (module_valid : String.fromUTF8? ⟨moduleName.toArray⟩ = some module)
    (event_valid : String.fromUTF8? ⟨eventName.toArray⟩ = some event) :
    eventField fieldByName moduleName eventName =
      (fieldByName (module ++ "_" ++ event)).map (module ++ "_" ++ event, ·) := by
  unfold eventField
  rw [eventFieldName_of_valid module_valid event_valid]
  cases declared : fieldByName (module ++ "_" ++ event) <;> simp [declared]

theorem decodeEventBody_eq_decodeRecordBody (version : m.version = 14)
    (readable : ReadableNames m.asMetadataV14) (index : Nat) (phase : Phase) (id : EventID) :
    decodeEventBody m fieldByName index phase id =
      decodeRecordBody m.asMetadataV14.view fieldByName index phase id := by
  have names : m.findEventNamesForEventID id = m.asMetadataV14.findEventNamesForEventID id := by
    unfold Metadata.findEventNamesForEventID
    rw [version]
    rfl
  unfold decodeEventBody decodeRecordBody
  rw [names, MetadataFormat.MetadataV14.findEventNamesForEventID_view]
  cases found : m.asMetadataV14.findEventNamesForEventID id with
  | ok result =>
      obtain ⟨moduleName, eventName⟩ := result
      obtain ⟨⟨module, module_valid⟩, event, event_valid⟩ := readable id moduleName eventName found
      have module_view : viewText moduleName = module := congrArg (Option.getD · "") module_valid
      have event_view : viewText eventName = event := congrArg (Option.getD · "") event_valid
      have mapped : (fun names : Text × Text => (viewText names.1, viewText names.2)) <$>
          (Outcome.ok (moduleName, eventName) : Outcome GoError (Text × Text)) =
            .ok (module, event) := by
        rw [← module_view, ← event_view]
        rfl
      rw [mapped]
      dsimp only
      rw [eventField_of_valid module_valid event_valid]
      cases fieldByName (module ++ "_" ++ event) with
      | none =>
          have underscore : Utf8Text.bytes "_" = [0x5f] := rfl
          simp only [Option.map_none, Utf8Text.bytes_append, bytes_of_fromUTF8? module_valid,
            bytes_of_fromUTF8? event_valid, underscore, List.append_assoc]
      | some field => rfl
  | error _ | panic | outOfFuel => rfl

/-- With readable names a round reads what it reads with the metadata that the registry sees. -/
theorem decodeEvent_eq_decodeRecord (version : m.version = 14)
    (readable : ReadableNames m.asMetadataV14) (index : Nat) :
    decodeEvent m fieldByName index = decodeRecord m.asMetadataV14.view fieldByName index := by
  unfold decodeEvent decodeRecord
  simp only [decodeEventBody_eq_decodeRecordBody version readable]

/-- The loop appends the records that the loop of the registry reads. -/
theorem decodeEventLoop_eq_ok (version : m.version = 14) (readable : ReadableNames m.asMetadataV14)
    {index count : Nat} {slices after : EventSlices types} {input rest : List UInt8} :
    decodeEventLoop m fieldByName room index count slices input = (after, .ok rest) ↔
      ∃ records, decodeRecordLoop m.asMetadataV14.view fieldByName index count input =
          .ok (records, rest) ∧
        after = slices.appendAll room (records.map EventRecord.entry) := by
  induction count generalizing index slices input with
  | zero =>
      constructor
      · intro run
        cases run
        exact ⟨[], rfl, rfl⟩
      · rintro ⟨records, run, rfl⟩
        cases run
        rfl
  | succ count ih =>
      rw [decodeEventLoop, decodeEvent_eq_decodeRecord version readable]
      simp only [decodeRecordLoop, bind_eq_ok]
      cases decoded : decodeRecord m.asMetadataV14.view fieldByName index input with
      | ok result =>
          obtain ⟨record, middle⟩ := result
          dsimp only
          rw [ih]
          constructor
          · rintro ⟨records, run, rfl⟩
            exact ⟨record :: records, ⟨record, middle, rfl, records, rest, run, rfl⟩, rfl⟩
          · rintro ⟨_, ⟨_, _, first, records, _, run, returned⟩, rfl⟩
            cases first
            cases returned
            exact ⟨records, run, rfl⟩
      | error _ | panic | outOfFuel => simp

/-- With metadata of version 14 the slices receive the records that the registry's metadata give. -/
theorem decodeEventRecords_view (version : m.version = 14) (readable : ReadableNames m.asMetadataV14)
    {e : EventRecordsRaw} {t : Target types} {before after : EventSlices types} :
    e.decodeEventRecords room m t before = (after, .ok ()) ↔
      ∃ records, decodeEventRecords m.asMetadataV14.view t e = .ok records ∧
        after = before.appendAll room (records.map EventRecord.entry) := by
  rw [decodeEventRecords_eq_nil]
  constructor
  · rintro ⟨fieldByName, n, input, rest, rfl, counted, looped⟩
    obtain ⟨records, read, appended⟩ := (decodeEventLoop_eq_ok version readable).mp looped
    refine ⟨records, ?_, appended⟩
    exact Outcome.bind_eq_ok.mpr ⟨(n, input), counted, Outcome.bind_eq_ok.mpr ⟨_, read, rfl⟩⟩
  · rintro ⟨records, decoded, appended⟩
    cases t with
    | struct fieldByName =>
        obtain ⟨⟨n, input⟩, counted, decoded⟩ := Outcome.bind_eq_ok.mp decoded
        obtain ⟨⟨_, rest⟩, read, returned⟩ := Outcome.bind_eq_ok.mp decoded
        cases returned
        exact ⟨fieldByName, n, input, rest, rfl, counted,
          (decodeEventLoop_eq_ok version readable).mpr ⟨records, read, appended⟩⟩
    | notPointer | nilPointer | notStruct => cases decoded

end View

/-! ## Two events -/

/-- Version 13 with a module `Poll`, whose events are `Won` and `Lost`. -/
def pollMetadata : Metadata :=
  { Metadata.ofVersion 13 with
    asMetadataV13 :=
      { modules := [{ (default : MetadataFormat.ModuleMetadataV13) with
          name := [0x50, 0x6f, 0x6c, 0x6c]
          hasEvents := true
          events := [⟨[0x57, 0x6f, 0x6e], [], []⟩, ⟨[0x4c, 0x6f, 0x73, 0x74], [], []⟩] }]
        extrinsic := default } }

/-- The event structs of both events have a phase and topics. -/
def pollField (name : String) : Option (TargetField .none) :=
  if name = "Poll_Won" ∨ name = "Poll_Lost" then
    some ⟨some [⟨true, .phase⟩, ⟨true, .topics⟩], true⟩
  else
    none

/-- `Won` at finalization, `Lost` at initialization and `Won` in the first extrinsic. -/
def pollEvents : EventRecordsRaw := [0x0c, 1, 0, 0, 0, 2, 0, 1, 0, 0, 0, 0, 0, 0, 0, 0, 0]

/-- An event struct without topics. -/
def pollStruct (phase : Phase) : EventStruct .none := ⟨phase, [.topics []]⟩

/-- One element in a full array, and one in an array with room for two more. -/
def pollSlices : EventSlices .none where
  cells := fun address => pollStruct ⟨true, UInt32.ofNat address, false, false⟩
  limit := 4
  slices := fun name => if name = "Poll_Won" then ⟨0, 1, 1, by decide⟩ else ⟨1, 1, 3, by decide⟩
  allocated := by
    intro name
    split_ifs <;> decide

theorem eq_of_mem_pollFields {name : String} (member : name ∈ (Target.struct pollField).fieldNames) :
    name = "Poll_Won" ∨ name = "Poll_Lost" := by
  by_contra no_field
  change (pollField name).isSome = true at member
  rw [pollField, if_neg no_field] at member
  cases member

theorem separate_pollSlices : pollSlices.Separate (Target.struct pollField).fieldNames := by
  intro i i_member j j_member different address spare covered
  obtain rfl | rfl := eq_of_mem_pollFields i_member
  · have low : 1 ≤ address := spare.1
    have high : address < 1 := spare.2
    omega
  · obtain rfl | rfl := eq_of_mem_pollFields j_member
    · have low : 2 ≤ address := spare.1
      have high : address < 1 := covered.2
      omega
    · exact different rfl

theorem appendsEvents_of_separate_poll :
    ∃ after, pollEvents.decodeEventRecords (fun _ => id) pollMetadata (.struct pollField) pollSlices =
        (after, .ok ()) ∧
      after.elements "Poll_Won" = [pollStruct ⟨true, 0, false, false⟩,
        pollStruct ⟨false, 0, true, false⟩, pollStruct ⟨true, 0, false, false⟩] ∧
      after.elements "Poll_Lost" = [pollStruct ⟨true, 1, false, false⟩,
        pollStruct ⟨false, 0, false, true⟩] ∧
      AppendsEvents pollEvents pollMetadata (.struct pollField) pollSlices after :=
  ⟨_, rfl, rfl, rfl, appendsEvents_of_separate (fun _ => id) pollEvents pollMetadata (.struct pollField)
    pollSlices _ separate_pollSlices rfl⟩

/-- Both slices are cut from the beginning of one array. -/
def sharedSlices : EventSlices .none where
  cells := fun _ => pollStruct ⟨false, 0, false, false⟩
  limit := 3
  slices := fun _ => ⟨0, 0, 3, by decide⟩
  allocated := fun _ => le_rfl

/-- The events of the stream. -/
def pollRecords : List (EventRecord .none) :=
  [⟨"Poll_Won", ⟨false, 0, true, false⟩, [.topics []]⟩,
    ⟨"Poll_Lost", ⟨false, 0, false, true⟩, [.topics []]⟩,
    ⟨"Poll_Won", ⟨true, 0, false, false⟩, [.topics []]⟩]

theorem eventStream_pollEvents :
    EventStream pollMetadata pollField pollEvents.tail pollRecords [] :=
  .event ⟨_, _, _, _, _, _, _, rfl, rfl, rfl, rfl, rfl, rfl, rfl⟩
    (.event ⟨_, _, _, _, _, _, _, rfl, rfl, rfl, rfl, rfl, rfl, rfl⟩
      (.event ⟨_, _, _, _, _, _, _, rfl, rfl, rfl, rfl, rfl, rfl, rfl⟩ (.done _)))

/-- The event `Lost` is written over the first event `Won`. -/
theorem shared_array_overwritten :
    ∃ after, pollEvents.decodeEventRecords (fun _ => id) pollMetadata (.struct pollField) sharedSlices =
        (after, .ok ()) ∧
      ¬ AppendsEvents pollEvents pollMetadata (.struct pollField) sharedSlices after := by
  refine ⟨_, rfl, ?_⟩
  rintro ⟨fieldByName, n, input, records, rest, same_target, counted, length_eq, stream, appended⟩
  cases same_target
  cases counted
  obtain rfl := stream.unique eventStream_pollEvents length_eq
  have won := (appended "Poll_Won" rfl).1
  cases won

end SubstrateClient.Registry
