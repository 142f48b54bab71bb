import SubstrateClient.Registry.Lookups
import SubstrateClient.Registry.Parser

/-!
# Event records

`DecodeEventRecords` decodes events into the slices of a struct that the client declared, and asks the
metadata for the name of every event.  `ParseEvents` reads the same bytes with a registry.
-/

namespace SubstrateClient.Registry

open ByteParser ListLookup Scale SubstrateClient.Types

variable {types : MethodTypes}

/-! ## The target -/

/-- The types of the fields of an event struct, as far as `DecodeEventRecords` tells them apart. -/
inductive HolderType (types : MethodTypes) where
  | phase
  /-- `[]Hash`. -/
  | topics
  | other (type : GoType types)

/-- The type is `types.Phase`. -/
def HolderType.isPhase : HolderType types → Bool
  | .phase => true
  | _ => false

/-- The type is `[]types.Hash`. -/
def HolderType.isTopics : HolderType types → Bool
  | .topics => true
  | _ => false

/-- A field of an event struct. -/
structure HolderField (types : MethodTypes) where
  exported : Bool
  type : HolderType types

/-- The value of a field of an event struct. -/
inductive HolderValue (types : MethodTypes) where
  | phase (value : Phase)
  | topics (value : List Hash)
  | other (type : GoType types) (value : type.Val)

/-- A field of the target struct, as reflection sees it. -/
structure TargetField (types : MethodTypes) where
  /-- The fields of the element type; none if the field has no element type or that is no struct. -/
  holder : Option (List (HolderField types))
  /-- The field is a slice that can be set. -/
  appendable : Bool

/-- The target handed to `DecodeEventRecords`. -/
inductive Target (types : MethodTypes) where
  | notPointer
  | nilPointer
  | notStruct
  /-- A struct, with what `FieldByName` finds in it. -/
  | struct (fieldByName : String → Option (TargetField types))

/-- A record that is appended to the slice of its field. -/
structure EventRecord (types : MethodTypes) where
  fieldName : String
  phase : Phase
  /-- The values of all fields but the first. -/
  values : List (HolderValue types)

/-- The value of the last field. -/
def EventRecord.topics (record : EventRecord types) : List Hash :=
  match record.values.getLast? with
  | some (.topics value) => value
  | _ => []

/-! ## Decoding -/

/-- `Decode` into a new field of an event struct. -/
def HolderType.decode : HolderType types → Decoder (HolderValue types)
  | .phase => do
      let value ← Phase.decode
      pure (.phase value)
  | .topics => do
      let value ← decodeTopics
      pure (.topics value)
  | .other type => do
      let value ← type.decode type.zero
      pure (.other type value)

/-- A field that is not exported cannot be handed to the decoder. -/
def HolderField.decode (field : HolderField types) : Decoder (HolderValue types) :=
  if field.exported then field.type.decode else abort

/-- The loop over the fields of an event struct, from the given position. -/
def decodeHolderFields (place : Nat → GoError → GoError) :
    Nat → List (HolderField types) → Decoder (List (HolderValue types))
  | _, [] => pure []
  | j, field :: fields => do
      let value ← field.decode.mapError (place j)
      let values ← decodeHolderFields place (j + 1) fields
      pure (value :: values)

/-- What the messages of `DecodeEventRecords` say about an event. -/
def recordText (index : Nat) (eventID : EventID) (fieldName : String) : String :=
  "event #" ++ toString index ++ " with EventID [" ++ toString eventID.1.toNat ++ " " ++
    toString eventID.2.toNat ++ "], field " ++ fieldName

/-- The checks of an event struct: two fields at least, a phase first and the topics last. -/
def holderError (text : String) (fields : List (HolderField types)) : Option GoError :=
  if fields.length < 2 then
    some (.text ("expected " ++ text ++ " to have at least 2 fields (for Phase and Topics), but has " ++
      toString fields.length ++ " fields"))
  else if !fields.head?.any (·.type.isPhase) then
    some (.text ("expected the first field of " ++ text ++ " to be of type types.Phase"))
  else if !fields.getLast?.any (·.type.isTopics) then
    some (.text ("expected the last field of " ++ text ++ " to be of type []types.Hash for Topics"))
  else
    none

/-- What a round of `DecodeEventRecords` does once the field of the target is known. -/
def decodeHolder (index : Nat) (phase : Phase) (eventID : EventID) (fieldName : String)
    (field : TargetField types) : Decoder (EventRecord types) :=
  let text := recordText index eventID fieldName
  match field.holder with
  | none => abort
  | some fields =>
      match holderError text fields with
      | some err => fail err
      | none =>
          -- Setting the phase comes before the other fields are decoded, appending comes last.
          if fields.head?.any (·.exported) then do
            let values ← decodeHolderFields (fun j err =>
              .annotated ("unable to decode field " ++ toString j ++ " " ++ text ++ ": ") err) 1 fields.tail
            if field.appendable then
              pure ⟨fieldName, phase, values⟩
            else
              abort
          else
            abort

section Records

variable (metadata : MetadataV14) (fieldByName : String → Option (TargetField types))

/-- What a round of `DecodeEventRecords` does once phase and identifier are read. -/
def decodeRecordBody (index : Nat) (phase : Phase) (eventID : EventID) : Decoder (EventRecord types) :=
  match findEventNamesForEventID metadata eventID with
  | .ok (moduleName, eventName) =>
      let fieldName := moduleName ++ "_" ++ eventName
      match fieldByName fieldName with
      | none => fail (.printed (Utf8Text.bytes ("unable to find field " ++ fieldName ++ " for event #" ++
          toString index ++ " with EventID [" ++ toString eventID.1.toNat ++ " " ++
          toString eventID.2.toNat ++ "]")))
      | some field => decodeHolder index phase eventID fieldName field
  | .error err =>
      fail (.annotated ("unable to find event with EventID [" ++ toString eventID.1.toNat ++ " " ++
        toString eventID.2.toNat ++ "] in metadata for event #" ++ toString index ++ ": ") err)
  | .panic => abort
  | .outOfFuel => exhaust

/-- One round of the loop of `DecodeEventRecords`. -/
def decodeRecord (index : Nat) : Decoder (EventRecord types) := do
  let phase ← Phase.decode.mapError
    (.annotated ("unable to decode Phase for event #" ++ toString index ++ ": "))
  let eventID ← EventID.decode.mapError
    (.annotated ("unable to decode EventID for event #" ++ toString index ++ ": "))
  decodeRecordBody metadata fieldByName index phase eventID

/-- The loop of `DecodeEventRecords`: the records in the order in which they are appended. -/
def decodeRecordLoop : Nat → Nat → Decoder (List (EventRecord types))
  | _, 0 => pure []
  | index, count + 1 => do
      let record ← decodeRecord metadata fieldByName index
      let records ← decodeRecordLoop (index + 1) count
      pure (record :: records)

end Records

/-- `DecodeEventRecords`. -/
def decodeEventRecords (metadata : MetadataV14) (target : Target types) (raw : List UInt8) :
    Outcome GoError (List (EventRecord types)) :=
  match target with
  | .notPointer => .error (.text "target must be a pointer")
  | .nilPointer => .error (.text "target is a nil pointer")
  | .notStruct => .error (.text "target must point to a struct")
  | .struct fieldByName => do
      let (n, input) ← decodeUintCompact raw
      let (records, _) ← decodeRecordLoop metadata fieldByName 0 (n % 2 ^ 64) input
      pure records

/-! ## One event -/

theorem decodeHolderFields_eq_ok {place : Nat → GoError → GoError} {j : Nat}
    {fields : List (HolderField types)} {input rest : List UInt8} {values : List (HolderValue types)} :
    decodeHolderFields place j fields input = .ok (values, rest) ↔
      fields.mapM HolderField.decode input = .ok (values, rest) := by
  induction fields generalizing j input rest values with
  | nil => exact Iff.rfl
  | cons field fields ih =>
      rw [decodeHolderFields, List.mapM_cons]
      simp only [bind_eq_ok, mapError_apply, Outcome.mapError_eq_ok, ih]

/-- An event struct that passes the checks ends with the topics. -/
theorem exists_topics_of_holderError {text : String} {fields : List (HolderField types)}
    (passes : holderError text fields = none) :
    ∃ last, last.type = .topics ∧ fields.tail = fields.tail.dropLast ++ [last] := by
  unfold holderError at passes
  split_ifs at passes with short not_phase not_topics
  obtain ⟨first, others, rfl⟩ := List.exists_cons_of_length_pos (by omega : 0 < fields.length)
  have nonempty : others ≠ [] := by
    rintro rfl
    simp at short
  refine ⟨others.getLast nonempty, ?_, (List.dropLast_append_getLast nonempty).symm⟩
  simp only [List.getLast?_cons, List.getLast?_eq_some_getLast nonempty, Option.getD_some,
    Option.any_some, Bool.not_eq_true', Bool.not_eq_false] at not_topics
  cases last_type : (others.getLast nonempty).type with
  | topics => rfl
  | _ =>
      rw [last_type] at not_topics
      cases not_topics

theorem decode_eq_ok_of_topics {field : HolderField types} (is_topics : field.type = .topics)
    {input rest : List UInt8} {value : HolderValue types} (run : field.decode input = .ok (value, rest)) :
    ∃ topics, decodeTopics input = .ok (topics, rest) ∧ value = .topics topics := by
  unfold HolderField.decode at run
  rw [is_topics] at run
  split_ifs at run with exported
  · obtain ⟨topics, after, decoded, returned⟩ := bind_eq_ok.mp run
    cases returned
    exact ⟨topics, decoded, rfl⟩
  · cases run

/-- A decoded event struct passed the checks, and its fields but the first were decoded in order. -/
theorem fields_of_decodeHolder {index : Nat} {phase : Phase} {eventID : EventID} {fieldName : String}
    {field : TargetField types} {input rest : List UInt8} {record : EventRecord types}
    (run : decodeHolder index phase eventID fieldName field input = .ok (record, rest)) :
    ∃ fields values, field.holder = some fields ∧
      holderError (recordText index eventID fieldName) fields = none ∧
      fields.tail.mapM HolderField.decode input = .ok (values, rest) ∧
      record = ⟨fieldName, phase, values⟩ := by
  unfold decodeHolder at run
  cases has_holder : field.holder with
  | none =>
      rw [has_holder] at run
      cases run
  | some fields =>
      rw [has_holder] at run
      dsimp only at run
      cases passes : holderError (recordText index eventID fieldName) fields with
      | some err =>
          rw [passes] at run
          cases run
      | none =>
          rw [passes] at run
          dsimp only at run
          split_ifs at run with exported appendable
          · obtain ⟨values, after, decoded, returned⟩ := bind_eq_ok.mp run
            cases returned
            exact ⟨fields, values, rfl, passes, decodeHolderFields_eq_ok.mp decoded, rfl⟩
          · obtain ⟨_, _, _, aborted⟩ := bind_eq_ok.mp run
            cases aborted
          · cases run

/-- A decoded event struct ends with the topics, and what stands before them was decoded first. -/
theorem decodeHolder_eq_ok {index : Nat} {phase : Phase} {eventID : EventID} {fieldName : String}
    {field : TargetField types} {input rest : List UInt8} {record : EventRecord types}
    (run : decodeHolder index phase eventID fieldName field input = .ok (record, rest)) :
    ∃ fields values topics middle, field.holder = some fields ∧
      fields.tail.dropLast.mapM HolderField.decode input = .ok (values, middle) ∧
      decodeTopics middle = .ok (topics, rest) ∧
      record = ⟨fieldName, phase, values ++ [.topics topics]⟩ := by
  obtain ⟨fields, all, has_holder, passes, decoded, rfl⟩ := fields_of_decodeHolder run
  obtain ⟨last, is_topics, split⟩ := exists_topics_of_holderError passes
  rw [split, List.mapM_append] at decoded
  obtain ⟨values, middle, before_topics, decoded⟩ := bind_eq_ok.mp decoded
  obtain ⟨ending, after, at_topics, returned⟩ := bind_eq_ok.mp decoded
  cases returned
  rw [List.mapM_cons] at at_topics
  obtain ⟨value, _, last_decoded, at_topics⟩ := bind_eq_ok.mp at_topics
  obtain ⟨topics, topics_decoded, rfl⟩ := decode_eq_ok_of_topics is_topics last_decoded
  cases at_topics
  exact ⟨fields, values, topics, middle, has_holder, before_topics, topics_decoded, rfl⟩

/-! ## The two decoders -/

/-- For every event the static types of the fields between phase and topics consume what the decoder
of the registry consumes. -/
def SameConsumption (metadata : MetadataV14) (fieldByName : String → Option (TargetField types))
    (cells : Cells) (eventRegistry : TypeRegistry EventID) : Prop :=
  ∀ eventID eventDecoder module name field fields, eventRegistry.lookup eventID = some eventDecoder →
    findEventNamesForEventID metadata eventID = .ok (module, name) →
    fieldByName (module ++ "_" ++ name) = some field → field.holder = some fields →
      ∀ fuel input decoded rest values rest',
        eventDecoder.decode cells fuel input = .ok (decoded, rest) →
        fields.tail.dropLast.mapM HolderField.decode input = .ok (values, rest') → rest' = rest

/-- Record and event have the same phase and topics, and both are named after the module and the event
that the metadata give for the identifier. -/
structure SameEvent (metadata : MetadataV14) (record : EventRecord types) (event : Event) : Prop where
  phase : record.phase = event.phase
  topics : record.topics = event.topics
  name : ∃ module name, findEventNamesForEventID metadata event.eventID = .ok (module, name) ∧
    record.fieldName = module ++ "_" ++ name ∧ event.name = module ++ "." ++ name

section Agreement

variable {metadata : MetadataV14} {fieldByName : String → Option (TargetField types)} {cells : Cells}
  {eventRegistry : TypeRegistry EventID} {input rest rest' : List UInt8} {record : EventRecord types}
  {event : Event}

/-- The name that the metadata give for an event is the name of its decoder in the registry. -/
def NamesAgree (metadata : MetadataV14) (eventRegistry : TypeRegistry EventID) : Prop :=
  ∀ eventID eventDecoder module name, eventRegistry.lookup eventID = some eventDecoder →
    findEventNamesForEventID metadata eventID = .ok (module, name) →
      eventDecoder.name = module ++ "." ++ name

/-- One event is decoded alike. -/
theorem same_of_decodeRecord (names : NamesAgree metadata eventRegistry)
    (same : SameConsumption metadata fieldByName cells eventRegistry) {index index' fuel : Nat}
    (static : decodeRecord metadata fieldByName index input = .ok (record, rest))
    (dynamic : parseEvent cells eventRegistry index' fuel input = .ok (event, rest')) :
    SameEvent metadata record event ∧ rest = rest' := by
  obtain ⟨phase, afterPhase, phase_read, static⟩ := bind_eq_ok.mp static
  obtain ⟨eventID, afterID, id_read, static⟩ := bind_eq_ok.mp static
  obtain ⟨phase', afterPhase', phase_read', dynamic⟩ := bind_eq_ok.mp dynamic
  obtain ⟨eventID', afterID', id_read', dynamic⟩ := bind_eq_ok.mp dynamic
  rw [mapError_apply, Outcome.mapError_eq_ok] at phase_read id_read phase_read' id_read'
  cases phase_read.symm.trans phase_read'
  cases id_read.symm.trans id_read'
  unfold parseEventBody at dynamic
  unfold decodeRecordBody at static
  cases stored : eventRegistry.lookup eventID with
  | none =>
      rw [stored] at dynamic
      cases dynamic
  | some eventDecoder =>
      rw [stored] at dynamic
      obtain ⟨fields, afterFields, fields_read, dynamic⟩ := bind_eq_ok.mp dynamic
      obtain ⟨topics, afterTopics, topics_read, returned⟩ := bind_eq_ok.mp dynamic
      cases returned
      cases found : findEventNamesForEventID metadata eventID with
      | ok names_found =>
          obtain ⟨module, name⟩ := names_found
          rw [found] at static
          dsimp only at static
          cases target : fieldByName (module ++ "_" ++ name) with
          | none =>
              rw [target] at static
              cases static
          | some field =>
              rw [target] at static
              obtain ⟨holder, values, topics', middle, has_holder, values_read, topics_read', rfl⟩ :=
                decodeHolder_eq_ok static
              obtain rfl := same eventID eventDecoder module name field holder stored found target
                has_holder fuel afterID fields afterFields values middle
                (Outcome.mapError_eq_ok.mp fields_read) values_read
              cases topics_read'.symm.trans (Outcome.mapError_eq_ok.mp topics_read)
              refine ⟨⟨rfl, ?_, module, name, found, rfl, names _ _ _ _ stored found⟩, rfl⟩
              simp [EventRecord.topics]
      | error _ | panic | outOfFuel =>
          rw [found] at static
          cases static

/-- By induction on the number of events: both loops stand at the same byte before every event. -/
theorem same_of_decodeRecordLoop (names : NamesAgree metadata eventRegistry)
    (same : SameConsumption metadata fieldByName cells eventRegistry) {fuel count index index' : Nat}
    {records : List (EventRecord types)} {events : List Event}
    (static : decodeRecordLoop metadata fieldByName index count input = .ok (records, rest))
    (dynamic : parseEventLoop cells eventRegistry fuel index' count input = .ok (events, rest')) :
    List.Forall₂ (SameEvent metadata) records events := by
  induction count generalizing index index' input records events with
  | zero =>
      cases static
      cases dynamic
      exact .nil
  | succ count ih =>
      obtain ⟨record, afterRecord, record_decoded, static⟩ := bind_eq_ok.mp static
      obtain ⟨later, _, later_decoded, returned⟩ := bind_eq_ok.mp static
      cases returned
      obtain ⟨event, afterEvent, event_parsed, dynamic⟩ := bind_eq_ok.mp dynamic
      obtain ⟨others, _, others_parsed, returned⟩ := bind_eq_ok.mp dynamic
      cases returned
      obtain ⟨first_same, rfl⟩ := same_of_decodeRecord names same record_decoded event_parsed
      exact .cons first_same (ih later_decoded others_parsed)

/-- Distinct indices leave one pallet and one variant for an identifier, whoever looks for them. -/
theorem namesAgree_of_created (distinct : metadata.DistinctIndices) {mapOrder : MapOrder} {fuel : Nat}
    {before final : Factory}
    (created : createEventRegistry metadata mapOrder fuel before = .ok (eventRegistry, final)) :
    NamesAgree metadata eventRegistry := by
  intro eventID eventDecoder module name stored found
  obtain ⟨pallet, member, variant, is_entry, same_pallet, same_variant, rfl, rfl⟩ :=
    (findEventNamesForEventID_eq_ok distinct created).mp found
  obtain ⟨other, other_stored, name_eq⟩ := (lookup_name_iff distinct created).mpr
    ⟨pallet, member, variant, is_entry, same_pallet, same_variant, rfl⟩
  obtain rfl := Option.some.inj (stored.symm.trans other_stored)
  exact name_eq

end Agreement

/-- `DecodeEventRecords` and `ParseEvents` see the same events in the same order. -/
theorem decodeEventRecords_agrees (metadata : MetadataV14) (mapOrder : MapOrder) (fuel fuel' : Nat)
    (before final : Factory) (eventRegistry : TypeRegistry EventID)
    (fieldByName : String → Option (TargetField types)) (data : List UInt8)
    (records : List (EventRecord types)) (events : List Event) (distinct : metadata.DistinctIndices)
    (created : createEventRegistry metadata mapOrder fuel before = .ok (eventRegistry, final))
    (same : SameConsumption metadata fieldByName final.cells eventRegistry)
    (decoded : decodeEventRecords metadata (.struct fieldByName) data = .ok records)
    (parsed : parseEvents final.cells eventRegistry fuel' data = .ok events) :
    records.length = events.length ∧
      ∀ (i : Nat) record event, records[i]? = some record → events[i]? = some event →
        SameEvent metadata record event := by
  obtain ⟨⟨n, afterCount⟩, count_read, decoded⟩ := Outcome.bind_eq_ok.mp decoded
  obtain ⟨⟨_, _⟩, records_read, returned⟩ := Outcome.bind_eq_ok.mp decoded
  cases returned
  obtain ⟨⟨_, _⟩, events_read, returned⟩ := Outcome.bind_eq_ok.mp parsed
  cases returned
  obtain ⟨n', afterCount', count_read', events_read⟩ := bind_eq_ok.mp events_read
  cases count_read.symm.trans (Outcome.mapError_eq_ok.mp count_read')
  have related := same_of_decodeRecordLoop (namesAgree_of_created distinct created) same records_read
    events_read
  refine ⟨related.length_eq, ?_⟩
  intro i record event record_at event_at
  obtain ⟨in_records, rfl⟩ := List.getElem?_eq_some_iff.mp record_at
  obtain ⟨in_events, rfl⟩ := List.getElem?_eq_some_iff.mp event_at
  exact List.Forall₂.get related in_records in_events

/-- One event with one field, a byte. -/
def movedMetadata : MetadataV14 where
  pallets := [⟨"System", false, (0 : Int), true, (1 : Int), false, (0 : Int), 0⟩]
  efficientLookup := toMap
    [⟨(1 : Int), ["Event"],
        { isVariant := true, variant := [⟨"Moved", [⟨true, "to", (2 : Int), false, ""⟩], 1⟩] }⟩,
      ⟨(2 : Int), [], { isPrimitive := true, primitive := 3 }⟩]

/-- The event struct of the only event. -/
def movedTarget (name : String) : Option (TargetField .none) :=
  if name = "System_Moved" then
    some ⟨some [⟨true, .phase⟩, ⟨true, .other (.num .u8)⟩, ⟨true, .topics⟩], true⟩
  else
    none

def movedDecoder : TypeDecoder := ⟨"System.Moved", [⟨"to", .value (.num .u8), 2⟩]⟩

/-- Both read one byte. -/
theorem sameConsumption_moved (cells : Cells) :
    SameConsumption movedMetadata movedTarget cells [((0, 1), movedDecoder)] := by
  intro eventID eventDecoder module name field fields stored _ target has_holder fuel input decoded rest
    values rest' dynamic static
  obtain rfl : eventDecoder = movedDecoder := by
    simp only [List.lookup_cons, List.lookup_nil] at stored
    split at stored
    · exact (Option.some.inj stored).symm
    · cases stored
  unfold movedTarget at target
  split_ifs at target
  cases target
  cases has_holder
  cases fuel with
  | zero => cases dynamic
  | succ fuel =>
      cases input with
      | nil => cases dynamic
      | cons byte input =>
          cases dynamic
          cases static
          rfl

theorem decodeEventRecords_agrees_moved :
    ∃ final records events,
      createEventRegistry movedMetadata .newestFirst 3 (newFactory [] []) =
        .ok ([((0, 1), movedDecoder)], final) ∧
      decodeEventRecords movedMetadata (.struct movedTarget) [0x04, 2, 0, 1, 9, 0] = .ok records ∧
      parseEvents final.cells [((0, 1), movedDecoder)] 2 [0x04, 2, 0, 1, 9, 0] = .ok events ∧
      records.length = 1 ∧ events.length = 1 ∧
      ∀ (i : Nat) record event, records[i]? = some record → events[i]? = some event →
        SameEvent movedMetadata record event := by
  refine ⟨_, _, _, rfl, rfl, rfl, rfl, rfl, ?_⟩
  exact (decodeEventRecords_agrees movedMetadata .newestFirst 3 2 (newFactory [] []) _
    [((0, 1), movedDecoder)] movedTarget [0x04, 2, 0, 1, 9, 0] _ _
    (distinctIndices_toMap (by decide) (by simp)) rfl (sameConsumption_moved _) rfl rfl).2

end SubstrateClient.Registry
