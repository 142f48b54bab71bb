import SubstrateClient.ListLookup
import SubstrateClient.Registry.Factory

/-!
# Decoders of compact types

`getCompactFieldDecoder` follows tuples and composites down to primitives, each of which is a compact
number on the wire.  The decoder it builds reads the numbers of all primitives in order, unless there
is a nil tuple among the parts: for that it builds a decoder which refuses every input.
-/

namespace SubstrateClient.Registry

open ByteParser Scale

variable (metadata : MetadataV14)

/-- The lookup keys of the parts of a type with a compact form. -/
def CompactShape.parts : CompactShape → List Int64
  | .tuple (some items) => items.map Si1LookupTypeID.int64
  | .composite fields => fields.map Si1Field.lookupIndex
  | _ => []

/-- A nil tuple is the type itself, or a part of a part of it. -/
inductive ReachesNilTuple : Si1TypeDef → Prop where
  | here {typeDef : Si1TypeDef} (shape : typeDef.compactShape = .tuple none) : ReachesNilTuple typeDef
  | part {typeDef : Si1TypeDef} {key : Int64} {type : Si1Type}
      (member : key ∈ typeDef.compactShape.parts) (found : metadata.efficientLookup key = some type)
      (inner : ReachesNilTuple type.typeDef) : ReachesNilTuple typeDef

/-- The number of primitives of a part, given the number for its definition. -/
def partLeafCount (count : Si1TypeDef → Nat) (key : Int64) : Nat :=
  match metadata.efficientLookup key with
  | none => 0
  | some type => count type.typeDef

/-- The number of primitives of a type, down to the given depth. -/
def leafCount : Nat → Si1TypeDef → Nat
  | 0, _ => 0
  | depth + 1, typeDef =>
      match typeDef.compactShape with
      | .primitive => 1
      | shape => (shape.parts.map (partLeafCount metadata (leafCount depth))).sum

/-- The value holds the given numbers at the primitives of the type, in order. -/
def CarriesNumbers : Nat → Si1TypeDef → List Nat → Value → Prop
  | 0, _, _, _ => False
  | depth + 1, typeDef, numbers, value =>
      match typeDef.compactShape with
      | .primitive => ∃ number : Nat, numbers = [number] ∧ value = .scalar (.uCompact (number : Int))
      | .tuple none => numbers = []
      | shape =>
          ∃ entries : List (List Nat × DecodedField Value),
            numbers = (entries.map Prod.fst).flatten ∧ value = .fields (entries.map Prod.snd) ∧
              List.Forall₂ (fun key entry => entry.2.lookupIndex = key ∧
                ∃ type, metadata.efficientLookup key = some type ∧
                  CarriesNumbers depth type.typeDef entry.1 entry.2.value) shape.parts entries

variable {metadata}

theorem leafCount_of_parts {depth : Nat} {typeDef : Si1TypeDef}
    (not_primitive : typeDef.compactShape ≠ .primitive) :
    leafCount metadata (depth + 1) typeDef =
      (typeDef.compactShape.parts.map (partLeafCount metadata (leafCount metadata depth))).sum := by
  rw [leafCount]
  cases shape : typeDef.compactShape with
  | primitive => exact absurd shape not_primitive
  | tuple items => rfl
  | composite fields => rfl
  | unsupported => rfl

theorem carries_of_parts {depth : Nat} {typeDef : Si1TypeDef}
    (not_primitive : typeDef.compactShape ≠ .primitive)
    (not_nil : typeDef.compactShape ≠ .tuple none) {numbers : List Nat}
    {entries : List (List Nat × DecodedField Value)}
    (split : numbers = (entries.map Prod.fst).flatten)
    (related : List.Forall₂ (fun key entry => entry.2.lookupIndex = key ∧
      ∃ type, metadata.efficientLookup key = some type ∧
        CarriesNumbers metadata depth type.typeDef entry.1 entry.2.value)
      typeDef.compactShape.parts entries) :
    CarriesNumbers metadata (depth + 1) typeDef numbers (.fields (entries.map Prod.snd)) := by
  rw [CarriesNumbers]
  cases shape : typeDef.compactShape with
  | primitive => exact absurd shape not_primitive
  | tuple items =>
      cases items with
      | none => exact absurd shape not_nil
      | some items =>
          rw [shape] at related
          exact ⟨entries, split, rfl, related⟩
  | composite fields =>
      rw [shape] at related
      exact ⟨entries, split, rfl, related⟩
  | unsupported =>
      rw [shape] at related
      exact ⟨entries, split, rfl, related⟩

/-- What a field of the decoder of a compact type is built from. -/
def PartBuilt (metadata : MetadataV14) (fuel : Nat) (key : Int64) (field : Field FieldDecoder) : Prop :=
  field.lookupIndex = key ∧ ∃ type, metadata.efficientLookup key = some type ∧
    getCompactFieldDecoder metadata fuel field.name type.typeDef = .ok field.decoder

theorem partBuilt_of_tupleItem {fuel : Nat} {entry : Si1LookupTypeID × Nat}
    {field : Field FieldDecoder}
    (built : getCompactTupleItem metadata (getCompactFieldDecoder metadata fuel) entry = .ok field) :
    PartBuilt metadata fuel entry.1.int64 field := by
  obtain ⟨type, decoder, found, decoder_eq, rfl⟩ := getCompactTupleItem_eq_ok built
  exact ⟨rfl, type, found, decoder_eq⟩

theorem partBuilt_of_compositeField {fuel : Nat} {source : Si1Field} {field : Field FieldDecoder}
    (built : getCompactCompositeField metadata (getCompactFieldDecoder metadata fuel) source =
      .ok field) : PartBuilt metadata fuel source.lookupIndex field := by
  obtain ⟨type, decoder, found, decoder_eq, rfl⟩ := getCompactCompositeField_eq_ok built
  exact ⟨rfl, type, found, decoder_eq⟩

/-- The three kinds of decoders that are built for compact types. -/
theorem getCompactFieldDecoder_cases {fuel : Nat} {fieldName : String} {typeDef : Si1TypeDef}
    {decoder : FieldDecoder}
    (built : getCompactFieldDecoder metadata (fuel + 1) fieldName typeDef = .ok decoder) :
    typeDef.compactShape = .primitive ∧ decoder = .value .uCompact ∨
      typeDef.compactShape = .tuple none ∧ decoder = .value .any ∨
      (typeDef.compactShape ≠ .primitive ∧ typeDef.compactShape ≠ .tuple none) ∧
        ∃ fields, decoder = .composite fieldName fields ∧
          List.Forall₂ (PartBuilt metadata fuel) typeDef.compactShape.parts fields := by
  rw [getCompactFieldDecoder] at built
  cases shape : typeDef.compactShape with
  | primitive =>
      rw [shape] at built
      cases built
      exact .inl ⟨rfl, rfl⟩
  | unsupported =>
      rw [shape] at built
      cases built
  | tuple items =>
      cases items with
      | none =>
          rw [shape] at built
          cases built
          exact .inr (.inl ⟨rfl, rfl⟩)
      | some items =>
          rw [shape] at built
          obtain ⟨fields, fields_eq, returned⟩ := Outcome.bind_eq_ok.mp built
          cases returned
          refine .inr (.inr ⟨⟨by simp, by simp⟩, fields, rfl, ?_⟩)
          have each := Outcome.mapM_eq_ok.mp fields_eq
          have keys : (CompactShape.tuple (some items)).parts =
              items.zipIdx.map fun entry => entry.1.int64 := by
            conv_lhs => rw [CompactShape.parts, ← List.zipIdx_map_fst 0 items, List.map_map]
            rfl
          rw [keys, List.forall₂_map_left_iff]
          exact each.imp fun entry field built => partBuilt_of_tupleItem built
  | composite fields =>
      rw [shape] at built
      obtain ⟨decoded, fields_eq, returned⟩ := Outcome.bind_eq_ok.mp built
      cases returned
      refine .inr (.inr ⟨⟨by simp, by simp⟩, decoded, rfl, ?_⟩)
      rw [CompactShape.parts, List.forall₂_map_left_iff]
      exact (Outcome.mapM_eq_ok.mp fields_eq).imp fun source field built =>
        partBuilt_of_compositeField built

/-! ## Reading the numbers -/

variable (cells : Cells)

/-- The decoder reads as many numbers as the type has primitives. -/
def ReadsNumbers (metadata : MetadataV14) (cells : Cells) (fuel : Nat) (typeDef : Si1TypeDef)
    (decoder : FieldDecoder) : Prop :=
  ∀ numbers : List Nat, numbers.length = leafCount metadata fuel typeDef →
    (∀ number ∈ numbers, number < 2 ^ 536) →
      ∃ value, CarriesNumbers metadata fuel typeDef numbers value ∧
        Reads (decoder.decode cells fuel) (numbers.flatMap compactBytes) value

/-- The fields of a decoder read the numbers of the parts one after another. -/
theorem reads_parts {fuel : Nat}
    (each : ∀ {fieldName : String} {typeDef : Si1TypeDef} {decoder : FieldDecoder},
      getCompactFieldDecoder metadata fuel fieldName typeDef = .ok decoder →
        ¬ ReachesNilTuple metadata typeDef → ReadsNumbers metadata cells fuel typeDef decoder)
    {keys : List Int64} {fields : List (Field FieldDecoder)}
    (built : List.Forall₂ (PartBuilt metadata fuel) keys fields)
    (no_nil : ∀ key ∈ keys, ∀ type, metadata.efficientLookup key = some type →
      ¬ ReachesNilTuple metadata type.typeDef)
    (numbers : List Nat)
    (length : numbers.length = (keys.map (partLeafCount metadata (leafCount metadata fuel))).sum)
    (small : ∀ number ∈ numbers, number < 2 ^ 536) :
    ∃ entries : List (List Nat × DecodedField Value),
      numbers = (entries.map Prod.fst).flatten ∧
      List.Forall₂ (fun key entry => entry.2.lookupIndex = key ∧
        ∃ type, metadata.efficientLookup key = some type ∧
          CarriesNumbers metadata fuel type.typeDef entry.1 entry.2.value) keys entries ∧
      Reads (FieldDecoder.decodeFields (fun inner => (FieldDecoder.decode cells fuel inner).mapError
        (.wrap errCompositeFieldDecoding)) fields) (numbers.flatMap compactBytes)
        (entries.map Prod.snd) := by
  induction built generalizing numbers with
  | nil =>
      obtain rfl : numbers = [] := List.eq_nil_of_length_eq_zero length
      exact ⟨[], rfl, .nil, reads_pure []⟩
  | @cons key field keys fields first_built _ ih =>
      obtain ⟨rfl, type, found, decoder_built⟩ := first_built
      have count : partLeafCount metadata (leafCount metadata fuel) field.lookupIndex =
          leafCount metadata fuel type.typeDef := by rw [partLeafCount, found]
      rw [List.map_cons, List.sum_cons, count] at length
      obtain ⟨value, carries, reads⟩ := each decoder_built
        (no_nil field.lookupIndex List.mem_cons_self type found)
        (numbers.take (leafCount metadata fuel type.typeDef))
        (by rw [List.length_take]; omega)
        (fun number member => small number (List.mem_of_mem_take member))
      obtain ⟨entries, split, related, later_reads⟩ := ih
        (fun key member => no_nil key (List.mem_cons_of_mem _ member))
        (numbers.drop (leafCount metadata fuel type.typeDef))
        (by rw [List.length_drop]; omega)
        (fun number member => small number (List.mem_of_mem_drop member))
      refine ⟨(numbers.take (leafCount metadata fuel type.typeDef),
        ⟨field.name, value, field.lookupIndex⟩) :: entries, ?_, ?_, ?_⟩
      · rw [List.map_cons, List.flatten_cons, ← split, List.take_append_drop]
      · exact .cons ⟨rfl, type, found, carries⟩ related
      · have bytes : numbers.flatMap compactBytes =
            (numbers.take (leafCount metadata fuel type.typeDef)).flatMap compactBytes ++
              (numbers.drop (leafCount metadata fuel type.typeDef)).flatMap compactBytes := by
          rw [← List.flatMap_append, List.take_append_drop]
        rw [bytes, FieldDecoder.decodeFields, List.mapM_cons]
        have first_reads := (reads.mapError (GoError.wrap errCompositeFieldDecoding)).bind_pure
          fun value => (⟨field.name, value, field.lookupIndex⟩ : DecodedField Value)
        exact first_reads.bind (later_reads.bind_pure fun later =>
          (⟨field.name, value, field.lookupIndex⟩ : DecodedField Value) :: later)

/-- The decoder of a compact type without nil tuples reads the numbers of its primitives. -/
theorem reads_compact {fuel : Nat} {fieldName : String} {typeDef : Si1TypeDef}
    {decoder : FieldDecoder}
    (built : getCompactFieldDecoder metadata fuel fieldName typeDef = .ok decoder)
    (no_nil : ¬ ReachesNilTuple metadata typeDef) :
    ReadsNumbers metadata cells fuel typeDef decoder := by
  induction fuel generalizing fieldName typeDef decoder with
  | zero => cases built
  | succ fuel ih =>
      intro numbers length small
      rcases getCompactFieldDecoder_cases built with
        ⟨shape, rfl⟩ | ⟨shape, -⟩ | ⟨⟨not_primitive, not_nil⟩, fields, rfl, parts_built⟩
      · rw [leafCount, shape] at length
        obtain ⟨number, rfl⟩ := List.length_eq_one_iff.mp length
        refine ⟨.scalar (.uCompact (number : Int)), ?_, ?_⟩
        · rw [CarriesNumbers, shape]
          exact ⟨number, rfl, rfl⟩
        · have number_reads := reads_compactBytes (small number List.mem_cons_self)
          have value_reads :=
            (number_reads.bind_pure fun number => ((number : Int) : UCompact)).bind_pure Scalar.uCompact
          rw [List.flatMap_singleton]
          exact (value_reads.mapError (GoError.wrap errValueDecoding)).bind_pure Value.scalar
      · exact absurd (.here shape) no_nil
      · rw [leafCount_of_parts not_primitive] at length
        obtain ⟨entries, split, related, reads⟩ := reads_parts cells ih parts_built
          (fun key member type found inner => no_nil (.part member found inner)) numbers length small
        exact ⟨_, carries_of_parts not_primitive not_nil split related, reads.bind_pure Value.fields⟩

/-! ## Nil tuples -/

/-- A decoder with a nil tuple among its parts refuses every input. -/
theorem decode_ne_ok_of_nilTuple {typeDef : Si1TypeDef} (reaches : ReachesNilTuple metadata typeDef)
    {fuel : Nat} {fieldName : String} {decoder : FieldDecoder}
    (built : getCompactFieldDecoder metadata fuel fieldName typeDef = .ok decoder) (depth : Nat)
    (input : List UInt8) (result : Value × List UInt8) :
    decoder.decode cells depth input ≠ .ok result := by
  induction reaches generalizing fuel fieldName decoder depth input result with
  | here shape =>
      cases fuel with
      | zero => cases built
      | succ fuel =>
          rw [getCompactFieldDecoder, shape] at built
          cases built
          cases depth with
          | zero => nofun
          | succ depth => nofun
  | @part typeDef key type member found _ ih =>
      cases fuel with
      | zero => cases built
      | succ fuel =>
          rcases getCompactFieldDecoder_cases built with
            ⟨shape, -⟩ | ⟨shape, -⟩ | ⟨-, fields, rfl, parts_built⟩
          · rw [shape] at member
            cases member
          · rw [shape] at member
            cases member
          · obtain ⟨field, field_member, -, type', found', field_built⟩ :=
              ListLookup.exists_related_of_mem_left parts_built member
            rw [found] at found'
            cases found'
            cases depth with
            | zero => nofun
            | succ depth =>
                intro success
                obtain ⟨decoded, middle, run, -⟩ := bind_eq_ok.mp success
                obtain ⟨before, ⟨value, rest⟩, field_run⟩ := succeeds_of_mapM run field_member
                obtain ⟨inner, after, inner_run, -⟩ := bind_eq_ok.mp field_run
                exact ih field_built depth before _ (Outcome.mapError_eq_ok.mp inner_run)

theorem mapM_encodeUintCompact {numbers : List Nat} (small : ∀ number ∈ numbers, number < 2 ^ 536) :
    numbers.mapM (fun number : Nat => encodeUintCompact number) =
      .ok (numbers.map compactBytes) := by
  induction numbers with
  | nil => rfl
  | cons number numbers ih =>
      rw [List.forall_mem_cons] at small
      rw [List.mapM_cons, encodeUintCompact_eq small.1, ih small.2]
      rfl

/-- The decoder reads the compact numbers of the primitives, whatever they are and whatever follows,
with any fuel from what its construction took. -/
def ReadsLeaves (metadata : MetadataV14) (cells : Cells) (fuel : Nat) (typeDef : Si1TypeDef)
    (decoder : FieldDecoder) : Prop :=
  ∀ (numbers : List Nat) (chunks : List (List UInt8)) (rest : List UInt8) (depth : Nat),
    numbers.length = leafCount metadata fuel typeDef → (∀ number ∈ numbers, number < 2 ^ 536) →
      numbers.mapM (fun number : Nat => encodeUintCompact number) = .ok chunks → fuel ≤ depth →
        ∃ value, CarriesNumbers metadata fuel typeDef numbers value ∧
          decoder.decode cells depth (chunks.flatten ++ rest) = .ok (value, rest)

/-- The decoder that is built for a compact type reads the numbers of its primitives exactly when
there is no nil tuple among its parts. -/
theorem readsLeaves_iff {fuel : Nat} {fieldName : String} {typeDef : Si1TypeDef}
    {decoder : FieldDecoder}
    (built : getCompactFieldDecoder metadata fuel fieldName typeDef = .ok decoder) :
    ReadsLeaves metadata cells fuel typeDef decoder ↔ ¬ ReachesNilTuple metadata typeDef := by
  constructor
  · intro reads reaches
    have zeros : ∀ number ∈ List.replicate (leafCount metadata fuel typeDef) 0, number < 2 ^ 536 := by
      intro number member
      rw [List.eq_of_mem_replicate member]
      exact lt_compact_bound (by norm_num)
    obtain ⟨value, -, decoded⟩ := reads _ _ [] fuel List.length_replicate zeros
      (mapM_encodeUintCompact zeros) le_rfl
    exact decode_ne_ok_of_nilTuple cells reaches built fuel _ _ decoded
  · intro no_nil numbers chunks rest depth length small encoded deep
    rw [mapM_encodeUintCompact small] at encoded
    cases encoded
    obtain ⟨value, carries, reads⟩ := reads_compact cells built no_nil numbers length small
    have settled := settles_of_le (FieldDecoder.settling_decode cells decoder) deep
    rw [← List.flatMap_def]
    exact ⟨value, carries, settled.ok (reads rest)⟩

/-- A tuple type of which the metadata has only primitives. -/
def pairType : Si1TypeDef := { isTuple := true, tuple := some [(1 : Int), (1 : Int)] }

/-- Metadata with one primitive type. -/
def primitiveMetadata : MetadataV14 :=
  ⟨[], fun key => if key = 1 then some ⟨[], { isPrimitive := true, primitive := 3 }⟩ else none⟩

/-- The decoder of a pair of compact numbers. -/
def pairDecoder : FieldDecoder :=
  .composite "pair" [⟨"tuple_item_0", .value .uCompact, 1⟩, ⟨"tuple_item_1", .value .uCompact, 1⟩]

theorem readsLeaves_pair : ReadsLeaves primitiveMetadata [] 2 pairType pairDecoder := by
  have built : getCompactFieldDecoder primitiveMetadata 2 "pair" pairType = .ok pairDecoder := rfl
  refine (readsLeaves_iff [] built).mpr fun reaches => ?_
  cases reaches with
  | here shape => cases shape
  | part member found inner =>
      obtain ⟨_, rfl⟩ := List.mem_replicate.mp (show _ ∈ List.replicate 2 (1 : Int64) from member)
      cases found
      cases inner with
      | here shape => cases shape
      | part member => cases member

/-- For the empty tuple, which the metadata decoder leaves nil, a decoder is built that decodes
nothing. -/
theorem not_readsLeaves_nilTuple :
    ¬ ∀ (metadata : MetadataV14) (cells : Cells) (fuel : Nat) (fieldName : String)
      (typeDef : Si1TypeDef) (decoder : FieldDecoder),
      getCompactFieldDecoder metadata fuel fieldName typeDef = .ok decoder →
        ReadsLeaves metadata cells fuel typeDef decoder := by
  intro all
  have built : getCompactFieldDecoder primitiveMetadata 1 "empty" { isTuple := true } =
      .ok (.value .any) := rfl
  obtain ⟨value, -, decoded⟩ := all _ [] 1 _ _ _ built [] [] [] 1 rfl (by simp) rfl le_rfl
  cases decoded

end SubstrateClient.Registry
