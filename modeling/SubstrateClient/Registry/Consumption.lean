import SubstrateClient.Registry.Parser
import SubstrateClient.Registry.Recursive
import SubstrateClient.Scale.Truncation

/-!
# What parsing consumes

Every decoder splits off a front part of its input and does not look beyond it.  A parse therefore
accounts for the bytes up to some point; bytes behind that point are neither read nor reported.
-/

namespace SubstrateClient.Registry

open ByteParser ListLookup Scale SubstrateClient.Types

/-! ## Values -/

theorem delimited_decodeSlice {α : Type} {grants : Nat → Bool} {zero : α} {decodeItem : α → Decoder α}
    {target : GoSlice α}
    (each : ∀ start, Delimited (decodeItem start)) :
    Delimited (Scale.decodeSlice grants zero decodeItem target) := by
  have body : Delimited (decodeUintCompact >>= Scale.decodeItems grants zero decodeItem target) := by
    refine delimited_decodeUintCompact.bind fun codedLen => ?_
    unfold Scale.decodeItems
    split_ifs
    · exact delimited_fail _
    · exact delimited_fail _
    · exact delimited_abort
    · exact (delimited_mapM fun start _ => each start).bind fun elems => delimited_pure _
  intro input value rest success
  unfold Scale.decodeSlice at success
  split at success
  · rename_i codedLen after prefixed
    have run : (decodeUintCompact >>= Scale.decodeItems grants zero decodeItem target) input =
        .ok (value, rest) := by
      rw [bind_apply, prefixed]
      exact success
    obtain ⟨consumed, split, reads⟩ := body input value rest run
    refine ⟨consumed, split, fun other => ?_⟩
    obtain ⟨length, middle, length_read, items_read⟩ := bind_eq_ok.mp (reads other)
    rw [Scale.decodeSlice, length_read]
    exact items_read
  · cases success

theorem delimited_num {types : MethodTypes} (kind : NumKind) (target : kind.Val) :
    Delimited ((GoType.num kind : GoType types).decode target) :=
  (delimited_binaryRead kind.size_pos).bind fun _ => delimited_pure _

theorem delimited_decodeKind (kind : ValueKind) : Delimited kind.decode := by
  cases kind with
  | bool => exact ((delimited_binaryRead one_pos).bind fun _ => delimited_pure _).bind fun _ =>
      delimited_pure _
  | byte => exact (delimited_num .u8 _).bind fun _ => delimited_pure _
  | string =>
      refine Delimited.bind (Delimited.bind ?_ fun _ => delimited_pure _) fun _ => delimited_pure _
      exact delimited_decodeSlice delimited_decodeByte
  | num kind => exact (delimited_num kind _).bind fun _ => delimited_pure _
  | big kind =>
      refine Delimited.bind ((delimited_read ?_).bind fun _ => delimited_pure _) fun _ =>
        delimited_pure _
      cases kind <;> decide
  | uCompact =>
      exact (delimited_decodeUintCompact.bind fun _ => delimited_pure _).bind fun _ => delimited_pure _
  | any => exact delimited_fail _

theorem delimited_bitVec (bitOrder : BitOrder) : Delimited (BitVec.decode bitOrder) := by
  refine Delimited.bind (delimited_decodeUintCompact.bind fun number => ?_) fun numBytes => ?_
  · dsimp only
    split_ifs
    · exact delimited_fail _
    · exact delimited_pure _
  · exact (delimited_readOneByte.times numBytes).bind fun _ => delimited_pure _

/-! ## Decoders -/

/-- The decoders of clients that are reached split off a front part of their input. -/
def ClientsDelimited (cells : Cells) (decoder : FieldDecoder) : Prop :=
  ∀ run, CallsDeep cells decoder (.custom run) → Delimited run

section Decoders

variable {cells : Cells}

theorem ClientsDelimited.calls {decoder inner : FieldDecoder}
    (clients : ClientsDelimited cells decoder) (calls : Calls cells decoder inner) :
    ClientsDelimited cells inner :=
  fun run path => clients run (.head calls path)

theorem delimited_decodeSlots {item : Decoder Value} (delimited : Delimited item) (count : Nat) :
    Delimited (FieldDecoder.decodeItems item count) := by
  unfold FieldDecoder.decodeItems
  split_ifs
  · exact delimited_abort
  · exact (delimited.times count).bind fun _ => delimited_pure _

/-- Every decoder splits off a front part of its input. -/
theorem ClientsDelimited.delimited {decoder : FieldDecoder} (clients : ClientsDelimited cells decoder)
    (fuel : Nat) : Delimited (decoder.decode cells fuel) := by
  induction fuel generalizing decoder with
  | zero => exact delimited_exhaust
  | succ fuel ih =>
      cases decoder with
      | nil => exact delimited_abort
      | noop => exact delimited_pure _
      | variant fieldDecoderMap =>
          refine (delimited_readOneByte.mapError _).bind fun variantByte => ?_
          split
          · exact delimited_fail _
          · rename_i inner selected
            split_ifs
            · exact delimited_pure _
            · exact ih (clients.calls (.variant (mem_of_lookup selected)))
      | array length item =>
          rw [FieldDecoder.decode_array]
          split_ifs
          · exact delimited_fail _
          · exact delimited_decodeSlots ((ih (clients.calls .array)).mapError _) length
      | slice item =>
          rw [FieldDecoder.decode_slice]
          split_ifs
          · exact delimited_fail _
          · refine (delimited_decodeUintCompact.mapError _).bind fun sliceLen => ?_
            exact delimited_decodeSlots ((ih (clients.calls .slice)).mapError _) _
      | composite name fields =>
          refine Delimited.bind (delimited_mapM fun field member => ?_) fun _ => delimited_pure _
          exact ((ih (clients.calls (.composite member))).mapError _).bind fun _ => delimited_pure _
      | value kind => exact ((delimited_decodeKind kind).mapError _).bind fun _ => delimited_pure _
      | recursive cell =>
          rw [FieldDecoder.decode]
          split
          · exact delimited_fail _
          · exact delimited_fail _
          · rename_i inner _ set
            exact ih (clients.calls (.recursive set))
      | bitSequence name bitOrder =>
          exact ((delimited_bitVec bitOrder).mapError _).bind fun _ => delimited_pure _
      | custom run => exact (clients run .refl).mapError _

theorem TypeDecoder.delimited {typeDecoder : TypeDecoder}
    (clients : ∀ field ∈ typeDecoder.fields, ClientsDelimited cells field.decoder) (fuel : Nat) :
    Delimited (typeDecoder.decode cells fuel) := by
  refine delimited_mapM fun field member => Delimited.bind (Delimited.mapError ?_ _) fun _ =>
    delimited_pure _
  unfold Field.decode
  split_ifs
  · exact delimited_fail _
  · exact (clients field member).delimited fuel

end Decoders

/-! ## Events and extrinsics -/

/-- The decoders of clients in a registry split off a front part of their input. -/
def RegistryDelimited {κ : Type} (cells : Cells) (registry : TypeRegistry κ) : Prop :=
  ∀ entry ∈ registry, ∀ field ∈ entry.2.fields, ClientsDelimited cells field.decoder

section Parsers

variable {cells : Cells}

theorem RegistryDelimited.lookup {κ : Type} [BEq κ] [LawfulBEq κ] {registry : TypeRegistry κ}
    (clients : RegistryDelimited cells registry) {key : κ} {typeDecoder : TypeDecoder}
    (found : registry.lookup key = some typeDecoder) (fuel : Nat) :
    Delimited (typeDecoder.decode cells fuel) := by
  exact TypeDecoder.delimited (clients (key, typeDecoder) (mem_of_lookup found)) fuel

theorem delimited_phase : Delimited Phase.decode := by
  refine delimited_readOneByte.bind fun byte => ?_
  split_ifs
  · exact (delimited_num .u32 _).bind fun _ => delimited_pure _
  · exact delimited_pure _
  · exact delimited_pure _
  · exact delimited_pure _

theorem delimited_eventID : Delimited EventID.decode :=
  (delimited_num .u8 _).bind fun _ => (delimited_num .u8 _).bind fun _ => delimited_pure _

theorem delimited_topics : Delimited decodeTopics := by
  refine Delimited.bind (delimited_decodeSlice fun start => ?_) fun _ => delimited_pure _
  exact delimited_mapVector (delimited_num .u8) start

variable {eventRegistry : TypeRegistry EventID} {callRegistry : TypeRegistry CallIndex}

theorem delimited_parseEvent (clients : RegistryDelimited cells eventRegistry) (index fuel : Nat) :
    Delimited (parseEvent cells eventRegistry index fuel) := by
  refine (delimited_phase.mapError _).bind fun phase => ?_
  refine (delimited_eventID.mapError _).bind fun eventID => ?_
  unfold parseEventBody
  cases found : eventRegistry.lookup eventID with
  | none => exact delimited_fail _
  | some eventDecoder =>
      refine ((clients.lookup found fuel).mapError _).bind fun fields => ?_
      exact (delimited_topics.mapError _).bind fun topics => delimited_pure _

theorem delimited_readEvents (clients : RegistryDelimited cells eventRegistry) (fuel : Nat) :
    Delimited (readEvents cells eventRegistry fuel) := by
  have loop : ∀ count index, Delimited (parseEventLoop cells eventRegistry fuel index count) := by
    intro count
    induction count with
    | zero => exact fun index => delimited_pure _
    | succ count ih =>
        exact fun index => (delimited_parseEvent clients index fuel).bind fun event =>
          (ih (index + 1)).bind fun events => delimited_pure _
  exact (delimited_decodeUintCompact.mapError _).bind fun count => loop _ 0

/-- The call fields are what the registry's decoder reads from a front part of the arguments. -/
def ReadsFront {σ : Type} (cells : Cells) (callRegistry : TypeRegistry CallIndex) (fuel : Nat)
    (extrinsic : BlockExtrinsic σ) (parsed : ParsedExtrinsic σ) : Prop :=
  ∃ callDecoder consumed leftover, callRegistry.lookup extrinsic.call.callIndex = some callDecoder ∧
    extrinsic.call.args = consumed ++ leftover ∧
    ∀ other, callDecoder.decode cells fuel (consumed ++ other) = .ok (parsed.callFields, other)

theorem parseExtrinsicLoop_reads {σ : Type} (clients : RegistryDelimited cells callRegistry)
    {fuel index : Nat} {extrinsics : List (BlockExtrinsic σ)} {parsed : List (ParsedExtrinsic σ)}
    (run : parseExtrinsicLoop cells callRegistry fuel index extrinsics = .ok parsed) :
    List.Forall₂ (ReadsFront cells callRegistry fuel) extrinsics parsed := by
  induction extrinsics generalizing index parsed with
  | nil =>
      cases run
      exact .nil
  | cons extrinsic extrinsics ih =>
      obtain ⟨first, first_run, run⟩ := Outcome.bind_eq_ok.mp run
      obtain ⟨later, later_run, returned⟩ := Outcome.bind_eq_ok.mp run
      cases returned
      refine .cons ?_ (ih later_run)
      unfold parseExtrinsic at first_run
      cases found : callRegistry.lookup extrinsic.call.callIndex with
      | none =>
          rw [found] at first_run
          cases first_run
      | some callDecoder =>
          rw [found] at first_run
          obtain ⟨⟨fields, leftover⟩, decoded, returned⟩ := Outcome.bind_eq_ok.mp first_run
          cases returned
          obtain ⟨consumed, split, reads⟩ :=
            clients.lookup found fuel _ _ _ (Outcome.mapError_eq_ok.mp decoded)
          exact ⟨callDecoder, consumed, leftover, found, split, reads⟩

end Parsers

/-- A parse accounts for a front part of its input, and comes out the same whatever is left over. -/
theorem parse_accounts_for_front {σ : Type} (cells : Cells) (eventRegistry : TypeRegistry EventID)
    (callRegistry : TypeRegistry CallIndex) (event_clients : RegistryDelimited cells eventRegistry)
    (call_clients : RegistryDelimited cells callRegistry) :
    (∀ fuel storageData events, parseEvents cells eventRegistry fuel storageData = .ok events →
      ∃ consumed leftover, storageData = consumed ++ leftover ∧
        ∀ other, readEvents cells eventRegistry fuel (consumed ++ other) = .ok (events, other) ∧
          parseEvents cells eventRegistry fuel (consumed ++ other) = .ok events) ∧
      ∀ fuel (extrinsics : List (BlockExtrinsic σ)) parsed,
        parseExtrinsics cells callRegistry fuel extrinsics = .ok parsed →
          List.Forall₂ (ReadsFront cells callRegistry fuel) extrinsics parsed := by
  constructor
  · intro fuel storageData events run
    obtain ⟨⟨parsed, leftover⟩, read, returned⟩ := Outcome.bind_eq_ok.mp run
    cases returned
    obtain ⟨consumed, split, reads⟩ := delimited_readEvents event_clients fuel _ _ _ read
    refine ⟨consumed, leftover, split, fun other => ⟨reads other, ?_⟩⟩
    exact Outcome.bind_eq_ok.mpr ⟨_, reads other, rfl⟩
  · exact fun fuel extrinsics parsed run => parseExtrinsicLoop_reads call_clients run

/-- Value decoders are no decoders of clients. -/
theorem clientsDelimited_value (cells : Cells) (kind : ValueKind) : ClientsDelimited cells (.value kind) := by
  intro run path
  obtain same | ⟨inner, calls, -⟩ := path.cases_head
  · cases same
  · cases calls

theorem ClientsDelimited.slice {cells : Cells} {item : FieldDecoder} (clients : ClientsDelimited cells item) :
    ClientsDelimited cells (.slice item) := by
  intro run path
  obtain same | ⟨inner, calls, later⟩ := path.cases_head
  · cases same
  · cases calls
    exact clients run later

theorem registryDelimited_sent : RegistryDelimited [] sentRegistry := by
  intro entry member field field_member
  obtain rfl := List.mem_singleton.mp member
  rcases List.mem_pair.mp field_member with rfl | rfl
  · exact clientsDelimited_value [] _
  · exact (clientsDelimited_value [] _).slice

/-- The registry of a chain whose only call is `System.remark`. -/
def remarkRegistry : TypeRegistry CallIndex :=
  [(⟨0, 0⟩, ⟨"System.remark", [⟨"remark", .slice (.value (.num .u8)), 2⟩]⟩)]

theorem registryDelimited_remark : RegistryDelimited [] remarkRegistry := by
  intro entry member field field_member
  obtain rfl := List.mem_singleton.mp member
  obtain rfl := List.mem_singleton.mp field_member
  exact (clientsDelimited_value [] _).slice

/-- One byte stays behind the events, and one behind the argument of the call. -/
theorem parse_accounts_for_front_sent :
    (∃ bytes fuel consumed leftover, encodeEvents sentEntries = .ok bytes ∧ bytes ++ [7] = consumed ++ leftover ∧
      ∀ other, readEvents [] sentRegistry fuel (consumed ++ other) = .ok (sentEntries.map Prod.fst, other) ∧
        parseEvents [] sentRegistry fuel (consumed ++ other) = .ok (sentEntries.map Prod.fst)) ∧
      List.Forall₂ (ReadsFront [] remarkRegistry 3) [⟨⟨⟨0, 0⟩, [8, 1, 2, 9]⟩, 4, ()⟩]
        [⟨"System.remark", [⟨"remark", .slice [.scalar (.num .u8 (1 : UInt8)),
          .scalar (.num .u8 (2 : UInt8))], 2⟩], ⟨0, 0⟩, 4, ()⟩] := by
  obtain ⟨events, extrinsics⟩ := parse_accounts_for_front (σ := Unit) [] sentRegistry remarkRegistry
    registryDelimited_sent registryDelimited_remark
  obtain ⟨bytes, encoded, yields⟩ := yields_readEvents (by decide) parseable_sentEntries
  obtain ⟨fuel, run⟩ := yields [7]
  obtain ⟨consumed, leftover, split, front⟩ :=
    events fuel _ _ (Outcome.bind_eq_ok.mpr ⟨_, run, rfl⟩)
  exact ⟨⟨bytes, fuel, consumed, leftover, encoded, split, front⟩, extrinsics 3 _ _ rfl⟩

/-- A byte behind the events is no error. -/
theorem parseEvents_ignores_leftover :
    parseEvents [] sentRegistry 3 [0x04, 0, 1, 0, 0, 0, 0, 1, 5, 8, 1, 2, 0, 7] = .ok [sentEvent 1 []] ∧
      readEvents [] sentRegistry 3 [0x04, 0, 1, 0, 0, 0, 0, 1, 5, 8, 1, 2, 0, 7] = .ok ([sentEvent 1 []], [7]) := by
  exact ⟨rfl, rfl⟩

end SubstrateClient.Registry
