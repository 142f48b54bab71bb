import SubstrateClient.AcceptedCuts
import SubstrateClient.Registry.Consumption
import SubstrateClient.Registry.Returning
import SubstrateClient.Xcm.Location

/-!
# Locations cut short

`JunctionV1.Decode` returns without an error when a network identifier cannot be decoded.  A location
that ends there looks complete, if no junction follows; every other cut is noticed.
-/

namespace SubstrateClient.Xcm

open ByteParser Registry Scale SubstrateClient.Types TaggedUnion

/-! ## Nodes with one flag -/

/-- Exactly one flag is set. -/
def NetworkID.OneFlag (network : NetworkID) : Prop := Marked (fun _ _ => True) network

/-- Exactly one flag is set. -/
def BodyID.OneFlag (body : BodyID) : Prop := Marked (fun _ _ => True) body

/-- Exactly one flag is set. -/
def BodyPart.OneFlag (part : BodyPart) : Prop := Marked (fun _ _ => True) part

/-- The nodes inside of a junction have one flag each. -/
def JunctionV1.Inner : (flag : JunctionV1.Flag) → JunctionV1.Payload flag → Prop
  | .isAccountID32, (networkID, _) => networkID.OneFlag
  | .isAccountIndex64, (networkID, _) => networkID.OneFlag
  | .isAccountKey20, (networkID, _) => networkID.OneFlag
  | .isPlurality, (bodyID, bodyPart) => bodyID.OneFlag ∧ bodyPart.OneFlag
  | .isParachain, _ | .isPalletInstance, _ | .isGeneralIndex, _ | .isGeneralKey, _ | .isOnlyChild, _ =>
      True

/-- Exactly one flag is set, here and in the nodes inside. -/
def JunctionV1.OneFlag (junction : JunctionV1) : Prop := Marked JunctionV1.Inner junction

/-- The junctions have one flag each. -/
def JunctionsV1.Inner : (flag : JunctionsV1.Flag) → JunctionsV1.Payload flag → Prop
  | .isHere, _ => True
  | .isX1, junction => JunctionV1.OneFlag junction
  | .isX2, junctions | .isX3, junctions | .isX4, junctions | .isX5, junctions | .isX6, junctions
  | .isX7, junctions | .isX8, junctions => ∀ junction ∈ List.Vector.toList junctions, junction.OneFlag

/-- Exactly one flag is set, here and in the nodes inside. -/
def JunctionsV1.OneFlag (junctions : JunctionsV1) : Prop := Marked JunctionsV1.Inner junctions

/-! ## Cuts in the network of the last junction -/

/-- The front parts of a network identifier for which decoding returns an error: nothing at all, or a
name that ends early.  Inside the length of the name decoding panics instead. -/
def NetworkID.FailsAt (network : NetworkID) (cut : List UInt8) : Prop :=
  cut = [] ∨ ∃ name missing : List UInt8, network.flag .isNamed = true ∧
    network.payload .isNamed = name ++ missing ∧ missing ≠ [] ∧
    cut = 1 :: (compactBytes (name ++ missing).length ++ name)

/-- The network identifier of a junction that has one. -/
def JunctionV1.networkID? (junction : JunctionV1) : Option NetworkID :=
  if junction.flag .isAccountID32 then some (Prod.fst (junction.payload .isAccountID32))
  else if junction.flag .isAccountIndex64 then some (Prod.fst (junction.payload .isAccountIndex64))
  else if junction.flag .isAccountKey20 then some (Prod.fst (junction.payload .isAccountKey20))
  else none

/-- Behind the tag of the junction, its network identifier is cut so that decoding it fails. -/
def JunctionV1.CutInNetwork (junction : JunctionV1) (cut : List UInt8) : Prop :=
  cut ≠ [] ∧ ∃ network ∈ junction.networkID?, network.FailsAt cut.tail

/-- The junctions of the variant that is set. -/
def JunctionsV1.junctions (junctions : JunctionsV1) : List JunctionV1 :=
  if junctions.flag .isX1 then [junctions.payload .isX1]
  else if junctions.flag .isX2 then List.Vector.toList (junctions.payload .isX2)
  else if junctions.flag .isX3 then List.Vector.toList (junctions.payload .isX3)
  else if junctions.flag .isX4 then List.Vector.toList (junctions.payload .isX4)
  else if junctions.flag .isX5 then List.Vector.toList (junctions.payload .isX5)
  else if junctions.flag .isX6 then List.Vector.toList (junctions.payload .isX6)
  else if junctions.flag .isX7 then List.Vector.toList (junctions.payload .isX7)
  else if junctions.flag .isX8 then List.Vector.toList (junctions.payload .isX8)
  else []

/-- Behind the tag, the junctions before the last are complete, and the last one is cut in its network. -/
def JunctionsV1.CutInNetwork (junctions : JunctionsV1) (cut : List UInt8) : Prop :=
  cut ≠ [] ∧ CutInLast JunctionV1.encode JunctionV1.CutInNetwork junctions.junctions cut.tail

/-- Behind the number of parents, the last junction is cut in its network. -/
def MultiLocationV1.CutInNetwork (location : MultiLocationV1) (cut : List UInt8) : Prop :=
  cut ≠ [] ∧ location.interior.CutInNetwork cut.tail

/-! ## Parts that notice every cut -/

theorem delimited_bytes : Delimited (decodeBytes []) :=
  (delimited_decodeSlice (delimited_num .u8)).bind fun _ => delimited_pure _

theorem delimited_uCompact : Delimited UCompact.decode :=
  delimited_decodeUintCompact.bind fun _ => delimited_pure _

theorem delimited_u128 : Delimited U128.decode :=
  ((delimited_read (by decide)).bind fun _ => delimited_pure _).bind fun _ => delimited_pure _

theorem delimited_bodyID : Delimited BodyID.decode := by
  refine delimited_union delimited_readOneByte (fun flag => ?_) fun _ => delimited_pure _
  cases flag with
  | isNamed => exact delimited_bytes
  | isIndex => exact delimited_num .u32 (0 : UInt32)
  | _ => exact delimited_pure _

theorem delimited_bodyPart : Delimited BodyPart.decode := by
  have ratio : Delimited BodyPart.decodeRatio :=
    (delimited_num .u32 _).bind fun _ => (delimited_num .u32 _).bind fun _ => delimited_pure _
  refine delimited_union delimited_readOneByte (fun flag => ?_) fun _ => delimited_pure _
  cases flag with
  | isVoice => exact delimited_pure _
  | isMembers => exact delimited_num .u32 (0 : UInt32)
  | isFraction | isAtLeastProportion | isMoreThanProportion => exact ratio

/-! ## What is written is read -/

theorem encodeBytes_eq_ok {bytes written : List UInt8} (encoded : encodeBytes bytes = .ok written) :
    bytes.length ≤ maxUint32 ∧ written = compactBytes bytes.length ++ bytes := by
  have short : bytes.length ≤ maxUint32 := by
    by_contra long
    have refused : encodeBytes bytes =
        .error (.text "Attempted to serialize a collection with too many elements.") :=
      if_pos (not_le.mp long)
    rw [refused] at encoded
    cases encoded
  rw [encodeBytes_eq short] at encoded
  cases encoded
  exact ⟨short, rfl⟩

theorem readable_bytes (bytes : List UInt8) : Readable (encodeBytes bytes) (decodeBytes []) := by
  intro written encoded
  obtain ⟨short, rfl⟩ := encodeBytes_eq_ok encoded
  exact ⟨bytes, reads_bytes short⟩

theorem readable_uCompact (value : UCompact) : Readable value.encode UCompact.decode := by
  intro written encoded
  have nonneg : (0 : Int) ≤ value := by
    by_contra negative
    obtain ⟨reason, failed⟩ := encodeUintCompact_out_of_range (.inl (not_le.mp negative))
    rw [UCompact.encode, failed] at encoded
    cases encoded
  obtain ⟨number, rfl⟩ := Int.eq_ofNat_of_zero_le nonneg
  exact ⟨_, (reads_of_encodeUintCompact encoded).bind_pure _⟩

theorem readable_u128 (value : U128) : Readable value.encode U128.decode := by
  rw [U128.encode_eq, U128.decode_eq]
  intro written encoded
  have total : Types.U128.encode value = Types.U128.encode (some (Option.getD value 0)) := rfl
  have inside : Option.getD value 0 ≠ 2 ^ (16 * 8) := by
    intro bound
    rw [total, bound, Types.U128.encode, encodeBigUint, Option.getD_some, bigIntToUintBytes_bound]
      at encoded
    cases encoded
  rcases (encodeBigUint_fails_or_restores (by decide : 1 ≤ 16) _).mpr inside with
    ⟨reason, failed⟩ | restores
  · rw [total, Types.U128.encode, failed] at encoded
    cases encoded
  · exact restores.readable written encoded

theorem readable_unit (payload : Unit) : Readable (.ok [] : Written) (pure payload : Decoder Unit) :=
  (restores_unit payload).readable

theorem readable_networkID {network : NetworkID} (one : network.OneFlag) :
    Readable network.encode NetworkID.decode := by
  refine readable_union one (fun flag => ?_) reads_readOneByte fun flag payload _ => ?_
  · cases flag <;> exact ⟨_, rfl, rfl⟩
  · cases flag with
    | isNamed => exact readable_bytes payload
    | isAny | isPolkadot | isKusama => exact readable_unit payload

theorem readable_bodyID {body : BodyID} (one : body.OneFlag) : Readable body.encode BodyID.decode := by
  refine readable_union one (fun flag => ?_) reads_readOneByte fun flag payload _ => ?_
  · cases flag <;> exact ⟨_, rfl, rfl⟩
  · cases flag with
    | isNamed => exact readable_bytes payload
    | isIndex => exact (restores_u32 payload).readable
    | isUnit | isExecutive | isTechnical | isLegislative | isJudicial => exact readable_unit payload

theorem readable_bodyPart {part : BodyPart} (one : part.OneFlag) :
    Readable part.encode BodyPart.decode := by
  refine readable_union one (fun flag => ?_) reads_readOneByte fun flag payload _ => ?_
  · cases flag <;> exact ⟨_, rfl, rfl⟩
  · cases flag with
    | isVoice => exact readable_unit payload
    | isMembers => exact (restores_u32 payload).readable
    | isFraction | isAtLeastProportion | isMoreThanProportion =>
        exact ((restores_u32 payload.1).pair (restores_u32 payload.2)).readable

/-! ## Networks -/

namespace NetworkID

/-- A name that ends early is an error, and nothing is left behind it. -/
theorem decode_cut_name {name missing : List UInt8} (short : (name ++ missing).length ≤ maxUint32)
    (proper : missing ≠ []) :
    (∃ reason, decode (1 :: (compactBytes (name ++ missing).length ++ name)) = .error reason) ∧
      unread (1 :: (compactBytes (name ++ missing).length ++ name)) = [] := by
  have length_lt : (name ++ missing).length < 2 ^ 536 :=
    lt_compact_bound (by unfold maxUint32 at short; omega)
  have counted := reads_compactBytes length_lt name
  obtain ⟨small, in_protocol, -⟩ := length_in_bounds short
  have returns : (decodeBytes [] (compactBytes (name ++ missing).length ++ name)).Returns := by
    refine bind_pure_returns_iff.mpr ((newSlice_returns_iff (total_num .u8)).mpr ?_)
    exact ⟨_, _, counted, fun short => .inr (ampleMemory_of_le short)⟩
  have rejected : ¬ (decodeBytes [] (compactBytes (name ++ missing).length ++ name)).Succeeds :=
    delimited_bytes.rejects_cut (reads_bytes short) (by rw [List.append_assoc]) proper
  constructor
  · rcases returns with accepted | ⟨reason, failed⟩
    · exact absurd accepted rejected
    · exact ⟨reason, by
        change (decodeBytes [] >>= fun network => pure (choose zero Flag.isNamed network)) _ = _
        rw [bind_apply, failed]
        rfl⟩
  · rw [unread, counted]
    simp only [if_neg in_protocol]

/-- Inside the length of a name decoding panics. -/
theorem decode_cut_length {cut missing : List UInt8} {number : Nat} (number_lt : number < 2 ^ 536)
    (split : compactBytes number = cut ++ missing) (proper : missing ≠ []) :
    decode (1 :: cut) = .panic := by
  have rejected := delimited_decodeUintCompact.rejects_cut (reads_compactBytes number_lt) split proper
  have slice : decodeBytes [] cut = .panic := by
    refine Outcome.bind_eq_panic.mpr (.inl ?_)
    change decodeSlice ampleMemory (0 : UInt8) (GoType.num .u8 : GoType .none).decode ⟨[], []⟩ cut = _
    unfold decodeSlice
    cases counted : decodeUintCompact cut with
    | ok result => exact absurd ⟨result, counted⟩ rejected
    | error | panic | outOfFuel => rfl
  change (decodeBytes [] >>= fun network => pure (choose zero Flag.isNamed network)) cut = _
  rw [bind_apply, slice]
  rfl

/-- The tables of the two methods agree. -/
theorem agree :
    Agree [(.isAny, 0), (.isNamed, 1), (.isPolkadot, 2), (.isKusama, 3)]
      [(0, Flag.isAny), (1, .isNamed), (2, .isPolkadot), (3, .isKusama)] := by
  intro flag
  cases flag <;> exact ⟨_, rfl, rfl⟩

/-- What decoding does on the front parts of a written identifier. -/
theorem decode_cut {network : NetworkID} (one : network.OneFlag) {bytes cut missing : List UInt8}
    (encoded : network.encode = .ok bytes) (split : bytes = cut ++ missing) (proper : missing ≠ []) :
    (network.FailsAt cut ∧ (∃ reason, decode cut = .error reason) ∧ unread cut = []) ∨
      (¬ network.FailsAt cut ∧ decode cut = .panic) := by
  have nothing : ∀ front, front = ([] : List UInt8) → network.FailsAt front ∧
      (∃ reason, decode front = .error reason) ∧ unread front = [] := by
    rintro _ rfl
    exact ⟨.inl rfl, ⟨.eof, rfl⟩, rfl⟩
  obtain ⟨flag, flags, -⟩ := one
  obtain ⟨tag, payload, rfl, tag_written, -, payload_written⟩ :=
    exists_tag_of_marked flags agree encoded
  cases cut with
  | nil => exact .inl (nothing [] rfl)
  | cons first cut =>
      obtain ⟨rfl, payload_eq⟩ := List.cons.inj split
      cases flag with
      | isNamed =>
          cases tag_written
          obtain ⟨short, rfl⟩ := encodeBytes_eq_ok payload_written
          have set : network.flag .isNamed = true := by simp [flags]
          rcases append_cut_cases payload_eq with ⟨lost, length_eq, lost_ne⟩ | ⟨more, rfl, name_eq⟩
          · refine .inr ⟨?_, decode_cut_length ?_ length_eq lost_ne⟩
            · rintro (empty | ⟨name, left, -, name_eq, -, cut_eq⟩)
              · cases empty
              · obtain ⟨-, cut_eq⟩ := List.cons.inj cut_eq
                rw [← name_eq, length_eq] at cut_eq
                have lengths := congrArg List.length cut_eq
                have positive := List.length_pos_of_ne_nil lost_ne
                simp only [List.length_append] at lengths
                omega
            · exact lt_compact_bound (by unfold maxUint32 at short; omega)
          · rw [name_eq] at short ⊢
            exact .inl ⟨.inr ⟨more, missing, set, name_eq, proper, rfl⟩, decode_cut_name short proper⟩
      | isAny | isPolkadot | isKusama =>
          cases payload_written
          exact absurd (List.append_eq_nil_iff.mp payload_eq.symm).2 proper

/-- Decoding fails on proper front parts only. -/
theorem FailsAt.length_lt {network : NetworkID} (one : network.OneFlag) {bytes cut : List UInt8}
    (encoded : network.encode = .ok bytes) (fails : network.FailsAt cut) :
    cut.length < bytes.length := by
  obtain ⟨flag, flags, -⟩ := one
  obtain ⟨tag, payload, rfl, -, -, payload_written⟩ := exists_tag_of_marked flags agree encoded
  rcases fails with rfl | ⟨name, missing, set, name_eq, proper, rfl⟩
  · exact Nat.zero_lt_succ _
  · have named : flag = .isNamed := by simpa [flags, eq_comm] using set
    subst named
    obtain ⟨-, rfl⟩ := encodeBytes_eq_ok payload_written
    have positive := List.length_pos_of_ne_nil proper
    rw [name_eq]
    simp only [List.length_cons, List.length_append]
    omega

end NetworkID

/-- A junction with a network accepts exactly the cuts that make decoding the network fail. -/
theorem cutsAt_withNetwork {α : Type} [Inhabited α] {network : NetworkID} {decodeLater : Decoder α}
    {writer : Written} {bytes : List UInt8} (one : network.OneFlag) (delimited : Delimited decodeLater)
    (readable : Readable writer decodeLater) (encoded : writeAll [network.encode, writer] = .ok bytes) :
    CutsAt (decodeWithNetwork decodeLater) bytes network.FailsAt := by
  obtain ⟨front, back, front_written, back_written, rfl⟩ := writeAll_pair_eq_ok.mp encoded
  obtain ⟨value, front_read⟩ := readable_networkID one front front_written
  obtain ⟨later, back_read⟩ := readable back back_written
  have behind : ∀ more, decodeWithNetwork decodeLater (front ++ more) =
      (decodeLater >>= fun later => pure (value, later)) more := by
    intro more
    rw [decodeWithNetwork, front_read]
  have later_cuts := (delimited.cutsAt back_read).bind_pure fun later => (value, later)
  have inside : ∀ cut lost, front = cut ++ lost → lost ≠ [] →
      ((decodeWithNetwork decodeLater cut).Succeeds ↔ network.FailsAt cut) ∧
        ∀ result rest, decodeWithNetwork decodeLater cut = .ok (result, rest) → rest = [] := by
    intro cut lost split proper
    rcases NetworkID.decode_cut one front_written split proper with
      ⟨fails, ⟨reason, failed⟩, unread⟩ | ⟨passes, panics⟩
    · have accepted : decodeWithNetwork decodeLater cut =
          .ok ((TaggedUnion.blank NetworkID.zero, default), NetworkID.unread cut) := by
        rw [decodeWithNetwork, failed]
      rw [accepted, unread]
      refine ⟨iff_of_true ⟨_, rfl⟩ fails, fun result rest success => ?_⟩
      cases success
      rfl
    · have panicked : decodeWithNetwork decodeLater cut = .panic := by
        rw [decodeWithNetwork, panics]
      rw [panicked]
      refine ⟨iff_of_false Outcome.not_succeeds_panic passes, fun result rest success => ?_⟩
      cases success
  refine ⟨⟨(value, later), fun rest => ?_⟩, ?_, ?_⟩
  · rw [List.append_assoc, behind]
    exact back_read.bind_pure (fun later => (value, later)) rest
  · intro cut missing split proper result rest success
    rcases append_cut_cases split with ⟨lost, front_eq, lost_ne⟩ | ⟨more, rfl, back_eq⟩
    · exact (inside cut lost front_eq lost_ne).2 result rest success
    · rw [behind] at success
      exact later_cuts.exhausts more missing back_eq proper result rest success
  · intro cut missing split proper
    rcases append_cut_cases split with ⟨lost, front_eq, lost_ne⟩ | ⟨more, rfl, back_eq⟩
    · exact (inside cut lost front_eq lost_ne).1
    · rw [behind, later_cuts.succeeds_iff more missing back_eq proper]
      refine iff_of_false id fun fails => ?_
      have shorter := fails.length_lt one front_written
      rw [List.length_append] at shorter
      omega

/-! ## Junctions -/

namespace JunctionV1

/-- The tables of the two methods agree. -/
theorem agree :
    Agree
      [(.isParachain, 0), (.isAccountID32, 1), (.isAccountIndex64, 2), (.isAccountKey20, 3),
        (.isPalletInstance, 4), (.isGeneralIndex, 5), (.isGeneralKey, 6), (.isOnlyChild, 7),
        (.isPlurality, 8)]
      [(0, Flag.isParachain), (1, .isAccountID32), (2, .isAccountIndex64), (3, .isAccountKey20),
        (4, .isPalletInstance), (5, .isGeneralIndex), (6, .isGeneralKey), (7, .isOnlyChild),
        (8, .isPlurality)] := by
  intro flag
  cases flag <;> exact ⟨_, rfl, rfl⟩

/-- A cut of a junction is accepted in its network and nowhere else. -/
theorem cutsAt {junction : JunctionV1} (one : junction.OneFlag) {bytes : List UInt8}
    (encoded : junction.encode = .ok bytes) : CutsAt decode bytes junction.CutInNetwork := by
  obtain ⟨flag, flags, inner⟩ := one
  obtain ⟨tag, payload, rfl, -, tag_known, payload_written⟩ := exists_tag_of_marked flags agree encoded
  have union_cuts : ∀ {accepted : List UInt8 → Prop}, CutsAt (decodePayload flag) payload accepted →
      CutsAt decode (tag :: payload) fun cut => cut ≠ [] ∧ accepted cut.tail := fun cuts =>
    cutsAt_union_tail delimited_readOneByte (reads_readOneByte tag) tag_known cuts
  have with_network : ∀ {network : NetworkID}, junction.networkID? = some network →
      CutsAt (decodePayload flag) payload network.FailsAt →
      CutsAt decode (tag :: payload) junction.CutInNetwork := fun {network} known cuts =>
    (union_cuts cuts).congr fun cut _ _ _ => by simp [CutInNetwork, known]
  have without : junction.networkID? = none → CutsAt (decodePayload flag) payload NoCut →
      CutsAt decode (tag :: payload) junction.CutInNetwork := fun absent cuts =>
    (union_cuts cuts).congr fun cut _ _ _ => by simp [CutInNetwork, absent]
  cases flag with
  | isAccountID32 =>
      exact with_network (by simp [networkID?, flags])
        (cutsAt_withNetwork inner delimited_bytes (readable_bytes _) payload_written)
  | isAccountIndex64 =>
      exact with_network (by simp [networkID?, flags])
        (cutsAt_withNetwork inner (delimited_num .u64 _) (restores_u64 _).readable payload_written)
  | isAccountKey20 =>
      exact with_network (by simp [networkID?, flags])
        (cutsAt_withNetwork inner delimited_bytes (readable_bytes _) payload_written)
  | isParachain =>
      exact without (by simp [networkID?, flags])
        (delimited_uCompact.cutsAt_of_readable (readable_uCompact _) payload_written)
  | isPalletInstance =>
      exact without (by simp [networkID?, flags])
        ((delimited_num .u8 _).cutsAt_of_readable (restores_u8 _).readable payload_written)
  | isGeneralIndex =>
      exact without (by simp [networkID?, flags])
        (delimited_u128.cutsAt_of_readable (readable_u128 _) payload_written)
  | isGeneralKey =>
      exact without (by simp [networkID?, flags])
        (delimited_bytes.cutsAt_of_readable (readable_bytes _) payload_written)
  | isOnlyChild =>
      exact without (by simp [networkID?, flags])
        ((delimited_pure ()).cutsAt_of_readable (readable_unit ()) payload_written)
  | isPlurality =>
      refine without (by simp [networkID?, flags]) (Delimited.cutsAt_of_readable ?_
        ((readable_bodyID inner.1).pair (readable_bodyPart inner.2)) payload_written)
      exact delimited_bodyID.bind fun _ => delimited_bodyPart.bind fun _ => delimited_pure _

end JunctionV1

namespace JunctionsV1

/-- The tables of the two methods agree. -/
theorem agree :
    Agree
      [(.isHere, 0), (.isX1, 1), (.isX2, 2), (.isX3, 3), (.isX4, 4), (.isX5, 5), (.isX6, 6), (.isX7, 7),
        (.isX8, 8)]
      [(0, Flag.isHere), (1, .isX1), (2, .isX2), (3, .isX3), (4, .isX4), (5, .isX5), (6, .isX6),
        (7, .isX7), (8, .isX8)] := by
  intro flag
  cases flag <;> exact ⟨_, rfl, rfl⟩

theorem cutsAt_array {count : Nat} {junctions : List.Vector JunctionV1 count}
    (each : ∀ junction ∈ junctions.toList, junction.OneFlag) {payload : List UInt8}
    (encoded : encodeVector JunctionV1.encode junctions = .ok payload) :
    CutsAt (decodeVector JunctionV1.decode : Decoder (List.Vector JunctionV1 count)) payload
      (CutInLast JunctionV1.encode JunctionV1.CutInNetwork junctions.toList) := by
  obtain ⟨chunks, chunks_written, whole⟩ := Outcome.bind_eq_ok.mp encoded
  cases whole
  refine cutsAt_mapVector _ junctions.toList_length (fun junction member bytes written => ?_) ?_ chunks_written
  · exact JunctionV1.cutsAt (each junction member) written
  · rintro ⟨result, success⟩
    cases success

/-- A cut is accepted in the network of the last junction and nowhere else. -/
theorem cutsAt {junctions : JunctionsV1} (one : junctions.OneFlag) {bytes : List UInt8}
    (encoded : junctions.encode = .ok bytes) : CutsAt decode bytes junctions.CutInNetwork := by
  obtain ⟨flag, flags, inner⟩ := one
  obtain ⟨tag, payload, rfl, -, tag_known, payload_written⟩ := exists_tag_of_marked flags agree encoded
  apply cutsAt_union_tail delimited_readOneByte (reads_readOneByte tag) tag_known
  cases flag with
  | isHere =>
      rw [show junctions.junctions = [] by simp [JunctionsV1.junctions, flags]]
      exact (delimited_pure ()).cutsAt_of_readable (readable_unit ()) payload_written
  | isX1 =>
      have only : junctions.junctions = [junctions.payload .isX1] := if_pos (by simp [flags])
      rw [only]
      exact JunctionV1.cutsAt inner payload_written
  | isX2 | isX3 | isX4 | isX5 | isX6 | isX7 | isX8 =>
      simp only [JunctionsV1.junctions, flags, reduceCtorEq, decide_false, decide_true, if_false, if_true,
        Bool.false_eq_true]
      exact cutsAt_array inner payload_written

end JunctionsV1

/-- A cut is accepted in the network of the last junction and nowhere else. -/
theorem MultiLocationV1.cutsAt {location : MultiLocationV1} (one : location.interior.OneFlag)
    {bytes : List UInt8} (encoded : location.encode = .ok bytes) :
    CutsAt MultiLocationV1.decode bytes location.CutInNetwork := by
  obtain ⟨front, back, front_written, back_written, rfl⟩ := writeAll_pair_eq_ok.mp encoded
  rw [show encodeU8 location.parents = .ok [location.parents] from encode_u8 _] at front_written
  cases front_written
  have parents : CutsAt decodeU8 [location.parents] NoCut :=
    (delimited_num .u8 (0 : UInt8)).cutsAt (reads_u8 0 location.parents)
  have interior := JunctionsV1.cutsAt one back_written
  refine (parents.bind_closed fun _ _ => interior.bind_pure _).congr fun cut missing split _ => ?_
  exact behind_singleton_iff split

/-- A location, its interior and a junction accept a proper front part of their encoding exactly when
it ends in the network of the last junction. -/
theorem cut_rejected_iff (cut missing : List UInt8) (proper : missing ≠ []) :
    (∀ location : MultiLocationV1, location.interior.OneFlag →
      location.encode = .ok (cut ++ missing) →
        (¬ (MultiLocationV1.decode cut).Succeeds ↔ ¬ location.CutInNetwork cut)) ∧
    (∀ junctions : JunctionsV1, junctions.OneFlag → junctions.encode = .ok (cut ++ missing) →
        (¬ (JunctionsV1.decode cut).Succeeds ↔ ¬ junctions.CutInNetwork cut)) ∧
    (∀ junction : JunctionV1, junction.OneFlag → junction.encode = .ok (cut ++ missing) →
        (¬ (JunctionV1.decode cut).Succeeds ↔ ¬ junction.CutInNetwork cut)) := by
  refine ⟨fun location one encoded => ?_, fun junctions one encoded => ?_,
    fun junction one encoded => ?_⟩
  · exact not_congr ((MultiLocationV1.cutsAt one encoded).succeeds_iff cut missing rfl proper)
  · exact not_congr ((JunctionsV1.cutsAt one encoded).succeeds_iff cut missing rfl proper)
  · exact not_congr ((JunctionV1.cutsAt one encoded).succeeds_iff cut missing rfl proper)

/-- An account of any network, by its index. -/
def indexedAccount : JunctionV1 :=
  choose JunctionV1.zero .isAccountIndex64 (choose NetworkID.zero .isAny (), (5 : UInt64))

/-- The location of the account on this chain. -/
def accountLocation : MultiLocationV1 :=
  ⟨0, choose JunctionsV1.zero .isX1 indexedAccount⟩

theorem accountLocation_oneFlag : accountLocation.interior.OneFlag := by
  have network : NetworkID.OneFlag (choose NetworkID.zero .isAny ()) := ⟨.isAny, fun _ => rfl, trivial⟩
  have junction : indexedAccount.OneFlag := ⟨.isAccountIndex64, fun _ => rfl, network⟩
  exact ⟨.isX1, fun _ => rfl, junction⟩

theorem cut_rejected_iff_account :
    accountLocation.encode = .ok ([0, 1, 2, 0] ++ [5, 0, 0, 0, 0, 0, 0, 0]) ∧
      ¬ (MultiLocationV1.decode [0, 1, 2, 0]).Succeeds ∧
      (¬ (MultiLocationV1.decode [0, 1, 2, 0]).Succeeds ↔
        ¬ accountLocation.CutInNetwork [0, 1, 2, 0]) := by
  have encoded : accountLocation.encode = .ok ([0, 1, 2, 0] ++ [5, 0, 0, 0, 0, 0, 0, 0]) := rfl
  have here := (cut_rejected_iff [0, 1, 2, 0] [5, 0, 0, 0, 0, 0, 0, 0] (by simp)).1 accountLocation
    accountLocation_oneFlag encoded
  refine ⟨encoded, ?_, here⟩
  rintro ⟨result, success⟩
  cases success

/-- The same location without its last nine bytes: the missing network is not reported. -/
theorem cut_location_accepted :
    accountLocation.interior.OneFlag ∧
      accountLocation.encode = .ok ([0, 1, 2] ++ [0, 5, 0, 0, 0, 0, 0, 0, 0]) ∧
      (MultiLocationV1.decode [0, 1, 2]).Succeeds :=
  ⟨accountLocation_oneFlag, rfl, ⟨_, rfl⟩⟩

end SubstrateClient.Xcm
