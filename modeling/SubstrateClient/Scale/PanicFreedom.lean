import SubstrateClient.Scale.RoundTrip

/-!
# Inputs on which the decoder returns

Four branches of the decoder end the program instead of returning: a slice whose length prefix cannot be
read, a slice for which the runtime has no memory, a nil pointer, and an array type with its own `Decode`
method.  An input is safe for a target when decoding arrives at none of them; a position behind one that is
not decoded is not arrived at.
-/

namespace SubstrateClient.Scale

open ByteParser

variable {types : MethodTypes} {α : Type}

/-- The first item is safe, and once it is decoded the later ones are. -/
def RunSafe (decodeItem : α → Decoder α) (safe : α → List UInt8 → Prop) : List α → List UInt8 → Prop
  | [], _ => True
  | first :: later, input => safe first input ∧
      ∀ value rest, decodeItem first input = .ok (value, rest) → RunSafe decodeItem safe later rest

/-- The length can be read.  If the protocol allows it, the capacity suffices or the memory is granted, and the
items are safe. -/
def SliceSafe (grants : Nat → Bool) (zero : α) (decodeItem : α → Decoder α) (safe : α → List UInt8 → Prop)
    (target : GoSlice α) (input : List UInt8) : Prop :=
  ∃ codedLen rest, decodeUintCompact input = .ok (codedLen, rest) ∧
    (codedLen % 2 ^ 64 ≤ maxUint32 →
      (codedLen % 2 ^ 64 ≤ target.capacity ∨ grants (codedLen % 2 ^ 64) = true) ∧
        RunSafe decodeItem safe (target.resize zero (codedLen % 2 ^ 64)).elems rest)

section Safety

variable [Runtime types]

mutual

/-- Decoding the input into the target arrives at no branch that ends the program. -/
def GoType.Safe : (type : GoType types) → type.Val → List UInt8 → Prop
  | .bool, _, _ | .num _, _, _ | .word, _, _ | .optionBool _, _, _ | .unsupported, _, _ => True
  | .string, _, input =>
      SliceSafe (Runtime.grants (.num .u8 : GoType types)) 0 decodeByte (fun _ _ => True) ⟨[], []⟩ input
  | .slice item, target, input =>
      SliceSafe (Runtime.grants item) item.zero item.decode item.Safe target input
  | .array _ item, target, input => RunSafe item.decode item.Safe (List.Vector.toList target) input
  | .struct fields, target, input => fields.Safe target input
  | .ptr element, target, input =>
      match (target : Option element.Val) with
      | none => False
      | some inner => element.Safe inner input
  | .option payload, _, input => ∀ rest, input = 1 :: rest → payload.Safe payload.zero rest
  | .method name, target, input =>
      types.kind name ≠ .array ∧ (types.decode name (types.holder name target) input).Returns

/-- The fields are safe up to the first one that is not decoded. -/
def GoFields.Safe : (fields : GoFields types) → fields.Val → List UInt8 → Prop
  | .nil, _, _ => True
  | .cons tag field later, target, input =>
      if tag.skip then later.Safe target.2 input
      else tag.exported = true → field.Safe target.1 input ∧
        ∀ value rest, field.decode target.1 input = .ok (value, rest) → later.Safe target.2 rest

end

end Safety

/-! ## Steps that always return -/

theorem total_readOneByte : Total readOneByte := by
  intro input
  cases input with
  | nil => exact Outcome.returns_error _
  | cons byte rest => exact Outcome.returns_ok _

theorem total_read (count : Nat) : Total (Scale.read count) := by
  intro input
  unfold Scale.read
  split_ifs
  · exact Outcome.returns_error _
  · exact Outcome.returns_error _
  · exact Outcome.returns_ok _

theorem total_binaryRead (size : Nat) : Total (binaryRead size) := by
  intro input
  unfold binaryRead
  split_ifs
  · exact Outcome.returns_error _
  · exact Outcome.returns_error _
  · exact Outcome.returns_ok _

theorem total_decodeUintCompact : Total decodeUintCompact := by
  refine total_readOneByte.bind fun first => ?_
  split_ifs
  · exact total_pure _
  · exact total_readOneByte.bind fun second => total_pure _
  · exact (total_read 3).bind fun buffer => total_pure _
  · dsimp only
    split_ifs
    · exact total_fail _
    · exact (total_read _).bind fun buffer => total_pure _

theorem total_decodeByte (start : UInt8) : Total (decodeByte start) :=
  (total_binaryRead 1).bind fun _ => total_pure _

theorem total_num [Runtime types] (kind : NumKind) (target : kind.Val) :
    Total ((GoType.num kind : GoType types).decode target) :=
  (total_binaryRead kind.size).bind fun _ => total_pure _

/-- At the end of the input the flag byte is zero. -/
theorem readOneByteOrZero_eq_ok (input : List UInt8) :
    ∃ flag rest, readOneByteOrZero input = .ok (flag, rest) := by
  cases input <;> exact ⟨_, _, rfl⟩

theorem total_readOneByteOrZero : Total readOneByteOrZero := by
  intro input
  obtain ⟨flag, rest, read⟩ := readOneByteOrZero_eq_ok input
  rw [read]
  exact Outcome.returns_ok _

theorem total_decodeOptionBool (package : OptionBoolPackage) : Total (decodeOptionBool package) := by
  refine total_readOneByteOrZero.bind fun flag => ?_
  split_ifs
  · exact total_pure _
  · exact total_pure _
  · exact total_pure _
  · exact total_fail _

/-! ## Sequences of items -/

/-- A run over a list returns exactly when its items are safe. -/
theorem mapM_returns_iff_runSafe {decodeItem : α → Decoder α} {safe : α → List UInt8 → Prop}
    (each : ∀ item input, (decodeItem item input).Returns ↔ safe item input) {items : List α}
    {input : List UInt8} : (items.mapM decodeItem input).Returns ↔ RunSafe decodeItem safe items input := by
  induction items generalizing input with
  | nil => exact iff_of_true (total_pure _ input) trivial
  | cons first later ih =>
      rw [List.mapM_cons, sequence_returns_iff, each, RunSafe]
      simp only [bind_pure_returns_iff, ih]

/-- The same over a vector. -/
theorem mapVector_returns_iff_runSafe {decodeItem : α → Decoder α} {safe : α → List UInt8 → Prop}
    (each : ∀ item input, (decodeItem item input).Returns ↔ safe item input) {count : Nat}
    {items : List.Vector α count} {input : List UInt8} :
    (mapVector decodeItem items input).Returns ↔ RunSafe decodeItem safe items.toList input := by
  rw [← mapM_returns_iff_runSafe each, mapM_toList, bind_pure_returns_iff]

/-- Items that are always safe. -/
theorem runSafe_of_forall {decodeItem : α → Decoder α} {safe : α → List UInt8 → Prop}
    (each : ∀ item input, safe item input) (items : List α) (input : List UInt8) :
    RunSafe decodeItem safe items input := by
  induction items generalizing input with
  | nil => trivial
  | cons first later ih => exact ⟨each first input, fun value rest _ => ih rest⟩

/-! ## The branches of the decoder -/

/-- Behind the length a slice returns when the length is refused, or memory is there and the items return. -/
theorem decodeItems_returns_iff {grants : Nat → Bool} {zero : α} {decodeItem : α → Decoder α}
    {safe : α → List UInt8 → Prop}
    (each : ∀ item input, (decodeItem item input).Returns ↔ safe item input) {target : GoSlice α}
    {codedLen : Nat} {input : List UInt8} :
    (decodeItems grants zero decodeItem target codedLen input).Returns ↔
      (codedLen % 2 ^ 64 ≤ maxUint32 →
        (codedLen % 2 ^ 64 ≤ target.capacity ∨ grants (codedLen % 2 ^ 64) = true) ∧
          RunSafe decodeItem safe (target.resize zero (codedLen % 2 ^ 64)).elems input) := by
  unfold decodeItems
  split_ifs with large beyond refused
  · exact iff_of_true (Outcome.returns_error _) fun short => absurd large (not_lt.mpr short)
  · refine iff_of_true (Outcome.returns_error _) fun short => ?_
    exact absurd ((show maxUint32 < maxInt by decide).trans beyond) large
  · refine iff_of_false Outcome.not_returns_panic fun returns => ?_
    rcases (returns (not_lt.mp large)).1 with room | granted
    · exact absurd refused.1 (not_lt.mpr room)
    · rw [granted] at refused
      cases refused.2
  · have memory : codedLen % 2 ^ 64 ≤ target.capacity ∨ grants (codedLen % 2 ^ 64) = true := by
      rw [not_and_or, not_lt, Bool.not_eq_false] at refused
      exact refused
    rw [bind_pure_returns_iff, mapM_returns_iff_runSafe each]
    exact ⟨fun run _ => ⟨memory, run⟩, fun run => (run (not_lt.mp large)).2⟩

theorem decodeSlice_returns_iff {grants : Nat → Bool} {zero : α} {decodeItem : α → Decoder α}
    {safe : α → List UInt8 → Prop}
    (each : ∀ item input, (decodeItem item input).Returns ↔ safe item input) {target : GoSlice α}
    {input : List UInt8} :
    (decodeSlice grants zero decodeItem target input).Returns ↔
      SliceSafe grants zero decodeItem safe target input := by
  unfold decodeSlice SliceSafe
  cases decodeUintCompact input with
  | ok result =>
      obtain ⟨codedLen, rest⟩ := result
      simp only [Outcome.ok.injEq, Prod.mk.injEq, and_assoc, exists_and_left, exists_eq_left']
      exact decodeItems_returns_iff each
  | error reason => simp
  | panic => simp
  | outOfFuel => simp

/-- An option returns exactly when its value does behind a flag byte of one. -/
theorem decodeOption_returns_iff {decodeValue : α → Decoder α} {start : α} {input : List UInt8} :
    (decodeOption decodeValue start input).Returns ↔
      ∀ rest, input = 1 :: rest → (decodeValue start rest).Returns := by
  cases input with
  | nil => exact iff_of_true (Outcome.returns_ok _) fun rest impossible => by cases impossible
  | cons flag after =>
      by_cases present : flag = 1
      · subst present
        rw [decodeOption_one, Outcome.returns_bind]
        simp [Outcome.returns_ok]
      · refine iff_of_true ?_ fun rest same => absurd (List.cons.inj same).1 present
        simp only [decodeOption, readOneByteOrZero, bind_apply, readOneByte_cons, Outcome.ok_bind, if_neg present]
        split_ifs
        · exact Outcome.returns_ok _
        · exact Outcome.returns_error _

/-! ## All types -/

section Types

variable [Runtime types]

mutual

/-- The decoder returns exactly on the safe inputs. -/
theorem GoType.returns_iff_safe : (type : GoType types) → (target : type.Val) → (input : List UInt8) →
    ((type.decode target input).Returns ↔ type.Safe target input)
  | .bool, _, input =>
      iff_of_true (((total_binaryRead 1).bind fun _ => total_pure _) input) trivial
  | .num kind, target, input => iff_of_true (total_num kind target input) trivial
  | .word, _, input | .unsupported, _, input => iff_of_true (total_fail _ input) trivial
  | .string, _, input => by
      refine bind_pure_returns_iff.trans (decodeSlice_returns_iff fun start after => ?_)
      exact iff_of_true (total_decodeByte start after) trivial
  | .slice item, _, _ => decodeSlice_returns_iff item.returns_iff_safe
  | .array _ item, _, _ => mapVector_returns_iff_runSafe item.returns_iff_safe
  | .struct fields, target, input => fields.returns_iff_safe target input
  | .ptr _, none, _ => iff_of_false Outcome.not_returns_panic id
  | .ptr element, some inner, input =>
      bind_pure_returns_iff.trans (element.returns_iff_safe inner input)
  | .option payload, _, _ =>
      decodeOption_returns_iff.trans (forall₂_congr fun rest _ =>
        payload.returns_iff_safe payload.zero rest)
  | .optionBool package, _, input => iff_of_true (total_decodeOptionBool package input) trivial
  | .method name, target, input => by
      rw [GoType.Safe]
      by_cases is_array : types.kind name = .array
      · simp [GoType.decode, is_array]
      · rw [and_iff_right is_array]
        exact iff_of_eq (congrArg Outcome.Returns (congrFun (decode_method is_array target) input))

theorem GoFields.returns_iff_safe : (fields : GoFields types) → (target : fields.Val) →
    (input : List UInt8) → ((fields.decode target input).Returns ↔ fields.Safe target input)
  | .nil, _, input => iff_of_true (total_pure _ input) trivial
  | .cons tag field later, target, input => by
      rw [GoFields.decode, GoFields.Safe]
      split_ifs with skipped hidden
      · exact bind_pure_returns_iff.trans (later.returns_iff_safe target.2 input)
      · exact iff_of_true (Outcome.returns_error _) fun shown => absurd shown (by simpa using hidden)
      · have shown : tag.exported = true := by simpa using hidden
        rw [sequence_returns_iff, mapError_apply, Outcome.returns_mapError, field.returns_iff_safe,
          forall_prop_of_true shown]
        refine and_congr_right fun _ => forall₂_congr fun value rest => ?_
        rw [Outcome.mapError_eq_ok]
        exact imp_congr_right fun _ => bind_pure_returns_iff.trans (later.returns_iff_safe target.2 rest)

end

end Types

/-- `Decode` returns a value or an error exactly when the input is safe for the target, whatever memory the
runtime grants and whatever the `Decode` methods of other types do. -/
theorem decode_returns_iff_safe (types : MethodTypes) [Runtime types] (type : GoType types)
    (target : type.Val) (input : List UInt8) :
    (type.decode target input).Returns ↔ type.Safe target input :=
  type.returns_iff_safe target input

/-- An empty input ends the program when the target is a byte slice. -/
theorem decode_bytes_panics :
    ¬ ∀ (types : MethodTypes) (type : GoType types) (target : type.Val) (input : List UInt8),
      (type.decode target input).Returns := by
  intro returns
  obtain ⟨codedLen, rest, read, -⟩ := (decodeSlice_returns_iff fun _ _ => Iff.rfl).mp
    (returns .none (.slice (.num .u8)) (⟨[], []⟩ : GoSlice UInt8) [])
  rw [decodeUintCompact_nil] at read
  cases read

end SubstrateClient.Scale
