import SubstrateClient.ParserRelations
import SubstrateClient.Registry.Matches

/-!
# Decoding straight from the metadata

A decoder that recurses over the type definitions and keeps no decoders: what a registry's decoders are
meant to compute.  A `LengthPolicy` says how many items follow a sequence length, so that lengths taken
in full can be compared with lengths cut to a machine word.
-/

namespace SubstrateClient.Registry

open ByteParser Scale SubstrateClient.Types

/-- Why direct decoding stops without a value. -/
inductive Stop where
  /-- The input or the metadata does not describe a value. -/
  | malformed
  /-- The length policy refuses a sequence length. -/
  | overlong
  deriving DecidableEq, Repr

/-- The number of items that follow a sequence length, if any number may. -/
abbrev LengthPolicy : Type := Nat → Option Nat

/-- Every length counts in full. -/
def LengthPolicy.full : LengthPolicy := some

/-- Lengths beyond what a Go slice can hold are refused. -/
def LengthPolicy.bounded : LengthPolicy := fun length =>
  if length ≤ maxSliceCap then some length else none

/-- Lengths are cut to 64 bits, and refused if a Go slice cannot hold what is left. -/
def LengthPolicy.cut : LengthPolicy := fun length =>
  if length % 2 ^ 64 ≤ maxSliceCap then some (length % 2 ^ 64) else none

/-- A step of the scale decoder, with its errors forgotten. -/
def scaleStep {α : Type} (decoder : Decoder α) : ByteParser Stop α :=
  decoder.mapError fun _ => .malformed

section Direct

variable (metadata : MetadataV14) (policy : LengthPolicy)

/-- A component under its name and lookup index. -/
def directPart (decodeType : Si1TypeDef → ByteParser Stop Value) (part : Part) :
    ByteParser Stop (DecodedField Value) :=
  match metadata.efficientLookup part.lookupIndex with
  | none => fail .malformed
  | some type => do
      let value ← decodeType type.typeDef
      pure ⟨part.name type, value, part.lookupIndex⟩

/-- Components in order. -/
def directParts (decodeType : Si1TypeDef → ByteParser Stop Value) (parts : List Part) :
    ByteParser Stop DecodedFields :=
  parts.mapM (directPart metadata decodeType)

/-- Components in order, as one value. -/
def directComposite (decodeType : Si1TypeDef → ByteParser Stop Value) (parts : List Part) :
    ByteParser Stop Value := do
  let fields ← directParts metadata decodeType parts
  pure (.fields fields)

/-- One index byte, then nothing or the fields of the variant with that index. -/
def directVariant (decodeType : Si1TypeDef → ByteParser Stop Value) (variants : List Si1Variant) :
    ByteParser Stop Value := do
  let index ← scaleStep readOneByte
  match variants.find? fun variant => variant.index = index with
  | none => fail .malformed
  | some variant =>
      if variant.fields = [] then
        pure (.scalar (.byte index))
      else
        directComposite metadata decodeType (fieldParts variant.fields)

/-- As many items as the policy grants for the length. -/
def directItems (item : ByteParser Stop Value) (length : Nat) : ByteParser Stop Value :=
  match policy length with
  | none => fail .overlong
  | some count => do
      let items ← times item count
      pure (.slice items)

/-- A compact length, then the items. -/
def directSequence (item : ByteParser Stop Value) : ByteParser Stop Value := do
  let length ← scaleStep decodeUintCompact
  directItems policy item length

/-- A value of a primitive type. -/
def directScalar (kind : ValueKind) : ByteParser Stop Value := do
  let value ← scaleStep kind.decode
  pure (.scalar value)

/-- A bit sequence; the key of its map is not part of the wire format and is left empty. -/
def directBits (bitOrder : BitOrder) : ByteParser Stop Value := do
  let bytes ← scaleStep (BitVec.decode bitOrder)
  pure (.bits "" (BitVec.string bytes))

/-- The compact form of a type. -/
def directCompact : Nat → Si1TypeDef → ByteParser Stop Value
  | 0, _ => exhaust
  | fuel + 1, typeDef =>
      match typeDef.compactShape with
      | .primitive => directScalar .uCompact
      | .tuple none => fail .malformed
      | .tuple (some items) => directComposite metadata (directCompact fuel) (itemParts items)
      | .composite fields => directComposite metadata (directCompact fuel) (fieldParts fields)
      | .unsupported => fail .malformed

/-- A value of a type. -/
def direct : Nat → Si1TypeDef → ByteParser Stop Value
  | 0, _ => exhaust
  | fuel + 1, typeDef =>
      match typeDef.shape with
      | .compact id =>
          match metadata.efficientLookup id.int64 with
          | none => fail .malformed
          | some type => directCompact metadata (fuel + 1) type.typeDef
      | .composite fields => directComposite metadata (direct fuel) (fieldParts fields)
      | .variant variants => directVariant metadata (direct fuel) variants
      | .primitive primitive =>
          match primitiveKind primitive with
          | none => fail .malformed
          | some kind => directScalar kind
      | .array len id =>
          match metadata.efficientLookup id.int64 with
          | none => fail .malformed
          | some type => do
              let items ← times (direct fuel type.typeDef) len.toNat
              pure (.slice items)
      | .sequence id =>
          match metadata.efficientLookup id.int64 with
          | none => fail .malformed
          | some type => directSequence policy (direct fuel type.typeDef)
      | .tuple none => pure .nil
      | .tuple (some items) => directComposite metadata (direct fuel) (itemParts items)
      | .bitSequence storeType orderType =>
          match bitOrderOf metadata storeType orderType with
          | none => fail .malformed
          | some bitOrder => directBits bitOrder
      | .unsupported => fail .malformed

/-- The fields of a variant, decoded straight from the metadata. -/
def directFields (fuel : Nat) (variant : Si1Variant) : ByteParser Stop DecodedFields :=
  directParts metadata (direct metadata policy fuel) (fieldParts variant.fields)

end Direct

/-! ## More fuel -/

section Fuel

variable {metadata : MetadataV14} {policy : LengthPolicy}
  {decodeType richerType : Si1TypeDef → ByteParser Stop Value}

theorem settles_directParts (each : ∀ typeDef, Settles (decodeType typeDef) (richerType typeDef))
    (parts : List Part) :
    Settles (directParts metadata decodeType parts) (directParts metadata richerType parts) := by
  refine settles_mapM (fun part => ?_) parts
  unfold directPart
  split
  · exact settles_refl _
  · exact (each _).bind fun value => settles_refl _

theorem settles_directComposite (each : ∀ typeDef, Settles (decodeType typeDef) (richerType typeDef))
    (parts : List Part) :
    Settles (directComposite metadata decodeType parts) (directComposite metadata richerType parts) :=
  (settles_directParts each parts).bind fun _ => settles_refl _

theorem settles_directVariant (each : ∀ typeDef, Settles (decodeType typeDef) (richerType typeDef))
    (variants : List Si1Variant) :
    Settles (directVariant metadata decodeType variants)
      (directVariant metadata richerType variants) := by
  refine (settles_refl _).bind fun index => ?_
  split
  · exact settles_refl _
  · split_ifs
    · exact settles_refl _
    · exact settles_directComposite each _

theorem settles_directSequence {item richer : ByteParser Stop Value} (settles : Settles item richer) :
    Settles (directSequence policy item) (directSequence policy richer) := by
  refine (settles_refl _).bind fun length => ?_
  unfold directItems
  split
  · exact settles_refl _
  · exact (settles.times _).bind fun _ => settles_refl _

theorem settles_directCompact (fuel : Nat) (typeDef : Si1TypeDef) :
    Settles (directCompact metadata fuel typeDef) (directCompact metadata (fuel + 1) typeDef) := by
  induction fuel generalizing typeDef with
  | zero => exact settles_exhaust _
  | succ fuel ih =>
      rw [directCompact, directCompact]
      split
      · exact settles_refl _
      · exact settles_refl _
      · exact settles_directComposite ih _
      · exact settles_directComposite ih _
      · exact settles_refl _

/-- More fuel changes no finished run. -/
theorem settles_direct (fuel : Nat) (typeDef : Si1TypeDef) :
    Settles (direct metadata policy fuel typeDef) (direct metadata policy (fuel + 1) typeDef) := by
  induction fuel generalizing typeDef with
  | zero => exact settles_exhaust _
  | succ fuel ih =>
      rw [direct, direct]
      split
      · split
        · exact settles_refl _
        · exact settles_directCompact (fuel + 1) _
      · exact settles_directComposite ih _
      · exact settles_directVariant ih _
      · exact settles_refl _
      · split
        · exact settles_refl _
        · exact ((ih _).times _).bind fun _ => settles_refl _
      · split
        · exact settles_refl _
        · exact settles_directSequence (ih _)
      · exact settles_refl _
      · exact settles_directComposite ih _
      · exact settles_refl _
      · exact settles_refl _

theorem settles_directFields (fuel : Nat) (variant : Si1Variant) :
    Settles (directFields metadata policy fuel variant)
      (directFields metadata policy (fuel + 1) variant) :=
  settles_directParts (settles_direct fuel) _

end Fuel

/-! ## Length policies -/

section Policies

variable {metadata : MetadataV14} {policy other : LengthPolicy} {escapes : Stop → Prop}
  {decodeType otherType : Si1TypeDef → ByteParser Stop Value}

theorem simulates_directParts
    (each : ∀ typeDef, Simulates escapes Eq (decodeType typeDef) (otherType typeDef))
    (parts : List Part) :
    Simulates escapes Eq (directParts metadata decodeType parts)
      (directParts metadata otherType parts) := by
  refine simulates_mapM_eq (fun part => ?_) parts
  unfold directPart
  split
  · exact simulates_refl _
  · exact (each _).bind_eq fun value => simulates_refl _

theorem simulates_directComposite
    (each : ∀ typeDef, Simulates escapes Eq (decodeType typeDef) (otherType typeDef))
    (parts : List Part) :
    Simulates escapes Eq (directComposite metadata decodeType parts)
      (directComposite metadata otherType parts) :=
  (simulates_directParts each parts).bind_eq fun _ => simulates_refl _

theorem simulates_directVariant
    (each : ∀ typeDef, Simulates escapes Eq (decodeType typeDef) (otherType typeDef))
    (variants : List Si1Variant) :
    Simulates escapes Eq (directVariant metadata decodeType variants)
      (directVariant metadata otherType variants) := by
  refine (simulates_refl _).bind_eq fun index => ?_
  split
  · exact simulates_refl _
  · split_ifs
    · exact simulates_refl _
    · exact simulates_directComposite each _

/-- Where the second policy grants what the first does, or refuses and that may escape, decoding under
the second repeats decoding under the first. -/
theorem simulates_direct
    (grants : ∀ length count, policy length = some count →
      other length = some count ∨ other length = none ∧ escapes .overlong)
    (fuel : Nat) (typeDef : Si1TypeDef) :
    Simulates escapes Eq (direct metadata policy fuel typeDef)
      (direct metadata other fuel typeDef) := by
  induction fuel generalizing typeDef with
  | zero =>
      intro input value rest run
      cases run
  | succ fuel ih =>
      rw [direct, direct]
      split
      · exact simulates_refl _
      · exact simulates_directComposite ih _
      · exact simulates_directVariant ih _
      · exact simulates_refl _
      · split
        · exact simulates_refl _
        · exact ((ih _).times_eq _).bind_eq fun _ => simulates_refl _
      · split
        · exact simulates_refl _
        · refine (simulates_refl _).bind_eq fun length => ?_
          unfold directItems
          cases granted : policy length with
          | none => exact simulates_fail _ _
          | some count =>
              rcases grants length count granted with same | ⟨refused, escaping⟩
              · rw [same]
                exact ((ih _).times_eq count).bind_eq fun _ => simulates_refl _
              · rw [refused]
                exact fun input value rest run => .inr ⟨.overlong, rfl, escaping⟩
      · exact simulates_refl _
      · exact simulates_directComposite ih _
      · exact simulates_refl _
      · exact simulates_refl _

theorem simulates_directFields
    (grants : ∀ length count, policy length = some count →
      other length = some count ∨ other length = none ∧ escapes .overlong)
    (fuel : Nat) (variant : Si1Variant) :
    Simulates escapes Eq (directFields metadata policy fuel variant)
      (directFields metadata other fuel variant) :=
  simulates_directParts (simulates_direct grants fuel) _

end Policies

/-! ## Values without long slices -/

mutual

/-- No slice in the value is longer than a Go slice can be. -/
def Value.Small : Value → Prop
  | .slice items => items.length ≤ maxSliceCap ∧ SmallItems items
  | .fields fields => SmallFields fields
  | _ => True

/-- No item holds a long slice. -/
def SmallItems : List Value → Prop
  | [] => True
  | item :: items => item.Small ∧ SmallItems items

/-- No field holds a long slice. -/
def SmallFields : List (DecodedField Value) → Prop
  | [] => True
  | ⟨_, value, _⟩ :: fields => value.Small ∧ SmallFields fields

end

theorem smallItems_iff {items : List Value} : SmallItems items ↔ ∀ item ∈ items, item.Small := by
  induction items with
  | nil => simp [SmallItems]
  | cons item items ih => rw [SmallItems, ih, List.forall_mem_cons]

theorem smallFields_iff {fields : DecodedFields} :
    SmallFields fields ↔ ∀ field ∈ fields, field.value.Small := by
  induction fields with
  | nil => simp [SmallFields]
  | cons field fields ih => rw [SmallFields, ih, List.forall_mem_cons]

section Small

variable {metadata : MetadataV14} {decodeType otherType : Si1TypeDef → ByteParser Stop Value}

theorem ensures_small_directParts (each : ∀ typeDef, Ensures Value.Small (decodeType typeDef))
    (parts : List Part) :
    Ensures (fun fields => ∀ field ∈ fields, field.value.Small)
      (directParts metadata decodeType parts) := by
  refine ensures_mapM (fun part => ?_) parts
  unfold directPart
  split
  · exact ensures_fail _
  · exact (each _).bind fun value small => ensures_pure small

theorem ensures_small_directComposite (each : ∀ typeDef, Ensures Value.Small (decodeType typeDef))
    (parts : List Part) : Ensures Value.Small (directComposite metadata decodeType parts) := by
  refine (ensures_small_directParts each parts).bind fun fields small => ensures_pure ?_
  rw [Value.Small]
  exact smallFields_iff.mpr small

theorem ensures_small_items {item : ByteParser Stop Value} {count : Nat}
    (small : Ensures Value.Small item) (bound : count ≤ maxSliceCap) :
    Ensures Value.Small (do
      let items ← times item count
      pure (.slice items)) := by
  refine (small.times count).bind fun items ⟨length, each⟩ => ensures_pure ?_
  rw [Value.Small]
  exact ⟨length.trans_le bound, smallItems_iff.mpr each⟩

theorem ensures_small_directCompact (fuel : Nat) (typeDef : Si1TypeDef) :
    Ensures Value.Small (directCompact metadata fuel typeDef) := by
  induction fuel generalizing typeDef with
  | zero =>
      intro input value rest run
      cases run
  | succ fuel ih =>
      rw [directCompact]
      split
      · exact ensures_bind fun value => ensures_pure trivial
      · exact ensures_fail _
      · exact ensures_small_directComposite ih _
      · exact ensures_small_directComposite ih _
      · exact ensures_fail _

/-- Cut lengths leave no long slices. -/
theorem ensures_small_direct (fuel : Nat) (typeDef : Si1TypeDef) :
    Ensures Value.Small (direct metadata .cut fuel typeDef) := by
  induction fuel generalizing typeDef with
  | zero =>
      intro input value rest run
      cases run
  | succ fuel ih =>
      rw [direct]
      split
      · split
        · exact ensures_fail _
        · exact ensures_small_directCompact (fuel + 1) _
      · exact ensures_small_directComposite ih _
      · refine ensures_bind fun index => ?_
        split
        · exact ensures_fail _
        · split_ifs
          · exact ensures_pure trivial
          · exact ensures_small_directComposite ih _
      · split
        · exact ensures_fail _
        · exact ensures_bind fun value => ensures_pure trivial
      · rename_i len id shape
        split
        · exact ensures_fail _
        · have len_lt := len.toNat_lt
          exact ensures_small_items (ih _) (by rw [maxSliceCap]; omega)
      · split
        · exact ensures_fail _
        · refine ensures_bind fun length => ?_
          unfold directItems
          split
          · exact ensures_fail _
          · rename_i count granted
            unfold LengthPolicy.cut at granted
            split_ifs at granted with bound
            cases granted
            exact ensures_small_items (ih _) bound
      · exact ensures_pure trivial
      · exact ensures_small_directComposite ih _
      · split
        · exact ensures_fail _
        · exact ensures_bind fun bytes => ensures_pure trivial
      · exact ensures_fail _

theorem within_directParts
    (each : ∀ typeDef, Within Value.Small (decodeType typeDef) (otherType typeDef))
    (parts : List Part) :
    Within (fun fields => ∀ field ∈ fields, field.value.Small)
      (directParts metadata decodeType parts) (directParts metadata otherType parts) := by
  refine within_mapM (fun part => ?_) parts
  unfold directPart
  split
  · exact within_refl _
  · exact (each _).bind_pure fun value small => small

theorem within_directComposite
    (each : ∀ typeDef, Within Value.Small (decodeType typeDef) (otherType typeDef))
    (parts : List Part) :
    Within Value.Small (directComposite metadata decodeType parts)
      (directComposite metadata otherType parts) := by
  refine (within_directParts each parts).bind_pure fun fields small => ?_
  rw [Value.Small] at small
  exact smallFields_iff.mp small

theorem within_items {item other : ByteParser Stop Value} (within : Within Value.Small item other)
    (count : Nat) :
    Within Value.Small (do
      let items ← times item count
      pure (.slice items)) (do
      let items ← times other count
      pure (.slice items)) := by
  refine (within.times count).bind_pure fun items small => ?_
  rw [Value.Small] at small
  exact smallItems_iff.mp small.2

/-- Values without long slices come from inputs without long lengths. -/
theorem within_direct (fuel : Nat) (typeDef : Si1TypeDef) :
    Within Value.Small (direct metadata .full fuel typeDef)
      (direct metadata .bounded fuel typeDef) := by
  induction fuel generalizing typeDef with
  | zero =>
      intro input value rest run
      cases run
  | succ fuel ih =>
      rw [direct, direct]
      split
      · exact within_refl _
      · exact within_directComposite ih _
      · refine within_bind fun index => ?_
        split
        · exact within_refl _
        · split_ifs
          · exact within_refl _
          · exact within_directComposite ih _
      · exact within_refl _
      · split
        · exact within_refl _
        · exact within_items (ih _) _
      · split
        · exact within_refl _
        · refine within_bind fun length => ?_
          intro input value rest run small
          obtain ⟨items, middle, parsed, returned⟩ := bind_eq_ok.mp run
          cases returned
          have granted : LengthPolicy.bounded length = some length := by
            rw [Value.Small, ensures_length_times _ length input items rest parsed] at small
            exact if_pos small.1
          rw [directItems, granted]
          exact within_items (ih _) length input _ rest run small
      · exact within_refl _
      · exact within_directComposite ih _
      · exact within_refl _
      · exact within_refl _

end Small

/-! ## Fields of a variant -/

section Fields

variable (metadata : MetadataV14) (policy : LengthPolicy) (variant : Si1Variant) (input : List UInt8)

/-- Direct decoding returns these fields and leaves the rest. -/
def DirectlyDecodes (fields : DecodedFields) (rest : List UInt8) : Prop :=
  ∃ fuel, directFields metadata policy fuel variant input = .ok (fields, rest)

/-- Direct decoding returns nothing. -/
def Rejects : Prop := ∀ fields rest, ¬ DirectlyDecodes metadata policy variant input fields rest

/-- Direct decoding meets a sequence length beyond what a Go slice can hold. -/
def MeetsOverlong : Prop := ∃ fuel, directFields metadata .bounded fuel variant input = .error .overlong

variable {metadata policy variant input} {fields : DecodedFields} {rest : List UInt8}

theorem settles_directFields_of_le {fuel richer : Nat} (le : fuel ≤ richer) :
    Settles (directFields metadata policy fuel variant)
      (directFields metadata policy richer variant) :=
  settles_of_le (fun fuel => settles_directFields fuel variant) le

/-- Decoding under a policy that grants no more carries over, unless a refused length is met. -/
theorem DirectlyDecodes.transfer {other : LengthPolicy} {escapes : Stop → Prop}
    (decodes : DirectlyDecodes metadata policy variant input fields rest)
    (grants : ∀ length count, policy length = some count →
      other length = some count ∨ other length = none ∧ escapes .overlong) :
    DirectlyDecodes metadata other variant input fields rest ∨
      ∃ fuel reason, directFields metadata other fuel variant input = .error reason ∧
        escapes reason := by
  obtain ⟨fuel, run⟩ := decodes
  rcases simulates_directFields grants fuel variant input fields rest run with
    ⟨_, ran, rfl⟩ | ⟨reason, failed, escaping⟩
  · exact .inl ⟨fuel, ran⟩
  · exact .inr ⟨fuel, reason, failed, escaping⟩

/-- A length that is granted in full is granted as it is, or refused, when lengths are bounded. -/
theorem bounded_of_full {length count : Nat} (granted : LengthPolicy.full length = some count) :
    LengthPolicy.bounded length = some count ∨
      LengthPolicy.bounded length = none ∧ Stop.overlong = .overlong := by
  cases granted
  unfold LengthPolicy.bounded
  split_ifs
  · exact .inl rfl
  · exact .inr ⟨rfl, rfl⟩

theorem bounded_of_cut {length count : Nat} (granted : LengthPolicy.cut length = some count) :
    LengthPolicy.bounded length = some count ∨
      LengthPolicy.bounded length = none ∧ Stop.overlong = .overlong := by
  unfold LengthPolicy.cut at granted
  split_ifs at granted
  cases granted
  unfold LengthPolicy.bounded
  split_ifs with fits
  · have small : length < 2 ^ 64 := by
      rw [maxSliceCap] at fits
      omega
    exact .inl (by rw [Nat.mod_eq_of_lt small])
  · exact .inr ⟨rfl, rfl⟩

theorem full_of_bounded {length count : Nat} (granted : LengthPolicy.bounded length = some count) :
    LengthPolicy.full length = some count := by
  unfold LengthPolicy.bounded at granted
  split_ifs at granted
  exact granted

theorem cut_of_bounded {length count : Nat} (granted : LengthPolicy.bounded length = some count) :
    LengthPolicy.cut length = some count := by
  unfold LengthPolicy.bounded at granted
  split_ifs at granted with fits
  cases granted
  have small : length < 2 ^ 64 := by
    rw [maxSliceCap] at fits
    omega
  rw [LengthPolicy.cut, Nat.mod_eq_of_lt small, if_pos fits]

/-- Without an overlong length, full and cut lengths decode alike. -/
theorem full_iff_cut (short : ¬ MeetsOverlong metadata variant input) :
    DirectlyDecodes metadata .full variant input fields rest ↔
      DirectlyDecodes metadata .cut variant input fields rest := by
  have never (other : LengthPolicy)
      (grants : ∀ length count, LengthPolicy.bounded length = some count → other length = some count)
      (bounded : DirectlyDecodes metadata .bounded variant input fields rest) :
      DirectlyDecodes metadata other variant input fields rest := by
    rcases bounded.transfer (fun length count granted => .inl (grants length count granted)) with
      decodes | ⟨_, _, _, impossible⟩
    · exact decodes
    · exact False.elim impossible
  constructor
  · intro full
    rcases full.transfer (fun _ _ granted => bounded_of_full granted) with
      bounded | ⟨fuel, reason, failed, rfl⟩
    · exact never .cut (fun _ _ => cut_of_bounded) bounded
    · exact absurd ⟨fuel, failed⟩ short
  · intro cut
    rcases cut.transfer (fun _ _ granted => bounded_of_cut granted) with
      bounded | ⟨fuel, reason, failed, rfl⟩
    · exact never .full (fun _ _ => full_of_bounded) bounded
    · exact absurd ⟨fuel, failed⟩ short

/-- Full and cut lengths give one result only where no overlong length is met. -/
theorem not_meetsOverlong (full : DirectlyDecodes metadata .full variant input fields rest)
    (cut : DirectlyDecodes metadata .cut variant input fields rest) :
    ¬ MeetsOverlong metadata variant input := by
  obtain ⟨fullFuel, fullRun⟩ := full
  obtain ⟨cutFuel, cutRun⟩ := cut
  rintro ⟨fuel, overlong⟩
  have small := ensures_small_directParts (ensures_small_direct cutFuel) _ input fields rest cutRun
  have bounded := within_directParts (within_direct fullFuel) _ input fields rest fullRun small
  have more := (settles_directFields_of_le (le_max_left fullFuel fuel)).ok bounded
  rw [(settles_directFields_of_le (le_max_right fullFuel fuel)).error overlong] at more
  cases more

end Fields

end SubstrateClient.Registry
