import SubstrateClient.RunPairs
import SubstrateClient.Scale.Truncation

/-!
# Decoding into targets that hold something

A target is filled in place: a slice keeps its items as long as its capacity suffices, and a type with a method
of its own starts from what it is given.  Two runs that differ only in what their targets hold succeed on the
same inputs and consume the same bytes; their values differ exactly if some method leaves a trace of the old
contents.
-/

namespace SubstrateClient.Scale

open ByteParser

variable {types : MethodTypes} {α : Type}

mutual

/-- No pointer is followed. -/
def GoType.PointerFree : GoType types → Prop
  | .ptr _ => False
  | .array _ item | .slice item | .option item => item.PointerFree
  | .struct fields => fields.PointerFree
  | .bool | .num _ | .word | .string | .optionBool _ | .method _ | .unsupported => True

/-- No pointer is followed in a field. -/
def GoFields.PointerFree : GoFields types → Prop
  | .nil => True
  | .cons _ field later => field.PointerFree ∧ later.PointerFree

end

mutual

/-- The values are equal, whatever lies beyond the lengths of slices. -/
def GoType.Same : (type : GoType types) → type.Val → type.Val → Prop
  | .array _ item, first, second =>
      List.Forall₂ item.Same (List.Vector.toList first) (List.Vector.toList second)
  | .slice item, first, second => List.Forall₂ item.Same (GoSlice.elems first) (GoSlice.elems second)
  | .struct fields, first, second => fields.Same first second
  | .option payload, first, second => first.1 = second.1 ∧ payload.Same first.2 second.2
  | .bool, first, second | .num _, first, second | .word, first, second | .string, first, second
  | .ptr _, first, second | .optionBool _, first, second | .method _, first, second
  | .unsupported, first, second => first = second

/-- The fields are equal, those that take no part in the codec as well. -/
def GoFields.Same : (fields : GoFields types) → fields.Val → fields.Val → Prop
  | .nil, _, _ => True
  | .cons _ field later, first, second => field.Same first.1 second.1 ∧ later.Same first.2 second.2

end

section Stale

variable (stale : (name : types.Name) → types.Carrier name → types.Carrier name → List UInt8 → Prop)

mutual

/-- Decoding the input arrives at a trace of the old contents: a method that leaves one, or a skipped field. -/
def GoType.Stale : (type : GoType types) → type.Val → type.Val → List UInt8 → Prop
  | .array _ item, first, second, input =>
      StaleRun item.Stale item.decode (List.Vector.toList first) (List.Vector.toList second) input
  | .slice item, first, second, input =>
      ∃ codedLen rest, decodeUintCompact input = .ok (codedLen, rest) ∧
        StaleRun item.Stale item.decode (GoSlice.resize item.zero (codedLen % 2 ^ 64) first).elems
          (GoSlice.resize item.zero (codedLen % 2 ^ 64) second).elems rest
  | .struct fields, first, second, input => fields.Stale first second input
  | .method name, first, second, input => stale name first second input
  | .bool, _, _, _ | .num _, _, _, _ | .word, _, _, _ | .string, _, _, _ | .ptr _, _, _, _
  | .option _, _, _, _ | .optionBool _, _, _, _ | .unsupported, _, _, _ => False

/-- Decoding the fields arrives at a trace of the old contents.  A skipped field keeps what it held. -/
def GoFields.Stale : (fields : GoFields types) → fields.Val → fields.Val → List UInt8 → Prop
  | .nil, _, _, _ => False
  | .cons tag field later, first, second, input =>
      if tag.skip then
        ¬ field.Same first.1 second.1 ∨ later.Stale first.2 second.2 input
      else
        field.Stale first.1 second.1 input ∨
          ∃ value rest, field.decode first.1 input = .ok (value, rest) ∧
            later.Stale first.2 second.2 rest

end

end Stale

mutual

theorem GoType.same_self : (type : GoType types) → (value : type.Val) → type.Same value value
  | .array _ item, _ => List.forall₂_same.mpr fun element _ => item.same_self element
  | .slice item, _ => List.forall₂_same.mpr fun element _ => item.same_self element
  | .struct fields, value => fields.same_self value
  | .option payload, value => ⟨rfl, payload.same_self value.2⟩
  | .bool, _ | .num _, _ | .word, _ | .string, _ | .ptr _, _ | .optionBool _, _ | .method _, _
  | .unsupported, _ => rfl

theorem GoFields.same_self : (fields : GoFields types) → (value : fields.Val) → fields.Same value value
  | .nil, _ => trivial
  | .cons _ field later, value => ⟨field.same_self value.1, later.same_self value.2⟩

end

/-! ## Slices -/

theorem alike_decodeItems {zero : α} {decodeItem : α → Decoder α} {same : α → α → Prop}
    {stale : α → α → List UInt8 → Prop}
    (each : ∀ start other input,
      Alike same (stale start other input) (decodeItem start input) (decodeItem other input))
    (first second : GoSlice α) (codedLen : Nat) (input : List UInt8) :
    Alike (fun value other => List.Forall₂ same (GoSlice.elems value) (GoSlice.elems other))
      (StaleRun stale decodeItem (first.resize zero (codedLen % 2 ^ 64)).elems
        (second.resize zero (codedLen % 2 ^ 64)).elems input)
      (decodeItems ampleMemory zero decodeItem first codedLen input)
      (decodeItems ampleMemory zero decodeItem second codedLen input) := by
  unfold decodeItems
  by_cases large : maxUint32 < codedLen % 2 ^ 64
  · rw [if_pos large, if_pos large]
    exact alike_of_not_succeeds (by simp) (by simp)
  · have granted : ampleMemory (codedLen % 2 ^ 64) = true := ampleMemory_of_le (not_lt.mp large)
    have width : (first.resize zero (codedLen % 2 ^ 64)).elems.length =
        (second.resize zero (codedLen % 2 ^ 64)).elems.length := by
      rw [length_resize, length_resize]
    simp only [if_neg large, granted, Bool.true_eq_false, and_false, if_false]
    split_ifs with beyond
    · exact alike_of_not_succeeds (by simp) (by simp)
    · exact (alike_mapM each width input).bind fun _ _ _ _ values => alike_pure values

theorem alike_decodeSlice {zero : α} {decodeItem : α → Decoder α} {same : α → α → Prop}
    {stale : α → α → List UInt8 → Prop}
    (each : ∀ start other input,
      Alike same (stale start other input) (decodeItem start input) (decodeItem other input))
    (first second : GoSlice α) (input : List UInt8) :
    Alike (fun value other => List.Forall₂ same (GoSlice.elems value) (GoSlice.elems other))
      (∃ codedLen rest, decodeUintCompact input = .ok (codedLen, rest) ∧
        StaleRun stale decodeItem (first.resize zero (codedLen % 2 ^ 64)).elems
          (second.resize zero (codedLen % 2 ^ 64)).elems rest)
      (decodeSlice ampleMemory zero decodeItem first input) (decodeSlice ampleMemory zero decodeItem second input) := by
  unfold decodeSlice
  cases length_read : decodeUintCompact input with
  | ok result =>
      obtain ⟨codedLen, rest⟩ := result
      exact (alike_decodeItems each first second codedLen rest).congr (by simp)
  | error _ | panic | outOfFuel => exact alike_of_not_succeeds (by simp) (by simp)

/-! ## All types -/

/-- The methods succeed on the same inputs and consume the same, whatever the target holds, and what it held is
to be seen exactly where `stale` says so. -/
def MethodTypes.TracesAt (types : MethodTypes)
    (stale : (name : types.Name) → types.Carrier name → types.Carrier name → List UInt8 → Prop) : Prop :=
  ∀ name first second input, Alike (· = ·) (stale name first second input)
    (types.decode name (types.holder name first) input) (types.decode name (types.holder name second) input)

section Decode

variable {stale : (name : types.Name) → types.Carrier name → types.Carrier name → List UInt8 → Prop}

mutual

/-- Two runs into targets with different contents. -/
theorem GoType.alike_decode (methods : types.TracesAt stale) : (type : GoType types) → type.PointerFree →
    (first second : type.Val) → (input : List UInt8) →
    Alike type.Same (type.Stale stale first second input) (type.decode first input) (type.decode second input)
  | .bool, _, _, _, _ => alike_self (fun _ => rfl) id
  | .num _, _, _, _, _ => alike_self (fun _ => rfl) id
  | .word, _, _, _, _ => alike_self (fun _ => rfl) id
  | .string, _, _, _, _ => alike_self (fun _ => rfl) id
  | .array _ item, free, first, second, input =>
      alike_mapVector (item.alike_decode methods free) first second input
  | .slice item, free, first, second, input =>
      alike_decodeSlice (item.alike_decode methods free) first second input
  | .struct fields, free, first, second, input => fields.alike_decode methods free first second input
  | .option payload, _, _, _, _ => alike_self (GoType.option payload).same_self id
  | .optionBool _, _, _, _, _ => alike_self (fun _ => rfl) id
  | .method name, _, first, second, input => by
      by_cases is_array : types.kind name = .array
      · exact alike_of_not_succeeds (by simp [GoType.decode, is_array]) (by simp [GoType.decode, is_array])
      · rw [decode_method is_array first, decode_method is_array second]
        exact methods name first second input
  | .unsupported, _, _, _, _ => alike_self (fun _ => rfl) id

theorem GoFields.alike_decode (methods : types.TracesAt stale) : (fields : GoFields types) →
    fields.PointerFree → (first second : fields.Val) → (input : List UInt8) →
    Alike fields.Same (fields.Stale stale first second input) (fields.decode first input)
      (fields.decode second input)
  | .nil, _, _, _, _ => alike_pure (iff_of_true trivial id)
  | .cons tag field later, ⟨field_free, later_free⟩, first, second, input => by
      rw [GoFields.decode, GoFields.decode]
      split_ifs with skipped hidden
      · have stale_eq : (GoFields.cons tag field later).Stale stale first second input =
            (¬ field.Same first.1 second.1 ∨ later.Stale stale first.2 second.2 input) := if_pos skipped
        rw [stale_eq]
        refine (later.alike_decode methods later_free first.2 second.2 input).bind
          fun values values' rest _ same => alike_pure ?_
        simp [GoFields.Same, same]
      · exact alike_of_not_succeeds (by simp) (by simp)
      · have stale_eq : (GoFields.cons tag field later).Stale stale first second input =
            (field.Stale stale first.1 second.1 input ∨
              ∃ value rest, field.decode first.1 input = .ok (value, rest) ∧
                later.Stale stale first.2 second.2 rest) := if_neg skipped
        rw [stale_eq]
        refine ((field.alike_decode methods field_free first.1 second.1 input).mapError GoError.fieldByField).bind
          fun value value' rest run same => ?_
        refine (later.alike_decode methods later_free first.2 second.2 rest).bind
          fun values values' after _ later_same => alike_pure ?_
        rw [Outcome.mapError_eq_ok] at run
        simp [GoFields.Same, run, same, later_same]

end

/-- Decoding succeeds into both targets or into none, and then gives the same value and consumes the same. -/
def GoType.Overwrites (type : GoType types) (first second : type.Val) (input : List UInt8) : Prop :=
  (∀ value rest, type.decode first input = .ok (value, rest) →
    ∃ other, type.decode second input = .ok (other, rest) ∧ type.Same value other) ∧
  ∀ other rest, type.decode second input = .ok (other, rest) →
    ∃ value, type.decode first input = .ok (value, rest)

/-- Old contents are overwritten by every input that is accepted, unless it arrives at a trace of them. -/
theorem GoType.overwrites_of_tracesAt (methods : types.TracesAt stale) {type : GoType types}
    (free : type.PointerFree) (first second : type.Val) (input : List UInt8) :
    type.Overwrites first second input ↔
      ((type.decode type.zero input).Succeeds → ¬ type.Stale stale first second input) := by
  have alike := type.alike_decode methods free first second input
  have fresh := type.alike_decode methods free type.zero first input
  constructor
  · rintro ⟨overwrites, -⟩ ⟨⟨start, rest⟩, accepted⟩
    obtain ⟨value, run, -⟩ := fresh.ok_right start rest accepted
    obtain ⟨other, other_run, same_iff⟩ := alike.ok_right value rest run
    obtain ⟨_, again, same⟩ := overwrites value rest run
    rw [other_run] at again
    cases again
    exact same_iff.mp same
  · intro untraced
    refine ⟨fun value rest run => ?_, alike.ok_left⟩
    obtain ⟨start, accepted⟩ := fresh.ok_left value rest run
    obtain ⟨other, other_run, same_iff⟩ := alike.ok_right value rest run
    exact ⟨other, other_run, same_iff.mpr (untraced ⟨_, accepted⟩)⟩

end Decode

end SubstrateClient.Scale
