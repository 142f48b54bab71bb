import Mathlib.Data.Vector.Basic
import SubstrateClient.Scale.Stream

/-!
# The types the codec dispatches on

The codec inspects its argument by reflection.  `GoType` is the part of Go's types it
distinguishes and `GoType.Val` gives each of them its values, so that an ill-typed value cannot be
written down.  Types with their own `Encode` and `Decode` methods come from a `MethodTypes`
environment.
-/

namespace SubstrateClient.Scale

/-- Fixed-width number kinds. -/
inductive NumKind where
  | u8 | u16 | u32 | u64 | i8 | i16 | i32 | i64 | f32 | f64
  deriving DecidableEq, Repr

namespace NumKind

/-- Size of a number in bytes. -/
def size : NumKind → Nat
  | u8 | i8 => 1
  | u16 | i16 => 2
  | u32 | i32 | f32 => 4
  | u64 | i64 | f64 => 8

/-- The machine type of a number.  The codec copies floating-point numbers, so that these are their bit patterns. -/
def Val : NumKind → Type
  | u8 => UInt8
  | u16 => UInt16
  | u32 | f32 => UInt32
  | u64 | f64 => UInt64
  | i8 => Int8
  | i16 => Int16
  | i32 => Int32
  | i64 => Int64

/-- The bit pattern of a number. -/
def toBits : (kind : NumKind) → kind.Val → Nat
  | u8, number => UInt8.toNat number
  | u16, number => UInt16.toNat number
  | u32, number | f32, number => UInt32.toNat number
  | u64, number | f64, number => UInt64.toNat number
  | i8, number => (Int8.toUInt8 number).toNat
  | i16, number => (Int16.toUInt16 number).toNat
  | i32, number => (Int32.toUInt32 number).toNat
  | i64, number => (Int64.toUInt64 number).toNat

/-- The number with a given bit pattern. -/
def ofBits : (kind : NumKind) → Nat → kind.Val
  | u8, bits => UInt8.ofNat bits
  | u16, bits => UInt16.ofNat bits
  | u32, bits | f32, bits => UInt32.ofNat bits
  | u64, bits | f64, bits => UInt64.ofNat bits
  | i8, bits => (UInt8.ofNat bits).toInt8
  | i16, bits => (UInt16.ofNat bits).toInt16
  | i32, bits => (UInt32.ofNat bits).toInt32
  | i64, bits => (UInt64.ofNat bits).toInt64

theorem size_pos (kind : NumKind) : 0 < kind.size := by
  cases kind <;> decide

theorem toBits_lt (kind : NumKind) (number : kind.Val) : kind.toBits number < 256 ^ kind.size := by
  cases kind
  · exact UInt8.toNat_lt number
  · exact UInt16.toNat_lt number
  · exact UInt32.toNat_lt number
  · exact UInt64.toNat_lt number
  · exact UInt8.toNat_lt (Int8.toUInt8 number)
  · exact UInt16.toNat_lt (Int16.toUInt16 number)
  · exact UInt32.toNat_lt (Int32.toUInt32 number)
  · exact UInt64.toNat_lt (Int64.toUInt64 number)
  · exact UInt32.toNat_lt number
  · exact UInt64.toNat_lt number

@[simp]
theorem ofBits_toBits (kind : NumKind) (number : kind.Val) :
    kind.ofBits (kind.toBits number) = number := by
  cases kind
  · exact UInt8.ofNat_toNat
  · exact UInt16.ofNat_toNat
  · exact UInt32.ofNat_toNat
  · exact UInt64.ofNat_toNat
  · simp only [toBits, ofBits, UInt8.ofNat_toNat]; rfl
  · simp only [toBits, ofBits, UInt16.ofNat_toNat]; rfl
  · simp only [toBits, ofBits, UInt32.ofNat_toNat]; rfl
  · simp only [toBits, ofBits, UInt64.ofNat_toNat]; rfl
  · exact UInt32.ofNat_toNat
  · exact UInt64.ofNat_toNat

/-- A bit pattern of the right size is kept. -/
theorem toBits_ofBits (kind : NumKind) {bits : Nat} (bits_lt : bits < 256 ^ kind.size) :
    kind.toBits (kind.ofBits bits) = bits := by
  cases kind
  · exact UInt8.toNat_ofNat_of_lt' bits_lt
  · exact UInt16.toNat_ofNat_of_lt' bits_lt
  · exact UInt32.toNat_ofNat_of_lt' bits_lt
  · exact UInt64.toNat_ofNat_of_lt' bits_lt
  · exact UInt8.toNat_ofNat_of_lt' bits_lt
  · exact UInt16.toNat_ofNat_of_lt' bits_lt
  · exact UInt32.toNat_ofNat_of_lt' bits_lt
  · exact UInt64.toNat_ofNat_of_lt' bits_lt
  · exact UInt32.toNat_ofNat_of_lt' bits_lt
  · exact UInt64.toNat_ofNat_of_lt' bits_lt

end NumKind

/-- The packages that have a type `OptionBool`. -/
inductive OptionBoolPackage where
  | scale | types
  deriving DecidableEq, Repr

/-- How reflection classifies a type that has its own `Decode` method. -/
inductive MethodKind where
  | struct | slice | array
  deriving DecidableEq, Repr

/-- The types with their own `Encode` and `Decode` methods. -/
structure MethodTypes where
  /-- Names of the types. -/
  Name : Type
  /-- Values of a type. -/
  Carrier : Name → Type
  /-- The reflected kind of a type. -/
  kind : Name → MethodKind
  /-- The zero value. -/
  zero : (name : Name) → Carrier name
  /-- The value `Decode` starts from: a slice of zeros of the target's length, else zero. -/
  holder : (name : Name) → Carrier name → Carrier name
  /-- The `Encode` method. -/
  encode : (name : Name) → Carrier name → Written
  /-- The `Decode` method, applied to the holder. -/
  decode : (name : Name) → Carrier name → Decoder (Carrier name)

/-- No types with methods. -/
def MethodTypes.none : MethodTypes where
  Name := Empty
  Carrier := fun _ => Unit
  kind := fun _ => .struct
  zero := fun _ => ()
  holder := fun _ value => value
  encode := fun _ _ => .ok []
  decode := fun _ value => pure value

/-- What reflection knows about a struct field besides its type. -/
structure FieldTag where
  /-- The tag `scale:"-"`. -/
  skip : Bool
  /-- The field is exported, so reflection may read and set it. -/
  exported : Bool
  deriving DecidableEq, Repr

/-- An ordinary exported field. -/
def FieldTag.plain : FieldTag := ⟨false, true⟩

variable (types : MethodTypes)

mutual

/-- The types the codec distinguishes. -/
inductive GoType where
  | bool
  | num (kind : NumKind)
  /-- `int`, `uint` and `uintptr`, which have no fixed size. -/
  | word
  | string
  | array (count : Nat) (item : GoType)
  | slice (item : GoType)
  | struct (fields : GoFields)
  | ptr (target : GoType)
  /-- `types.Option[T]` and the other types decoded by `DecodeOption`. -/
  | option (payload : GoType)
  /-- `OptionBool` of either package. -/
  | optionBool (package : OptionBoolPackage)
  | method (name : types.Name)
  /-- Complex numbers, channels, functions, interfaces, maps and unsafe pointers. -/
  | unsupported

/-- The fields of a struct. -/
inductive GoFields where
  | nil
  | cons (tag : FieldTag) (field : GoType) (later : GoFields)

end

/-- A slice with the elements that lie beyond its length but within its capacity. -/
structure GoSlice (α : Type) where
  /-- Elements up to the length. -/
  elems : List α
  /-- Elements from the length to the capacity. -/
  spare : List α

/-- `cap` of a slice. -/
def GoSlice.capacity {α : Type} (slice : GoSlice α) : Nat := slice.elems.length + slice.spare.length

/-- Set the length of a slice, allocating zeros when the capacity does not suffice. -/
def GoSlice.resize {α : Type} (zero : α) (count : Nat) (slice : GoSlice α) : GoSlice α :=
  if count = slice.elems.length then
    slice
  else if slice.capacity < count then
    ⟨List.replicate count zero, []⟩
  else
    ⟨(slice.elems ++ slice.spare).take count, (slice.elems ++ slice.spare).drop count⟩

variable {types}

mutual

/-- The values of a type. -/
def GoType.Val : GoType types → Type
  | .bool => Bool
  | .num kind => kind.Val
  | .word => UInt64
  | .string => List UInt8
  | .array count item => List.Vector item.Val count
  | .slice item => GoSlice item.Val
  | .struct fields => fields.Val
  | .ptr target => Option target.Val
  | .option payload => Bool × payload.Val
  | .optionBool _ => Bool × Bool
  | .method name => types.Carrier name
  | .unsupported => Unit

/-- The field values of a struct. -/
def GoFields.Val : GoFields types → Type
  | .nil => Unit
  | .cons _ field later => field.Val × later.Val

end

mutual

/-- The zero value of a type. -/
def GoType.zero : (type : GoType types) → type.Val
  | .bool => false
  | .num kind => kind.ofBits 0
  | .word => (0 : UInt64)
  | .string => ([] : List UInt8)
  | .array count item => List.Vector.replicate count item.zero
  | .slice item => (⟨[], []⟩ : GoSlice item.Val)
  | .struct fields => fields.zero
  | .ptr target => (none : Option target.Val)
  | .option payload => (false, payload.zero)
  | .optionBool _ => (false, false)
  | .method name => types.zero name
  | .unsupported => ()

/-- The zero values of the fields of a struct. -/
def GoFields.zero : (fields : GoFields types) → fields.Val
  | .nil => ()
  | .cons _ field later => (field.zero, later.zero)

end

end SubstrateClient.Scale
