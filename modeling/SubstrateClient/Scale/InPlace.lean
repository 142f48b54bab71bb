import SubstrateClient.Places
import SubstrateClient.Scale.Overwriting
import SubstrateClient.SliceStore

/-!
# Decoding in place

`DecodeIntoReflectValue` writes to the memory of its target: a slice keeps its array as long as the capacity
suffices, and the array may be that of another slice.  `decodeAt` is the decoder over a memory.  Into targets
whose parts share no memory it decodes as `decode` does on values.
-/

namespace SubstrateClient.Scale

open ByteParser

variable {types : MethodTypes} {α : Type}

/-! ## Targets in memory -/

/-- What a cell of the memory holds. -/
inductive Cell (types : MethodTypes) where
  | blank
  | bool (value : Bool)
  | num (bits : Nat)
  | word (value : UInt64)
  | string (bytes : List UInt8)
  | slice (header : Slice)
  | pointer (target : Option Nat)
  | optionBool (value : Bool × Bool)
  /-- The value of a type with its own `Decode` method, which replaces it as a whole. -/
  | method (name : types.Name) (value : types.Carrier name)

/-- The memory that targets lie in. -/
abbrev Memory (types : MethodTypes) : Type := CellStore (Cell types)

namespace Cell

/-- A flag. -/
def toBool : Cell types → Bool
  | .bool value => value
  | _ => false

/-- The header of a slice; nil otherwise. -/
def toSlice : Cell types → Slice
  | .slice header => header
  | _ => ⟨0, 0, 0, le_rfl⟩

/-- The address in a pointer. -/
def toPointer : Cell types → Option Nat
  | .pointer target => target
  | _ => none

/-- The value of a type that takes one cell. -/
def load [DecidableEq types.Name] : (type : GoType types) → Cell types → type.Val
  | .bool, cell => cell.toBool
  | .num kind, .num bits => kind.ofBits bits
  | .word, .word value => value
  | .string, .string bytes => bytes
  | .optionBool _, .optionBool value => value
  | .method name, .method other value => if same : other = name then same ▸ value else types.zero name
  | type, _ => type.zero

/-- The cell for a value of a type that takes one cell. -/
def keep : (type : GoType types) → type.Val → Cell types
  | .bool, value => .bool value
  | .num kind, value => .num (kind.toBits value)
  | .word, value => .word value
  | .string, value => .string value
  | .optionBool _, value => .optionBool value
  | .method name, value => .method name value
  | _, _ => .blank

end Cell

mutual

/-- How many cells a value takes.  The items of a slice lie elsewhere. -/
def GoType.size : GoType types → Nat
  | .array count item => count * item.size
  | .struct fields => fields.size
  | .option payload => 1 + payload.size
  | .bool | .num _ | .word | .string | .slice _ | .ptr _ | .optionBool _ | .method _ | .unsupported => 1

/-- How many cells the fields take. -/
def GoFields.size : GoFields types → Nat
  | .nil => 0
  | .cons _ field later => field.size + later.size

end

open Place

/-- An array: as many items, one behind the other. -/
def arrayPlace (size : Nat) (place : Nat → Place (Cell types) α) (count address : Nat) :
    Place (Cell types) (List.Vector α count) :=
  .vector ⟨(addresses size address count).map place, by simp⟩

/-- The array that the header of a slice leads to. -/
def itemsPlace (size : Nat) (place : Nat → Place (Cell types) α) (header : Slice) : Place (Cell types) (List α) :=
  .run ((addresses size header.base header.cap).map place)

/-- The items up to the length of a slice, and those beyond it. -/
def divide (found : Slice × List α) : GoSlice α := ⟨found.2.take found.1.len, found.2.drop found.1.len⟩

/-- A slice: a header that leads to an array. -/
def slicePlace (size : Nat) (place : Nat → Place (Cell types) α) (address : Nat) :
    Place (Cell types) (GoSlice α) :=
  ((Place.cell address Cell.toSlice).bind (itemsPlace size place)).map divide

/-- What a pointer leads to. -/
def targetPlace (place : Nat → Place (Cell types) α) : Option Nat → Place (Cell types) (Option α)
  | none => .const none
  | some inner => (place inner).map some

/-- A pointer, with what it leads to. -/
def pointerPlace (place : Nat → Place (Cell types) α) (address : Nat) : Place (Cell types) (Option α) :=
  ((Place.cell address Cell.toPointer).bind (targetPlace place)).map Prod.snd

section Parts

variable (size : Nat) (write : α → Nat → Memory types → Memory types)

/-- Write a slice with a new array. -/
def writeSlice (value : GoSlice α) (address : Nat) (memory : Memory types) : Memory types :=
  let items := value.elems ++ value.spare
  writeAll size write items memory.limit <|
    (memory.grow (items.length * size)).set address
      (.slice ⟨memory.limit, value.elems.length, items.length, by simp [items]⟩)

/-- Write a pointer, with a new target. -/
def writePointer (value : Option α) (address : Nat) (memory : Memory types) : Memory types :=
  match value with
  | none => memory.set address (.pointer none)
  | some inner =>
      write inner memory.limit <| (memory.grow size).set address (.pointer (some memory.limit))

end Parts

variable [DecidableEq types.Name]

mutual

/-- The place of a value at an address, with everything it leads to. -/
def GoType.place : (type : GoType types) → Nat → Place (Cell types) type.Val
  | .array count item, address => arrayPlace item.size item.place count address
  | .slice item, address => slicePlace item.size item.place address
  | .struct fields, address => fields.place address
  | .ptr element, address => pointerPlace element.place address
  | .option payload, address => (Place.cell address Cell.toBool).bind fun _ => payload.place (address + 1)
  | .bool, address => .cell address (Cell.load .bool)
  | .num kind, address => .cell address (Cell.load (.num kind))
  | .word, address => .cell address (Cell.load .word)
  | .string, address => .cell address (Cell.load .string)
  | .optionBool package, address => .cell address (Cell.load (.optionBool package))
  | .method name, address => .cell address (Cell.load (.method name))
  | .unsupported, address => .cell address (Cell.load .unsupported)

/-- The places of the fields, one behind the other. -/
def GoFields.place : (fields : GoFields types) → Nat → Place (Cell types) fields.Val
  | .nil, _ => .const ()
  | .cons _ field later, address => (field.place address).bind fun _ => later.place (address + field.size)

end

mutual

/-- Write a value, with new arrays for its slices. -/
def GoType.write : (type : GoType types) → type.Val → Nat → Memory types → Memory types
  | .array _ item, value, address, memory =>
      writeAll item.size item.write (List.Vector.toList value) address memory
  | .slice item, value, address, memory => writeSlice item.size item.write value address memory
  | .struct fields, value, address, memory => fields.write value address memory
  | .ptr element, value, address, memory => writePointer element.size element.write value address memory
  | .option payload, value, address, memory =>
      payload.write value.2 (address + 1) (memory.set address (.bool value.1))
  | .bool, value, address, memory => memory.set address (.keep .bool value)
  | .num kind, value, address, memory => memory.set address (.keep (.num kind) value)
  | .word, value, address, memory => memory.set address (.keep .word value)
  | .string, value, address, memory => memory.set address (.keep .string value)
  | .optionBool package, value, address, memory => memory.set address (.keep (.optionBool package) value)
  | .method name, value, address, memory => memory.set address (.keep (.method name) value)
  | .unsupported, _, address, memory => memory.set address .blank

/-- Write the fields, one behind the other. -/
def GoFields.write : (fields : GoFields types) → fields.Val → Nat → Memory types → Memory types
  | .nil, _, _, memory => memory
  | .cons _ field later, value, address, memory =>
      later.write value.2 (address + field.size) (field.write value.1 address memory)

end

/-! ## The decoder -/

section Items

variable (grants : Nat → Bool) (size : Nat) (write : α → Nat → Memory types → Memory types) (zero : α)
  (decodeAt : Nat → Memory types → Decoder (Memory types))

/-- `SetLen`, or `MakeSlice` where the capacity does not suffice. -/
def resizeAt (count address : Nat) (memory : Memory types) : Memory types :=
  let header := (memory.cells address).toSlice
  if count = header.len then
    memory
  else if fits : count ≤ header.cap then
    memory.set address (.slice ⟨header.base, count, header.cap, fits⟩)
  else
    writeSlice size write ⟨List.replicate count zero, []⟩ address memory

/-- Decode the items of a slice whose length prefix has been read. -/
def decodeItemsAt (address : Nat) (memory : Memory types) (codedLen : Nat) : Decoder (Memory types) :=
  if maxUint32 < codedLen % 2 ^ 64 then
    ByteParser.fail (.text ("Encoded array length is higher than allowed by the protocol " ++
      "(32-bit unsigned integer)"))
  else if maxInt < codedLen % 2 ^ 64 then
    ByteParser.fail (.text "Encoded array length is higher than allowed by the platform")
  else if (memory.cells address).toSlice.cap < codedLen % 2 ^ 64 ∧ grants (codedLen % 2 ^ 64) = false then
    ByteParser.abort
  else
    let resized := resizeAt size write zero (codedLen % 2 ^ 64) address memory
    (addresses size (resized.cells address).toSlice.base (codedLen % 2 ^ 64)).foldlM
      (fun memory address => decodeAt address memory) resized

/-- The slice branch of `DecodeIntoReflectValue`. -/
def decodeSliceAt (address : Nat) (memory : Memory types) : Decoder (Memory types) := fun input =>
  match decodeUintCompact input with
  | .ok (codedLen, rest) => decodeItemsAt grants size write zero decodeAt address memory codedLen rest
  | _ => .panic

end Items

/-- Decode a value and set the target to it, as is done with everything that is not filled in place: numbers
and strings, and types with their own `Decode` method. -/
def decodeWhole [Runtime types] (type : GoType types) (address : Nat) (memory : Memory types) :
    Decoder (Memory types) :=
  type.decode ((type.place address).read memory) >>= fun value => pure (type.write value address memory)

mutual

/-- `DecodeIntoReflectValue`, for a target at an address. -/
def GoType.decodeAt [Runtime types] : (type : GoType types) → Nat → Memory types → Decoder (Memory types)
  | .array count item, address, memory =>
      (addresses item.size address count).foldlM (fun memory address => item.decodeAt address memory) memory
  | .slice item, address, memory =>
      decodeSliceAt (Runtime.grants item) item.size item.write item.zero item.decodeAt address memory
  | .struct fields, address, memory => fields.decodeAt address memory
  | .ptr element, address, memory =>
      match (memory.cells address).toPointer with
      | none => ByteParser.abort
      | some inner => element.decodeAt inner memory
  | .option payload, address, memory => decodeWhole (.option payload) address memory
  | .bool, address, memory => decodeWhole .bool address memory
  | .num kind, address, memory => decodeWhole (.num kind) address memory
  | .word, address, memory => decodeWhole .word address memory
  | .string, address, memory => decodeWhole .string address memory
  | .optionBool package, address, memory => decodeWhole (.optionBool package) address memory
  | .method name, address, memory => decodeWhole (.method name) address memory
  | .unsupported, address, memory => decodeWhole .unsupported address memory

/-- The struct branch of `DecodeIntoReflectValue`. -/
def GoFields.decodeAt [Runtime types] :
    (fields : GoFields types) → Nat → Memory types → Decoder (Memory types)
  | .nil, _, memory => pure memory
  | .cons tag field later, address, memory =>
      if tag.skip then
        later.decodeAt (address + field.size) memory
      else if !tag.exported then
        ByteParser.fail (.fieldByField (.text "Unsettable value"))
      else do
        let memory ← (field.decodeAt address memory).mapError .fieldByField
        later.decodeAt (address + field.size) memory

end

/-! ## Writing whole values -/

/-- A region that is one cell long. -/
theorem mem_Ico_of_singleton {address width other : Nat} (some_width : 0 < width)
    (same : other ∈ ({address} : Set Nat)) : other ∈ Set.Ico address (address + width) := by
  rw [Set.mem_singleton_iff.mp same]
  exact ⟨le_rfl, Nat.lt_add_of_pos_right some_width⟩

/-- A value in one cell. -/
theorem sets_keep {type : GoType types} {value : type.Val} {address : Nat} {memory : Memory types}
    (taken : address + 1 ≤ memory.limit) (read_back : Cell.load type (.keep type value) = value) :
    (Place.cell address (Cell.load type)).Sets value (Set.Ico address (address + 1)) memory
      (memory.set address (.keep type value)) :=
  (sets_cell taken read_back).mono fun _ same => .inl (mem_Ico_of_singleton Nat.one_pos same)

section Parts

variable {size : Nat} {place : Nat → Place (Cell types) α} {write : α → Nat → Memory types → Memory types}

omit [DecidableEq types.Name]

theorem sets_array (each : Writes size place write) {count : Nat} (value : List.Vector α count) {address : Nat}
    {memory : Memory types} (taken : address + count * size ≤ memory.limit) :
    (arrayPlace size place count address).Sets value (Set.Ico address (address + count * size)) memory
      (writeAll size write value.toList address memory) := by
  have items := sets_writeAll each value.toList address memory (by rwa [value.toList_length])
  rw [value.toList_length] at items
  apply Sets.vector
  exact items

theorem sets_slice (each : Writes size place write) (value : GoSlice α) {address : Nat} {memory : Memory types}
    (taken : address < memory.limit) :
    (slicePlace size place address).Sets value {address} memory (writeSlice size write value address memory) := by
  let items := value.elems ++ value.spare
  let header : Slice := ⟨memory.limit, value.elems.length, items.length, by simp [items]⟩
  have written := sets_writeAll each items memory.limit
    ((memory.grow (items.length * size)).set address (.slice header)) le_rfl
  have found := (Sets.leading Cell.toSlice (.slice header) (itemsPlace size place) taken written).map divide
  have whole : divide (header, items) = value := by
    rw [divide, List.take_left, List.drop_left]
  exact ⟨found.holds.trans whole, found.owned, found.within, found.grows, found.others⟩

theorem sets_pointer (each : Writes size place write) (value : Option α) {address : Nat} {memory : Memory types}
    (taken : address < memory.limit) :
    (pointerPlace place address).Sets value {address} memory (writePointer size write value address memory) := by
  cases value with
  | none =>
      have nothing : (targetPlace place none).Sets none (Set.Ico memory.limit (memory.limit + 0))
          ((memory.grow 0).set address (.pointer none)) (memory.set address (.pointer none)) :=
        (sets_const none _).mono (by simp)
      exact (Sets.leading Cell.toPointer (.pointer none) (targetPlace place) taken nothing).map Prod.snd
  | some inner =>
      have target := (each inner memory.limit ((memory.grow size).set address (.pointer (some memory.limit)))
        le_rfl).map some
      exact (Sets.leading Cell.toPointer (.pointer (some memory.limit)) (targetPlace place) taken target).map Prod.snd

end Parts

mutual

theorem GoType.sets_write : (type : GoType types) → (value : type.Val) → (address : Nat) →
    (memory : Memory types) → address + type.size ≤ memory.limit →
    (type.place address).Sets value (Set.Ico address (address + type.size)) memory
      (type.write value address memory)
  | .array _ item, value, _, _, taken => sets_array item.sets_write value taken
  | .slice item, value, _, _, taken =>
      (sets_slice item.sets_write value taken).mono fun _ same => .inl (mem_Ico_of_singleton Nat.one_pos same)
  | .struct fields, value, address, memory, taken => fields.sets_write value address memory taken
  | .ptr element, value, _, _, taken =>
      (sets_pointer element.sets_write value taken).mono fun _ same => .inl (mem_Ico_of_singleton Nat.one_pos same)
  | .option payload, value, address, memory, taken => by
      have taken : address + 1 + payload.size ≤ memory.limit := by
        rwa [Nat.add_assoc]
      have flag : (Place.cell address Cell.toBool).Sets value.1 (Set.Ico address (address + 1)) memory
          (memory.set address (.bool value.1)) :=
        Sets.mono (sets_cell (Nat.le_of_add_right_le taken) rfl) fun _ same =>
          .inl (mem_Ico_of_singleton Nat.one_pos same)
      have inner := payload.sets_write value.2 (address + 1) _ (taken.trans flag.grows)
      have both := flag.behind inner ⟨Nat.le_add_right .., Nat.le_add_right ..⟩ taken
      rwa [Nat.add_assoc] at both
  | .bool, _, _, _, taken => sets_keep taken rfl
  | .num kind, value, _, _, taken => sets_keep taken (kind.ofBits_toBits value)
  | .word, _, _, _, taken => sets_keep taken rfl
  | .string, _, _, _, taken => sets_keep taken rfl
  | .optionBool _, _, _, _, taken => sets_keep taken rfl
  | .method _, _, _, _, taken => sets_keep taken (dif_pos rfl)
  | .unsupported, _, _, _, taken => sets_keep taken rfl

theorem GoFields.sets_write : (fields : GoFields types) → (value : fields.Val) → (address : Nat) →
    (memory : Memory types) → address + fields.size ≤ memory.limit →
    (fields.place address).Sets value (Set.Ico address (address + fields.size)) memory
      (fields.write value address memory)
  | .nil, value, address, memory, _ => (sets_const () memory).mono (by simp)
  | .cons _ field later, value, address, memory, taken => by
      have taken : address + field.size + later.size ≤ memory.limit := by
        rwa [Nat.add_assoc]
      have first := field.sets_write value.1 address memory (Nat.le_of_add_right_le taken)
      have others := later.sets_write value.2 (address + field.size) _ (taken.trans first.grows)
      have both := first.behind others ⟨Nat.le_add_right .., Nat.le_add_right ..⟩ taken
      rwa [Nat.add_assoc] at both

end

mutual

/-- The cells of a value belong to its place. -/
theorem GoType.mem_footprint : (type : GoType types) → (address : Nat) → (memory : Memory types) →
    (other : Nat) → address ≤ other → other < address + type.size →
    other ∈ (type.place address).footprint memory
  | .array count item, address, memory, other, from_start, inside =>
      mem_footprint_run item.mem_footprint count address memory from_start inside
  | .struct fields, address, memory, other, from_start, inside =>
      fields.mem_footprint address memory other from_start inside
  | .option payload, address, memory, other, from_start, inside => by
      have inside : other < address + 1 + payload.size := by
        rwa [Nat.add_assoc]
      rcases from_start.eq_or_lt with same | behind
      · exact List.mem_append_left _ (List.mem_singleton.mpr same.symm)
      · exact List.mem_append_right _ (payload.mem_footprint (address + 1) memory other behind inside)
  | .slice _, _, _, _, from_start, inside | .ptr _, _, _, _, from_start, inside =>
      List.mem_append_left _ (List.mem_singleton.mpr (Nat.le_antisymm (Nat.le_of_lt_succ inside) from_start))
  | .bool, _, _, _, from_start, inside | .num _, _, _, _, from_start, inside
  | .word, _, _, _, from_start, inside | .string, _, _, _, from_start, inside
  | .optionBool _, _, _, _, from_start, inside | .method _, _, _, _, from_start, inside
  | .unsupported, _, _, _, from_start, inside =>
      List.mem_singleton.mpr (Nat.le_antisymm (Nat.le_of_lt_succ inside) from_start)

theorem GoFields.mem_footprint : (fields : GoFields types) → (address : Nat) → (memory : Memory types) →
    (other : Nat) → address ≤ other → other < address + fields.size →
    other ∈ (fields.place address).footprint memory
  | .nil, address, _, other, from_start, inside => absurd inside (not_lt.mpr from_start)
  | .cons _ field later, address, memory, other, from_start, inside => by
      have inside : other < address + field.size + later.size := by
        rwa [Nat.add_assoc]
      by_cases first : other < address + field.size
      · exact List.mem_append_left _ (field.mem_footprint address memory other from_start first)
      · exact List.mem_append_right _
          (later.mem_footprint (address + field.size) memory other (not_lt.mp first) inside)

end

/-- Setting a target to a value as a whole. -/
theorem GoType.becomes_write (type : GoType types) {address : Nat} {memory : Memory types}
    (owned : (type.place address).Owned memory) (some_size : 0 < type.size) (value : type.Val) :
    (type.place address).Becomes value memory (type.write value address memory) := by
  have last := type.mem_footprint address memory (address + (type.size - 1)) (by omega) (by omega)
  have taken : address + type.size ≤ memory.limit := by
    have := owned.below _ last
    omega
  exact (type.sets_write value address memory taken).mono fun other inside =>
    .inl (type.mem_footprint address memory other inside.1 inside.2)

/-- What is not filled in place is decoded as a value. -/
theorem implements_decodeWhole [Runtime types] (type : GoType types) (some_size : 0 < type.size) (address : Nat) :
    (type.place address).Implements type.decode (decodeWhole type address) :=
  implements_write fun _ value owned => type.becomes_write owned some_size value

/-! ## Slices -/

section Slices

variable {size : Nat} {place : Nat → Place (Cell types) α} {write : α → Nat → Memory types → Memory types}
  {zero : α} {address : Nat} {memory : Memory types}

omit [DecidableEq types.Name]

/-- The items of an array behind a header. -/
theorem length_items (header : Slice) (memory : Memory types) :
    ((itemsPlace size place header).read memory).length = header.cap := by
  rw [itemsPlace, length_read_run, List.length_map, length_addresses]

theorem divide_append (found : Slice × List α) : (divide found).elems ++ (divide found).spare = found.2 :=
  List.take_append_drop _ _

theorem capacity_slicePlace (memory : Memory types) :
    ((slicePlace size place address).read memory).capacity = (memory.cells address).toSlice.cap := by
  rw [GoSlice.capacity, ← List.length_append]
  exact (congrArg List.length (divide_append _)).trans (length_items _ memory)

theorem length_slicePlace (memory : Memory types) :
    ((slicePlace size place address).read memory).elems.length = (memory.cells address).toSlice.len := by
  refine (List.length_take ..).trans (min_eq_left ?_)
  rw [read_bind, length_items]
  exact (memory.cells address).toSlice.len_le

/-- The length is set within the capacity: the header leads to the same array. -/
theorem becomes_setLen (owned : (slicePlace size place address).Owned memory) {header : Slice}
    (base : header.base = (memory.cells address).toSlice.base)
    (cap : header.cap = (memory.cells address).toSlice.cap) :
    (slicePlace size place address).Becomes (divide (header, (itemsPlace size place header).read memory)) memory
      (memory.set address (.slice header)) := by
  have same_items : itemsPlace size place (memory.cells address).toSlice = itemsPlace size place header := by
    rw [itemsPlace, itemsPlace, base, cap]
  obtain ⟨owned_header, owned_items, apart⟩ := owned_bind_iff.mp owned.of_map
  have owned_items : (itemsPlace size place header).Owned memory := same_items ▸ owned_items
  have apart : ∀ other ∈ [address], other ∉ (itemsPlace size place header).footprint memory := same_items ▸ apart
  have written : (Place.cell address Cell.toSlice).Sets header {address} memory (memory.set address (.slice header)) :=
    sets_cell (owned_header.below address List.mem_cons_self) rfl
  obtain ⟨read, footprint, owned_after⟩ := written.untouched owned_items fun other inside same =>
    apart other (List.mem_singleton.mpr same) inside
  have items := owned_after.becomes
  rw [read] at items
  refine Sets.map (Sets.bind written items (fun other same inside => ?_) ?_ ?_) divide
  · exact apart other same (footprint ▸ inside)
  · exact fun other same => .inl (List.mem_append_left _ (List.mem_singleton.mpr same))
  · intro other inside
    have inside : other ∈ (itemsPlace size place (memory.cells address).toSlice).footprint memory :=
      same_items ▸ footprint ▸ inside
    exact .inl (List.mem_append_right _ inside)

theorem becomes_resizeAt (each : Writes size place write) (owned : (slicePlace size place address).Owned memory)
    (count : Nat) :
    (slicePlace size place address).Becomes (((slicePlace size place address).read memory).resize zero count) memory
      (resizeAt size write zero count address memory) := by
  have header : address ∈ (slicePlace size place address).footprint memory :=
    List.mem_append_left _ List.mem_cons_self
  rw [GoSlice.resize, resizeAt, length_slicePlace, capacity_slicePlace]
  split_ifs with same large fits fits
  · exact owned.becomes
  · exact absurd fits (not_le.mpr large)
  · refine (sets_slice each _ (owned.below address header)).mono fun other same => .inl ?_
    rw [Set.mem_singleton_iff.mp same]
    exact header
  · have all : ((slicePlace size place address).read memory).elems ++
        ((slicePlace size place address).read memory).spare =
          (itemsPlace size place (memory.cells address).toSlice).read memory := divide_append _
    rw [all]
    exact @becomes_setLen _ _ _ place _ _ owned ⟨_, count, _, fits⟩ rfl rfl
  · exact absurd (not_lt.mp large) fits

/-- The items up to the length. -/
def elemsPlace (size : Nat) (place : Nat → Place (Cell types) α) (header : Slice) : Place (Cell types) (List α) :=
  run ((addresses size header.base header.len).map place)

/-- The items from the length to the capacity. -/
def sparePlace (size : Nat) (place : Nat → Place (Cell types) α) (header : Slice) : Place (Cell types) (List α) :=
  run ((addresses size (header.base + header.len * size) (header.cap - header.len)).map place)

theorem itemsPlace_eq (header : Slice) :
    itemsPlace size place header = ((elemsPlace size place header).bind fun _ => sparePlace size place header).map
      fun values => values.1 ++ values.2 := by
  have whole : header.cap = header.len + (header.cap - header.len) := (Nat.add_sub_cancel' header.len_le).symm
  rw [itemsPlace, elemsPlace, sparePlace, ← run_append, ← List.map_append, ← addresses_add, ← whole]

theorem length_elemsPlace (header : Slice) (memory : Memory types) :
    ((elemsPlace size place header).read memory).length = header.len := by
  rw [elemsPlace, length_read_run, List.length_map, length_addresses]

theorem divide_of_length {header : Slice} {elems spare : List α} (length : elems.length = header.len) :
    divide (header, elems ++ spare) = ⟨elems, spare⟩ := by
  rw [divide, ← length, List.take_left, List.drop_left]

theorem read_slicePlace (memory : Memory types) :
    (slicePlace size place address).read memory =
      ⟨(elemsPlace size place (memory.cells address).toSlice).read memory,
        (sparePlace size place (memory.cells address).toSlice).read memory⟩ := by
  have items : (itemsPlace size place (memory.cells address).toSlice).read memory =
      (elemsPlace size place (memory.cells address).toSlice).read memory ++
        (sparePlace size place (memory.cells address).toSlice).read memory := by
    rw [itemsPlace_eq]
    rfl
  refine Eq.trans ?_ (divide_of_length (length_elemsPlace (memory.cells address).toSlice memory))
  exact congrArg (fun found => divide ((memory.cells address).toSlice, found)) items

theorem owned_parts (owned : (slicePlace size place address).Owned memory) :
    ((elemsPlace size place (memory.cells address).toSlice).bind fun _ =>
      sparePlace size place (memory.cells address).toSlice).Owned memory := by
  have owned_items : (itemsPlace size place (memory.cells address).toSlice).Owned memory :=
    (owned_bind_iff.mp owned.of_map).2.1
  rw [itemsPlace_eq] at owned_items
  exact owned_items.of_map

variable {decodeItem : α → Decoder α} {decodeAt : Nat → Memory types → Decoder (Memory types)}

/-- The items up to the length are filled, and the others stay. -/
theorem becomes_items (owned : (slicePlace size place address).Owned memory) {values : List α}
    {after : Memory types}
    (becomes : (elemsPlace size place (memory.cells address).toSlice).Becomes values memory after) :
    (slicePlace size place address).Becomes
      ⟨values, (sparePlace size place (memory.cells address).toSlice).read memory⟩ memory after := by
  have length : values.length = (memory.cells address).toSlice.len := by
    rw [← becomes.holds, length_elemsPlace]
  have items : (itemsPlace size place (memory.cells address).toSlice).Becomes
      (values ++ (sparePlace size place (memory.cells address).toSlice).read memory) memory after := by
    obtain ⟨owned_spare, same⟩ := becomes.second_untouched (owned_parts owned)
    have spare := owned_spare.becomes
    rw [same] at spare
    rw [itemsPlace_eq]
    exact (becomes.pair (owned_parts owned) spare).map fun values => values.1 ++ values.2
  rw [← divide_of_length length]
  exact Sets.map (Becomes.body owned.of_map items) divide

theorem follows_items (each : ∀ address, (place address).Implements decodeItem (decodeAt address))
    (owned : (slicePlace size place address).Owned memory) (input : List UInt8) :
    (slicePlace size place address).Follows memory
      ((do
        let elems ← ((slicePlace size place address).read memory).elems.mapM decodeItem
        pure ⟨elems, ((slicePlace size place address).read memory).spare⟩ : Decoder (GoSlice α)) input)
      ((addresses size (memory.cells address).toSlice.base (memory.cells address).toSlice.len).foldlM
        (fun memory address => decodeAt address memory) memory input) := by
  rw [read_slicePlace]
  have elems := implements_run each _ memory input (owned_bind_iff.mp (owned_parts owned)).1
  exact elems.view fun values after becomes => becomes_items owned becomes

theorem follows_decodeItemsAt {grants : Nat → Bool} (writes : Writes size place write)
    (each : ∀ address, (place address).Implements decodeItem (decodeAt address))
    (owned : (slicePlace size place address).Owned memory) (codedLen : Nat) (input : List UInt8) :
    (slicePlace size place address).Follows memory
      (decodeItems grants zero decodeItem ((slicePlace size place address).read memory) codedLen input)
      (decodeItemsAt grants size write zero decodeAt address memory codedLen input) := by
  unfold decodeItems decodeItemsAt
  rw [capacity_slicePlace]
  split_ifs
  · exact .error _
  · exact .error _
  · exact .panic
  · have becomes := @becomes_resizeAt _ _ _ _ _ zero _ _ writes owned (codedLen % 2 ^ 64)
    have follows := follows_items each becomes.owned input
    have count : ((resizeAt size write zero (codedLen % 2 ^ 64) address memory).cells address).toSlice.len =
        codedLen % 2 ^ 64 := by
      rw [← @length_slicePlace _ _ size place, becomes.holds, length_resize]
    rw [becomes.holds, count] at follows
    exact follows.after becomes

/-- The slice branch in memory is the slice branch on values. -/
theorem implements_decodeSliceAt {grants : Nat → Bool} (writes : Writes size place write)
    (each : ∀ address, (place address).Implements decodeItem (decodeAt address)) (address : Nat) :
    (slicePlace size place address).Implements (decodeSlice grants zero decodeItem)
      (decodeSliceAt grants size write zero decodeAt address) := by
  intro memory input owned
  unfold decodeSlice decodeSliceAt
  cases decodeUintCompact input with
  | ok result => exact follows_decodeItemsAt writes each owned result.1 result.2
  | error _ | panic | outOfFuel => exact .panic

end Slices

/-! ## All types -/

section Pointers

variable {place : Nat → Place (Cell types) α} {decode : α → Decoder α}
  {decodeAt : Nat → Memory types → Decoder (Memory types)} {decodePointer : Option α → Decoder (Option α)}
  {decodePointerAt : Memory types → Decoder (Memory types)}

omit [DecidableEq types.Name]

/-- A pointer is followed, unless it is nil. -/
theorem implements_pointer (each : ∀ address, (place address).Implements decode (decodeAt address))
    (address : Nat) (nil : decodePointer none = abort)
    (followed : ∀ inner, decodePointer (some inner) = decode inner >>= fun decoded => pure (some decoded))
    (nil_at : ∀ memory : Memory types, (memory.cells address).toPointer = none → decodePointerAt memory = abort)
    (followed_at : ∀ (memory : Memory types) (inner : Nat), (memory.cells address).toPointer = some inner →
      decodePointerAt memory = decodeAt inner memory) :
    (pointerPlace place address).Implements decodePointer decodePointerAt := by
  intro memory input owned
  have owned := owned.of_map
  have owned_target := (owned_bind_iff.mp owned).2.1
  change Follows _ _ (decodePointer ((targetPlace place (memory.cells address).toPointer).read memory) input) _
  change (targetPlace place (memory.cells address).toPointer).Owned memory at owned_target
  cases target : (memory.cells address).toPointer with
  | none =>
      rw [nil_at memory target]
      change Follows _ _ (decodePointer none input) _
      rw [nil]
      exact .panic
  | some inner =>
      rw [target] at owned_target
      rw [followed_at memory inner target]
      change Follows _ _ (decodePointer (some _) input) _
      rw [followed]
      refine (each inner memory input owned_target.of_map).view fun value after becomes => ?_
      have body : (targetPlace place ((Place.cell address Cell.toPointer).read memory)).Becomes (some value) memory
          after := by
        rw [show (Place.cell address Cell.toPointer).read memory = some inner from target]
        exact becomes.map some
      exact (Becomes.body owned body).map Prod.snd

end Pointers

mutual

/-- Into a target whose parts share no memory, values are decoded in place as they are decoded on their own. -/
theorem GoType.implements_decodeAt [Runtime types] : (type : GoType types) → (address : Nat) →
    (type.place address).Implements type.decode (type.decodeAt address)
  | .array _ item, _ => implements_vector item.implements_decodeAt _
  | .slice item, address => implements_decodeSliceAt item.sets_write item.implements_decodeAt address
  | .struct fields, address => fields.implements_decodeAt address
  | .ptr element, address =>
      implements_pointer element.implements_decodeAt address rfl (fun _ => rfl)
        (fun memory nil => by simp [GoType.decodeAt, nil]) fun memory inner found => by simp [GoType.decodeAt, found]
  | .option payload, address => implements_decodeWhole (.option payload) (Nat.lt_add_right _ Nat.one_pos) address
  | .bool, address => implements_decodeWhole .bool Nat.one_pos address
  | .num kind, address => implements_decodeWhole (.num kind) Nat.one_pos address
  | .word, address => implements_decodeWhole .word Nat.one_pos address
  | .string, address => implements_decodeWhole .string Nat.one_pos address
  | .optionBool package, address => implements_decodeWhole (.optionBool package) Nat.one_pos address
  | .method name, address => implements_decodeWhole (.method name) Nat.one_pos address
  | .unsupported, address => implements_decodeWhole .unsupported Nat.one_pos address

theorem GoFields.implements_decodeAt [Runtime types] : (fields : GoFields types) → (address : Nat) →
    (fields.place address).Implements fields.decode (fields.decodeAt address)
  | .nil, _ => implements_pure
  | .cons tag field later, address => by
      intro memory input owned
      have others := later.implements_decodeAt (address + field.size)
      rw [GoFields.decode, GoFields.decodeAt]
      split_ifs with skipped hidden
      · exact implements_pure.pair others memory input owned
      · exact .error _
      · have first : (field.place address).Implements
            (fun target => (field.decode target).mapError GoError.fieldByField)
            (fun memory => (field.decodeAt address memory).mapError GoError.fieldByField) :=
          fun memory input owned => (field.implements_decodeAt address memory input owned).mapError _
        exact first.pair others memory input owned

end

/-! ## Old contents -/

/-- A target of the decoder. -/
structure Target (types : MethodTypes) where
  memory : Memory types
  address : Nat

section Targets

variable [Runtime types] (type : GoType types)

/-- What the target holds. -/
def GoType.contents (target : Target types) : type.Val := (type.place target.address).read target.memory

/-- No two parts of the target share memory. -/
def GoType.Separate (target : Target types) : Prop := (type.place target.address).Owned target.memory

/-- Decode into a target. -/
def GoType.decodeInto (target : Target types) (input : List UInt8) :
    Outcome GoError (Target types × List UInt8) :=
  type.decodeAt target.address target.memory input >>= fun result => .ok (⟨result.1, target.address⟩, result.2)

/-- Decoding succeeds into both targets or into none, and then leaves the same value and consumes the same. -/
def GoType.OverwritesInto (first second : Target types) (input : List UInt8) : Prop :=
  (∀ after rest, type.decodeInto first input = .ok (after, rest) →
    ∃ other, type.decodeInto second input = .ok (other, rest) ∧
      type.Same (type.contents after) (type.contents other)) ∧
  ∀ other rest, type.decodeInto second input = .ok (other, rest) →
    ∃ after, type.decodeInto first input = .ok (after, rest)

variable {type}

/-- A target without shared memory is filled with what is decoded from its contents. -/
theorem GoType.decodeInto_eq_ok {target after : Target types} (separate : type.Separate target)
    {input rest : List UInt8} (run : type.decodeInto target input = .ok (after, rest)) :
    type.decode (type.contents target) input = .ok (type.contents after, rest) := by
  obtain ⟨result, run, returned⟩ := Outcome.bind_eq_ok.mp run
  have follows := type.implements_decodeAt target.address target.memory input separate
  rw [run] at follows
  cases returned
  exact follows.of_ok

theorem GoType.exists_decodeInto {target : Target types} (separate : type.Separate target) {value : type.Val}
    {input rest : List UInt8} (run : type.decode (type.contents target) input = .ok (value, rest)) :
    ∃ after, type.decodeInto target input = .ok (after, rest) ∧ type.contents after = value := by
  have follows := type.implements_decodeAt target.address target.memory input separate
  change Follows _ _ (type.decode (type.contents target) input) _ at follows
  rw [run] at follows
  obtain ⟨memory, filled, holds⟩ := follows.exists_of_ok
  exact ⟨⟨memory, target.address⟩, by rw [decodeInto, filled]; rfl, holds⟩

end Targets

/-- Targets without shared memory are filled as values are decoded. -/
theorem GoType.overwritesInto_iff {type : GoType types} {first second : Target types}
    (first_separate : type.Separate first) (second_separate : type.Separate second) (input : List UInt8) :
    type.OverwritesInto first second input ↔
      type.Overwrites (type.contents first) (type.contents second) input := by
  constructor
  · rintro ⟨forward, backward⟩
    refine ⟨fun value rest run => ?_, fun other rest run => ?_⟩
    · obtain ⟨after, filled, rfl⟩ := GoType.exists_decodeInto first_separate run
      obtain ⟨other, other_filled, same⟩ := forward after rest filled
      exact ⟨_, GoType.decodeInto_eq_ok second_separate other_filled, same⟩
    · obtain ⟨after, filled, -⟩ := GoType.exists_decodeInto second_separate run
      obtain ⟨_, first_filled⟩ := backward after rest filled
      exact ⟨_, GoType.decodeInto_eq_ok first_separate first_filled⟩
  · rintro ⟨forward, backward⟩
    refine ⟨fun after rest filled => ?_, fun other rest filled => ?_⟩
    · obtain ⟨value, run, same⟩ := forward _ rest (GoType.decodeInto_eq_ok first_separate filled)
      obtain ⟨other, other_filled, rfl⟩ := GoType.exists_decodeInto second_separate run
      exact ⟨other, other_filled, same⟩
    · obtain ⟨value, run⟩ := backward _ rest (GoType.decodeInto_eq_ok second_separate filled)
      obtain ⟨after, first_filled, -⟩ := GoType.exists_decodeInto first_separate run
      exact ⟨after, first_filled⟩

/-! ## Shared memory -/

/-- Both runs fail, or both succeed with the same rest. -/
abbrev Together (first second : Outcome GoError (Memory types × List UInt8)) : Prop :=
  Alike (fun _ _ => True) False first second

section Together

variable {decodeAt : Nat → Memory types → Decoder (Memory types)}

omit [DecidableEq types.Name]

theorem together_foldlM
    (each : ∀ address address' memory memory' input,
      Together (decodeAt address memory input) (decodeAt address' memory' input))
    {places places' : List Nat} (width : places.length = places'.length) (memory memory' : Memory types)
    (input : List UInt8) :
    Together (places.foldlM (fun memory address => decodeAt address memory) memory input)
      (places'.foldlM (fun memory address => decodeAt address memory) memory' input) := by
  induction places generalizing places' memory memory' input with
  | nil =>
      obtain rfl := List.length_eq_zero_iff.mp width.symm
      exact alike_pure (iff_of_true trivial id)
  | cons address places ih =>
      obtain ⟨address', places', rfl⟩ := List.exists_cons_of_length_eq_add_one width.symm
      rw [List.foldlM_cons, List.foldlM_cons]
      exact (each address address' memory memory' input).bind fun after after' rest _ _ =>
        ih (Nat.succ.inj width) after after' rest

theorem together_decodeSliceAt {size : Nat} {write : α → Nat → Memory types → Memory types} {zero : α}
    (each : ∀ address address' memory memory' input,
      Together (decodeAt address memory input) (decodeAt address' memory' input))
    (address address' : Nat) (memory memory' : Memory types) (input : List UInt8) :
    Together (decodeSliceAt ampleMemory size write zero decodeAt address memory input)
      (decodeSliceAt ampleMemory size write zero decodeAt address' memory' input) := by
  unfold decodeSliceAt
  cases decodeUintCompact input with
  | error _ | panic | outOfFuel => exact alike_of_not_succeeds (by simp) (by simp)
  | ok result =>
      obtain ⟨codedLen, rest⟩ := result
      dsimp only
      unfold decodeItemsAt
      by_cases large : maxUint32 < codedLen % 2 ^ 64
      · rw [if_pos large, if_pos large]
        exact alike_of_not_succeeds (by simp) (by simp)
      · have granted : ampleMemory (codedLen % 2 ^ 64) = true := ampleMemory_of_le (not_lt.mp large)
        rw [if_neg large, if_neg large, granted]
        simp only [Bool.true_eq_false, and_false, if_false]
        by_cases beyond : maxInt < codedLen % 2 ^ 64
        · rw [if_pos beyond, if_pos beyond]
          exact alike_of_not_succeeds (by simp) (by simp)
        · rw [if_neg beyond, if_neg beyond]
          exact together_foldlM each (by simp) _ _ rest

end Together

section Shared

variable {stale : (name : types.Name) → types.Carrier name → types.Carrier name → List UInt8 → Prop}

theorem together_decodeWhole (methods : types.TracesAt stale) {type : GoType types} (free : type.PointerFree)
    (address address' : Nat) (memory memory' : Memory types) (input : List UInt8) :
    Together (decodeWhole type address memory input) (decodeWhole type address' memory' input) :=
  (type.alike_decode methods free _ _ input).bind fun _ _ _ _ _ => alike_pure (iff_of_true trivial id)

mutual

/-- Whether decoding succeeds and what it consumes does not depend on the target, whatever its parts share. -/
theorem GoType.together_decodeAt (methods : types.TracesAt stale) : (type : GoType types) → type.PointerFree →
    (address address' : Nat) → (memory memory' : Memory types) → (input : List UInt8) →
    Together (type.decodeAt address memory input) (type.decodeAt address' memory' input)
  | .array _ item, free, _, _, memory, memory', input =>
      together_foldlM (item.together_decodeAt methods free) (by simp) memory memory' input
  | .slice item, free, address, address', memory, memory', input =>
      together_decodeSliceAt (item.together_decodeAt methods free) address address' memory memory' input
  | .struct fields, free, address, address', memory, memory', input =>
      fields.together_decodeAt methods free address address' memory memory' input
  | .option _, free, address, address', memory, memory', input
  | .bool, free, address, address', memory, memory', input
  | .num _, free, address, address', memory, memory', input
  | .word, free, address, address', memory, memory', input
  | .string, free, address, address', memory, memory', input
  | .optionBool _, free, address, address', memory, memory', input
  | .method _, free, address, address', memory, memory', input
  | .unsupported, free, address, address', memory, memory', input =>
      together_decodeWhole methods free address address' memory memory' input

theorem GoFields.together_decodeAt (methods : types.TracesAt stale) : (fields : GoFields types) →
    fields.PointerFree → (address address' : Nat) → (memory memory' : Memory types) → (input : List UInt8) →
    Together (fields.decodeAt address memory input) (fields.decodeAt address' memory' input)
  | .nil, _, _, _, _, _, _ => alike_pure (iff_of_true trivial id)
  | .cons tag field later, ⟨field_free, later_free⟩, address, address', memory, memory', input => by
      rw [GoFields.decodeAt, GoFields.decodeAt]
      split_ifs with skipped hidden
      · exact later.together_decodeAt methods later_free _ _ memory memory' input
      · exact alike_of_not_succeeds (by simp) (by simp)
      · exact ((field.together_decodeAt methods field_free address address' memory memory' input).mapError _).bind
          fun after after' rest _ _ => later.together_decodeAt methods later_free _ _ after after' rest

end

/-- Decoding succeeds into both targets or into none, and consumes the same. -/
theorem GoType.decodeInto_together (methods : types.TracesAt stale) {type : GoType types} (free : type.PointerFree)
    (first second : Target types) (input rest : List UInt8) :
    (∃ after, type.decodeInto first input = .ok (after, rest)) ↔
      ∃ after, type.decodeInto second input = .ok (after, rest) := by
  have together := type.together_decodeAt methods free first.address second.address first.memory second.memory input
  constructor
  · rintro ⟨after, filled⟩
    obtain ⟨result, run, returned⟩ := Outcome.bind_eq_ok.mp filled
    cases returned
    obtain ⟨other, other_run, -⟩ := together.ok_right _ _ run
    exact ⟨⟨other, second.address⟩, by rw [decodeInto, other_run]; rfl⟩
  · rintro ⟨after, filled⟩
    obtain ⟨result, run, returned⟩ := Outcome.bind_eq_ok.mp filled
    cases returned
    obtain ⟨other, other_run⟩ := together.ok_left _ _ run
    exact ⟨⟨other, first.address⟩, by rw [decodeInto, other_run]; rfl⟩

end Shared

end SubstrateClient.Scale
