import Mathlib.Data.List.Nodup
import Mathlib.Order.Interval.Set.Basic
import Mathlib.Tactic.Ring
import SubstrateClient.ByteParser

/-!
# Places in a memory

A place holds a value in memory.  Which addresses it consists of may depend on what is found there, as with
windows on arrays.  Two places that share no address are changed independently of each other, so that a parser
that fills a place item by item computes what it computes on values; with a shared address it need not.
-/

/-- A memory, of which the addresses below the limit are taken. -/
structure CellStore (Cell : Type) where
  cells : Nat → Cell
  limit : Nat

namespace CellStore

variable {Cell : Type}

/-- Write one cell. -/
def set (memory : CellStore Cell) (address : Nat) (cell : Cell) : CellStore Cell :=
  { memory with cells := Function.update memory.cells address cell }

/-- Take as many further addresses. -/
def grow (memory : CellStore Cell) (count : Nat) : CellStore Cell :=
  { memory with limit := memory.limit + count }

@[simp]
theorem limit_set (memory : CellStore Cell) (address : Nat) (cell : Cell) :
    (memory.set address cell).limit = memory.limit := rfl

@[simp]
theorem limit_grow (memory : CellStore Cell) (count : Nat) :
    (memory.grow count).limit = memory.limit + count := rfl

@[simp]
theorem cells_grow (memory : CellStore Cell) (count : Nat) : (memory.grow count).cells = memory.cells := rfl

@[simp]
theorem cells_set_self (memory : CellStore Cell) (address : Nat) (cell : Cell) :
    (memory.set address cell).cells address = cell := Function.update_self ..

theorem cells_set_of_ne (memory : CellStore Cell) {address other : Nat} (different : other ≠ address)
    (cell : Cell) : (memory.set address cell).cells other = memory.cells other :=
  Function.update_of_ne different ..

end CellStore

/-- What a place holds, and the addresses that decide it. -/
@[ext]
structure Place (Cell α : Type) where
  read : CellStore Cell → α
  footprint : CellStore Cell → List Nat
  read_congr : ∀ {memory after : CellStore Cell},
    (∀ address ∈ footprint memory, after.cells address = memory.cells address) → read after = read memory
  footprint_congr : ∀ {memory after : CellStore Cell},
    (∀ address ∈ footprint memory, after.cells address = memory.cells address) →
      footprint after = footprint memory

namespace Place

variable {Cell α β : Type}

/-- A place of no addresses. -/
def const (value : α) : Place Cell α where
  read := fun _ => value
  footprint := fun _ => []
  read_congr := fun _ => rfl
  footprint_congr := fun _ => rfl

/-- One cell. -/
def cell (address : Nat) (get : Cell → α) : Place Cell α where
  read := fun memory => get (memory.cells address)
  footprint := fun _ => [address]
  read_congr := fun same => congrArg get (same address List.mem_cons_self)
  footprint_congr := fun _ => rfl

/-- The value of a place, seen otherwise. -/
def map (view : α → β) (place : Place Cell α) : Place Cell β where
  read := fun memory => view (place.read memory)
  footprint := place.footprint
  read_congr := fun same => congrArg view (place.read_congr same)
  footprint_congr := place.footprint_congr

/-- A place and a second one that the value of the first one leads to. -/
def bind (header : Place Cell α) (body : α → Place Cell β) : Place Cell (α × β) where
  read := fun memory => (header.read memory, (body (header.read memory)).read memory)
  footprint := fun memory => header.footprint memory ++ (body (header.read memory)).footprint memory
  read_congr := by
    intro memory after same
    obtain ⟨same_header, same_body⟩ := List.forall_mem_append.mp same
    rw [header.read_congr same_header, (body _).read_congr same_body]
  footprint_congr := by
    intro memory after same
    obtain ⟨same_header, same_body⟩ := List.forall_mem_append.mp same
    rw [header.read_congr same_header, header.footprint_congr same_header, (body _).footprint_congr same_body]

theorem read_bind (header : Place Cell α) (body : α → Place Cell β) (memory : CellStore Cell) :
    (header.bind body).read memory = (header.read memory, (body (header.read memory)).read memory) := rfl

theorem footprint_bind (header : Place Cell α) (body : α → Place Cell β) (memory : CellStore Cell) :
    (header.bind body).footprint memory =
      header.footprint memory ++ (body (header.read memory)).footprint memory := rfl

/-- Places one after the other. -/
def run : List (Place Cell α) → Place Cell (List α)
  | [] => const []
  | place :: places => (place.bind fun _ => run places).map fun values => values.1 :: values.2

theorem length_read_run (places : List (Place Cell α)) (memory : CellStore Cell) :
    ((run places).read memory).length = places.length := by
  induction places with
  | nil => rfl
  | cons place places ih => exact congrArg Nat.succ ih

/-- As many places as a vector has entries. -/
def vector {count : Nat} (places : List.Vector (Place Cell α) count) : Place Cell (List.Vector α count) where
  read := fun memory =>
    ⟨(run places.toList).read memory, (length_read_run _ memory).trans places.toList_length⟩
  footprint := (run places.toList).footprint
  read_congr := fun same => Subtype.ext ((run places.toList).read_congr same)
  footprint_congr := (run places.toList).footprint_congr

theorem run_append (first second : List (Place Cell α)) :
    run (first ++ second) =
      ((run first).bind fun _ => run second).map fun values => values.1 ++ values.2 := by
  induction first with
  | nil => rfl
  | cons place first ih =>
      rw [List.cons_append, run, ih]
      ext memory : 2
      · rfl
      · exact (List.append_assoc _ _ _).symm

/-! ## Filling a place -/

/-- The addresses of a place are taken, each of them once. -/
structure Owned (place : Place Cell α) (memory : CellStore Cell) : Prop where
  nodup : (place.footprint memory).Nodup
  below : ∀ address ∈ place.footprint memory, address < memory.limit

/-- From one memory to the other, only the region and free addresses were written; the place consists of such
addresses and holds the value. -/
structure Sets (place : Place Cell α) (value : α) (region : Set Nat) (memory after : CellStore Cell) :
    Prop where
  holds : place.read after = value
  owned : place.Owned after
  within : ∀ address ∈ place.footprint after, address ∈ region ∨ memory.limit ≤ address
  grows : memory.limit ≤ after.limit
  others : ∀ address < memory.limit, address ∉ region → after.cells address = memory.cells address

/-- Only the place itself was written, and it holds the value. -/
def Becomes (place : Place Cell α) (value : α) (memory after : CellStore Cell) : Prop :=
  place.Sets value {address | address ∈ place.footprint memory} memory after

section Sets

variable {place : Place Cell α} {value : α} {region : Set Nat} {memory after last : CellStore Cell}

theorem Owned.of_map {view : α → β} (owned : (place.map view).Owned memory) : place.Owned memory :=
  ⟨owned.nodup, owned.below⟩

theorem Owned.becomes (owned : place.Owned memory) : place.Becomes (place.read memory) memory memory where
  holds := rfl
  owned := owned
  within := fun _ member => .inl member
  grows := le_rfl
  others := fun _ _ _ => rfl

theorem Sets.mono {wider : Set Nat} (sets : place.Sets value region memory after)
    (inside : ∀ address ∈ region, address ∈ wider ∨ memory.limit ≤ address) :
    place.Sets value wider memory after where
  holds := sets.holds
  owned := sets.owned
  within := fun address member => (sets.within address member).elim (inside address) .inr
  grows := sets.grows
  others := by
    intro address below outside
    refine sets.others address below fun member => ?_
    rcases inside address member with wide | free
    · exact outside wide
    · exact absurd below (not_lt.mpr free)

theorem Sets.map (sets : place.Sets value region memory after) (view : α → β) :
    (place.map view).Sets (view value) region memory after where
  holds := congrArg view sets.holds
  owned := ⟨sets.owned.nodup, sets.owned.below⟩
  within := sets.within
  grows := sets.grows
  others := sets.others

/-- A place may be written again. -/
theorem Becomes.trans {later : α} (first : place.Becomes value memory after)
    (second : place.Becomes later after last) : place.Becomes later memory last where
  holds := second.holds
  owned := second.owned
  within := fun address member => (second.within address member).elim (first.within address)
    fun free => .inr (first.grows.trans free)
  grows := first.grows.trans second.grows
  others := by
    intro address below outside
    have unmoved : address ∉ place.footprint after := fun member =>
      (first.within address member).elim outside fun free => absurd below (not_lt.mpr free)
    rw [second.others address (below.trans_le first.grows) unmoved, first.others address below outside]

/-- What is apart from the region is not touched. -/
theorem Sets.untouched (sets : place.Sets value region memory after) {other : Place Cell β}
    (owned : other.Owned memory) (apart : ∀ address ∈ other.footprint memory, address ∉ region) :
    other.read after = other.read memory ∧ other.footprint after = other.footprint memory ∧
      other.Owned after := by
  have same : ∀ address ∈ other.footprint memory, after.cells address = memory.cells address :=
    fun address member => sets.others address (owned.below address member) (apart address member)
  have footprint := other.footprint_congr same
  refine ⟨other.read_congr same, footprint, footprint ▸ owned.nodup, fun address member => ?_⟩
  rw [footprint] at member
  exact (owned.below address member).trans_le sets.grows

/-- A cell is written. -/
theorem sets_cell {get : Cell → α} {cell : Cell} {address : Nat} (below : address < memory.limit)
    (read_back : get cell = value) :
    (Place.cell address get).Sets value {address} memory (memory.set address cell) where
  holds := (congrArg get (memory.cells_set_self address cell)).trans read_back
  owned := by
    refine ⟨List.nodup_singleton address, fun other member => ?_⟩
    rwa [List.mem_singleton.mp member]
  within := fun _ member => .inl (List.mem_singleton.mp member)
  grows := le_rfl
  others := fun _ _ outside => memory.cells_set_of_ne outside cell

theorem sets_const (value : α) (memory : CellStore Cell) : (const value).Sets value ∅ memory memory where
  holds := rfl
  owned := ⟨List.nodup_nil, fun _ member => absurd member List.not_mem_nil⟩
  within := fun _ member => absurd member List.not_mem_nil
  grows := le_rfl
  others := fun _ _ _ => rfl

end Sets

section Bind

variable {header : Place Cell α} {body : α → Place Cell β} {value : α} {inner : β}
  {region first_region second_region : Set Nat} {memory middle after : CellStore Cell}

/-- The header is written first and then what it leads to. -/
theorem Sets.bind (first : header.Sets value first_region memory middle)
    (second : (body value).Sets inner second_region middle after)
    (apart : ∀ address ∈ header.footprint middle, address ∉ second_region)
    (first_inside : ∀ address ∈ first_region, address ∈ region ∨ memory.limit ≤ address)
    (second_inside : ∀ address ∈ second_region, address ∈ region ∨ memory.limit ≤ address) :
    (header.bind body).Sets (value, inner) region memory after := by
  obtain ⟨read_header, footprint_header, owned_header⟩ := second.untouched first.owned apart
  rw [first.holds] at read_header
  have first := first.mono first_inside
  have footprint : (header.bind body).footprint after =
      header.footprint middle ++ (body value).footprint after := by
    rw [footprint_bind, read_header, footprint_header]
  refine ⟨?_, ⟨?_, ?_⟩, ?_, first.grows.trans second.grows, ?_⟩
  · rw [read_bind, read_header, second.holds]
  · rw [footprint]
    refine List.nodup_append.mpr ⟨first.owned.nodup, second.owned.nodup, fun address in_header _ in_body same => ?_⟩
    subst same
    rcases second.within address in_body with inside | free
    · exact apart address in_header inside
    · exact absurd (first.owned.below address in_header) (not_lt.mpr free)
  · rw [footprint]
    refine List.forall_mem_append.mpr ⟨fun address member => ?_, second.owned.below⟩
    exact (first.owned.below address member).trans_le second.grows
  · rw [footprint]
    refine List.forall_mem_append.mpr ⟨first.within, fun address member => ?_⟩
    exact (second.within address member).elim (second_inside address) fun free => .inr (first.grows.trans free)
  · intro address below outside
    have elsewhere : address ∉ second_region := fun inside =>
      (second_inside address inside).elim outside fun free => absurd below (not_lt.mpr free)
    rw [second.others address (below.trans_le first.grows) elsewhere, first.others address below outside]

/-- A place and a second one behind it are written. -/
theorem Sets.behind {second : Place Cell β} {first middle_address last : Nat}
    (sets : header.Sets value (Set.Ico first middle_address) memory middle)
    (later : second.Sets inner (Set.Ico middle_address last) middle after)
    (ordered : first ≤ middle_address ∧ middle_address ≤ last) (taken : last ≤ memory.limit) :
    (header.bind fun _ => second).Sets (value, inner) (Set.Ico first last) memory after := by
  refine sets.bind later (fun address in_header in_body => ?_) ?_ ?_
  · rcases sets.within address in_header with inside | free
    · exact absurd inside.2 (not_lt.mpr in_body.1)
    · exact absurd in_body.2 (not_lt.mpr (taken.trans free))
  · exact fun address inside => .inl ⟨inside.1, inside.2.trans_le ordered.2⟩
  · exact fun address inside => .inl ⟨ordered.1.trans inside.1, inside.2⟩

theorem owned_bind_iff : (header.bind body).Owned memory ↔
    header.Owned memory ∧ (body (header.read memory)).Owned memory ∧
      ∀ address ∈ header.footprint memory, address ∉ (body (header.read memory)).footprint memory := by
  constructor
  · rintro ⟨nodup, below⟩
    obtain ⟨header_nodup, body_nodup, different⟩ := List.nodup_append.mp nodup
    obtain ⟨header_below, body_below⟩ := List.forall_mem_append.mp below
    exact ⟨⟨header_nodup, header_below⟩, ⟨body_nodup, body_below⟩,
      fun address in_header in_body => different address in_header address in_body rfl⟩
  · rintro ⟨owned_header, owned_body, apart⟩
    refine ⟨List.nodup_append.mpr ⟨owned_header.nodup, owned_body.nodup, ?_⟩,
      List.forall_mem_append.mpr ⟨owned_header.below, owned_body.below⟩⟩
    rintro address in_header _ in_body rfl
    exact apart address in_header in_body

/-- Two places without a common address are written one after the other. -/
theorem Becomes.pair {first : Place Cell α} {second : Place Cell β}
    (owned : (first.bind fun _ => second).Owned memory) (first_becomes : first.Becomes value memory middle)
    (second_becomes : second.Becomes inner middle after) :
    (first.bind fun _ => second).Becomes (value, inner) memory after := by
  obtain ⟨-, owned_second, apart⟩ := owned_bind_iff.mp owned
  obtain ⟨-, footprint, -⟩ := first_becomes.untouched owned_second
    fun address in_second in_first => apart address in_first in_second
  refine Sets.bind first_becomes second_becomes (fun address in_first in_second => ?_) ?_ ?_
  · have in_second : address ∈ second.footprint memory := footprint ▸ in_second
    rcases first_becomes.within address in_first with inside | free
    · exact apart address inside in_second
    · exact absurd (owned_second.below address in_second) (not_lt.mpr free)
  · exact fun address inside => .inl (List.mem_append_left _ inside)
  · intro address inside
    have inside : address ∈ second.footprint memory := footprint ▸ inside
    exact .inl (List.mem_append_right _ inside)

/-- The second place is as it was when the first one has been written. -/
theorem Becomes.second_untouched {first : Place Cell α} {second : Place Cell β}
    (owned : (first.bind fun _ => second).Owned memory) (becomes : first.Becomes value memory middle) :
    second.Owned middle ∧ second.read middle = second.read memory := by
  obtain ⟨-, owned_second, apart⟩ := owned_bind_iff.mp owned
  obtain ⟨read, -, owned_after⟩ := becomes.untouched owned_second
    fun address in_second in_first => apart address in_first in_second
  exact ⟨owned_after, read⟩

end Bind

/-! ## Filling places one after the other -/

section Follows

variable {ε : Type}

/-- The run in memory ends as the run on values does, and leaves its value in the place. -/
inductive Follows (place : Place Cell α) (memory : CellStore Cell) :
    Outcome ε (α × List UInt8) → Outcome ε (CellStore Cell × List UInt8) → Prop where
  | ok {value : α} {after : CellStore Cell} {rest : List UInt8} (becomes : place.Becomes value memory after) :
      Follows place memory (.ok (value, rest)) (.ok (after, rest))
  | error (reason : ε) : Follows place memory (.error reason) (.error reason)
  | panic : Follows place memory .panic .panic
  | outOfFuel : Follows place memory .outOfFuel .outOfFuel

variable {place : Place Cell α} {other : Place Cell β} {memory start : CellStore Cell}
  {values : Outcome ε (α × List UInt8)} {stores : Outcome ε (CellStore Cell × List UInt8)}

/-- Both runs are continued from where they have arrived. -/
theorem Follows.bind (follows : place.Follows memory values stores)
    {next : α × List UInt8 → Outcome ε (β × List UInt8)}
    {nextStore : CellStore Cell × List UInt8 → Outcome ε (CellStore Cell × List UInt8)}
    (continued : ∀ value after rest, place.Becomes value memory after →
      other.Follows start (next (value, rest)) (nextStore (after, rest))) :
    other.Follows start (values >>= next) (stores >>= nextStore) := by
  cases follows with
  | ok becomes => exact continued _ _ _ becomes
  | error reason => exact .error reason
  | panic => exact .panic
  | outOfFuel => exact .outOfFuel

/-- The value is seen otherwise, as that of another place. -/
theorem Follows.view (follows : place.Follows memory values stores) {view : α → β}
    (seen : ∀ value after, place.Becomes value memory after → other.Becomes (view value) start after) :
    other.Follows start (values >>= fun result => .ok (view result.1, result.2)) stores := by
  cases follows with
  | ok becomes => exact .ok (seen _ _ becomes)
  | error reason => exact .error reason
  | panic => exact .panic
  | outOfFuel => exact .outOfFuel

/-- The value was seen otherwise, as that of another place. -/
theorem Follows.of_view {seen : Outcome ε (β × List UInt8)} {view : β → α}
    (follows : place.Follows memory (seen >>= fun result => .ok (view result.1, result.2)) stores)
    (viewed : ∀ value after, place.Becomes (view value) memory after → other.Becomes value memory after) :
    other.Follows memory seen stores := by
  cases seen with
  | ok result =>
      cases follows with
      | ok becomes => exact .ok (viewed _ _ becomes)
  | error reason =>
      cases follows
      exact .error reason
  | panic =>
      cases follows
      exact .panic
  | outOfFuel =>
      cases follows
      exact .outOfFuel

theorem Follows.mapError {δ : Type} (follows : place.Follows memory values stores) (rewrite : ε → δ) :
    place.Follows memory (values.mapError rewrite) (stores.mapError rewrite) := by
  cases follows with
  | ok becomes => exact .ok becomes
  | error reason => exact .error (rewrite reason)
  | panic => exact .panic
  | outOfFuel => exact .outOfFuel

/-- After a first step the rest of the run may be compared from there on. -/
theorem Follows.after {value : α} {middle : CellStore Cell} (becomes : place.Becomes value memory middle)
    (follows : place.Follows middle values stores) : place.Follows memory values stores := by
  cases follows with
  | ok later => exact .ok (becomes.trans later)
  | error reason => exact .error reason
  | panic => exact .panic
  | outOfFuel => exact .outOfFuel

/-- Filling the place by the second parser is decoding by the first one. -/
def Implements (place : Place Cell α) (decode : α → ByteParser ε α)
    (decodeAt : CellStore Cell → ByteParser ε (CellStore Cell)) : Prop :=
  ∀ memory input, place.Owned memory → place.Follows memory (decode (place.read memory) input) (decodeAt memory input)

variable {decode : α → ByteParser ε α} {decodeAt : CellStore Cell → ByteParser ε (CellStore Cell)}

theorem Implements.map (implements : place.Implements decode decodeAt) {view : α → β}
    {decodeView : β → ByteParser ε β}
    (viewed : ∀ value, decodeView (view value) = decode value >>= fun after => pure (view after)) :
    (place.map view).Implements decodeView decodeAt := by
  intro memory input owned
  have follows := implements memory input owned.of_map
  have seen : decodeView ((place.map view).read memory) input =
      decode (place.read memory) input >>= fun result => .ok (view result.1, result.2) :=
    congrFun (viewed (place.read memory)) input
  rw [seen]
  exact follows.view fun value after becomes => becomes.map view

/-- Two places without a common address are filled one after the other. -/
theorem Implements.pair (first : place.Implements decode decodeAt) {decodeOther : β → ByteParser ε β}
    {decodeOtherAt : CellStore Cell → ByteParser ε (CellStore Cell)}
    (second : other.Implements decodeOther decodeOtherAt) :
    (place.bind fun _ => other).Implements
      (fun values => do
        let value ← decode values.1
        let inner ← decodeOther values.2
        pure (value, inner))
      (fun memory => decodeAt memory >>= decodeOtherAt) := by
  intro memory input owned
  refine (first memory input (owned_bind_iff.mp owned).1).bind fun value middle rest becomes => ?_
  obtain ⟨owned_other, same⟩ := becomes.second_untouched owned
  have follows := second middle rest owned_other
  rw [same] at follows
  exact follows.view fun inner after later => becomes.pair owned later

/-- Places without a common address are filled one after the other. -/
theorem implements_run {place : Nat → Place Cell α}
    {decodeAt : Nat → CellStore Cell → ByteParser ε (CellStore Cell)}
    (each : ∀ address, (place address).Implements decode (decodeAt address)) (addresses : List Nat) :
    (run (addresses.map place)).Implements (fun values => values.mapM decode)
      (fun memory => addresses.foldlM (fun memory address => decodeAt address memory) memory) := by
  induction addresses with
  | nil =>
      intro memory input owned
      exact .ok owned.becomes
  | cons address addresses ih =>
      refine ((each address).pair ih).map fun values => ?_
      rw [List.mapM_cons]
      simp

/-- A place that nothing is decoded into. -/
theorem implements_pure : place.Implements (pure : α → ByteParser ε α) pure :=
  fun _ _ owned => .ok owned.becomes

/-- A place that is written at once with what was decoded. -/
theorem implements_write {write : α → CellStore Cell → CellStore Cell}
    (writes : ∀ memory value, place.Owned memory → place.Becomes value memory (write value memory)) :
    place.Implements decode
      (fun memory => decode (place.read memory) >>= fun value => pure (write value memory)) := by
  intro memory input owned
  change Follows _ _ _ (decode (place.read memory) input >>= _)
  cases decode (place.read memory) input with
  | ok result => exact .ok (writes memory result.1 owned)
  | error reason => exact .error reason
  | panic => exact .panic
  | outOfFuel => exact .outOfFuel

/-- The run in memory and the run on values succeed together. -/
theorem Follows.of_ok {after : CellStore Cell} {rest : List UInt8}
    (follows : place.Follows memory values (.ok (after, rest))) :
    values = .ok (place.read after, rest) := by
  cases follows with
  | ok becomes => rw [becomes.holds]

theorem Follows.exists_of_ok {value : α} {rest : List UInt8}
    (follows : place.Follows memory (.ok (value, rest)) stores) :
    ∃ after, stores = .ok (after, rest) ∧ place.read after = value := by
  cases follows with
  | ok becomes => exact ⟨_, rfl, becomes.holds⟩

end Follows

/-! ## Arrays -/

/-- The addresses of as many items of a size, from the first one on. -/
def addresses (size : Nat) : Nat → Nat → List Nat
  | _, 0 => []
  | start, count + 1 => start :: addresses size (start + size) count

@[simp]
theorem length_addresses (size start count : Nat) : (addresses size start count).length = count := by
  induction count generalizing start with
  | zero => rfl
  | succ count ih => exact congrArg Nat.succ (ih (start + size))

theorem addresses_add (size start first second : Nat) :
    addresses size start (first + second) =
      addresses size start first ++ addresses size (start + first * size) second := by
  induction first generalizing start with
  | zero => simp [addresses]
  | succ first ih =>
      have shifted : start + size + first * size = start + (first + 1) * size := by ring
      rw [Nat.succ_add, addresses, ih, shifted]
      rfl

/-- A value that is written at an address is held there, in cells one behind the other. -/
def Writes (size : Nat) (place : Nat → Place Cell α) (write : α → Nat → CellStore Cell → CellStore Cell) : Prop :=
  ∀ value address memory, address + size ≤ memory.limit →
    (place address).Sets value (Set.Ico address (address + size)) memory (write value address memory)

/-- Write values one after the other. -/
def writeAll (size : Nat) (write : α → Nat → CellStore Cell → CellStore Cell) :
    List α → Nat → CellStore Cell → CellStore Cell
  | [], _, memory => memory
  | value :: values, address, memory => writeAll size write values (address + size) (write value address memory)

section Arrays

variable {place : Nat → Place Cell α} {size : Nat}

/-- Writing into taken addresses, whatever they held, makes the places hold the values. -/
theorem sets_writeAll {write : α → Nat → CellStore Cell → CellStore Cell}
    (each : Writes size place write) (values : List α) (address : Nat) (memory : CellStore Cell)
    (taken : address + values.length * size ≤ memory.limit) :
    (run ((addresses size address values.length).map place)).Sets values
      (Set.Ico address (address + values.length * size)) memory (writeAll size write values address memory) := by
  induction values generalizing address memory with
  | nil => exact (sets_const [] memory).mono (by simp)
  | cons value values ih =>
      have width : (value :: values).length * size = size + values.length * size := by
        rw [List.length_cons]
        ring
      rw [width, ← Nat.add_assoc] at taken ⊢
      have first := each value address memory (Nat.le_of_add_right_le taken)
      have later := ih (address + size) (write value address memory) (taken.trans first.grows)
      exact (first.behind later ⟨Nat.le_add_right .., Nat.le_add_right ..⟩ taken).map fun values =>
        values.1 :: values.2

/-- The addresses of an array belong to it. -/
theorem mem_footprint_run
    (each : ∀ address memory other, address ≤ other → other < address + size →
      other ∈ (place address).footprint memory)
    (count address : Nat) (memory : CellStore Cell) {other : Nat} (from_start : address ≤ other)
    (inside : other < address + count * size) :
    other ∈ (run ((addresses size address count).map place)).footprint memory := by
  induction count generalizing address with
  | zero => omega
  | succ count ih =>
      have width : (count + 1) * size = size + count * size := by ring
      by_cases first : other < address + size
      · exact List.mem_append_left _ (each address memory other from_start first)
      · exact List.mem_append_right _ (ih (address + size) (by omega) (by omega))

end Arrays

/-- A vector is written as the list of its entries. -/
theorem Sets.vector {count : Nat} {places : List.Vector (Place Cell α) count} {values : List.Vector α count}
    {region : Set Nat} {memory after : CellStore Cell}
    (sets : (run places.toList).Sets values.toList region memory after) :
    (Place.vector places).Sets values region memory after where
  holds := Subtype.ext sets.holds
  owned := ⟨sets.owned.nodup, sets.owned.below⟩
  within := sets.within
  grows := sets.grows
  others := sets.others

/-- The entries of a vector are filled one after the other. -/
theorem implements_vector {ε : Type} {decode : α → ByteParser ε α} {place : Nat → Place Cell α}
    {decodeAt : Nat → CellStore Cell → ByteParser ε (CellStore Cell)}
    (each : ∀ address, (place address).Implements decode (decodeAt address)) {count : Nat} {addresses : List Nat}
    (length : (addresses.map place).length = count) :
    (Place.vector ⟨addresses.map place, length⟩).Implements (ByteParser.mapVector decode)
      (fun memory => addresses.foldlM (fun memory address => decodeAt address memory) memory) := by
  intro memory input owned
  have follows := implements_run each addresses memory input ⟨owned.nodup, owned.below⟩
  have entries : ((run (addresses.map place)).read memory).mapM decode input =
      ByteParser.mapVector decode ((Place.vector ⟨addresses.map place, length⟩).read memory) input >>=
        fun result => .ok (List.Vector.toList result.1, result.2) :=
    congrFun (ByteParser.mapM_toList decode ((Place.vector ⟨addresses.map place, length⟩).read memory)) input
  dsimp only at follows
  rw [entries] at follows
  exact follows.of_view fun values after becomes => Sets.vector becomes

/-- Addresses that were taken for a place count as free before. -/
theorem Sets.grown {place : Place Cell α} {value : α} {region : Set Nat} {memory after : CellStore Cell}
    {count : Nat} (sets : place.Sets value region (memory.grow count) after) :
    place.Sets value region memory after where
  holds := sets.holds
  owned := sets.owned
  within := fun address member => (sets.within address member).imp_right (Nat.le_of_add_right_le ·)
  grows := Nat.le_of_add_right_le sets.grows
  others := fun address below outside => sets.others address (Nat.lt_add_right count below) outside

/-- A header is written that leads to newly taken addresses. -/
theorem Sets.leading (get : Cell → α) (cell : Cell) (body : α → Place Cell β) {inner : β} {address count : Nat}
    {memory after : CellStore Cell} (below : address < memory.limit)
    (sets : (body (get cell)).Sets inner (Set.Ico memory.limit (memory.limit + count))
      ((memory.grow count).set address cell) after) :
    ((Place.cell address get).bind body).Sets (get cell, inner) {address} memory after := by
  have header : (Place.cell address get).Sets (get cell) {address} (memory.grow count)
      ((memory.grow count).set address cell) := sets_cell (Nat.lt_add_right count below) rfl
  refine header.grown.bind sets ?_ (fun other same => .inl same) fun other fresh => .inr fresh.1
  intro other same fresh
  rw [List.mem_singleton.mp same] at fresh
  exact absurd below (not_lt.mpr fresh.1)

/-- What a header leads to was written, and the header itself was not. -/
theorem Becomes.body {header : Place Cell α} {body : α → Place Cell β} {inner : β}
    {memory after : CellStore Cell} (owned : (header.bind body).Owned memory)
    (becomes : (body (header.read memory)).Becomes inner memory after) :
    (header.bind body).Becomes (header.read memory, inner) memory after := by
  obtain ⟨owned_header, -, apart⟩ := owned_bind_iff.mp owned
  refine Sets.bind owned_header.becomes becomes apart ?_ ?_
  · exact fun address inside => .inl (List.mem_append_left _ inside)
  · exact fun address inside => .inl (List.mem_append_right _ inside)

end Place
