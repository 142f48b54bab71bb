import Mathlib.Data.List.Basic
import Mathlib.Logic.Function.Basic

/-!
# Slices in a common memory

A slice is a window on an array.  Appending writes into the array while there is room and moves to a new
array when there is none, so that two slices of one array can overwrite each other.  `Separate` is what
keeps a family of slices apart, and under it appending works on lists.
-/

/-- A slice: the address of its first element, its length and its capacity. -/
structure Slice where
  base : Nat
  len : Nat
  cap : Nat
  len_le : len ≤ cap

namespace Slice

/-- The addresses from the first element up to the capacity. -/
def Covers (slice : Slice) (address : Nat) : Prop :=
  slice.base ≤ address ∧ address < slice.base + slice.cap

/-- The addresses after the last element up to the capacity. -/
def Spare (slice : Slice) (address : Nat) : Prop :=
  slice.base + slice.len ≤ address ∧ address < slice.base + slice.cap

theorem Spare.covers {slice : Slice} {address : Nat} (spare : slice.Spare address) :
    slice.Covers address :=
  ⟨Nat.le_trans (Nat.le_add_right _ _) spare.1, spare.2⟩

end Slice

/-- A family of slices over one memory, of which the addresses below the limit are taken. -/
structure SliceStore (ι α : Type) where
  cells : Nat → α
  limit : Nat
  slices : ι → Slice
  allocated : ∀ i, (slices i).base + (slices i).cap ≤ limit

namespace SliceStore

variable {ι α : Type}

/-- The elements of a slice. -/
def elements (store : SliceStore ι α) (i : ι) : List α :=
  (List.range (store.slices i).len).map fun k => store.cells ((store.slices i).base + k)

theorem length_elements (store : SliceStore ι α) (i : ι) :
    (store.elements i).length = (store.slices i).len := by
  simp [elements]

/-- Nil slices over an empty memory of zero values. -/
def fresh (zero : α) : SliceStore ι α where
  cells := fun _ => zero
  limit := 0
  slices := fun _ => ⟨0, 0, 0, Nat.le_refl 0⟩
  allocated := fun _ => Nat.le_refl 0

theorem elements_fresh (zero : α) (i : ι) : (fresh zero).elements i = [] := rfl

theorem lt_limit_of_covers {store : SliceStore ι α} {i : ι} {address : Nat}
    (covered : (store.slices i).Covers address) : address < store.limit :=
  Nat.lt_of_lt_of_le covered.2 (store.allocated i)

/-- No slice has room where another one has elements or room. -/
def Separate (store : SliceStore ι α) (members : Set ι) : Prop :=
  ∀ i ∈ members, ∀ j ∈ members, i ≠ j → ∀ address, (store.slices i).Spare address →
    ¬ (store.slices j).Covers address

/-- The cells after the elements of a slice were copied behind the limit and one element was added. -/
def copied (store : SliceStore ι α) (slice : Slice) (x : α) (address : Nat) : α :=
  if store.limit ≤ address ∧ address < store.limit + slice.len then
    store.cells (slice.base + (address - store.limit))
  else if address = store.limit + slice.len then
    x
  else
    store.cells address

variable [DecidableEq ι] (room : ι → Nat → Nat)

/-- Append one element.  A new array has room for the element and for as many more as `room` gives for
the slice and its length. -/
def append (store : SliceStore ι α) (i : ι) (x : α) : SliceStore ι α :=
  let slice := store.slices i
  if fits : slice.len < slice.cap then
    { store with
      cells := Function.update store.cells (slice.base + slice.len) x
      slices := Function.update store.slices i ⟨slice.base, slice.len + 1, slice.cap, fits⟩
      allocated := by
        intro j
        by_cases same : j = i
        · subst same
          simpa using store.allocated j
        · simpa [same] using store.allocated j }
  else
    -- The array is full; the old one stays as it is for the other slices that it may belong to.
    { cells := store.copied slice x
      limit := store.limit + (slice.len + 1 + room i slice.len)
      slices := Function.update store.slices i
        ⟨store.limit, slice.len + 1, slice.len + 1 + room i slice.len, Nat.le_add_right _ _⟩
      allocated := by
        intro j
        by_cases same : j = i
        · subst same
          simp
        · have below := store.allocated j
          simp only [Function.update_of_ne same]
          omega }

/-- Append elements one after the other, each to the slice that it names. -/
def appendAll (store : SliceStore ι α) (entries : List (ι × α)) : SliceStore ι α :=
  entries.foldl (fun store entry => store.append room entry.1 entry.2) store

/-! ## One element -/

section One

variable {room} {store : SliceStore ι α} {i j : ι} {x : α} {members : Set ι}

theorem slices_append_of_ne (other : j ≠ i) : (store.append room i x).slices j = store.slices j := by
  unfold append
  dsimp only
  split_ifs with fits <;> exact Function.update_of_ne other _ _

/-- What is appended stands behind the elements. -/
theorem elements_append : (store.append room i x).elements i = store.elements i ++ [x] := by
  unfold append elements
  dsimp only
  split_ifs with fits
  · simp only [Function.update_self, List.range_succ, List.map_append, List.map_cons, List.map_nil]
    congr 1
    refine List.map_congr_left fun k inside => ?_
    have elsewhere : (store.slices i).base + k ≠ (store.slices i).base + (store.slices i).len := by
      have := List.mem_range.mp inside
      omega
    rw [Function.update_of_ne elsewhere]
  · simp only [Function.update_self, List.range_succ, List.map_append, List.map_cons, List.map_nil]
    congr 1
    · refine List.map_congr_left fun k inside => ?_
      have inside := List.mem_range.mp inside
      rw [copied, if_pos ⟨Nat.le_add_right _ _, by omega⟩, Nat.add_sub_cancel_left]
    · rw [copied, if_neg (by omega), if_pos rfl]

/-- Another slice keeps its elements if they do not stand where the appended one has room. -/
theorem elements_append_of_ne (other : j ≠ i)
    (apart : ∀ address, (store.slices i).Spare address → ¬ (store.slices j).Covers address) :
    (store.append room i x).elements j = store.elements j := by
  unfold elements
  rw [slices_append_of_ne other]
  refine List.map_congr_left fun k inside => ?_
  have inside := List.mem_range.mp inside
  have covered : (store.slices j).Covers ((store.slices j).base + k) :=
    ⟨Nat.le_add_right _ _, Nat.add_lt_add_left (Nat.lt_of_lt_of_le inside (store.slices j).len_le) _⟩
  unfold append
  dsimp only
  split_ifs with fits
  · refine Function.update_of_ne ?_ _ _
    intro written
    refine apart _ ⟨Nat.le_of_eq written.symm, ?_⟩ covered
    rw [written]
    exact Nat.add_lt_add_left fits _
  · have below := lt_limit_of_covers covered
    simp only [copied]
    rw [if_neg (by omega), if_neg (by omega)]

/-- The slice stays in its array and has less room, or it moves behind the limit. -/
theorem slices_append_self (room : ι → Nat → Nat) (store : SliceStore ι α) (i : ι) (x : α) :
    (((store.append room i x).slices i).base = (store.slices i).base ∧
        ((store.append room i x).slices i).len = (store.slices i).len + 1 ∧
        ((store.append room i x).slices i).cap = (store.slices i).cap) ∨
      ((store.append room i x).slices i).base = store.limit := by
  unfold append
  dsimp only
  split_ifs with fits
  · left
    simp
  · right
    simp

theorem spare_of_spare_append {address : Nat} (spare : ((store.append room i x).slices i).Spare address)
    (old : address < store.limit) : (store.slices i).Spare address := by
  obtain ⟨after_elements, before_end⟩ := spare
  obtain ⟨same_base, longer, same_cap⟩ | moved := slices_append_self room store i x
  · constructor <;> omega
  · omega

theorem covers_of_covers_append {address : Nat}
    (covered : ((store.append room i x).slices i).Covers address) (old : address < store.limit) :
    (store.slices i).Covers address := by
  obtain ⟨after_base, before_end⟩ := covered
  obtain ⟨same_base, longer, same_cap⟩ | moved := slices_append_self room store i x
  · constructor <;> omega
  · omega

/-- A slice that was appended to has less room, or a new array that no other slice covers. -/
theorem Separate.append (separate : store.Separate members) (room : ι → Nat → Nat) (i : ι) (x : α) :
    (store.append room i x).Separate members := by
  intro j j_member k k_member different address spare covered
  by_cases j_appended : j = i
  · subst j_appended
    rw [slices_append_of_ne different.symm] at covered
    have spare := spare_of_spare_append spare (lt_limit_of_covers covered)
    exact separate j j_member k k_member different address spare covered
  · rw [slices_append_of_ne j_appended] at spare
    by_cases k_appended : k = i
    · subst k_appended
      have covered := covers_of_covers_append covered (lt_limit_of_covers spare.covers)
      exact separate j j_member k k_member different address spare covered
    · rw [slices_append_of_ne k_appended] at covered
      exact separate j j_member k k_member different address spare covered

end One

/-! ## Many elements -/

/-- A slice to which nothing is appended stays where it is. -/
theorem slices_appendAll_of_forall_ne {i : ι} {entries : List (ι × α)}
    (others : ∀ entry ∈ entries, entry.1 ≠ i) (store : SliceStore ι α) :
    (store.appendAll room entries).slices i = store.slices i := by
  induction entries generalizing store with
  | nil => rfl
  | cons entry entries ih =>
      have later := fun next member => others next (List.mem_cons_of_mem _ member)
      exact (ih later _).trans (slices_append_of_ne (others entry List.mem_cons_self).symm)

/-- Separate slices are appended to as lists are. -/
theorem elements_appendAll {members : Set ι} {entries : List (ι × α)} {store : SliceStore ι α}
    (separate : store.Separate members) (inside : ∀ entry ∈ entries, entry.1 ∈ members) {i : ι}
    (member : i ∈ members) :
    (store.appendAll room entries).elements i =
      store.elements i ++ (entries.filter (·.1 = i)).map Prod.snd := by
  induction entries generalizing store with
  | nil => simp [appendAll]
  | cons entry entries ih =>
      have later := fun next member => inside next (List.mem_cons_of_mem _ member)
      refine (ih (separate.append room entry.1 entry.2) later).trans ?_
      by_cases own : entry.1 = i
      · subst own
        rw [elements_append]
        simp
      · rw [elements_append_of_ne (Ne.symm own)
          (separate _ (inside entry List.mem_cons_self) _ member own)]
        simp [own]

/-! ## One slice alone, and slices of slices -/

/-- Elements appended to one slice alone, from nil on. -/
theorem elements_appendAll_fresh (zero : α) (i : ι) (items : List α) :
    ((fresh zero).appendAll room (items.map fun item => (i, item))).elements i = items := by
  have alone : (fresh zero : SliceStore ι α).Separate {i} := by
    rintro j rfl k rfl different
    exact absurd rfl different
  have inside : ∀ entry ∈ items.map fun item => (i, item), entry.1 ∈ ({i} : Set ι) := by
    intro entry member
    obtain ⟨item, _, rfl⟩ := List.mem_map.mp member
    rfl
  rw [elements_appendAll room alone inside rfl, elements_fresh]
  simp [List.filter_map, Function.comp_def]

/-- Slice a slice from its first element on.  It may grow up to its capacity. -/
def reslice (store : SliceStore ι α) (i : ι) (len : Nat) : Option (SliceStore ι α) :=
  let slice := store.slices i
  if fits : len ≤ slice.cap then
    some { store with
      slices := Function.update store.slices i ⟨slice.base, len, slice.cap, fits⟩
      allocated := by
        intro j
        by_cases same : j = i
        · subst same
          simpa using store.allocated j
        · simpa [same] using store.allocated j }
  else
    none

/-- A slice can be cut down to its first elements. -/
theorem reslice_of_le {store : SliceStore ι α} {i : ι} {len : Nat}
    (short : len ≤ (store.elements i).length) :
    ∃ shorter, store.reslice i len = some shorter ∧ shorter.elements i = (store.elements i).take len := by
  rw [length_elements] at short
  refine ⟨_, dif_pos (Nat.le_trans short (store.slices i).len_le), ?_⟩
  simp [elements, ← List.map_take, List.take_range, Nat.min_eq_left short]

/-! ## Several elements at once -/

/-- The cells with items stored from an address on. -/
def stored (cells : Nat → α) (base : Nat) (items : List α) (address : Nat) : α :=
  if base ≤ address then (items[address - base]?).getD (cells address) else cells address

theorem stored_add {cells : Nat → α} {base : Nat} {items : List α} {k : Nat} (inside : k < items.length) :
    stored cells base items (base + k) = items[k] := by
  rw [stored, if_pos (Nat.le_add_right _ _), Nat.add_sub_cancel_left, List.getElem?_eq_getElem inside,
    Option.getD_some]

theorem stored_of_outside {cells : Nat → α} {base : Nat} {items : List α} {address : Nat}
    (outside : address < base ∨ base + items.length ≤ address) : stored cells base items address = cells address := by
  rw [stored]
  split_ifs with behind
  · rw [List.getElem?_eq_none (by omega), Option.getD_none]
  · rfl

theorem map_stored (cells : Nat → α) (base : Nat) (items : List α) :
    (List.range items.length).map (fun k => stored cells base items (base + k)) = items := by
  apply List.ext_getElem
  · simp
  · intro k _ inside
    simp [stored_add inside]

/-- Append several elements at once: into the array if all of them fit, else into a new one. -/
def appendList (store : SliceStore ι α) (i : ι) (items : List α) : SliceStore ι α :=
  let slice := store.slices i
  if fits : slice.len + items.length ≤ slice.cap then
    { store with
      cells := stored store.cells (slice.base + slice.len) items
      slices := Function.update store.slices i ⟨slice.base, slice.len + items.length, slice.cap, fits⟩
      allocated := by
        intro j
        by_cases same : j = i
        · subst same
          simpa using store.allocated j
        · simpa [same] using store.allocated j }
  else
    { cells := stored store.cells store.limit (store.elements i ++ items)
      limit := store.limit + (slice.len + items.length + room i (slice.len + items.length))
      slices := Function.update store.slices i
        ⟨store.limit, slice.len + items.length, slice.len + items.length + room i (slice.len + items.length),
          Nat.le_add_right _ _⟩
      allocated := by
        intro j
        by_cases same : j = i
        · subst same
          simp
        · have below := store.allocated j
          simp only [Function.update_of_ne same]
          omega }

/-- An empty slice of its own. -/
def clear (store : SliceStore ι α) (i : ι) : SliceStore ι α :=
  { store with
    slices := Function.update store.slices i ⟨store.limit, 0, 0, Nat.le_refl 0⟩
    allocated := by
      intro j
      by_cases same : j = i
      · subst same
        simp
      · simpa [same] using store.allocated j }

section Lists

variable {room} {store : SliceStore ι α} {i j : ι} {items : List α} {members : Set ι}

theorem slices_appendList_of_ne (other : j ≠ i) : (store.appendList room i items).slices j = store.slices j := by
  unfold appendList
  dsimp only
  split_ifs with fits <;> exact Function.update_of_ne other _ _

theorem slices_clear_of_ne (other : j ≠ i) : (store.clear i).slices j = store.slices j :=
  Function.update_of_ne other _ _

@[simp]
theorem elements_clear : (store.clear i).elements i = [] := by
  simp [clear, elements]

theorem elements_clear_of_ne (other : j ≠ i) : (store.clear i).elements j = store.elements j := by
  rw [elements, slices_clear_of_ne other]
  rfl

/-- What is appended stands behind the elements. -/
theorem elements_appendList : (store.appendList room i items).elements i = store.elements i ++ items := by
  unfold appendList
  dsimp only
  split_ifs with fits
  · simp only [elements, Function.update_self, List.range_add, List.map_append, List.map_map]
    congr 1
    · apply List.map_congr_left
      intro k inside
      have inside := List.mem_range.mp inside
      exact stored_of_outside (.inl (by omega))
    · have standing := map_stored store.cells ((store.slices i).base + (store.slices i).len) items
      simpa only [Function.comp_def, Nat.add_assoc] using standing
  · have standing := map_stored store.cells store.limit (store.elements i ++ items)
    rw [List.length_append, length_elements] at standing
    simpa [elements] using standing

/-- Another slice keeps its elements if they do not stand where the appended one has room. -/
theorem elements_appendList_of_ne (other : j ≠ i)
    (apart : ∀ address, (store.slices i).Spare address → ¬ (store.slices j).Covers address) :
    (store.appendList room i items).elements j = store.elements j := by
  unfold elements
  rw [slices_appendList_of_ne other]
  apply List.map_congr_left
  intro k inside
  have inside := List.mem_range.mp inside
  have covered : (store.slices j).Covers ((store.slices j).base + k) :=
    ⟨Nat.le_add_right _ _, Nat.add_lt_add_left (Nat.lt_of_lt_of_le inside (store.slices j).len_le) _⟩
  unfold appendList
  dsimp only
  split_ifs with fits
  · apply stored_of_outside
    by_contra within
    obtain ⟨behind, before⟩ := not_or.mp within
    exact apart _ ⟨Nat.le_of_not_lt behind, by omega⟩ covered
  · exact stored_of_outside (.inl (lt_limit_of_covers covered))

theorem slices_appendList_of_fits (fits : (store.slices i).len + items.length ≤ (store.slices i).cap) :
    (store.appendList room i items).slices i =
      ⟨(store.slices i).base, (store.slices i).len + items.length, (store.slices i).cap, fits⟩ := by
  rw [appendList, dif_pos fits]
  exact Function.update_self _ _ _

/-- An element of another slice is overwritten if it stands where the appended one has room. -/
theorem getElem?_elements_appendList_of_ne {k l : Nat} (other : j ≠ i)
    (fits : (store.slices i).len + items.length ≤ (store.slices i).cap) (inside : k < (store.slices j).len)
    (appended : l < items.length)
    (same : (store.slices j).base + k = (store.slices i).base + (store.slices i).len + l) :
    ((store.appendList room i items).elements j)[k]? = some items[l] := by
  rw [elements, slices_appendList_of_ne other, List.getElem?_map, List.getElem?_range inside, Option.map_some, same,
    appendList, dif_pos fits]
  exact congrArg some (stored_add appended)

/-- A slice that gets less room, or none that another one covers. -/
theorem Separate.of_moved {after : SliceStore ι α} (separate : store.Separate members)
    (others : ∀ j, j ≠ i → after.slices j = store.slices j)
    (own : ((after.slices i).base = (store.slices i).base ∧ (store.slices i).len ≤ (after.slices i).len ∧
        (after.slices i).cap = (store.slices i).cap) ∨ store.limit ≤ (after.slices i).base) :
    after.Separate members := by
  intro j j_member k k_member different address spare covered
  by_cases j_moved : j = i
  · subst j_moved
    rw [others k different.symm] at covered
    have below := lt_limit_of_covers covered
    obtain ⟨after_elements, before_end⟩ := spare
    refine separate j j_member k k_member different address ?_ covered
    rcases own with ⟨same_base, longer, same_cap⟩ | moved
    · constructor <;> omega
    · omega
  · rw [others j j_moved] at spare
    by_cases k_moved : k = i
    · subst k_moved
      have below := lt_limit_of_covers spare.covers
      obtain ⟨after_base, before_end⟩ := covered
      refine separate j j_member k k_member different address spare ?_
      rcases own with ⟨same_base, longer, same_cap⟩ | moved
      · constructor <;> omega
      · omega
    · rw [others k k_moved] at covered
      exact separate j j_member k k_member different address spare covered

theorem Separate.appendList (separate : store.Separate members) (room : ι → Nat → Nat) (i : ι) (items : List α) :
    (store.appendList room i items).Separate members := by
  apply separate.of_moved fun j other => slices_appendList_of_ne other
  unfold SliceStore.appendList
  dsimp only
  split_ifs with fits
  · left
    simp
  · right
    simp

theorem Separate.clear (separate : store.Separate members) (i : ι) : (store.clear i).Separate members := by
  apply separate.of_moved fun j other => slices_clear_of_ne other
  right
  simp [SliceStore.clear]

end Lists

end SliceStore
