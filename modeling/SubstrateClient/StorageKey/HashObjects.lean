import SubstrateClient.SliceStore
import SubstrateClient.StorageKey.Hash

/-!
# Hash objects over shared memory

A hash object keeps the slice that it was made with and appends to it.  Objects that were made from one array write
over each other there, and over what their makers keep in it, as long as the array has room.
-/

namespace SubstrateClient.StorageKey

/-! ## Objects on their own -/

/-- What is done to a hash object; `Sum`, `Size` and `BlockSize` leave it as it is. -/
inductive HashAction where
  | write (p : List UInt8)
  | reset

namespace HashObject

/-- `Reset`. -/
def reset : HashObject → HashObject
  | xxhash state => xxhash { state with data := [] }
  | blake2b size _ => blake2b size []
  | blake2b128Concat _ _ => blake2b128Concat [] []
  | identity _ => identity []

def act (object : HashObject) : HashAction → HashObject
  | .write p => object.write p
  | .reset => object.reset

/-- `Size`. -/
def size (digests : Digests) (object : HashObject) : Nat := (object.sum digests []).length

end HashObject

/-! ## Objects in memory -/

/-- The objects that keep a slice. -/
inductive ObjectKind where
  | xxhash (typ : XxHashType) (rounds : Nat)
  | blake2b128Concat
  | identity

/-- Objects with their slices.  `hashed` is what was written to the inner object of `blake2b128Concat`, which has
memory of its own. -/
structure SharedObjects (ι : Type) where
  kind : ι → ObjectKind
  store : SliceStore ι UInt8
  hashed : ι → List UInt8 := fun _ => []

namespace SharedObjects

variable {ι : Type}

/-- The object that a user of the slice sees. -/
def view (objects : SharedObjects ι) (i : ι) : HashObject :=
  match objects.kind i with
  | .xxhash typ rounds => .xxhash ⟨objects.store.elements i, typ, rounds⟩
  | .blake2b128Concat => .blake2b128Concat (objects.hashed i) (objects.store.elements i)
  | .identity => .identity (objects.store.elements i)

variable [DecidableEq ι] (room : ι → Nat → Nat)

/-- `Write` and `Reset`.  `append` gives a new array as much room as `room` says. -/
def act (objects : SharedObjects ι) (i : ι) : HashAction → SharedObjects ι
  | .write p =>
      { objects with
        store := objects.store.appendList room i p
        hashed := Function.update objects.hashed i (objects.hashed i ++ p) }
  | .reset =>
      { objects with
        store := objects.store.clear i
        hashed := Function.update objects.hashed i [] }

/-- Actions on the objects, in any order. -/
def run (objects : SharedObjects ι) (actions : List (ι × HashAction)) : SharedObjects ι :=
  actions.foldl (fun objects entry => objects.act room entry.1 entry.2) objects

variable {room} {objects : SharedObjects ι} {i j : ι}

/-- An action does to its object what it does to one on its own. -/
theorem view_act (action : HashAction) : (objects.act room i action).view i = (objects.view i).act action := by
  cases action with
  | write p =>
      simp only [view, act, SliceStore.elements_appendList, Function.update_self]
      cases objects.kind i <;> rfl
  | reset =>
      simp only [view, act, SliceStore.elements_clear, Function.update_self]
      cases objects.kind i <;> rfl

/-- An action does nothing to an object that is separate. -/
theorem view_act_of_ne (other : j ≠ i) (separate : objects.store.Separate Set.univ) (action : HashAction) :
    (objects.act room i action).view j = objects.view j := by
  have apart := separate i (Set.mem_univ i) j (Set.mem_univ j) other.symm
  cases action with
  | write p =>
      simp only [view, act, SliceStore.elements_appendList_of_ne other apart, Function.update_of_ne other]
  | reset => simp only [view, act, SliceStore.elements_clear_of_ne other, Function.update_of_ne other]

theorem separate_act (separate : objects.store.Separate Set.univ) (i : ι) (action : HashAction) :
    (objects.act room i action).store.Separate Set.univ := by
  cases action with
  | write p => exact separate.appendList room i p
  | reset => exact separate.clear i

/-- The actions on one object, in their order. -/
def own (actions : List (ι × HashAction)) (i : ι) : List HashAction :=
  (actions.filter fun entry => entry.1 = i).map Prod.snd

/-- Separate objects work as if each were on its own. -/
theorem view_run (separate : objects.store.Separate Set.univ) (actions : List (ι × HashAction)) (i : ι) :
    (objects.run room actions).view i = (own actions i).foldl HashObject.act (objects.view i) := by
  induction actions generalizing objects with
  | nil => rfl
  | cons entry actions ih =>
      have later : (objects.run room (entry :: actions)).view i =
          (own actions i).foldl HashObject.act ((objects.act room entry.1 entry.2).view i) :=
        ih (separate_act separate entry.1 entry.2)
      rw [later, own, own]
      by_cases same : entry.1 = i
      · subst same
        simp [view_act]
      · rw [view_act_of_ne (Ne.symm same) separate]
        simp [same]

omit [DecidableEq ι] in
/-- The object is seen through its elements. -/
theorem elements_eq_of_view_eq {before after : SharedObjects ι} (kinds : after.kind i = before.kind i)
    (same : after.view i = before.view i) : after.store.elements i = before.store.elements i := by
  rw [view, view, kinds] at same
  cases kind : before.kind i <;> simp_all

/-- Two objects are made from one array, and one has room where the other has elements: writing to the one changes
the other. -/
theorem overwritten_of_covers {address : Nat} (different : j ≠ i) (spare : (objects.store.slices i).Spare address)
    (behind : (objects.store.slices j).base ≤ address)
    (inside : address < (objects.store.slices j).base + (objects.store.slices j).len) :
    ∃ p, (objects.act room i (.write p)).store.elements j ≠ objects.store.elements j := by
  obtain ⟨after_elements, before_end⟩ := spare
  set offset := address - ((objects.store.slices i).base + (objects.store.slices i).len) with offset_eq
  set index := address - (objects.store.slices j).base with index_eq
  -- Some byte differs from the one that stands there.
  obtain ⟨byte, differs⟩ : ∃ byte : UInt8, (objects.store.elements j)[index]? ≠ some byte := by
    by_cases zero : (objects.store.elements j)[index]? = some 0
    · exact ⟨1, by rw [zero]; decide⟩
    · exact ⟨0, zero⟩
  refine ⟨List.replicate (offset + 1) byte, ?_⟩
  intro same
  have written : ((objects.store.appendList room i (List.replicate (offset + 1) byte)).elements j)[index]? =
      some (List.replicate (offset + 1) byte)[offset] := by
    apply SliceStore.getElem?_elements_appendList_of_ne different
    · rw [List.length_replicate]
      omega
    · omega
    · omega
  rw [List.getElem_replicate] at written
  exact differs (same ▸ written)

/-- Objects that work as if each were on its own have no room where another one has elements or room. -/
theorem separate_of_independent
    (independent : ∀ actions i,
      (objects.run room actions).view i = (own actions i).foldl HashObject.act (objects.view i)) :
    objects.store.Separate Set.univ := by
  intro i _ j _ different address spare covered
  by_cases inside : address < (objects.store.slices j).base + (objects.store.slices j).len
  · obtain ⟨p, changed⟩ := overwritten_of_covers different.symm spare covered.1 inside
    have kept := independent [(i, .write p)] j
    rw [own, List.filter_cons_of_neg (by simpa using different)] at kept
    exact changed (elements_eq_of_view_eq rfl kept)
  · -- Both have room there: an element is written by the one and overwritten by the other.
    have before_end := covered.2
    set filled :=
      List.replicate (address - ((objects.store.slices j).base + (objects.store.slices j).len) + 1) (0 : UInt8)
      with filled_eq
    have filled_length : filled.length =
        address - ((objects.store.slices j).base + (objects.store.slices j).len) + 1 := by
      rw [filled_eq, List.length_replicate]
    have fits : (objects.store.slices j).len + filled.length ≤ (objects.store.slices j).cap := by
      omega
    have longer : (objects.act room j (.write filled)).store.slices j = _ :=
      SliceStore.slices_appendList_of_fits fits
    have still_spare : ((objects.act room j (.write filled)).store.slices i).Spare address := by
      change ((objects.store.appendList room j filled).slices i).Spare address
      rw [SliceStore.slices_appendList_of_ne different]
      exact spare
    have overwritten : ∃ p, ((objects.act room j (.write filled)).act room i (.write p)).store.elements j ≠
        (objects.act room j (.write filled)).store.elements j := by
      apply overwritten_of_covers different.symm still_spare
      · rw [longer]
        exact covered.1
      · rw [longer]
        dsimp only
        omega
    obtain ⟨p, changed⟩ := overwritten
    have kept := independent [(j, .write filled), (i, .write p)] j
    have own_write : own [(j, HashAction.write filled), (i, .write p)] j = [.write filled] := by
      simp [own, different]
    have alone : (objects.act room j (.write filled)).view j = (objects.view j).act (.write filled) := view_act _
    rw [own_write, List.foldl_cons, List.foldl_nil, ← alone] at kept
    exact changed (elements_eq_of_view_eq rfl kept)

/-- Hash objects work over every run as if each were on its own, exactly if none has room in its array where another
one has elements or room.  So two objects that were made from one slice with room behind its elements do not. -/
theorem objects_independent_iff (room : ι → Nat → Nat) (objects : SharedObjects ι) :
    ((∀ actions i, (objects.run room actions).view i = (own actions i).foldl HashObject.act (objects.view i)) ↔
        objects.store.Separate Set.univ) ∧
      ∀ i j, i ≠ j → objects.store.slices i = objects.store.slices j →
        (objects.store.slices i).len < (objects.store.slices i).cap →
        ∃ actions k, (objects.run room actions).view k ≠ (own actions k).foldl HashObject.act (objects.view k) := by
  refine ⟨⟨separate_of_independent, fun separate actions i => view_run separate actions i⟩, ?_⟩
  intro i j different one_slice spare_room
  by_contra independent
  push Not at independent
  have separate := separate_of_independent independent
  apply separate i (Set.mem_univ i) j (Set.mem_univ j) different
    ((objects.store.slices i).base + (objects.store.slices i).len)
  · constructor <;> omega
  · rw [← one_slice]
    constructor <;> omega

example (room : ι → Nat → Nat) (kind : ι → ObjectKind) (actions : List (ι × HashAction)) (i : ι) :
    (SharedObjects.run room ⟨kind, .fresh 0, fun _ => []⟩ actions).view i =
      (own actions i).foldl HashObject.act (SharedObjects.view ⟨kind, .fresh 0, fun _ => []⟩ i) := by
  apply view_run
  rintro j - k - - address ⟨_, before_end⟩
  exact absurd before_end (Nat.not_lt_zero _)

end SharedObjects

end SubstrateClient.StorageKey
