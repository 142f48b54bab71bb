import SubstrateClient.Registry.Matches

/-!
# The storages during a traversal

The storages are half built while a type is being walked: some entries are overrides, some are
decoders of finished types, and the types on the way down from the pallet are recursive decoders.
`Invariant` describes these states and `Extends` what a finished call leaves behind; `Keeps` is the
form in which every builder is shown to respect both.
-/

namespace SubstrateClient.Registry

open Scale

section Invariants

variable (metadata : MetadataV14) (overrides : Int64 → Option FieldDecoder) (base : Nat)

/-- The recursive decoders that were noted for resolution. -/
def Factory.Noted (factory : Factory) (index : Int64) (cell : Nat) : Prop :=
  (index, cell) ∈ factory.recursiveFieldStorage

/-- The entry is a decoder of its type, whatever else will be noted later. -/
def Closed (factory : Factory) (index : Int64) (decoder : FieldDecoder) : Prop :=
  ∃ type, metadata.efficientLookup index = some type ∧
    ∀ planted : Int64 → Nat → Prop,
      (∀ index cell, factory.Noted index cell → planted index cell) →
        Matches metadata overrides planted type.typeDef decoder

/-- A cell that stands for an index, in the field storage or noted for resolution. -/
def StandsFor (factory : Factory) (index : Int64) (cell : Nat) : Prop :=
  overrides index = none ∧
    (factory.fieldStorage index = some (.recursive cell) ∨ factory.Noted index cell)

/-- The storages of a traversal that started with `base` cells. -/
structure Invariant (factory : Factory) : Prop where
  kept : ∀ index decoder, overrides index = some decoder →
    factory.fieldStorage index = some decoder
  stored : ∀ index decoder, overrides index = none → factory.fieldStorage index = some decoder →
    decoder.isRecursive = true ∨ Closed metadata overrides factory index decoder
  noted : ∀ index cell, factory.Noted index cell →
    overrides index = some (.recursive cell) ∨
      overrides index = none ∧ (factory.fieldStorage index).isSome = true
  cell : ∀ index cell, StandsFor overrides factory index cell →
    base ≤ cell ∧ factory.cells[cell]? = some .nil
  same_cell : ∀ index cell cell', StandsFor overrides factory index cell →
    StandsFor overrides factory index cell' → cell = cell'
  same_index : ∀ index index' cell, StandsFor overrides factory index cell →
    StandsFor overrides factory index' cell → index = index'
  size : base ≤ factory.cells.length

/-- What a finished call leaves behind: entries stay, and new ones are finished. -/
structure Extends (before after : Factory) : Prop where
  kept : ∀ index decoder, before.fieldStorage index = some decoder →
    after.fieldStorage index = some decoder
  fresh : ∀ index decoder, before.fieldStorage index = none →
    after.fieldStorage index = some decoder → Closed metadata overrides after index decoder
  noted : ∀ index cell, before.Noted index cell → after.Noted index cell

variable {metadata overrides base} {first second third : Factory}

/-- An entry stays finished while more cells are noted. -/
theorem Closed.mono {index : Int64} {decoder : FieldDecoder}
    (closed : Closed metadata overrides first index decoder)
    (grows : ∀ index cell, first.Noted index cell → second.Noted index cell) :
    Closed metadata overrides second index decoder := by
  obtain ⟨type, found, made⟩ := closed
  exact ⟨type, found, fun planted covers => made planted fun index cell noted =>
    covers index cell (grows index cell noted)⟩

/-- A finished entry is not a recursive decoder. -/
theorem Closed.isRecursive {index : Int64} {decoder : FieldDecoder}
    (closed : Closed metadata overrides first index decoder) : decoder.isRecursive = false := by
  obtain ⟨type, found, made⟩ := closed
  exact (made (fun _ _ => True) fun _ _ _ => trivial).isRecursive

theorem Extends.refl (factory : Factory) : Extends metadata overrides factory factory where
  kept := fun _ _ stored => stored
  fresh := fun index decoder empty stored => by rw [empty] at stored; cases stored
  noted := fun _ _ noted => noted

theorem Extends.trans (left : Extends metadata overrides first second)
    (right : Extends metadata overrides second third) : Extends metadata overrides first third where
  kept := fun index decoder stored => right.kept index decoder (left.kept index decoder stored)
  fresh := by
    intro index decoder empty stored
    cases middle : second.fieldStorage index with
    | none => exact right.fresh index decoder middle stored
    | some other =>
        have same := right.kept index other middle
        rw [stored] at same
        cases same
        exact (left.fresh index decoder empty middle).mono right.noted
  noted := fun index cell noted => right.noted index cell (left.noted index cell noted)

end Invariants

/-! ## The three changes of the storages -/

section Changes

variable {metadata : MetadataV14} {overrides : Int64 → Option FieldDecoder} {base : Nat}
  {factory : Factory} {index : Int64}

theorem mem_putRecursive {index other : Int64} {cell otherCell : Nat}
    {storage : List (Int64 × Nat)} :
    (other, otherCell) ∈ putRecursive index cell storage ↔
      (other = index ∧ otherCell = cell) ∨ (other ≠ index ∧ (other, otherCell) ∈ storage) := by
  rw [putRecursive, List.mem_cons, List.mem_filter]
  simp [and_comm]

/-- Without an entry nothing is noted either. -/
theorem Invariant.not_noted (invariant : Invariant metadata overrides base factory)
    (missing : factory.fieldStorage index = none) (cell : Nat) : ¬ factory.Noted index cell := by
  intro noted
  rcases invariant.noted index cell noted with overridden | ⟨_, stored⟩
  · have present := invariant.kept index _ overridden
    rw [missing] at present
    cases present
  · rw [missing] at stored
    cases stored

theorem Invariant.free (invariant : Invariant metadata overrides base factory)
    (missing : factory.fieldStorage index = none) : overrides index = none := by
  cases overridden : overrides index with
  | none => rfl
  | some decoder =>
      have present := invariant.kept index decoder overridden
      rw [missing] at present
      cases present

/-- Noting a stored recursive decoder keeps the invariant. -/
theorem Invariant.noteRecursive {decoder : FieldDecoder}
    (invariant : Invariant metadata overrides base factory)
    (present : factory.fieldStorage index = some decoder) :
    Invariant metadata overrides base (noteRecursive index decoder factory) ∧
      Extends metadata overrides factory (noteRecursive index decoder factory) := by
  cases decoder with
  | recursive cell =>
      -- The cell was already the one noted for this index, if any was.
      have same (other : Nat) (noted : factory.Noted index other) : other = cell := by
        rcases invariant.noted index other noted with overridden | ⟨free, _⟩
        · have stored := invariant.kept index _ overridden
          rw [present] at stored
          cases stored
          rfl
        · exact invariant.same_cell index other cell ⟨free, .inr noted⟩ ⟨free, .inl present⟩
      have grows (other : Int64) (otherCell : Nat) (noted : factory.Noted other otherCell) :
          (Registry.noteRecursive index (.recursive cell) factory).Noted other otherCell := by
        refine mem_putRecursive.mpr ?_
        by_cases equal : other = index
        · subst equal
          exact .inl ⟨rfl, same otherCell noted⟩
        · exact .inr ⟨equal, noted⟩
      have stands (other : Int64) (otherCell : Nat)
          (standing : StandsFor overrides
            (Registry.noteRecursive index (.recursive cell) factory) other otherCell) :
          StandsFor overrides factory other otherCell := by
        obtain ⟨free, stored | noted⟩ := standing
        · exact ⟨free, .inl stored⟩
        · rcases mem_putRecursive.mp noted with ⟨rfl, rfl⟩ | ⟨_, noted⟩
          · exact ⟨free, .inl present⟩
          · exact ⟨free, .inr noted⟩
      refine ⟨⟨invariant.kept, ?_, ?_, ?_, ?_, ?_, invariant.size⟩, ⟨fun _ _ stored => stored, ?_, grows⟩⟩
      · intro other decoder free stored
        exact (invariant.stored other decoder free stored).imp_right fun closed => closed.mono grows
      · intro other otherCell noted
        rcases mem_putRecursive.mp noted with ⟨rfl, rfl⟩ | ⟨_, noted⟩
        · cases overridden : overrides other with
          | none =>
              refine .inr ⟨rfl, ?_⟩
              change (factory.fieldStorage other).isSome = true
              rw [present]
              rfl
          | some decoder =>
              have stored := invariant.kept other decoder overridden
              rw [present] at stored
              exact .inl stored.symm
        · exact invariant.noted other otherCell noted
      · exact fun other otherCell standing => invariant.cell other otherCell (stands _ _ standing)
      · exact fun other left right leftStands rightStands =>
          invariant.same_cell other left right (stands _ _ leftStands) (stands _ _ rightStands)
      · exact fun left right otherCell leftStands rightStands =>
          invariant.same_index left right otherCell (stands _ _ leftStands) (stands _ _ rightStands)
      · intro other decoder empty stored
        rw [show factory.fieldStorage other = some decoder from stored] at empty
        cases empty
  | _ => exact ⟨invariant, .refl factory⟩

/-- A freshly planted cell stands for its index, the others for what they stood for. -/
theorem Invariant.standsFor_plantRecursive {other : Int64} {cell : Nat}
    (invariant : Invariant metadata overrides base factory)
    (missing : factory.fieldStorage index = none)
    (standing : StandsFor overrides (Registry.plantRecursive index factory) other cell) :
    other = index ∧ cell = factory.cells.length ∨
      other ≠ index ∧ StandsFor overrides factory other cell := by
  obtain ⟨free, stored | noted⟩ := standing
  · change Function.update factory.fieldStorage index _ other = _ at stored
    by_cases same : other = index
    · subst same
      rw [Function.update_self] at stored
      cases stored
      exact .inl ⟨rfl, rfl⟩
    · rw [Function.update_of_ne same] at stored
      exact .inr ⟨same, free, .inl stored⟩
  · refine .inr ⟨?_, free, .inr noted⟩
    rintro rfl
    exact invariant.not_noted missing cell noted

/-- Planting a recursive decoder in an empty entry keeps the invariant. -/
theorem Invariant.plantRecursive (invariant : Invariant metadata overrides base factory)
    (missing : factory.fieldStorage index = none) :
    Invariant metadata overrides base (plantRecursive index factory) := by
  have old_cell (other : Int64) (cell : Nat) (standing : StandsFor overrides factory other cell) :
      cell < factory.cells.length :=
    (List.getElem?_eq_some_iff.mp (invariant.cell other cell standing).2).choose
  refine ⟨?_, ?_, ?_, ?_, ?_, ?_, ?_⟩
  · intro other decoder overridden
    change Function.update factory.fieldStorage index _ other = _
    have stored := invariant.kept other decoder overridden
    rw [Function.update_of_ne, stored]
    rintro rfl
    rw [missing] at stored
    cases stored
  · intro other decoder free stored
    change Function.update factory.fieldStorage index _ other = _ at stored
    by_cases same : other = index
    · subst same
      rw [Function.update_self] at stored
      cases stored
      exact .inl rfl
    · rw [Function.update_of_ne same] at stored
      exact invariant.stored other decoder free stored
  · intro other cell noted
    refine (invariant.noted other cell noted).imp_right fun ⟨free, stored⟩ => ⟨free, ?_⟩
    change (Function.update factory.fieldStorage index _ other).isSome = true
    rw [Function.update_apply]
    split_ifs
    · rfl
    · exact stored
  · intro other cell standing
    change base ≤ cell ∧ (factory.cells ++ [.nil])[cell]? = some .nil
    rcases invariant.standsFor_plantRecursive missing standing with ⟨_, rfl⟩ | ⟨_, standing⟩
    · exact ⟨invariant.size, by simp⟩
    · rw [List.getElem?_append_left (old_cell other cell standing)]
      exact invariant.cell other cell standing
  · intro other left right leftStands rightStands
    rcases invariant.standsFor_plantRecursive missing leftStands with ⟨rfl, rfl⟩ | ⟨apart, leftStands⟩
    · rcases invariant.standsFor_plantRecursive missing rightStands with ⟨_, rfl⟩ | ⟨apart, _⟩
      · rfl
      · exact absurd rfl apart
    · rcases invariant.standsFor_plantRecursive missing rightStands with ⟨same, _⟩ | ⟨_, rightStands⟩
      · exact absurd same apart
      · exact invariant.same_cell other left right leftStands rightStands
  · intro left right cell leftStands rightStands
    rcases invariant.standsFor_plantRecursive missing leftStands with ⟨rfl, rfl⟩ | ⟨_, leftStands⟩
    · rcases invariant.standsFor_plantRecursive missing rightStands with ⟨same, _⟩ | ⟨_, rightStands⟩
      · exact same.symm
      · exact absurd (old_cell right _ rightStands) (lt_irrefl _)
    · rcases invariant.standsFor_plantRecursive missing rightStands with ⟨_, rfl⟩ | ⟨_, rightStands⟩
      · exact absurd (old_cell left _ leftStands) (lt_irrefl _)
      · exact invariant.same_index left right cell leftStands rightStands
  · change base ≤ (factory.cells ++ [FieldDecoder.nil]).length
    rw [List.length_append]
    exact invariant.size.trans (Nat.le_add_right _ _)

/-- Storing a finished decoder in an entry that is not overridden keeps the invariant. -/
theorem Invariant.store {decoder : FieldDecoder}
    (invariant : Invariant metadata overrides base factory) (free : overrides index = none)
    (closed : Closed metadata overrides factory index decoder) :
    Invariant metadata overrides base { factory with
      fieldStorage := Function.update factory.fieldStorage index (some decoder) } := by
  have stands (other : Int64) (cell : Nat)
      (standing : StandsFor overrides { factory with
        fieldStorage := Function.update factory.fieldStorage index (some decoder) } other cell) :
      StandsFor overrides factory other cell := by
    obtain ⟨other_free, stored | noted⟩ := standing
    · change Function.update factory.fieldStorage index _ other = _ at stored
      by_cases same : other = index
      · subst same
        rw [Function.update_self] at stored
        cases stored
        have finished := closed.isRecursive
        cases finished
      · rw [Function.update_of_ne same] at stored
        exact ⟨other_free, .inl stored⟩
    · exact ⟨other_free, .inr noted⟩
  refine ⟨?_, ?_, ?_, ?_, ?_, ?_, invariant.size⟩
  · intro other stored overridden
    change Function.update factory.fieldStorage index _ other = _
    rw [Function.update_of_ne]
    · exact invariant.kept other stored overridden
    · rintro rfl
      rw [free] at overridden
      cases overridden
  · intro other stored other_free present
    change Function.update factory.fieldStorage index _ other = _ at present
    by_cases same : other = index
    · subst same
      rw [Function.update_self] at present
      cases present
      exact .inr closed
    · rw [Function.update_of_ne same] at present
      exact invariant.stored other stored other_free present
  · intro other cell noted
    refine (invariant.noted other cell noted).imp_right fun ⟨other_free, stored⟩ => ⟨other_free, ?_⟩
    change (Function.update factory.fieldStorage index _ other).isSome = true
    rw [Function.update_apply]
    split_ifs
    · rfl
    · exact stored
  · exact fun other cell standing => invariant.cell other cell (stands _ _ standing)
  · exact fun other left right leftStands rightStands =>
      invariant.same_cell other left right (stands _ _ leftStands) (stands _ _ rightStands)
  · exact fun left right cell leftStands rightStands =>
      invariant.same_index left right cell (stands _ _ leftStands) (stands _ _ rightStands)

end Changes

/-! ## Rules for builders -/

section Rules

variable (metadata : MetadataV14) (overrides : Int64 → Option FieldDecoder) (base : Nat)
  {α β : Type}

/-- The builder respects the storages, and its result satisfies `post` once all cells that it noted
are planted. -/
def Keeps (build : Build α) (post : (Int64 → Nat → Prop) → α → Prop) : Prop :=
  ∀ before value after, build before = .ok (value, after) →
    Invariant metadata overrides base before →
      Invariant metadata overrides base after ∧ Extends metadata overrides before after ∧
        ∀ planted : Int64 → Nat → Prop, (∀ index cell, after.Noted index cell → planted index cell) →
          post planted value

variable {metadata overrides base}

theorem keeps_pure {post : (Int64 → Nat → Prop) → α → Prop} {value : α}
    (holds : ∀ planted, post planted value) :
    Keeps metadata overrides base (pure value) post := by
  intro before result after run invariant
  obtain ⟨rfl, rfl⟩ := Build.pure_eq_ok.mp run
  exact ⟨invariant, .refl _, fun planted _ => holds planted⟩

theorem keeps_fail {post : (Int64 → Nat → Prop) → α → Prop} (reason : GoError) :
    Keeps metadata overrides base (Build.fail reason) post := by
  intro before result after run
  cases run

theorem keeps_ofOutcome {post : (Int64 → Nat → Prop) → α → Prop} {run : Outcome GoError α}
    (holds : ∀ value, run = .ok value → ∀ planted, post planted value) :
    Keeps metadata overrides base (Build.ofOutcome run) post := by
  intro before result after ran invariant
  obtain ⟨returned, rfl⟩ := Build.ofOutcome_eq_ok.mp ran
  exact ⟨invariant, .refl _, fun planted _ => holds result returned planted⟩

theorem Keeps.mapError {post : (Int64 → Nat → Prop) → α → Prop} {build : Build α}
    (keeps : Keeps metadata overrides base build post) (rewrite : GoError → GoError) :
    Keeps metadata overrides base (build.mapError rewrite) post :=
  fun before value after run => keeps before value after (Build.mapError_eq_ok.mp run)

theorem Keeps.bind {build : Build α} {next : α → Build β}
    {middle : (Int64 → Nat → Prop) → α → Prop} {post : (Int64 → Nat → Prop) → β → Prop}
    (left : Keeps metadata overrides base build middle)
    (right : ∀ value, Keeps metadata overrides base (next value)
      fun planted result => middle planted value → post planted result) :
    Keeps metadata overrides base (build >>= next) post := by
  intro before result after run invariant
  obtain ⟨value, between, run_left, run_right⟩ := Build.bind_eq_ok.mp run
  obtain ⟨invariant, extends_left, holds_left⟩ := left before value between run_left invariant
  obtain ⟨invariant, extends_right, holds_right⟩ :=
    right value between result after run_right invariant
  refine ⟨invariant, extends_left.trans extends_right, fun planted covers => ?_⟩
  exact holds_right planted covers (holds_left planted fun index cell noted =>
    covers index cell (extends_right.noted index cell noted))

/-- A loop keeps what each of its rounds keeps. -/
theorem keeps_mapM {step : α → Build β} {related : (Int64 → Nat → Prop) → α → β → Prop}
    (each : ∀ entry, Keeps metadata overrides base (step entry)
      fun planted value => related planted entry value) (entries : List α) :
    Keeps metadata overrides base (entries.mapM step)
      fun planted values => List.Forall₂ (related planted) entries values := by
  induction entries with
  | nil => exact keeps_pure fun planted => .nil
  | cons entry entries ih =>
      rw [List.mapM_cons]
      exact (each entry).bind fun value => ih.bind fun values =>
        keeps_pure fun planted later first => .cons first later

end Rules

end SubstrateClient.Registry
