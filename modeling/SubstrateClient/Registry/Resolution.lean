import SubstrateClient.ParserRelations
import SubstrateClient.Registry.Traversal

/-!
# Resolution of recursive decoders

After the traversal every noted recursive decoder gets the finished decoder of its lookup index, in
whatever order the map is ranged over.  Decoding then never meets an empty recursive decoder.
-/

namespace SubstrateClient.Registry

open ByteParser Scale

section Resolving

variable {metadata : MetadataV14} {overrides : Int64 → Option FieldDecoder} {base : Nat}

/-- The state while the noted cells are being completed: a cell that is not pending any more holds
the decoder stored for its index. -/
structure Resolving (overrides : Int64 → Option FieldDecoder) (walked now : Factory)
    (pending : List (Int64 × Nat)) : Prop where
  storage : now.fieldStorage = walked.fieldStorage
  cells : ∀ index cell, walked.Noted index cell → overrides index = none →
    now.cells[cell]? = walked.fieldStorage index ∨
      now.cells[cell]? = some .nil ∧ (index, cell) ∈ pending

theorem resolving_start {walked : Factory} {pending : List (Int64 × Nat)}
    (invariant : Invariant metadata overrides base walked)
    (all : ∀ index cell, walked.Noted index cell → (index, cell) ∈ pending) :
    Resolving overrides walked walked pending where
  storage := rfl
  cells := fun index cell noted free =>
    .inr ⟨(invariant.cell index cell ⟨free, .inr noted⟩).2, all index cell noted⟩

/-- One round completes the cell of its entry and disturbs no other. -/
theorem Resolving.step {walked now next : Factory} {index : Int64} {cell : Nat}
    {pending : List (Int64 × Nat)} (invariant : Invariant metadata overrides base walked)
    (resolving : Resolving overrides walked now ((index, cell) :: pending))
    (noted : walked.Noted index cell)
    (run : resolveRecursiveDecoder (index, cell) now = .ok ((), next)) :
    Resolving overrides walked next pending := by
  simp only [resolveRecursiveDecoder] at run
  split_ifs at run with empty
  · -- The cell is empty, so the round stores the decoder of the entry in it.
    cases present : now.fieldStorage index with
    | none => simp [present] at run
    | some decoder =>
        simp only [present] at run
        split_ifs at run with recursive
        cases run
        have present' : walked.fieldStorage index = some decoder := by
          rw [← resolving.storage, present]
        have free : overrides index = none := by
          rcases invariant.noted index cell noted with overridden | ⟨free, _⟩
          · have stored := invariant.kept index _ overridden
            rw [present'] at stored
            cases stored
            exact absurd rfl recursive
          · exact free
        refine ⟨resolving.storage, fun other otherCell other_noted other_free => ?_⟩
        change (now.cells.set cell decoder)[otherCell]? = _ ∨
          (now.cells.set cell decoder)[otherCell]? = _ ∧ _
        by_cases same : otherCell = cell
        · subst same
          obtain rfl := invariant.same_index other index otherCell ⟨other_free, .inr other_noted⟩
            ⟨free, .inr noted⟩
          have bound : otherCell < now.cells.length := by
            rcases resolving.cells other otherCell noted free with filled | ⟨empty, _⟩
            · rw [present'] at filled
              exact (List.getElem?_eq_some_iff.mp filled).choose
            · exact (List.getElem?_eq_some_iff.mp empty).choose
          exact .inl (by rw [List.getElem?_set_self bound, present'])
        · rw [List.getElem?_set_ne (Ne.symm same)]
          refine (resolving.cells other otherCell other_noted other_free).imp_right
            fun ⟨empty, member⟩ => ⟨empty, ?_⟩
          rcases List.mem_cons.mp member with equal | later
          · exact absurd (congrArg Prod.snd equal) same
          · exact later
  · cases run
    refine ⟨resolving.storage, fun other otherCell other_noted other_free => ?_⟩
    rcases resolving.cells other otherCell other_noted other_free with filled | ⟨unset, member⟩
    · exact .inl filled
    · rcases List.mem_cons.mp member with equal | later
      · cases equal
        exact absurd (by rw [unset]; rfl) empty
      · exact .inr ⟨unset, later⟩

/-- The whole loop completes every cell. -/
theorem Resolving.run {walked now final : Factory} {pending : List (Int64 × Nat)}
    (invariant : Invariant metadata overrides base walked)
    (resolving : Resolving overrides walked now pending)
    (noted : ∀ entry ∈ pending, walked.Noted entry.1 entry.2)
    (run : resolveEntries pending now = .ok ((), final)) :
    Resolving overrides walked final [] := by
  induction pending generalizing now with
  | nil =>
      obtain ⟨_, rfl⟩ := Build.pure_eq_ok.mp run
      exact resolving
  | cons entry pending ih =>
      obtain ⟨_, next, first, later⟩ := Build.bind_eq_ok.mp run
      exact ih (resolving.step invariant (noted entry List.mem_cons_self) first)
        (fun other member => noted other (List.mem_cons_of_mem _ member)) later

/-- A round does not fail on an entry whose decoder is finished. -/
theorem resolveRecursiveDecoder_succeeds {now : Factory} {index : Int64} {cell : Nat}
    {decoder : FieldDecoder} (stored : now.fieldStorage index = some decoder)
    (finished : decoder.isRecursive = false) :
    ∃ next, resolveRecursiveDecoder (index, cell) now = .ok ((), next) ∧
      next.fieldStorage = now.fieldStorage := by
  simp only [resolveRecursiveDecoder, stored, finished, Bool.false_eq_true, if_false]
  split_ifs
  · exact ⟨_, rfl, rfl⟩
  · exact ⟨_, rfl, rfl⟩

/-- The loop does not fail when all decoders are finished. -/
theorem resolveEntries_succeeds {now : Factory} {pending : List (Int64 × Nat)}
    (finished : ∀ entry ∈ pending, ∃ decoder, now.fieldStorage entry.1 = some decoder ∧
      decoder.isRecursive = false) :
    ∃ final, resolveEntries pending now = .ok ((), final) := by
  induction pending generalizing now with
  | nil => exact ⟨now, rfl⟩
  | cons entry pending ih =>
      obtain ⟨decoder, stored, plain⟩ := finished entry List.mem_cons_self
      obtain ⟨next, first, same⟩ := resolveRecursiveDecoder_succeeds stored plain
      obtain ⟨final, later⟩ := @ih next fun other member => by
        rw [same]
        exact finished other (List.mem_cons_of_mem _ member)
      exact ⟨final, Build.bind_eq_ok.mpr ⟨(), next, first, later⟩⟩

end Resolving

section Created

variable {κ : Type} {kind : RegistryKind κ} {metadata : MetadataV14}
  {before walked final : Factory} {registry : TypeRegistry κ}

/-- After resolution every noted cell holds the decoder stored for its index. -/
theorem Traversed.resolving {mapOrder : MapOrder}
    (traversed : Traversed kind metadata before walked registry)
    (run : resolveRecursiveDecoders mapOrder walked = .ok ((), final)) :
    Resolving (overrideStorage before.fieldOverrides) walked final [] := by
  have perm := mapOrder.perm walked.recursiveFieldStorage
  refine Resolving.run traversed.invariant (resolving_start traversed.invariant ?_) ?_ run
  · exact fun index cell noted => perm.mem_iff.mpr noted
  · exact fun entry member => perm.mem_iff.mp member

/-- After resolution every noted cell holds a decoder of the type it stands for. -/
theorem Traversed.resolved {mapOrder : MapOrder}
    (traversed : Traversed kind metadata before walked registry)
    (run : resolveRecursiveDecoders mapOrder walked = .ok ((), final)) :
    Resolved metadata (overrideStorage before.fieldOverrides) walked.Noted final.cells := by
  intro index cell noted free
  rcases (traversed.resolving run).cells index cell noted free with filled | ⟨_, member⟩
  · rcases traversed.invariant.noted index cell noted with overridden | ⟨_, stored⟩
    · rw [free] at overridden
      cases overridden
    · obtain ⟨decoder, present⟩ := Option.isSome_iff_exists.mp stored
      obtain ⟨type, found, made⟩ := traversed.finished index decoder free present
      rw [present] at filled
      exact ⟨decoder, type, filled, found, made _ fun _ _ noted => noted⟩
  · cases member

/-- What a returned registry consists of. -/
theorem createRegistry_eq_ok {mapOrder : MapOrder} {fuel : Nat}
    (run : createRegistry kind metadata mapOrder fuel before = .ok (registry, final)) :
    ∃ walked, traverse kind metadata fuel before = .ok (registry, walked) ∧
      resolveRecursiveDecoders mapOrder walked = .ok ((), final) := by
  obtain ⟨other, walked, traversal, run⟩ := Build.bind_eq_ok.mp run
  obtain ⟨_, after, resolution, returned⟩ := Build.bind_eq_ok.mp run
  obtain ⟨rfl, rfl⟩ := Build.pure_eq_ok.mp returned
  exact ⟨walked, traversal, Build.mapError_eq_ok.mp resolution⟩

end Created

end SubstrateClient.Registry
