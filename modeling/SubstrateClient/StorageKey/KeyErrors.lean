import SubstrateClient.StorageKey.Key

/-!
# Errors of storage keys

`CreateStorageKey` refuses arguments in the wrong order, entries that it does not find and a number of
arguments that is not the number of hashers.  The hashers of versions 7 to 9 have a kind whose object
cannot be created; an entry that declares it has no keys at all.
-/

namespace SubstrateClient.StorageKey

open Scale SubstrateClient.Types MetadataFormat

/-! ## Arguments -/

/-- No argument after an empty one has bytes. -/
def EmptyLast (args : List Argument) : Prop :=
  args.Pairwise fun earlier later => earlier = [] → later = []

/-- Arguments with bytes are in order. -/
theorem emptyLast_of_kept {args : List Argument} (kept : ∀ arg ∈ args, arg.isEmpty = false) :
    EmptyLast args := by
  refine List.pairwise_of_forall_mem_list fun earlier member _ _ empty => ?_
  have nonempty := kept earlier member
  simp [empty] at nonempty

/-- After the arguments before the first empty one, only empty ones may come. -/
theorem emptyLast_iff {args : List Argument} {count : Nat}
    (first : args.findIdx? List.isEmpty = some count) :
    EmptyLast args ↔ ∀ arg ∈ args.drop count, arg = [] := by
  have kept := kept_before_first first
  obtain ⟨in_range, empty, _⟩ := List.findIdx?_eq_some_iff_getElem.mp first
  have nil : args[count] = [] := by simpa using empty
  have dropped : args.drop count = [] :: args.drop (count + 1) := by
    rw [List.drop_eq_getElem_cons in_range, nil]
  rw [EmptyLast, ← List.take_append_drop count args, List.pairwise_append, List.take_append_drop]
  constructor
  · rintro ⟨_, later, _⟩ arg member
    rw [dropped, List.pairwise_cons] at later
    rcases List.mem_cons.mp (dropped ▸ member) with rfl | member
    · rfl
    · exact later.1 arg member rfl
  · intro empty
    refine ⟨emptyLast_of_kept kept, ?_, ?_⟩
    · exact List.pairwise_of_forall_mem_list fun _ _ later member _ => empty later member
    · intro _ _ later member _
      exact empty later member

/-- `validateAndTrimArgs` refuses exactly the arguments with bytes after an empty one. -/
theorem validateAndTrimArgs_of_emptyLast {args : List Argument} (last : EmptyLast args) :
    validateAndTrimArgs args = .ok (args.rdropWhile List.isEmpty) := by
  have accepted : ∃ trimmed, validateAndTrimArgs args = .ok trimmed := by
    unfold validateAndTrimArgs
    cases first : args.findIdx? List.isEmpty with
    | none => exact ⟨args, rfl⟩
    | some count =>
        have empty := (emptyLast_iff first).mp last
        exact ⟨args.take count, if_neg (by simpa using empty)⟩
  obtain ⟨trimmed, valid⟩ := accepted
  rw [valid, trimmed_of_validate valid]

theorem validateAndTrimArgs_of_not_emptyLast {args : List Argument} (wrong : ¬ EmptyLast args) :
    ∃ reason, validateAndTrimArgs args = .error reason := by
  unfold validateAndTrimArgs
  cases first : args.findIdx? List.isEmpty with
  | none => exact absurd (emptyLast_of_kept (List.findIdx?_eq_none_iff.mp first)) wrong
  | some count =>
      rw [emptyLast_iff first] at wrong
      exact ⟨_, if_pos (by simpa using wrong)⟩

/-! ## Hashers -/

/-- The kind of hasher that asks for a digest of 128 bytes. -/
def KeyHasher.Oversized : KeyHasher → Prop
  | old hasher => hasher.flag .isBlake2_128 = true
  | new _ => False

section Created

variable {digests : Digests}

theorem KeyHasher.Oversized.hashFunc_fails {hasher : KeyHasher} (oversized : hasher.Oversized) :
    ∃ reason, hasher.hashFunc digests = .error reason := by
  cases hasher with
  | old hasher =>
      rw [KeyHasher.hashFunc, StorageKey.hashFunc, if_pos (show _ = true from oversized)]
      exact newBlake2b_eq_error (by decide)
  | new hasher => exact oversized.elim

/-- A hasher with one flag gives the object of its kind, unless the digest is oversized. -/
theorem KeyHasher.HasKind.hashFunc_eq {hasher : KeyHasher} {kind : HasherKind}
    (has_kind : hasher.HasKind kind) (possible : ¬ hasher.Oversized) :
    hasher.hashFunc digests = .ok (newObject kind) := by
  cases has_kind with
  | @old hasher flag selects =>
      refine StorageKey.hashFunc_eq selects ?_
      rintro rfl
      exact possible (by simp [KeyHasher.Oversized, selects.flags])
  | new selects => exact hashFuncV10_eq selects

/-- Hashers with one flag each give their objects, or an error if one of them is oversized. -/
theorem mapM_hashFunc_cases {hashers : List KeyHasher}
    (flagged : ∀ hasher ∈ hashers, ∃ kind, hasher.HasKind kind) :
    ((∀ hasher ∈ hashers, ¬ hasher.Oversized) ∧
        ∃ kinds : List HasherKind, hashers.mapM (KeyHasher.hashFunc digests) = .ok (kinds.map newObject) ∧
          kinds.length = hashers.length) ∨
      ((∃ hasher ∈ hashers, hasher.Oversized) ∧
        ∃ reason, hashers.mapM (KeyHasher.hashFunc digests) = .error reason) := by
  induction hashers with
  | nil => exact .inl ⟨by simp, [], rfl, rfl⟩
  | cons hasher hashers ih =>
      obtain ⟨kind, has_kind⟩ := flagged hasher List.mem_cons_self
      have later := ih fun other member => flagged other (List.mem_cons_of_mem _ member)
      by_cases oversized : hasher.Oversized
      · obtain ⟨reason, failed⟩ := @KeyHasher.Oversized.hashFunc_fails digests _ oversized
        refine .inr ⟨⟨hasher, List.mem_cons_self, oversized⟩, reason, ?_⟩
        rw [List.mapM_cons, failed, Outcome.error_bind]
      · rcases later with ⟨possible, kinds, created, same_length⟩ | ⟨⟨other, member, wrong⟩, reason, failed⟩
        · refine .inl ⟨by simpa [oversized] using possible, kind :: kinds, ?_, by simp [same_length]⟩
          simp [List.mapM_cons, has_kind.hashFunc_eq oversized, created]
        · refine .inr ⟨⟨other, List.mem_cons_of_mem _ member, wrong⟩, reason, ?_⟩
          simp [List.mapM_cons, has_kind.hashFunc_eq oversized, failed]

end Created

/-! ## Entries -/

namespace StorageEntryMetadata

/-- An entry with one kind flag is plain or a map. -/
theorem isPlain_of_oneKindFlag {entry : StorageEntryMetadata} (one : entry.OneKindFlag)
    (not_map : entry.isMap = false) : entry.isPlain = true := by
  cases entry <;> obtain ⟨variant, flags⟩ := one <;> cases variant <;> simp_all [isMap, isPlain]

end StorageEntryMetadata

/-- What holds of wrapped entries holds of all entries of a module. -/
theorem forall_moduleStorage {ι : Type} {wrap : ι → StorageEntryMetadata} {hasStorage : Bool}
    {storage : StorageMetadata ι} {found : ModuleStorage}
    (kept : moduleStorage wrap hasStorage storage = some found) {holds : StorageEntryMetadata → Prop}
    (wrapped : ∀ item, holds (wrap item)) {entry : StorageEntryMetadata} (member : entry ∈ found.2) :
    holds entry := by
  unfold moduleStorage at kept
  split_ifs at kept
  cases kept
  obtain ⟨item, _, rfl⟩ := List.mem_map.mp member
  exact wrapped item

/-- The versions decide which form the entries have. -/
theorem forall_storageEntries {metadata : Metadata} {holds : StorageEntryMetadata → Prop}
    (v4 : metadata.version.toNat = 4 → ∀ item, holds (.v4 item))
    (v5 : 7 ≤ metadata.version.toNat ∧ metadata.version.toNat ≤ 9 → ∀ item, holds (.v5 item))
    (v10 : 10 ≤ metadata.version.toNat ∧ metadata.version.toNat ≤ 12 → ∀ item, holds (.v10 item))
    (v13 : metadata.version.toNat = 13 → ∀ item, holds (.v13 item))
    (v14 : metadata.version.toNat = 14 → ∀ item, holds (.v14 item))
    {entry : StorageEntryMetadata} (member : entry ∈ storageEntries metadata) : holds entry := by
  obtain ⟨found, listed, member⟩ := List.mem_flatMap.mp member
  unfold moduleStorages at listed
  split at listed
  case h_10 => cases listed
  all_goals obtain ⟨mod, _, kept⟩ := List.mem_filterMap.mp listed
  case h_1 => exact forall_moduleStorage kept (v4 (by omega)) member
  case h_2 | h_3 | h_4 => exact forall_moduleStorage kept (v5 (by omega)) member
  case h_5 | h_6 | h_7 => exact forall_moduleStorage kept (v10 (by omega)) member
  case h_8 => exact forall_moduleStorage kept (v13 (by omega)) member
  case h_9 => exact forall_moduleStorage kept (v14 (by omega)) member

/-- From version 7 on the hashers of every entry can be collected. -/
theorem collects_of_mem {metadata : Metadata} (version : 7 ≤ metadata.version.toNat)
    {entry : StorageEntryMetadata} (member : entry ∈ storageEntries metadata) : entry.Collects := by
  refine forall_storageEntries ?_ ?_ ?_ ?_ ?_ member
  · intro old
    omega
  all_goals
    intro _ _
    trivial

/-! ## The errors -/

section Errors

variable (digests : Digests) (metadata : Metadata) (modulePrefix method : Text) (args : List Argument)

/-- There is an entry, and after trimming there is one argument for each of its hashers. -/
def ArgumentsFit (entry : StorageEntryMetadata) : Prop :=
  findStorageEntryMetadata metadata modulePrefix method = .ok entry ∧ EmptyLast args ∧
    (args.rdropWhile List.isEmpty).length = entry.keyHashers.length

/-- The reasons to refuse: an argument with bytes after an empty one, no entry, or a number of arguments
that is not the number of hashers. -/
def Refused : Prop :=
  ¬ EmptyLast args ∨
    (¬ ∃ entry, findStorageEntryMetadata metadata modulePrefix method = .ok entry) ∨
    ∃ entry, findStorageEntryMetadata metadata modulePrefix method = .ok entry ∧
      (args.rdropWhile List.isEmpty).length ≠ entry.keyHashers.length

/-- There is an error exactly for one of the reasons, and a key otherwise. -/
def FailsExactly : Prop :=
  ((∃ reason, createStorageKey digests metadata modulePrefix method args = .error reason) ↔
      Refused metadata modulePrefix method args) ∧
    ((∃ key, createStorageKey digests metadata modulePrefix method args = .ok key) ↔
      ¬ Refused metadata modulePrefix method args)

variable {digests metadata modulePrefix method args}

theorem refused_iff :
    Refused metadata modulePrefix method args ↔
      ¬ ∃ entry, ArgumentsFit metadata modulePrefix method args entry := by
  unfold Refused ArgumentsFit
  constructor
  · rintro (wrong | missing | ⟨other, found, different⟩) ⟨entry, found', last, same⟩
    · exact wrong last
    · exact missing ⟨entry, found'⟩
    · obtain rfl := Outcome.ok.inj (found.symm.trans found')
      exact different same
  · intro none
    by_contra fits
    push Not at fits
    obtain ⟨last, ⟨entry, found⟩, same⟩ := fits
    exact none ⟨entry, found, last, same entry found⟩

/-- An entry is found or there is an error. -/
theorem findStorageEntryMetadata_returns :
    (findStorageEntryMetadata metadata modulePrefix method).Returns := by
  unfold findStorageEntryMetadata findEntry
  split
  · split
    · exact Outcome.returns_error _
    · split
      · exact Outcome.returns_ok _
      · exact Outcome.returns_error _
  · exact Outcome.returns_error _

/-- A map gets its key from as many arguments as it has hashers, none of them oversized. -/
theorem createStorageKey_of_map {entry : StorageEntryMetadata} (last : EmptyLast args)
    (found : findStorageEntryMetadata metadata modulePrefix method = .ok entry)
    (flagged : entry.WellFlagged) (collects : entry.Collects) (is_map : entry.isMap = true) :
    (((args.rdropWhile List.isEmpty).length = entry.keyHashers.length ∧
          ∀ hasher ∈ entry.keyHashers, ¬ hasher.Oversized) →
        ∃ key, createStorageKey digests metadata modulePrefix method args = .ok key) ∧
      (¬ ((args.rdropWhile List.isEmpty).length = entry.keyHashers.length ∧
          ∀ hasher ∈ entry.keyHashers, ¬ hasher.Oversized) →
        ∃ reason, createStorageKey digests metadata modulePrefix method args = .error reason) := by
  have hashers := @StorageEntryMetadata.hashers_eq_mapM digests _ collects is_map
  rw [createStorageKey, validateAndTrimArgs_of_emptyLast last]
  simp only [Outcome.ok_bind, found, is_map, if_true]
  rcases @mapM_hashFunc_cases digests _ flagged.hashers with
    ⟨possible, kinds, created, kinds_length⟩ | ⟨⟨hasher, member, oversized⟩, reason, failed⟩
  · rw [created] at hashers
    rw [hashers, Outcome.mapError_ok, Outcome.ok_bind, List.length_map, kinds_length]
    constructor
    · rintro ⟨same_length, _⟩
      rw [if_neg (not_not.mpr same_length.symm),
        createKeyMap_eq hashers (kinds_length.trans same_length.symm)]
      exact ⟨_, rfl⟩
    · intro unfit
      rw [if_pos fun same_length => unfit ⟨same_length.symm, possible⟩]
      exact ⟨_, rfl⟩
  · rw [hashers, failed, Outcome.mapError_error, Outcome.error_bind]
    exact ⟨fun fit => absurd oversized (fit.2 hasher member), fun _ => ⟨_, rfl⟩⟩

/-- A plain entry gets its key from no arguments. -/
theorem createStorageKey_of_plain {entry : StorageEntryMetadata} (last : EmptyLast args)
    (found : findStorageEntryMetadata metadata modulePrefix method = .ok entry)
    (flagged : entry.WellFlagged) (not_map : entry.isMap = false) :
    ((args.rdropWhile List.isEmpty).length = 0 →
        ∃ key, createStorageKey digests metadata modulePrefix method args = .ok key) ∧
      ((args.rdropWhile List.isEmpty).length ≠ 0 →
        ∃ reason, createStorageKey digests metadata modulePrefix method args = .error reason) := by
  have plain := StorageEntryMetadata.isPlain_of_oneKindFlag flagged.kind not_map
  have hasher : entry.hasher digests = .ok (.xxhash (new128 [])) := by
    rw [hasher_of_not_map not_map, StorageEntryMetadata.defaultPlainHasher, if_pos plain]
  rw [createStorageKey, validateAndTrimArgs_of_emptyLast last]
  simp only [Outcome.ok_bind, found, not_map, plain, Bool.true_and, decide_eq_true_eq, createKey, hasher]
  constructor
  · intro none
    rw [if_neg Bool.false_ne_true, if_neg (not_not.mpr none)]
    split <;> exact ⟨_, rfl⟩
  · intro some
    rw [if_neg Bool.false_ne_true, if_pos some]
    exact ⟨_, rfl⟩

/-- An entry that is found gets its key from as many arguments as it has hashers, none of them oversized. -/
theorem createStorageKey_of_found {entry : StorageEntryMetadata} (last : EmptyLast args)
    (found : findStorageEntryMetadata metadata modulePrefix method = .ok entry)
    (flagged : entry.WellFlagged) (collects : entry.Collects) :
    (((args.rdropWhile List.isEmpty).length = entry.keyHashers.length ∧
          ∀ hasher ∈ entry.keyHashers, ¬ hasher.Oversized) →
        ∃ key, createStorageKey digests metadata modulePrefix method args = .ok key) ∧
      (¬ ((args.rdropWhile List.isEmpty).length = entry.keyHashers.length ∧
          ∀ hasher ∈ entry.keyHashers, ¬ hasher.Oversized) →
        ∃ reason, createStorageKey digests metadata modulePrefix method args = .error reason) := by
  cases is_map : entry.isMap with
  | true => exact createStorageKey_of_map last found flagged collects is_map
  | false =>
      obtain ⟨creates, fails⟩ := @createStorageKey_of_plain digests _ _ _ _ _ last found flagged is_map
      rw [keyHashers_eq_nil is_map]
      exact ⟨fun fit => creates fit.1, fun unfit => fails fun none => unfit ⟨none, by simp⟩⟩

/-- A key is created exactly when the arguments fit an entry without an oversized hasher; otherwise there
is an error. -/
theorem createStorageKey_cases (version : 7 ≤ metadata.version.toNat)
    (flagged : ∀ entry ∈ storageEntries metadata, entry.WellFlagged) :
    ((∃ entry, ArgumentsFit metadata modulePrefix method args entry ∧
          ∀ hasher ∈ entry.keyHashers, ¬ hasher.Oversized) →
        ∃ key, createStorageKey digests metadata modulePrefix method args = .ok key) ∧
      ((¬ ∃ entry, ArgumentsFit metadata modulePrefix method args entry ∧
          ∀ hasher ∈ entry.keyHashers, ¬ hasher.Oversized) →
        ∃ reason, createStorageKey digests metadata modulePrefix method args = .error reason) := by
  constructor
  · rintro ⟨entry, ⟨found, last, same_length⟩, possible⟩
    have member := mem_storageEntries_of_find found
    exact (createStorageKey_of_found last found (flagged entry member) (collects_of_mem version member)).1
      ⟨same_length, possible⟩
  · intro unfit
    by_cases last : EmptyLast args
    · rcases @findStorageEntryMetadata_returns metadata modulePrefix method with
        ⟨entry, found⟩ | ⟨reason, failed⟩
      · have member := mem_storageEntries_of_find found
        refine (createStorageKey_of_found last found (flagged entry member)
          (collects_of_mem version member)).2 ?_
        rintro ⟨same_length, possible⟩
        exact unfit ⟨entry, ⟨found, last, same_length⟩, possible⟩
      · rw [createStorageKey, validateAndTrimArgs_of_emptyLast last, Outcome.ok_bind, failed]
        exact ⟨reason, rfl⟩
    · obtain ⟨reason, failed⟩ := validateAndTrimArgs_of_not_emptyLast last
      rw [createStorageKey, failed]
      exact ⟨reason, rfl⟩

end Errors

/-- `CreateStorageKey` fails exactly for the reasons to refuse if and only if no hasher of an entry that the
arguments fit is oversized. -/
theorem createStorageKey_failsExactly_iff (digests : Digests) {metadata : Metadata}
    (version : 7 ≤ metadata.version.toNat ∧ metadata.version.toNat ≤ 14)
    (flagged : ∀ entry ∈ storageEntries metadata, entry.WellFlagged)
    (modulePrefix method : Text) (args : List Argument) :
    FailsExactly digests metadata modulePrefix method args ↔
      ∀ entry, ArgumentsFit metadata modulePrefix method args entry →
        ∀ hasher ∈ entry.keyHashers, ¬ hasher.Oversized := by
  obtain ⟨creates, fails⟩ :=
    @createStorageKey_cases digests metadata modulePrefix method args version.1 flagged
  rw [FailsExactly, refused_iff, not_not]
  constructor
  · rintro ⟨_, keys⟩ entry fit hasher member oversized
    obtain ⟨key, created⟩ := keys.mpr ⟨entry, fit⟩
    obtain ⟨reason, failed⟩ := fails <| by
      rintro ⟨other, other_fit, possible⟩
      obtain rfl := Outcome.ok.inj (fit.1.symm.trans other_fit.1)
      exact possible hasher member oversized
    rw [created] at failed
    cases failed
  · intro possible
    by_cases fits : ∃ entry, ArgumentsFit metadata modulePrefix method args entry
    · obtain ⟨entry, fit⟩ := fits
      obtain ⟨key, created⟩ := creates ⟨entry, fit, possible entry fit⟩
      rw [created]
      exact ⟨⟨fun failed => by simp at failed, fun none => absurd ⟨entry, fit⟩ none⟩,
        fun _ => ⟨entry, fit⟩, fun _ => ⟨key, rfl⟩⟩
    · obtain ⟨reason, failed⟩ := fails fun ⟨entry, fit, _⟩ => fits ⟨entry, fit⟩
      rw [failed]
      exact ⟨⟨fun _ => fits, fun _ => ⟨reason, rfl⟩⟩, fun created => by simp at created,
        fun fit => absurd fit fits⟩

/-- A map with one key. -/
def oneMapEntry (flag : StorageHasher.Flag) : StorageFunctionMetadataV5 :=
  { (default : StorageFunctionMetadataV5) with
    name := [102]
    type := .choose StorageFunctionType.zero .isMap
      { (default : MapTypeV4) with hasher := .choose (fun _ => ()) flag () } }

/-- A module with the map in its storage. -/
def oneMapModule (flag : StorageHasher.Flag) : ModuleMetadataV8 :=
  { (default : ModuleMetadataV8) with hasStorage := true, storage := ⟨[77], [oneMapEntry flag]⟩ }

/-- Metadata of version 9 with one map. -/
def oneMapV9 (flag : StorageHasher.Flag) : Metadata :=
  { Metadata.ofVersion 9 with asMetadataV9 := ⟨[oneMapModule flag]⟩ }

theorem wellFlagged_oneMapV9 (flag : StorageHasher.Flag) :
    ∀ entry ∈ storageEntries (oneMapV9 flag), entry.WellFlagged := by
  intro entry member
  obtain rfl := List.mem_singleton.mp member
  refine ⟨⟨.isMap, fun _ => rfl⟩, fun hasher member => ?_⟩
  obtain rfl := List.mem_singleton.mp member
  exact ⟨_, .old (TaggedUnion.selects_choose flag ())⟩

theorem createStorageKey_failsExactly_twox128 :
    FailsExactly lengthDigests (oneMapV9 .isTwox128) [77] [102] [[1], []] := by
  refine (createStorageKey_failsExactly_iff lengthDigests (by decide) (wellFlagged_oneMapV9 _) _ _ _).mpr ?_
  rintro entry ⟨found, _, _⟩ hasher member
  cases found
  obtain rfl := List.mem_singleton.mp member
  exact Bool.false_ne_true

/-- A map of version 9 with the hasher `Blake2_128` has no key, though the argument fits. -/
theorem createStorageKey_blake2_128_fails :
    (∀ entry ∈ storageEntries (oneMapV9 .isBlake2_128), entry.WellFlagged) ∧
      ¬ Refused (oneMapV9 .isBlake2_128) [77] [102] [[1]] ∧
      ¬ FailsExactly lengthDigests (oneMapV9 .isBlake2_128) [77] [102] [[1]] := by
  have fits : ¬ Refused (oneMapV9 .isBlake2_128) [77] [102] [[1]] := by
    rw [refused_iff, not_not]
    exact ⟨_, rfl, List.pairwise_singleton _ _, rfl⟩
  refine ⟨wellFlagged_oneMapV9 _, fits, ?_⟩
  rintro ⟨errors, _⟩
  exact fits (errors.mp ⟨_, rfl⟩)

end SubstrateClient.StorageKey
