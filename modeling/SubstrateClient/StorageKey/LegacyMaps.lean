import SubstrateClient.StorageKey.KeyErrors

/-!
# Maps of legacy metadata

Up to version 8 the key of a plain entry is the hash of one string, the prefix and the name with a blank
between them.  `createKeyMap` does not look at the version: the key of a map is put together from
separate hashes in every version.
-/

namespace SubstrateClient.StorageKey

open Scale SubstrateClient.Types MetadataFormat

/-! ## The hashers of legacy entries -/

namespace StorageEntryMetadata

/-- The hashers of the entry have the old form. -/
def OldForm (entry : StorageEntryMetadata) : Prop :=
  ∀ hasher ∈ entry.keyHashers, ∃ old, hasher = .old old

theorem oldForm_v4 (entry : StorageFunctionMetadataV4) : (v4 entry).OldForm := by
  intro hasher member
  simp only [keyHashers] at member
  split at member <;> simp_all

theorem oldForm_v5 (entry : StorageFunctionMetadataV5) : (v5 entry).OldForm := by
  intro hasher member
  simp only [keyHashers] at member
  split at member
  · simp_all
  · split at member
    · rcases List.mem_pair.mp member with rfl | rfl
      · exact ⟨_, rfl⟩
      · exact ⟨_, rfl⟩
    · cases member

/-- Up to version 9 the hashers have the old form. -/
theorem oldForm_of_mem {metadata : Metadata} (version : metadata.version.toNat ≤ 9)
    {entry : StorageEntryMetadata} (member : entry ∈ storageEntries metadata) : entry.OldForm := by
  refine forall_storageEntries (fun _ => oldForm_v4) (fun _ => oldForm_v5) ?_ ?_ ?_ member
  all_goals
    intro recent
    omega

end StorageEntryMetadata

/-- The objects that hashers of the old form can have. -/
theorem kind_of_hashFunc {digests : Digests} {hasher : StorageHasher} {object : HashObject}
    (created : hashFunc digests hasher = .ok object) :
    ∃ kind, object = newObject kind ∧
      (kind = .blake2_256 ∨ kind = .twox128 ∨ kind = .twox256 ∨ kind = .twox64Concat) := by
  unfold hashFunc at created
  split_ifs at created
  · obtain ⟨reason, failed⟩ := @newBlake2b_eq_error digests 128 (by decide)
    cases failed.symm.trans created
  · rw [newBlake2b_eq_ok (by decide)] at created
    exact ⟨.blake2_256, (Outcome.ok.inj created).symm, by simp⟩
  · exact ⟨.twox128, (Outcome.ok.inj created).symm, by simp⟩
  · exact ⟨.twox256, (Outcome.ok.inj created).symm, by simp⟩
  · exact ⟨.twox64Concat, (Outcome.ok.inj created).symm, by simp⟩

/-! ## The key of a map with one key -/

/-- A map with one key and the hasher of this key. -/
structure StorageEntryMetadata.SingleKeyMap (entry : StorageEntryMetadata) (hasher : KeyHasher) : Prop where
  keyHashers : entry.keyHashers = [hasher]
  collects : entry.Collects

/-- The string of the legacy scheme: prefix, blank, name and argument. -/
def legacyInput (modulePrefix method : Text) (arg : Argument) : List UInt8 :=
  modulePrefix ++ [32] ++ method ++ arg

/-- The hasher is `Twox64Concat`, the whole string has the first digest of the prefix, and the prefix, the
blank and the name are the four digests that follow. -/
def SchemesCollide (digests : Digests) (modulePrefix method : Text) (arg : Argument)
    (object : HashObject) : Prop :=
  object = newObject .twox64Concat ∧
    digests.xxHash64 0 modulePrefix = digests.xxHash64 0 (legacyInput modulePrefix method arg) ∧
    modulePrefix ++ [32] ++ method =
      (digests.xxHash64 1 modulePrefix).toList ++ (digests.xxHash64 0 method).toList ++
        (digests.xxHash64 1 method).toList ++ (digests.xxHash64 0 arg).toList

section OneKey

variable {digests : Digests} {metadata : Metadata} {modulePrefix method : Text}
  {entry : StorageEntryMetadata} {hasher : KeyHasher} {kind : HasherKind} {arg : Argument}

/-- Whatever the version, the key of a map is the hashes of the prefix, of the name and of the argument. -/
theorem createStorageKey_singleKeyMap
    (found : findStorageEntryMetadata metadata modulePrefix method = .ok entry)
    (single : entry.SingleKeyMap hasher) (constructed : hasher.hashFunc digests = .ok (newObject kind))
    (nonempty : arg ≠ []) :
    createStorageKey digests metadata modulePrefix method [arg] =
      .ok (createPrefixedKey digests method modulePrefix ++ kind.hash digests arg) := by
  have is_map : entry.isMap = true := by
    by_contra not_map
    have none := keyHashers_eq_nil (Bool.eq_false_iff.mpr not_map)
    rw [single.keyHashers] at none
    cases none
  have hashers : entry.hashers digests = .ok ([kind].map newObject) := by
    rw [StorageEntryMetadata.hashers_eq_mapM single.collects is_map, single.keyHashers]
    simp [constructed]
  have trimmed : List.rdropWhile List.isEmpty [arg] = [arg] := by
    simp [List.rdropWhile, nonempty]
  rw [createStorageKey, validateAndTrimArgs_of_emptyLast (List.pairwise_singleton _ _), trimmed]
  simp only [Outcome.ok_bind, found, is_map, if_true, hashers, Outcome.mapError_ok]
  rw [if_neg (by simp), createKeyMap_eq hashers rfl]
  simp [hashAll]

theorem twox_two (input : List UInt8) :
    twox digests 2 input = (digests.xxHash64 0 input).toList ++ (digests.xxHash64 1 input).toList := by
  simp [twox, List.range_succ]

theorem createPrefixedKey_eq :
    createPrefixedKey digests method modulePrefix = twox digests 2 modulePrefix ++ twox digests 2 method :=
  rfl

/-- The digests before the argument make the key of a map longer than any digest of its hasher. -/
theorem prefixed_ne_of_fixed (fixed : kind = .blake2_256 ∨ kind = .twox128 ∨ kind = .twox256)
    (input : List UInt8) :
    createPrefixedKey digests method modulePrefix ++ kind.hash digests arg ≠ kind.hash digests input := by
  intro same
  have lengths := congrArg List.length same
  rcases fixed with rfl | rfl | rfl <;>
    simp [createPrefixedKey_eq, HasherKind.hash, twox, List.length_flatMap] at lengths

/-- With `Twox64Concat` both keys end in the argument, and what comes before it is compared. -/
theorem prefixed_eq_iff_of_concat :
    createPrefixedKey digests method modulePrefix ++ HasherKind.twox64Concat.hash digests arg =
        HasherKind.twox64Concat.hash digests (legacyInput modulePrefix method arg) ↔
      SchemesCollide digests modulePrefix method arg (newObject .twox64Concat) := by
  have key : createPrefixedKey digests method modulePrefix ++ HasherKind.twox64Concat.hash digests arg =
      (digests.xxHash64 0 modulePrefix).toList ++
        ((digests.xxHash64 1 modulePrefix).toList ++ (digests.xxHash64 0 method).toList ++
          (digests.xxHash64 1 method).toList ++ (digests.xxHash64 0 arg).toList ++ arg) := by
    simp only [createPrefixedKey_eq, twox_two, HasherKind.hash, List.append_assoc]
  rw [key, SchemesCollide, HasherKind.hash]
  constructor
  · intro same
    obtain ⟨first, later⟩ := List.append_inj same (by simp)
    exact ⟨rfl, List.Vector.eq _ _ first, (List.append_cancel_right later).symm⟩
  · rintro ⟨_, first, later⟩
    rw [first, ← later]
    rfl

/-- The key that `createKeyMap` makes is the one of the legacy scheme exactly when the schemes collide. -/
theorem prefixed_eq_iff
    (old : kind = .blake2_256 ∨ kind = .twox128 ∨ kind = .twox256 ∨ kind = .twox64Concat) :
    createPrefixedKey digests method modulePrefix ++ kind.hash digests arg =
        kind.hash digests (legacyInput modulePrefix method arg) ↔
      SchemesCollide digests modulePrefix method arg (newObject kind) := by
  by_cases concat : kind = .twox64Concat
  · subst concat
    exact prefixed_eq_iff_of_concat
  · have fixed : kind = .blake2_256 ∨ kind = .twox128 ∨ kind = .twox256 := by
      simpa [concat, or_assoc] using old
    constructor
    · intro same
      exact absurd same (prefixed_ne_of_fixed fixed _)
    · rintro ⟨same, _⟩
      rcases fixed with rfl | rfl | rfl <;> cases same

end OneKey

/-- The key of a legacy map with one key is the hash of prefix, blank, name and argument by the hasher of
the map if and only if the schemes collide. -/
theorem createStorageKey_legacy_iff (digests : Digests) {metadata : Metadata}
    (legacy : metadata.version.toNat = 4 ∨ metadata.version.toNat = 7 ∨ metadata.version.toNat = 8)
    {modulePrefix method : Text} {entry : StorageEntryMetadata}
    (found : findStorageEntryMetadata metadata modulePrefix method = .ok entry) {hasher : KeyHasher}
    (single : entry.SingleKeyMap hasher) {object : HashObject}
    (constructed : hasher.hashFunc digests = .ok object) {arg : Argument} (nonempty : arg ≠ []) :
    createStorageKey digests metadata modulePrefix method [arg] =
        .ok ((object.write (legacyInput modulePrefix method arg)).sum digests []) ↔
      SchemesCollide digests modulePrefix method arg object := by
  have old_form := StorageEntryMetadata.oldForm_of_mem (by omega) (mem_storageEntries_of_find found)
  obtain ⟨old, rfl⟩ := old_form hasher (by simp [single.keyHashers])
  obtain ⟨kind, rfl, kinds⟩ := kind_of_hashFunc constructed
  rw [createStorageKey_singleKeyMap found single constructed nonempty, sum_write_newObject,
    Outcome.ok.injEq, prefixed_eq_iff kinds]

/-- Metadata of version 8 with one map. -/
def oneMapV8 (flag : StorageHasher.Flag) : Metadata :=
  { Metadata.ofVersion 8 with asMetadataV8 := ⟨[oneMapModule flag]⟩ }

theorem find_oneMapV8 (flag : StorageHasher.Flag) :
    findStorageEntryMetadata (oneMapV8 flag) [77] [102] = .ok (.v5 (oneMapEntry flag)) := rfl

theorem singleKeyMap_oneMapEntry (flag : StorageHasher.Flag) :
    StorageEntryMetadata.SingleKeyMap (.v5 (oneMapEntry flag)) (.old (.choose (fun _ => ()) flag ())) :=
  ⟨rfl, trivial⟩

theorem createStorageKey_legacy_blake2_256 :
    (oneMapV8 .isBlake2_256).version.toNat = 8 ∧
      ¬ ∃ digests, createStorageKey digests (oneMapV8 .isBlake2_256) [77] [102] [[1]] =
        .ok (HasherKind.blake2_256.hash digests [77, 32, 102, 1]) := by
  refine ⟨rfl, ?_⟩
  rintro ⟨digests, same⟩
  have constructed := @hashFunc_eq digests _ _ (TaggedUnion.selects_choose StorageHasher.Flag.isBlake2_256 ())
    (by decide)
  have collide := (createStorageKey_legacy_iff digests (.inr (.inr rfl)) (find_oneMapV8 .isBlake2_256)
    (singleKeyMap_oneMapEntry _) constructed (by decide)).mp same
  cases collide.1

/-- No digests make the key of a map with the hasher `Twox128` the one of the legacy scheme. -/
theorem createStorageKey_twox128_not_legacy :
    (oneMapV8 .isTwox128).version.toNat = 8 ∧
      (∃ entry hasher, findStorageEntryMetadata (oneMapV8 .isTwox128) [77] [102] = .ok entry ∧
        entry.SingleKeyMap hasher ∧ ∀ digests, hasher.hashFunc digests = .ok (newObject .twox128)) ∧
      ¬ ∃ digests, createStorageKey digests (oneMapV8 .isTwox128) [77] [102] [[1]] =
        .ok (((newObject .twox128).write (legacyInput [77] [102] [1])).sum digests []) := by
  have constructed : ∀ digests, (KeyHasher.old (.choose (fun _ => ()) .isTwox128 ())).hashFunc digests =
      .ok (newObject .twox128) := fun _ => rfl
  refine ⟨rfl, ⟨_, _, find_oneMapV8 _, singleKeyMap_oneMapEntry _, constructed⟩, ?_⟩
  rintro ⟨digests, same⟩
  rw [createStorageKey_singleKeyMap (find_oneMapV8 .isTwox128) (singleKeyMap_oneMapEntry _)
    (constructed digests) (by decide), sum_write_newObject] at same
  exact prefixed_ne_of_fixed (.inr (.inl rfl)) _ (Outcome.ok.inj same)

end SubstrateClient.StorageKey
