import SubstrateClient.StorageKey.KeyErrors

/-!
# Which arguments share a storage key

A key starts with the digests of the names of module and item, and goes on with the hashes of the arguments.  Some
hashers write the argument behind its digest, and there keys of different arguments differ.
-/

namespace SubstrateClient.StorageKey

open Scale SubstrateClient.Types MetadataFormat

/-! ## Hashes of one argument -/

namespace HasherKind

variable {digests : Digests} {arg other later more : List UInt8}

/-- What the hash starts with. -/
def digest (digests : Digests) (kind : HasherKind) (input : List UInt8) : List UInt8 :=
  match kind with
  | blake2_128 | blake2_128Concat => (digests.blake2b 16 input).toList
  | blake2_256 => (digests.blake2b 32 input).toList
  | twox128 => twox digests 2 input
  | twox256 => twox digests 4 input
  | twox64Concat => (digests.xxHash64 0 input).toList
  | identity => []

/-- The argument stands behind the digest. -/
def transparent : HasherKind → Bool
  | blake2_128Concat | twox64Concat | identity => true
  | blake2_128 | blake2_256 | twox128 | twox256 => false

theorem hash_eq (kind : HasherKind) (input : List UInt8) :
    kind.hash digests input = kind.digest digests input ++ if kind.transparent then input else [] := by
  cases kind <;> simp [hash, digest, transparent]

/-- The digests of a hasher have one size. -/
theorem length_digest (kind : HasherKind) (input other : List UInt8) :
    (kind.digest digests input).length = (kind.digest digests other).length := by
  cases kind <;> simp [digest, twox]

/-- The hashes of arguments of one length are the same. -/
def SameHash (digests : Digests) (kind : HasherKind) (arg other : List UInt8) : Prop :=
  if kind.transparent then arg = other else kind.digest digests arg = kind.digest digests other

/-- Behind the hashes of arguments of one length, the rest of the key starts at one place. -/
theorem hash_append_eq_iff (kind : HasherKind) (same_length : arg.length = other.length) :
    kind.hash digests arg ++ later = kind.hash digests other ++ more ↔
      kind.SameHash digests arg other ∧ later = more := by
  have digest_length : (kind.digest digests arg).length = _ := kind.length_digest arg other
  rw [hash_eq, hash_eq, SameHash]
  cases kind.transparent with
  | true =>
      simp only [if_true, List.append_assoc]
      constructor
      · intro same
        have behind := List.append_inj_right same digest_length
        exact List.append_inj behind same_length
      · rintro ⟨rfl, rfl⟩
        rfl
  | false =>
      simp only [Bool.false_eq_true, if_false, List.append_nil]
      constructor
      · intro same
        exact List.append_inj same digest_length
      · rintro ⟨same, rfl⟩
        rw [same]

/-- Different arguments may share a hash: their digests are the same, and where the arguments stand behind the digests
these have different lengths. -/
structure Collides (digests : Digests) (kind : HasherKind) (arg other : List UInt8) : Prop where
  different : arg ≠ other
  digest : kind.digest digests arg = kind.digest digests other
  length : kind.transparent = true → arg.length ≠ other.length

theorem eq_or_collides (kind : HasherKind)
    (same : kind.hash digests arg ++ later = kind.hash digests other ++ more) :
    (arg = other ∧ later = more) ∨ kind.Collides digests arg other := by
  by_cases equal : arg = other
  · subst equal
    exact .inl ⟨rfl, List.append_cancel_left same⟩
  · refine .inr ⟨equal, ?_, fun clear same_length => ?_⟩
    · rw [hash_eq, hash_eq, List.append_assoc, List.append_assoc] at same
      exact List.append_inj_left same (kind.length_digest arg other)
    · have same_hash := ((kind.hash_append_eq_iff same_length).mp same).1
      rw [SameHash, if_pos clear] at same_hash
      exact equal same_hash

end HasherKind

/-! ## Hashes of all arguments -/

section Arguments

variable {digests : Digests} {kinds : List HasherKind} {args others : List Argument}

/-- The first two arguments that differ collide. -/
def FirstCollision (digests : Digests) : List HasherKind → List Argument → List Argument → Prop
  | kind :: kinds, arg :: args, other :: others =>
      kind.Collides digests arg other ∨ arg = other ∧ FirstCollision digests kinds args others
  | _, _, _ => False

theorem hashAll_cons (digests : Digests) (kind : HasherKind) (kinds : List HasherKind) (arg : Argument)
    (args : List Argument) :
    hashAll digests (kind :: kinds) (arg :: args) = kind.hash digests arg ++ hashAll digests kinds args := rfl

theorem eq_or_firstCollision (args_length : args.length = kinds.length) (others_length : others.length = kinds.length)
    (same : hashAll digests kinds args = hashAll digests kinds others) :
    args = others ∨ FirstCollision digests kinds args others := by
  induction kinds generalizing args others with
  | nil =>
      rw [List.length_eq_zero_iff.mp args_length, List.length_eq_zero_iff.mp others_length]
      exact .inl rfl
  | cons kind kinds ih =>
      obtain ⟨arg, args, rfl⟩ := List.exists_cons_of_length_eq_add_one args_length
      obtain ⟨other, others, rfl⟩ := List.exists_cons_of_length_eq_add_one others_length
      rw [hashAll_cons, hashAll_cons] at same
      rcases kind.eq_or_collides same with ⟨rfl, same_later⟩ | collides
      · rcases ih (Nat.succ.inj args_length) (Nat.succ.inj others_length) same_later with rfl | collision
        · exact .inl rfl
        · exact .inr (.inr ⟨rfl, collision⟩)
      · exact .inr (.inl collides)

/-- With arguments of the same lengths, the hashes are compared one by one. -/
theorem hashAll_eq_iff (args_length : args.length = kinds.length)
    (same_lengths : args.map List.length = others.map List.length) :
    hashAll digests kinds args = hashAll digests kinds others ↔
      ∀ entry ∈ kinds.zip (args.zip others), entry.1.SameHash digests entry.2.1 entry.2.2 := by
  induction kinds generalizing args others with
  | nil => simp [hashAll]
  | cons kind kinds ih =>
      obtain ⟨arg, args, rfl⟩ := List.exists_cons_of_length_eq_add_one args_length
      obtain ⟨other, others, rfl⟩ := List.exists_cons_of_ne_nil (l := others) (by rintro rfl; cases same_lengths)
      rw [List.map_cons, List.map_cons, List.cons.injEq] at same_lengths
      rw [hashAll_cons, hashAll_cons, kind.hash_append_eq_iff same_lengths.1,
        ih (Nat.succ.inj args_length) same_lengths.2]
      simp

end Arguments

/-! ## Keys -/

section Keys

variable {digests : Digests} {metadata : Metadata} {modulePrefix method : Text} {args : List Argument}
  {key : List UInt8} {entry : StorageEntryMetadata} {kinds : List HasherKind}

theorem exists_kinds {hashers : List KeyHasher} (flagged : ∀ hasher ∈ hashers, ∃ kind, hasher.HasKind kind) :
    ∃ kinds, List.Forall₂ KeyHasher.HasKind hashers kinds := by
  induction hashers with
  | nil => exact ⟨[], .nil⟩
  | cons hasher hashers ih =>
      obtain ⟨kind, has_kind⟩ := flagged hasher List.mem_cons_self
      obtain ⟨kinds, related⟩ := ih fun other member => flagged other (List.mem_cons_of_mem _ member)
      exact ⟨kind :: kinds, .cons has_kind related⟩

/-- The kinds of the hashers of a map determine its objects. -/
theorem objects_eq_of_kinds (related : List.Forall₂ KeyHasher.HasKind entry.keyHashers kinds)
    {objects : List HashObject} (created : entry.hashers digests = .ok objects) : objects = kinds.map newObject := by
  have each := Outcome.mapM_eq_ok.mp (mapM_keyHashers_of_hashers created)
  clear created
  generalize entry.keyHashers = hashers at related each
  induction related generalizing objects with
  | nil =>
      cases each
      rfl
  | cons has_kind _ ih =>
      obtain ⟨object, objects, first, others, rfl⟩ := List.forall₂_cons_left_iff.mp each
      rw [List.map_cons, ← has_kind.newObject_of_ok first, ← ih others]

/-- The key that the arguments of an entry get. -/
theorem key_of_created (recent : 9 ≤ metadata.version.toNat)
    (found : findStorageEntryMetadata metadata modulePrefix method = .ok entry)
    (related : List.Forall₂ KeyHasher.HasKind entry.keyHashers kinds)
    (created : createStorageKey digests metadata modulePrefix method args = .ok key) :
    (args.rdropWhile List.isEmpty).length = kinds.length ∧
      key = createPrefixedKey digests method modulePrefix ++
        hashAll digests kinds (args.rdropWhile List.isEmpty) := by
  obtain ⟨trimmed, valid, created⟩ := Outcome.bind_eq_ok.mp created
  obtain rfl := trimmed_of_validate valid
  rw [found, Outcome.ok_bind] at created
  cases is_map : entry.isMap with
  | true =>
      rw [if_pos is_map] at created
      obtain ⟨objects, hashers, created⟩ := Outcome.bind_eq_ok.mp created
      have hashers := Outcome.mapError_eq_ok.mp hashers
      obtain rfl := objects_eq_of_kinds related hashers
      split_ifs at created with different
      have same_length : kinds.length = (args.rdropWhile List.isEmpty).length := by
        simpa using different
      rw [createKeyMap_eq hashers same_length] at created
      exact ⟨same_length.symm, (Outcome.ok.inj created).symm⟩
  | false =>
      rw [keyHashers_eq_nil is_map] at related
      cases related
      rw [if_neg (by simp [is_map])] at created
      split_ifs at created with arguments_given
      obtain ⟨object, hasher, created⟩ := Outcome.bind_eq_ok.mp created
      have no_args : args.rdropWhile List.isEmpty = [] := by
        simpa [isPlain_of_hasher is_map hasher] using arguments_given
      rw [if_neg (by omega)] at created
      rw [no_args]
      exact ⟨rfl, (Outcome.ok.inj created).symm⟩

/-- The names of module and item take up the first 32 bytes. -/
theorem createPrefixedKey_append_inj {module' method' : Text} {later more : List UInt8}
    (same : createPrefixedKey digests method modulePrefix ++ later =
      createPrefixedKey digests method' module' ++ more) :
    (HasherKind.twox128.hash digests modulePrefix = HasherKind.twox128.hash digests module' ∧
      HasherKind.twox128.hash digests method = HasherKind.twox128.hash digests method') ∧ later = more := by
  have width : ∀ text : Text, (HasherKind.twox128.hash digests text).length = 16 := fun text => by
    simp [HasherKind.hash, twox]
  have shown : ∀ method modulePrefix : Text, createPrefixedKey digests method modulePrefix =
      HasherKind.twox128.hash digests modulePrefix ++ HasherKind.twox128.hash digests method := fun _ _ => rfl
  rw [shown, shown, List.append_assoc, List.append_assoc] at same
  obtain ⟨modules, same⟩ := List.append_inj same (by rw [width, width])
  obtain ⟨methods, same⟩ := List.append_inj same (by rw [width, width])
  exact ⟨⟨modules, methods⟩, same⟩

end Keys

/-- Two keys are the same only if the digests of the names are.  For one item, the keys of different arguments are the
same only if the first arguments that differ collide; and with arguments of the same lengths they are the same exactly
if the arguments behind transparent hashers are equal and the digests of the others are. -/
theorem storage_keys_identify (digests : Digests) (metadata : Metadata) (module module' method method' : Text)
    (args args' : List Argument) (key key' : List UInt8) (recent : 9 ≤ metadata.version.toNat)
    (flagged : ∀ entry ∈ storageEntries metadata, entry.WellFlagged)
    (created : createStorageKey digests metadata module method args = .ok key)
    (created' : createStorageKey digests metadata module' method' args' = .ok key') :
    (key = key' → HasherKind.twox128.hash digests module = HasherKind.twox128.hash digests module' ∧
      HasherKind.twox128.hash digests method = HasherKind.twox128.hash digests method') ∧
    (module = module' → method = method' → ∃ entry kinds,
      findStorageEntryMetadata metadata module method = .ok entry ∧
      List.Forall₂ KeyHasher.HasKind entry.keyHashers kinds ∧
      (key = key' → args.rdropWhile List.isEmpty = args'.rdropWhile List.isEmpty ∨
        FirstCollision digests kinds (args.rdropWhile List.isEmpty) (args'.rdropWhile List.isEmpty)) ∧
      ((args.rdropWhile List.isEmpty).map List.length = (args'.rdropWhile List.isEmpty).map List.length →
        (key = key' ↔ ∀ entry ∈ kinds.zip ((args.rdropWhile List.isEmpty).zip (args'.rdropWhile List.isEmpty)),
          entry.1.SameHash digests entry.2.1 entry.2.2))) := by
  have formula : ∀ {module method : Text} {args : List Argument} {key : List UInt8},
      createStorageKey digests metadata module method args = .ok key →
      ∃ entry kinds, findStorageEntryMetadata metadata module method = .ok entry ∧
        List.Forall₂ KeyHasher.HasKind entry.keyHashers kinds := by
    intro module method args key created
    obtain ⟨_, _, created⟩ := Outcome.bind_eq_ok.mp created
    obtain ⟨entry, found, _⟩ := Outcome.bind_eq_ok.mp created
    obtain ⟨kinds, related⟩ := exists_kinds (flagged entry (mem_storageEntries_of_find found)).hashers
    exact ⟨entry, kinds, found, related⟩
  obtain ⟨entry, kinds, found, related⟩ := formula created
  obtain ⟨entry', kinds', found', related'⟩ := formula created'
  obtain ⟨args_length, key_eq⟩ := key_of_created recent found related created
  obtain ⟨args_length', key_eq'⟩ := key_of_created recent found' related' created'
  constructor
  · intro same
    rw [key_eq, key_eq'] at same
    exact (createPrefixedKey_append_inj same).1
  · rintro rfl rfl
    obtain ⟨other_length, other_eq⟩ := key_of_created recent found related created'
    have keys : key = key' ↔ hashAll digests kinds (args.rdropWhile List.isEmpty) =
        hashAll digests kinds (args'.rdropWhile List.isEmpty) := by
      rw [key_eq, other_eq]
      exact List.append_right_inj _
    refine ⟨entry, kinds, found, related, fun same => ?_, fun same_lengths => ?_⟩
    · exact eq_or_firstCollision args_length other_length (keys.mp same)
    · rw [keys]
      exact hashAll_eq_iff args_length same_lengths

/-- Two arguments of one length of a map of version 9, and an empty argument at the end. -/
theorem storage_keys_identify_twox64Concat :
    ∃ (kinds : List HasherKind) (key key' : List UInt8),
      createStorageKey lengthDigests (oneMapV9 .isTwox64Concat) [77] [102] [[5, 6]] = .ok key ∧
      createStorageKey lengthDigests (oneMapV9 .isTwox64Concat) [77] [102] [[7, 8], []] = .ok key' ∧
      (key = key' ↔ ∀ entry ∈ kinds.zip [([5, 6], [7, 8])], entry.1.SameHash lengthDigests entry.2.1 entry.2.2) := by
  obtain ⟨_, kinds, _, _, _, same_iff⟩ := (storage_keys_identify lengthDigests (oneMapV9 .isTwox64Concat) [77] [77]
    [102] [102] [[5, 6]] [[7, 8], []] _ _ (by decide) (wellFlagged_oneMapV9 _) rfl rfl).2 rfl rfl
  exact ⟨kinds, _, _, rfl, rfl, same_iff rfl⟩

end SubstrateClient.StorageKey
