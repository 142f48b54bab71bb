import Mathlib.Data.List.DropRight
import SubstrateClient.StorageKey.Entry

/-!
# Storage keys

`CreateStorageKey` hashes the prefix of the module, the name of the entry and one argument for each
hasher of the entry.
-/

namespace SubstrateClient.StorageKey

open Scale SubstrateClient.Types MetadataFormat

/-- An argument of `CreateStorageKey`. -/
abbrev Argument : Type := List UInt8

/-! ## Creating a key -/

/-- `validateAndTrimArgs`. -/
def validateAndTrimArgs (args : List Argument) : Outcome GoError (List Argument) :=
  match args.findIdx? List.isEmpty with
  | none => .ok args
  | some nonNilCount =>
      if (args.drop nonNilCount).any fun arg => !arg.isEmpty then
        .error (.text "non-nil arguments cannot be preceded by nil arguments")
      else
        .ok (args.take nonNilCount)

section Keys

variable (digests : Digests)

/-- `createPrefixedKey`. -/
def createPrefixedKey (method modulePrefix : Text) : List UInt8 :=
  (new128 modulePrefix).sum digests [] ++ (new128 method).sum digests []

/-- The loop of `createKeyMap`: the hashers are indexed by the position of the argument. -/
def hashArgs : List HashObject → List Argument → Outcome GoError (List UInt8)
  | _, [] => .ok []
  | [], _ :: _ => .panic
  | hasher :: hashers, arg :: args => do
      let later ← hashArgs hashers args
      pure ((hasher.write arg).sum digests [] ++ later)

/-- `createKeyMap`. -/
def createKeyMap (method modulePrefix : Text) (args : List Argument) (entryMeta : StorageEntryMetadata) :
    Outcome GoError (List UInt8) := do
  let hashers ← entryMeta.hashers digests
  let hashed ← hashArgs digests hashers args
  pure (createPrefixedKey digests method modulePrefix ++ hashed)

/-- `createKey`. -/
def createKey (metadata : Metadata) (method modulePrefix stringKey : Text) (arg : List UInt8)
    (entryMeta : StorageEntryMetadata) : Outcome GoError (List UInt8) := do
  let hasher ← entryMeta.hasher digests
  if metadata.version.toNat ≤ 8 then
    pure ((hasher.write (stringKey ++ arg)).sum digests [])
  else
    pure (createPrefixedKey digests method modulePrefix ++ arg)

/-- `CreateStorageKey`. -/
def createStorageKey (metadata : Metadata) (modulePrefix method : Text) (args : List Argument) :
    Outcome GoError (List UInt8) := do
  let stringKey := modulePrefix ++ [32] ++ method
  let validatedArgs ← validateAndTrimArgs args
  let entryMeta ← findStorageEntryMetadata metadata modulePrefix method
  if entryMeta.isMap then
    let hashers ← (entryMeta.hashers digests).mapError fun _ =>
      .printed (Utf8Text.bytes "unable to get hashers for " ++ method ++ Utf8Text.bytes " map")
    if hashers.length ≠ validatedArgs.length then
      .error (.printed (modulePrefix ++ [0x3a] ++ method ++ Utf8Text.bytes (" is a map, therefore requires " ++
        "that number of arguments should exactly match number of hashers in metadata. Expected: " ++
        toString hashers.length ++ ", received: " ++ toString validatedArgs.length)))
    else
      createKeyMap digests method modulePrefix validatedArgs entryMeta
  else if entryMeta.isPlain && validatedArgs.length ≠ 0 then
    .error (.printed (modulePrefix ++ [0x3a] ++ method ++ Utf8Text.bytes (" is a plain key, therefore " ++
      "requires no argument. received: " ++ toString validatedArgs.length)))
  else
    createKey digests metadata method modulePrefix stringKey [] entryMeta

end Keys

/-! ## Arguments -/

private theorem rdropWhile_append {α : Type} {test : α → Bool} {front back : List α}
    (kept : ∀ item ∈ front, test item = false) (dropped : ∀ item ∈ back, test item = true) :
    (front ++ back).rdropWhile test = front := by
  have whole : front.rdropWhile test = front :=
    List.rdropWhile_eq_self_iff.mpr fun nonempty => by simp [kept _ (List.getLast_mem nonempty)]
  calc
    (front ++ back).rdropWhile test = front.rdropWhile test := by
      rw [List.rdropWhile, List.reverse_append, List.dropWhile_append_of_pos (by simpa using dropped)]
      rfl
    _ = front := whole

/-- The arguments before the first empty one. -/
theorem kept_before_first {args : List Argument} {count : Nat}
    (first : args.findIdx? List.isEmpty = some count) :
    ∀ arg ∈ args.take count, arg.isEmpty = false := by
  obtain ⟨_, _, before⟩ := List.findIdx?_eq_some_iff_getElem.mp first
  intro arg member
  obtain ⟨position, in_range, rfl⟩ := List.getElem_of_mem member
  rw [List.length_take] at in_range
  rw [List.getElem_take]
  exact Bool.eq_false_iff.mpr (before position (by omega))

/-- Valid arguments are trimmed to those before the trailing empty ones. -/
theorem trimmed_of_validate {args trimmed : List Argument}
    (valid : validateAndTrimArgs args = .ok trimmed) : trimmed = args.rdropWhile List.isEmpty := by
  unfold validateAndTrimArgs at valid
  cases first : args.findIdx? List.isEmpty with
  | none =>
      rw [first] at valid
      cases valid
      have nonempty := List.findIdx?_eq_none_iff.mp first
      have whole := rdropWhile_append nonempty fun _ : Argument => List.not_mem_nil.elim
      rw [List.append_nil] at whole
      exact whole.symm
  | some count =>
      rw [first] at valid
      dsimp only at valid
      split_ifs at valid with refused
      cases valid
      have dropped : ∀ arg ∈ args.drop count, arg.isEmpty = true := by
        simpa using refused
      have whole := rdropWhile_append (kept_before_first first) dropped
      rw [List.take_append_drop] at whole
      exact whole.symm

/-! ## Hashers -/

/-- `HashFunc` of a hasher in either form. -/
def KeyHasher.hashFunc (digests : Digests) : KeyHasher → Outcome GoError HashObject
  | old hasher => StorageKey.hashFunc digests hasher
  | new hasher => hashFuncV10 digests hasher

section Created

variable {digests : Digests}

/-- A hasher with one flag gives the object of its kind, if it gives one. -/
theorem KeyHasher.HasKind.newObject_of_ok {hasher : KeyHasher} {kind : HasherKind}
    (has_kind : hasher.HasKind kind) {object : HashObject} (created : hasher.hashFunc digests = .ok object) :
    object = newObject kind := by
  cases has_kind with
  | @old hasher flag selects =>
      by_cases impossible : flag = .isBlake2_128
      · subst impossible
        obtain ⟨reason, failed⟩ := @hashFunc_isBlake2_128 digests _ selects
        cases failed.symm.trans created
      · exact Outcome.ok.inj (created.symm.trans (hashFunc_eq selects impossible))
  | new selects => exact Outcome.ok.inj (created.symm.trans (hashFuncV10_eq selects))

namespace StorageEntryMetadata

/-- The hashers of the entry can be collected; version 4 does not do that for double maps. -/
def Collects : StorageEntryMetadata → Prop
  | v4 entry => entry.type.flag .isDoubleMap = false
  | _ => True

/-- The hashers of a map are created one after another. -/
theorem hashers_eq_mapM {entry : StorageEntryMetadata} (collects : entry.Collects)
    (is_map : entry.isMap = true) : entry.hashers digests = entry.keyHashers.mapM (KeyHasher.hashFunc digests) := by
  -- The flags of the kinds of map decide which hashers are collected.
  cases entry with
  | v4 entry =>
      have double : entry.type.flag .isDoubleMap = false := collects
      cases map : entry.type.flag .isMap <;>
        simp [hashers, isMap, keyHashers, map, double] at is_map ⊢
      rfl
  | v5 entry =>
      cases map : entry.type.flag .isMap <;> cases double : entry.type.flag .isDoubleMap <;>
        simp [hashers, isMap, keyHashers, collectHashersV5, map, double] at is_map ⊢ <;> rfl
  | v10 entry =>
      cases map : entry.type.flag .isMap <;> cases double : entry.type.flag .isDoubleMap <;>
        simp [hashers, isMap, keyHashers, collectHashersV10, map, double] at is_map ⊢ <;> rfl
  | v13 entry =>
      cases map : entry.type.flag .isMap <;> cases double : entry.type.flag .isDoubleMap <;>
        cases several : entry.type.flag .isNMap <;>
        simp [hashers, isMap, keyHashers, collectHashersV13, map, double, several] at is_map ⊢ <;> rfl
  | v14 entry =>
      cases map : entry.type.flag .isMap <;> simp [hashers, isMap, keyHashers, map] at is_map ⊢
      rfl

/-- Only maps have hashers. -/
theorem isMap_of_hashers {entry : StorageEntryMetadata} {objects : List HashObject}
    (created : entry.hashers digests = .ok objects) : entry.isMap = true := by
  by_contra not_map
  have plain : (!entry.isMap) = true := by simpa using not_map
  cases entry <;> rw [hashers, if_pos plain] at created <;> cases created

theorem collects_of_hashers {entry : StorageEntryMetadata} {objects : List HashObject}
    (created : entry.hashers digests = .ok objects) : entry.Collects := by
  have is_map := isMap_of_hashers created
  cases entry with
  | v4 entry =>
      cases double : entry.type.flag .isDoubleMap with
      | false => exact double
      | true => simp [hashers, is_map, double] at created
  | _ => trivial

end StorageEntryMetadata

open StorageEntryMetadata in
/-- The objects of a map are those of the hashers of its keys. -/
theorem mapM_keyHashers_of_hashers {entry : StorageEntryMetadata} {objects : List HashObject}
    (created : entry.hashers digests = .ok objects) :
    entry.keyHashers.mapM (KeyHasher.hashFunc digests) = .ok objects := by
  rw [← hashers_eq_mapM (collects_of_hashers created) (isMap_of_hashers created), created]

/-- The objects of a map with one flag for each hasher are new objects of their kinds. -/
theorem exists_kinds_of_hashers {entry : StorageEntryMetadata} (flagged : entry.WellFlagged)
    {objects : List HashObject} (created : entry.hashers digests = .ok objects) :
    ∃ kinds, List.Forall₂ KeyHasher.HasKind entry.keyHashers kinds ∧ objects = kinds.map newObject := by
  have each := Outcome.mapM_eq_ok.mp (mapM_keyHashers_of_hashers created)
  have one_flag := flagged.hashers
  clear flagged created
  generalize entry.keyHashers = keyHashers at each one_flag ⊢
  induction each with
  | nil => exact ⟨[], .nil, rfl⟩
  | cons first _ ih =>
      obtain ⟨kind, has_kind⟩ := one_flag _ List.mem_cons_self
      obtain ⟨kinds, related, rfl⟩ := ih fun hasher member => one_flag hasher (List.mem_cons_of_mem _ member)
      exact ⟨kind :: kinds, .cons has_kind related,
        congrArg (· :: kinds.map newObject) (has_kind.newObject_of_ok first)⟩

open StorageEntryMetadata in
/-- An entry that is no map has no hashers. -/
theorem keyHashers_eq_nil {entry : StorageEntryMetadata} (not_map : entry.isMap = false) :
    entry.keyHashers = [] := by
  cases entry <;> simp_all [isMap, keyHashers]

theorem hasher_of_not_map {entry : StorageEntryMetadata} (not_map : entry.isMap = false) :
    entry.hasher digests = entry.defaultPlainHasher := by
  cases entry with
  | v4 function => exact if_neg (by simp [not_map])
  | _ => rfl

/-- An entry that is no map has a hasher only if it is plain. -/
theorem isPlain_of_hasher {entry : StorageEntryMetadata} (not_map : entry.isMap = false)
    {object : HashObject} (created : entry.hasher digests = .ok object) : entry.isPlain = true := by
  rw [hasher_of_not_map not_map, StorageEntryMetadata.defaultPlainHasher] at created
  split_ifs at created with is_plain
  exact is_plain

end Created

/-! ## The key -/

section Formula

variable (digests : Digests)

/-- The hashes of the arguments, one after another. -/
def hashAll (kinds : List HasherKind) (args : List Argument) : List UInt8 :=
  (List.zipWith (fun kind arg => kind.hash digests arg) kinds args).flatten

variable {digests}

/-- As many new objects as arguments hash them all. -/
theorem hashArgs_newObjects {kinds : List HasherKind} {args : List Argument}
    (same_length : kinds.length = args.length) :
    hashArgs digests (kinds.map newObject) args = .ok (hashAll digests kinds args) := by
  induction kinds generalizing args with
  | nil =>
      obtain rfl := List.length_eq_zero_iff.mp same_length.symm
      rfl
  | cons kind kinds ih =>
      obtain ⟨arg, args, rfl⟩ := List.exists_cons_of_length_pos
        (same_length ▸ Nat.succ_pos kinds.length : 0 < args.length)
      have later := ih (Nat.succ.inj same_length)
      rw [List.map_cons, hashArgs, later, sum_write_newObject]
      rfl

theorem createKeyMap_eq {method modulePrefix : Text} {args : List Argument}
    {entry : StorageEntryMetadata} {kinds : List HasherKind}
    (created : entry.hashers digests = .ok (kinds.map newObject)) (same_length : kinds.length = args.length) :
    createKeyMap digests method modulePrefix args entry =
      .ok (createPrefixedKey digests method modulePrefix ++ hashAll digests kinds args) := by
  rw [createKeyMap, created]
  simp only [Outcome.ok_bind, hashArgs_newObjects same_length, Outcome.pure_eq]

end Formula

/-- The hasher writes the argument after a digest of the size. -/
def HasherKind.AppendsArgument (kind : HasherKind) (digests : Digests) (size : Nat) : Prop :=
  ∀ arg, ∃ digest : List.Vector UInt8 size, kind.hash digests arg = digest.toList ++ arg

/-- A storage key is the hash of the prefix, the hash of the name and the hashes of the arguments. -/
theorem createStorageKey_formula (digests : Digests) (metadata : Metadata) (modulePrefix method : Text)
    (args : List Argument) (key : List UInt8) (recent : 9 ≤ metadata.version.toNat)
    (flagged : ∀ entry ∈ storageEntries metadata, entry.WellFlagged)
    (created : createStorageKey digests metadata modulePrefix method args = .ok key) :
    (∃ entry kinds, findStorageEntryMetadata metadata modulePrefix method = .ok entry ∧
      List.Forall₂ KeyHasher.HasKind entry.keyHashers kinds ∧
      (args.rdropWhile List.isEmpty).length = kinds.length ∧
      key = HasherKind.twox128.hash digests modulePrefix ++ HasherKind.twox128.hash digests method ++
        hashAll digests kinds (args.rdropWhile List.isEmpty)) ∧
      HasherKind.twox64Concat.AppendsArgument digests 8 ∧
      HasherKind.blake2_128Concat.AppendsArgument digests 16 ∧
      ∀ arg, HasherKind.identity.hash digests arg = arg := by
  refine ⟨?_, fun arg => ⟨_, rfl⟩, fun arg => ⟨_, rfl⟩, fun arg => rfl⟩
  obtain ⟨trimmed, valid, created⟩ := Outcome.bind_eq_ok.mp created
  obtain rfl := trimmed_of_validate valid
  obtain ⟨entry, found, created⟩ := Outcome.bind_eq_ok.mp created
  have well := flagged entry (mem_storageEntries_of_find found)
  cases is_map : entry.isMap with
  | true =>
      rw [if_pos is_map] at created
      obtain ⟨objects, hashers, created⟩ := Outcome.bind_eq_ok.mp created
      have hashers := Outcome.mapError_eq_ok.mp hashers
      split_ifs at created with different
      obtain ⟨kinds, related, rfl⟩ := exists_kinds_of_hashers well hashers
      have same_length : kinds.length = (args.rdropWhile List.isEmpty).length := by
        simpa using different
      rw [createKeyMap_eq hashers same_length] at created
      cases created
      exact ⟨entry, kinds, found, related, same_length.symm, rfl⟩
  | false =>
      rw [if_neg (by simp [is_map])] at created
      split_ifs at created with arguments_given
      obtain ⟨object, hasher, created⟩ := Outcome.bind_eq_ok.mp created
      rw [if_neg (by omega)] at created
      cases created
      have no_args : args.rdropWhile List.isEmpty = [] := by
        simpa [isPlain_of_hasher is_map hasher] using arguments_given
      refine ⟨entry, [], found, ?_, ?_, ?_⟩
      · rw [keyHashers_eq_nil is_map]
        exact .nil
      · rw [no_args]
        rfl
      · rw [no_args]
        rfl

/-- Digests that repeat the length of their input. -/
def lengthDigests : Digests where
  xxHash64 := fun seed input => List.Vector.replicate 8 (UInt8.ofNat (seed.toNat + input.length))
  blake2b := fun size input => List.Vector.replicate size (UInt8.ofNat input.length)
  blake2bNew := fun size => if 1 ≤ size ∧ size ≤ 64 then none else some (.text "blake2b: invalid hash size")
  blake2bNew_eq_none_iff := fun size => by simp

private theorem wellFlagged_sample :
    ∀ entry ∈ storageEntries sampleMetadata, entry.WellFlagged := by
  intro entry member
  obtain rfl := List.mem_singleton.mp member
  refine ⟨⟨.isMap, fun _ => rfl⟩, fun hasher member => ?_⟩
  obtain rfl := List.mem_singleton.mp member
  exact ⟨_, .new (TaggedUnion.selects_choose StorageHasherV10.Flag.isTwox64Concat ())⟩

theorem createStorageKey_formula_sample :
    createStorageKey lengthDigests sampleMetadata [66] [97] [[5, 6], []] =
        .ok ((List.replicate 8 1 ++ List.replicate 8 2) ++ (List.replicate 8 1 ++ List.replicate 8 2) ++
          (List.replicate 8 2 ++ [5, 6])) ∧
      ∃ entry kinds, findStorageEntryMetadata sampleMetadata [66] [97] = .ok entry ∧
        List.Forall₂ KeyHasher.HasKind entry.keyHashers kinds ∧ kinds.length = 1 := by
  have created : createStorageKey lengthDigests sampleMetadata [66] [97] [[5, 6], []] =
      .ok ((List.replicate 8 1 ++ List.replicate 8 2) ++ (List.replicate 8 1 ++ List.replicate 8 2) ++
        (List.replicate 8 2 ++ [5, 6])) := by
    rfl
  obtain ⟨⟨entry, kinds, found, related, same_length, _⟩, _⟩ := createStorageKey_formula lengthDigests
    sampleMetadata [66] [97] [[5, 6], []] _ (by decide) wellFlagged_sample created
  exact ⟨created, entry, kinds, found, related, same_length.symm⟩

end SubstrateClient.StorageKey
