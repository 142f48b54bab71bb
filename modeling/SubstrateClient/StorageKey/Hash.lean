import SubstrateClient.MetadataFormat.Hashers

/-!
# Hash objects

The hash objects behind the hashers of storage metadata.  They collect what is written to them and
compute digests when they are summed.  The digests themselves come from third-party packages.
-/

namespace SubstrateClient.StorageKey

open Scale MetadataFormat

/-- The packages `xxHash64` and `blake2b`: digests of the sizes they document, and the error of `blake2b.New`,
which accepts the sizes from 1 to 64. -/
structure Digests where
  xxHash64 : (seed : UInt64) → List UInt8 → List.Vector UInt8 8
  blake2b : (size : Nat) → List UInt8 → List.Vector UInt8 size
  blake2bNew : (size : Nat) → Option GoError
  blake2bNew_eq_none_iff : ∀ size, blake2bNew size = none ↔ 1 ≤ size ∧ size ≤ 64

/-! ## `xxhash` -/

/-- The values of `typ`. -/
inductive XxHashType where
  | typ64 | typ64Concat | typ128 | typ256
  deriving DecidableEq

/-- `xxhash.state`. -/
structure XxHashState where
  data : List UInt8
  typ : XxHashType
  rounds : Nat

/-- `xxhash.New64Concat`. -/
def new64Concat (data : List UInt8) : XxHashState := ⟨data, .typ64Concat, 1⟩

/-- `xxhash.New128`. -/
def new128 (data : List UInt8) : XxHashState := ⟨data, .typ128, 2⟩

/-- `xxhash.New256`. -/
def new256 (data : List UInt8) : XxHashState := ⟨data, .typ256, 4⟩

namespace XxHashState

/-- `state.Write`. -/
def write (state : XxHashState) (input : List UInt8) : XxHashState :=
  { state with data := state.data ++ input }

/-- `state.Sum`: one digest for every round, seeded with its number. -/
def sum (digests : Digests) (state : XxHashState) (front : List UInt8) : List UInt8 :=
  let res := (List.range state.rounds).flatMap fun i =>
    (digests.xxHash64 (UInt64.ofNat i) state.data).toList
  front ++ (if state.typ = .typ64Concat then res ++ state.data else res)

end XxHashState

/-! ## Hash objects -/

/-- The implementations of `hash.Hash` that the hashers use. -/
inductive HashObject where
  | xxhash (state : XxHashState)
  /-- The object of the package `blake2b`, with the data written so far. -/
  | blake2b (size : Nat) (data : List UInt8)
  /-- `hash.blake2b128Concat`. -/
  | blake2b128Concat (hashed data : List UInt8)
  /-- `hash.identity`. -/
  | identity (data : List UInt8)

namespace HashObject

/-- `Write`, which never fails. -/
def write (object : HashObject) (input : List UInt8) : HashObject :=
  match object with
  | xxhash state => xxhash (state.write input)
  | blake2b size data => blake2b size (data ++ input)
  | blake2b128Concat hashed data => blake2b128Concat (hashed ++ input) (data ++ input)
  | identity data => identity (data ++ input)

/-- `Sum`. -/
def sum (digests : Digests) (object : HashObject) (front : List UInt8) : List UInt8 :=
  match object with
  | xxhash state => state.sum digests front
  | blake2b size data => front ++ (digests.blake2b size data).toList
  | blake2b128Concat hashed data => front ++ (digests.blake2b 16 hashed).toList ++ data
  | identity data => front ++ data

end HashObject

section Objects

variable (digests : Digests)

/-- `blake2b.New(size, nil)`. -/
def newBlake2b (size : Nat) : Outcome GoError HashObject :=
  match digests.blake2bNew size with
  | some err => .error err
  | none => .ok (.blake2b size [])

/-- `hash.NewBlake2b128Concat(nil)`. -/
def newBlake2b128Concat : Outcome GoError HashObject := do
  let _ ← newBlake2b digests 16
  pure (.blake2b128Concat [] [])

/-- The error of a hasher without a flag. -/
def errNotSupported : GoError := .text "hash function type not yet supported"

/-- `StorageHasher.HashFunc`.  The size of the first object is meant in bits but read in bytes. -/
def hashFunc (hasher : StorageHasher) : Outcome GoError HashObject :=
  if hasher.flag .isBlake2_128 then newBlake2b digests 128
  else if hasher.flag .isBlake2_256 then newBlake2b digests 32
  else if hasher.flag .isTwox128 then .ok (.xxhash (new128 []))
  else if hasher.flag .isTwox256 then .ok (.xxhash (new256 []))
  else if hasher.flag .isTwox64Concat then .ok (.xxhash (new64Concat []))
  else .error errNotSupported

/-- `StorageHasherV10.HashFunc`. -/
def hashFuncV10 (hasher : StorageHasherV10) : Outcome GoError HashObject :=
  if hasher.flag .isBlake2_128 then newBlake2b digests 16
  else if hasher.flag .isBlake2_256 then newBlake2b digests 32
  else if hasher.flag .isBlake2_128Concat then newBlake2b128Concat digests
  else if hasher.flag .isTwox128 then .ok (.xxhash (new128 []))
  else if hasher.flag .isTwox256 then .ok (.xxhash (new256 []))
  else if hasher.flag .isTwox64Concat then .ok (.xxhash (new64Concat []))
  else if hasher.flag .isIdentity then .ok (.identity [])
  else .error errNotSupported

variable {digests}

/-- A size that the package accepts. -/
theorem newBlake2b_eq_ok {size : Nat} (accepted : 1 ≤ size ∧ size ≤ 64) :
    newBlake2b digests size = .ok (.blake2b size []) := by
  rw [newBlake2b, (digests.blake2bNew_eq_none_iff size).mpr accepted]

/-- A size that the package refuses. -/
theorem newBlake2b_eq_error {size : Nat} (refused : ¬ (1 ≤ size ∧ size ≤ 64)) :
    ∃ reason, newBlake2b digests size = .error reason := by
  rw [newBlake2b]
  cases created : digests.blake2bNew size with
  | none => exact absurd ((digests.blake2bNew_eq_none_iff size).mp created) refused
  | some err => exact ⟨err, rfl⟩

theorem newBlake2b128Concat_eq : newBlake2b128Concat digests = .ok (.blake2b128Concat [] []) := by
  rw [newBlake2b128Concat, newBlake2b_eq_ok (by decide)]
  rfl

end Objects

/-! ## What the hashers compute -/

/-- The hashers that the versions know. -/
inductive HasherKind where
  | blake2_128 | blake2_256 | blake2_128Concat | twox128 | twox256 | twox64Concat | identity
  deriving DecidableEq, Repr

/-- The digests of a string under the first seeds, one after another. -/
def twox (digests : Digests) (rounds : Nat) (input : List UInt8) : List UInt8 :=
  (List.range rounds).flatMap fun seed => (digests.xxHash64 (UInt64.ofNat seed) input).toList

/-- What a hasher makes of an argument. -/
def HasherKind.hash (digests : Digests) (kind : HasherKind) (input : List UInt8) : List UInt8 :=
  match kind with
  | blake2_128 => (digests.blake2b 16 input).toList
  | blake2_256 => (digests.blake2b 32 input).toList
  | blake2_128Concat => (digests.blake2b 16 input).toList ++ input
  | twox128 => twox digests 2 input
  | twox256 => twox digests 4 input
  | twox64Concat => (digests.xxHash64 0 input).toList ++ input
  | identity => input

/-- The hasher that a flag of `StorageHasher` stands for. -/
def hasherKind : StorageHasher.Flag → HasherKind
  | .isBlake2_128 => .blake2_128
  | .isBlake2_256 => .blake2_256
  | .isTwox128 => .twox128
  | .isTwox256 => .twox256
  | .isTwox64Concat => .twox64Concat

/-- The hasher that a flag of `StorageHasherV10` stands for. -/
def hasherKindV10 : StorageHasherV10.Flag → HasherKind
  | .isBlake2_128 => .blake2_128
  | .isBlake2_256 => .blake2_256
  | .isBlake2_128Concat => .blake2_128Concat
  | .isTwox128 => .twox128
  | .isTwox256 => .twox256
  | .isTwox64Concat => .twox64Concat
  | .isIdentity => .identity

/-- The object that computes a hasher. -/
def newObject : HasherKind → HashObject
  | .blake2_128 => .blake2b 16 []
  | .blake2_256 => .blake2b 32 []
  | .blake2_128Concat => .blake2b128Concat [] []
  | .twox128 => .xxhash (new128 [])
  | .twox256 => .xxhash (new256 [])
  | .twox64Concat => .xxhash (new64Concat [])
  | .identity => .identity []

/-- Written to once, a new object sums to the hash of what was written. -/
theorem sum_write_newObject (digests : Digests) (kind : HasherKind) (input : List UInt8) :
    ((newObject kind).write input).sum digests [] = kind.hash digests input := by
  cases kind with
  | twox64Concat =>
      have rounds : (List.range 1).flatMap (fun i => (digests.xxHash64 (UInt64.ofNat i) input).toList) =
          (digests.xxHash64 0 input).toList := List.append_nil _
      exact congrArg (· ++ input) rounds
  | _ => rfl

section Created

variable {digests : Digests}

theorem hashFuncV10_eq {hasher : StorageHasherV10} {flag : StorageHasherV10.Flag}
    (selects : hasher.Selects (fun _ => ()) flag) :
    hashFuncV10 digests hasher = .ok (newObject (hasherKindV10 flag)) := by
  have flags := selects.flags
  cases flag <;>
    simp [hashFuncV10, flags, newBlake2b_eq_ok, newBlake2b128Concat_eq, newObject, hasherKindV10]

theorem hashFunc_eq {hasher : StorageHasher} {flag : StorageHasher.Flag}
    (selects : hasher.Selects (fun _ => ()) flag) (possible : flag ≠ .isBlake2_128) :
    hashFunc digests hasher = .ok (newObject (hasherKind flag)) := by
  have flags := selects.flags
  cases flag with
  | isBlake2_128 => exact absurd rfl possible
  | _ => simp [hashFunc, flags, newBlake2b_eq_ok, newObject, hasherKind]

/-- The hasher that asks for too large a digest. -/
theorem hashFunc_isBlake2_128 {hasher : StorageHasher} (selects : hasher.Selects (fun _ => ()) .isBlake2_128) :
    ∃ reason, hashFunc digests hasher = .error reason := by
  rw [hashFunc, if_pos (by simp [selects.flags])]
  exact newBlake2b_eq_error (by decide)

end Created

end SubstrateClient.StorageKey
