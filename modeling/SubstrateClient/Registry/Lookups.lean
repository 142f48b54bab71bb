import SubstrateClient.Registry.Equivalence
import SubstrateClient.Registry.Recursive
import SubstrateClient.Utf8Text

/-!
# Static lookups

`FindCallIndex`, `FindEventNamesForEventID` and `FindError` scan the pallets at every call; the
registries are maps built in one pass.  With distinct indices and names both say the same.
-/

namespace SubstrateClient.Registry

open ListLookup Scale SubstrateClient.Types

/-- `strings.Split` at dots. -/
def splitDots (text : String) : List String := (text.toList.splitOn '.').map String.ofList

section Scan

variable {κ : Type} (kind : RegistryKind κ) (metadata : MetadataV14)

/-- What the scans over the pallets do with one pallet: pass on, or stop at a variant of its type.
Whether the type is a variant type is not asked. -/
def scanPallet (applies : PalletMetadataV14 → Bool) (wanted : Si1Variant → Bool)
    (mod : PalletMetadataV14) : Option (PalletMetadataV14 × Si1Variant) :=
  if applies mod then do
    let id ← kind.variantType mod
    let typ ← metadata.efficientLookup id.int64
    let vars ← typ.typeDef.variant.find? wanted
    pure (mod, vars)
  else
    none

/-- The first variant at which a scan over the pallets stops. -/
def scanPallets (applies : PalletMetadataV14 → Bool) (wanted : Si1Variant → Bool) :
    Option (PalletMetadataV14 × Si1Variant) :=
  metadata.pallets.findSome? (scanPallet kind metadata applies wanted)

end Scan

/-- `FindCallIndex`.  Of a name with one part the second is read out of range, as soon as there is a
variant to compare it with. -/
def findCallIndex (metadata : MetadataV14) (call : String) : Outcome GoError CallIndex :=
  let s := splitDots call
  let notFound : GoError :=
    .printed (Utf8Text.bytes ("module " ++ s.headD "" ++ " not found in metadata for call " ++ call))
  match s[1]? with
  | some name =>
      match scanPallets callKind metadata (·.name = s.headD "") (·.name = name) with
      | some (mod, vars) => .ok ⟨mod.index, vars.index⟩
      | none => .error notFound
  | none =>
      match scanPallets callKind metadata (·.name = s.headD "") (fun _ => true) with
      | some _ => .panic
      | none => .error notFound

/-- `FindEventNamesForEventID`. -/
def findEventNamesForEventID (metadata : MetadataV14) (eventID : EventID) :
    Outcome GoError (String × String) :=
  match scanPallets eventKind metadata (·.index = eventID.1) (·.index = eventID.2) with
  | some (mod, vars) => .ok (mod.name, vars.name)
  | none => .error (.text ("module index " ++ toString eventID.1.toNat ++ " out of range"))

/-- `MetadataError` without the documentation of the variant. -/
structure MetadataError where
  name : String
  deriving DecidableEq, Repr

/-- `NewMetadataError`. -/
def newMetadataError (variant : Si1Variant) : MetadataError := ⟨variant.name⟩

/-- The four bytes of an error index, as `%d` prints them. -/
def errorIndexText (errorIndex : UInt8 × UInt8 × UInt8 × UInt8) : String :=
  "[" ++ toString errorIndex.1.toNat ++ " " ++ toString errorIndex.2.1.toNat ++ " " ++
    toString errorIndex.2.2.1.toNat ++ " " ++ toString errorIndex.2.2.2.toNat ++ "]"

/-- The four bytes of an error index, as `%x` prints them. -/
def errorIndexHex (errorIndex : UInt8 × UInt8 × UInt8 × UInt8) : String :=
  String.ofList ([errorIndex.1, errorIndex.2.1, errorIndex.2.2.1, errorIndex.2.2.2].flatMap fun byte =>
    [Nat.digitChar (byte.toNat / 16), Nat.digitChar (byte.toNat % 16)])

/-- `FindError`: only the first pallet with the index and only the first byte of the error index
count. -/
def findError (metadata : MetadataV14) (moduleIndex : UInt8)
    (errorIndex : UInt8 × UInt8 × UInt8 × UInt8) : Outcome GoError MetadataError :=
  match metadata.pallets.find? fun mod => mod.index = moduleIndex with
  | none =>
      .error (.text ("could not find error at index " ++ errorIndexText errorIndex ++ " for module " ++
        toString moduleIndex.toNat))
  | some mod =>
      if mod.hasErrors then
        match metadata.efficientLookup mod.errors.int64 with
        | none => .error (.text "error type not found")
        | some errType =>
            if errType.typeDef.isVariant then
              match errType.typeDef.variant.find? fun variant => variant.index = errorIndex.1 with
              | some variant => .ok (newMetadataError variant)
              | none => .error (.text ("error at index 0x" ++ errorIndexHex errorIndex ++ " not found"))
            else
              .error (.text "error type definition is not a variant")
      else
        .error (.text ("module " ++ toString moduleIndex.toNat ++ " has no errors"))

/-! ## Qualified names -/

/-- The name has no dot. -/
def DotFree (name : String) : Prop := '.' ∉ name.toList

theorem toList_join (module name : String) :
    (module ++ "." ++ name).toList = module.toList ++ '.' :: name.toList := by
  simp [String.toList_append]

theorem splitDots_join {module name : String} (module_free : DotFree module) (name_free : DotFree name) :
    splitDots (module ++ "." ++ name) = [module, name] := by
  rw [splitDots, toList_join, List.splitOn_append_cons_self, List.splitOn_eq_singleton module_free,
    List.splitOn_eq_singleton name_free]
  simp

/-- A qualified name of two names without dots can be taken apart in one way only. -/
theorem join_inj {module name module' name' : String} (module_free : DotFree module')
    (name_free : DotFree name') (same : module ++ "." ++ name = module' ++ "." ++ name') :
    module = module' ∧ name = name' := by
  have counted := congrArg (fun text => text.toList.count '.') same
  simp only [toList_join, List.count_append, List.count_cons_self,
    List.count_eq_zero_of_not_mem module_free, List.count_eq_zero_of_not_mem name_free] at counted
  have left_free : DotFree module := List.count_eq_zero.mp (by omega)
  have right_free : DotFree name := List.count_eq_zero.mp (by omega)
  have parts := congrArg splitDots same
  rw [splitDots_join left_free right_free, splitDots_join module_free name_free] at parts
  simpa using parts

/-! ## Entries of a registry -/

section Entries

variable {κ : Type} {kind : RegistryKind κ} {metadata : MetadataV14} {mapOrder : MapOrder} {fuel : Nat}
  {before final : Factory} {registry : TypeRegistry κ}

/-- The registry has a key exactly for the variants of the pallets, under their qualified names. -/
theorem lookup_name_iff [BEq κ] [LawfulBEq κ] (distinct : metadata.DistinctIndices)
    (created : createRegistry kind metadata mapOrder fuel before = .ok (registry, final))
    {palletIndex variantIndex : UInt8} {name : String} :
    (∃ typeDecoder, registry.lookup (kind.key palletIndex variantIndex) = some typeDecoder ∧
      typeDecoder.name = name) ↔
      ∃ pallet ∈ metadata.pallets, ∃ variant, IsEntry kind metadata pallet variant ∧
        pallet.index = palletIndex ∧ variant.index = variantIndex ∧
        name = pallet.name ++ "." ++ variant.name := by
  obtain ⟨_, walked, run, resolution⟩ := Build.bind_eq_ok.mp created
  obtain ⟨_, _, _, returned⟩ := Build.bind_eq_ok.mp resolution
  obtain ⟨rfl, rfl⟩ := Build.pure_eq_ok.mp returned
  have traversed := traverse_traversed kind metadata run
  constructor
  · rintro ⟨typeDecoder, found, rfl⟩
    obtain ⟨pallet, pallet_member, variant, variant_member, key_eq, name_eq, _⟩ :=
      traversed.entry_matches (mem_of_lookup found)
    obtain ⟨same_pallet, same_variant⟩ := kind.key_inj key_eq
    exact ⟨pallet, pallet_member, variant, (mem_palletVariants kind metadata).mp variant_member,
      same_pallet.symm, same_variant.symm, name_eq⟩
  · rintro ⟨pallet, pallet_member, variant, is_entry, rfl, rfl, rfl⟩
    obtain ⟨typeDecoder, found, matched⟩ := traversed.lookup_entry distinct pallet_member is_entry
    exact ⟨typeDecoder, found, matched.2.1⟩

/-- If the registry was created, the type of every pallet that has one is a variant type. -/
theorem variantType_of_created
    (created : createRegistry kind metadata mapOrder fuel before = .ok (registry, final))
    {pallet : PalletMetadataV14} (member : pallet ∈ metadata.pallets) {id : Si1LookupTypeID}
    (has_type : kind.variantType pallet = some id) :
    ∃ type, metadata.efficientLookup id.int64 = some type ∧ type.typeDef.isVariant = true := by
  obtain ⟨_, walked, run, _⟩ := Build.bind_eq_ok.mp created
  obtain ⟨entries, middle, walk, _⟩ := Build.bind_eq_ok.mp run
  obtain ⟨earlier, value, later, ran⟩ := Build.mapM_eq_ok_of_mem walk member
  rw [createPallet, has_type] at ran
  cases found : metadata.efficientLookup id.int64 with
  | none =>
      simp only [found] at ran
      cases ran
  | some type =>
      simp only [found] at ran
      cases flag : type.typeDef.isVariant with
      | true => exact ⟨type, rfl, flag⟩
      | false =>
          simp only [flag] at ran
          cases ran

end Entries

/-! ## The scans -/

section Scans

variable {metadata : MetadataV14} {mapOrder : MapOrder} {fuel : Nat} {before final : Factory}

/-- With distinct keys, a scan stops at the entry with the two keys it looks for. -/
theorem scanPallets_eq_some {κ π ν : Type} [DecidableEq π] [DecidableEq ν] {kind : RegistryKind κ}
    {registry : TypeRegistry κ} {palletKey : PalletMetadataV14 → π} {variantKey : Si1Variant → ν}
    (created : createRegistry kind metadata mapOrder fuel before = .ok (registry, final))
    (pallets_distinct : (metadata.pallets.map palletKey).Nodup)
    (variants_distinct : ∀ id type, metadata.efficientLookup id = some type →
      type.typeDef.isVariant = true → (type.typeDef.variant.map variantKey).Nodup)
    {palletWanted : π} {variantWanted : ν} {pallet : PalletMetadataV14} {variant : Si1Variant} :
    scanPallets kind metadata (palletKey · = palletWanted) (variantKey · = variantWanted) =
        some (pallet, variant) ↔
      pallet ∈ metadata.pallets ∧ IsEntry kind metadata pallet variant ∧
        palletKey pallet = palletWanted ∧ variantKey variant = variantWanted := by
  have stops : ∀ {mod}, (scanPallet kind metadata (palletKey · = palletWanted)
      (variantKey · = variantWanted) mod).isSome → palletKey mod = palletWanted := by
    intro mod found
    by_contra other
    simp [scanPallet, other] at found
  rw [scanPallets, findSome?_eq_some_iff fun first first_member second second_member first_stops
    second_stops => List.inj_on_of_nodup_map pallets_distinct first_member second_member
      ((stops first_stops).trans (stops second_stops).symm)]
  constructor
  · rintro ⟨mod, member, picked⟩
    have same_pallet : palletKey mod = palletWanted := stops (by simp [picked])
    simp only [scanPallet, same_pallet, decide_true, if_true, Option.bind_eq_bind,
      Option.bind_eq_some_iff] at picked
    obtain ⟨id, has_type, type, found, vars, selected, returned⟩ := picked
    cases returned
    obtain ⟨other, other_found, flag⟩ := variantType_of_created created member has_type
    obtain rfl := Option.some.inj (found.symm.trans other_found)
    obtain ⟨variant_member, same_variant⟩ :=
      (find?_key_eq_some (variants_distinct _ type found flag)).mp selected
    exact ⟨member, ⟨id, type, has_type, found, flag, variant_member⟩, same_pallet, same_variant⟩
  · rintro ⟨member, ⟨id, type, has_type, found, flag, variant_member⟩, same_pallet, same_variant⟩
    have selected :=
      (find?_key_eq_some (variants_distinct _ type found flag)).mpr ⟨variant_member, same_variant⟩
    exact ⟨pallet, member, by simp [scanPallet, same_pallet, has_type, found, selected]⟩

/-- `FindEventNamesForEventID` finds the pallet and the variant with the two indices. -/
theorem findEventNamesForEventID_eq_ok {registry : TypeRegistry EventID}
    (distinct : metadata.DistinctIndices)
    (created : createEventRegistry metadata mapOrder fuel before = .ok (registry, final))
    {eventID : EventID} {module name : String} :
    findEventNamesForEventID metadata eventID = .ok (module, name) ↔
      ∃ pallet ∈ metadata.pallets, ∃ variant, IsEntry eventKind metadata pallet variant ∧
        pallet.index = eventID.1 ∧ variant.index = eventID.2 ∧
        module = pallet.name ∧ name = variant.name := by
  have returns : findEventNamesForEventID metadata eventID = .ok (module, name) ↔
      ∃ pallet variant, scanPallets eventKind metadata (·.index = eventID.1) (·.index = eventID.2) =
        some (pallet, variant) ∧ module = pallet.name ∧ name = variant.name := by
    unfold findEventNamesForEventID
    cases scanPallets eventKind metadata (·.index = eventID.1) (·.index = eventID.2) with
    | none => simp
    | some found =>
        obtain ⟨pallet, variant⟩ := found
        simp [eq_comm]
  rw [returns]
  simp only [scanPallets_eq_some created distinct.pallets distinct.variants]
  constructor
  · rintro ⟨pallet, variant, ⟨member, is_entry, same_pallet, same_variant⟩, same_names⟩
    exact ⟨pallet, member, variant, is_entry, same_pallet, same_variant, same_names⟩
  · rintro ⟨pallet, member, variant, is_entry, same_pallet, same_variant, same_names⟩
    exact ⟨pallet, variant, ⟨member, is_entry, same_pallet, same_variant⟩, same_names⟩

/-- Distinct names without dots, of the pallets and inside each variant type. -/
structure MetadataV14.WellNamed (metadata : MetadataV14) : Prop where
  pallets : (metadata.pallets.map PalletMetadataV14.name).Nodup
  pallets_free : ∀ pallet ∈ metadata.pallets, DotFree pallet.name
  variants : ∀ id type, metadata.efficientLookup id = some type → type.typeDef.isVariant = true →
    (type.typeDef.variant.map Si1Variant.name).Nodup
  variants_free : ∀ id type, metadata.efficientLookup id = some type → type.typeDef.isVariant = true →
    ∀ variant ∈ type.typeDef.variant, DotFree variant.name

theorem MetadataV14.WellNamed.entry_free {κ : Type} {kind : RegistryKind κ} (named : metadata.WellNamed)
    {pallet : PalletMetadataV14} (member : pallet ∈ metadata.pallets) {variant : Si1Variant}
    (is_entry : IsEntry kind metadata pallet variant) : DotFree pallet.name ∧ DotFree variant.name := by
  obtain ⟨id, type, _, found, flag, variant_member⟩ := is_entry
  exact ⟨named.pallets_free pallet member, named.variants_free _ type found flag variant variant_member⟩

/-- With names free of dots, the qualified name of an entry tells the names of pallet and variant. -/
theorem lookup_join_iff {κ : Type} [BEq κ] [LawfulBEq κ] {kind : RegistryKind κ}
    {registry : TypeRegistry κ} (distinct : metadata.DistinctIndices) (named : metadata.WellNamed)
    (created : createRegistry kind metadata mapOrder fuel before = .ok (registry, final))
    {palletIndex variantIndex : UInt8} {module name : String} :
    (∃ typeDecoder, registry.lookup (kind.key palletIndex variantIndex) = some typeDecoder ∧
      typeDecoder.name = module ++ "." ++ name) ↔
      ∃ pallet ∈ metadata.pallets, ∃ variant, IsEntry kind metadata pallet variant ∧
        pallet.index = palletIndex ∧ variant.index = variantIndex ∧
        module = pallet.name ∧ name = variant.name := by
  rw [lookup_name_iff distinct created]
  constructor
  · rintro ⟨pallet, member, variant, is_entry, same_pallet, same_variant, same_name⟩
    obtain ⟨pallet_free, variant_free⟩ := named.entry_free member is_entry
    have parts := join_inj pallet_free variant_free same_name
    exact ⟨pallet, member, variant, is_entry, same_pallet, same_variant, parts⟩
  · rintro ⟨pallet, member, variant, is_entry, same_pallet, same_variant, rfl, rfl⟩
    exact ⟨pallet, member, variant, is_entry, same_pallet, same_variant, rfl⟩

/-- `FindCallIndex` finds the pallet and the variant with the two names. -/
theorem findCallIndex_eq_ok {registry : TypeRegistry CallIndex} (named : metadata.WellNamed)
    (created : createCallRegistry metadata mapOrder fuel before = .ok (registry, final))
    {module name : String} (module_free : DotFree module) (name_free : DotFree name)
    {callIndex : CallIndex} :
    findCallIndex metadata (module ++ "." ++ name) = .ok callIndex ↔
      ∃ pallet ∈ metadata.pallets, ∃ variant, IsEntry callKind metadata pallet variant ∧
        pallet.name = module ∧ variant.name = name ∧ callIndex = ⟨pallet.index, variant.index⟩ := by
  have returns : findCallIndex metadata (module ++ "." ++ name) = .ok callIndex ↔
      ∃ pallet variant, scanPallets callKind metadata (·.name = module) (·.name = name) =
        some (pallet, variant) ∧ callIndex = ⟨pallet.index, variant.index⟩ := by
    unfold findCallIndex
    rw [splitDots_join module_free name_free]
    change (match scanPallets callKind metadata (·.name = module) (·.name = name) with
      | some (mod, vars) => .ok ⟨mod.index, vars.index⟩
      | none => .error _) = Outcome.ok callIndex ↔ _
    cases scanPallets callKind metadata (·.name = module) (·.name = name) with
    | none => simp
    | some found =>
        obtain ⟨pallet, variant⟩ := found
        simp [eq_comm]
  rw [returns]
  simp only [scanPallets_eq_some created named.pallets named.variants]
  constructor
  · rintro ⟨pallet, variant, ⟨member, is_entry, same_pallet, same_variant⟩, same_index⟩
    exact ⟨pallet, member, variant, is_entry, same_pallet, same_variant, same_index⟩
  · rintro ⟨pallet, member, variant, is_entry, same_pallet, same_variant, same_index⟩
    exact ⟨pallet, variant, ⟨member, is_entry, same_pallet, same_variant⟩, same_index⟩

/-- `FindError` finds the variant of the pallet with the index. -/
theorem findError_eq_ok (distinct : metadata.DistinctIndices) {moduleIndex : UInt8}
    {errorIndex : UInt8 × UInt8 × UInt8 × UInt8} {name : String} :
    findError metadata moduleIndex errorIndex = .ok ⟨name⟩ ↔
      ∃ pallet ∈ metadata.pallets, ∃ variant, IsEntry errorKind metadata pallet variant ∧
        pallet.index = moduleIndex ∧ variant.index = errorIndex.1 ∧ name = variant.name := by
  unfold findError
  constructor
  · intro returned
    cases found : metadata.pallets.find? fun mod => mod.index = moduleIndex with
    | none =>
        rw [found] at returned
        cases returned
    | some pallet =>
        obtain ⟨member, same_pallet⟩ := (find?_key_eq_some distinct.pallets).mp found
        rw [found] at returned
        dsimp only at returned
        split_ifs at returned with has_errors
        split at returned
        · cases returned
        · rename_i type type_found
          split_ifs at returned with flag
          split at returned
          · rename_i variant selected
            cases returned
            obtain ⟨variant_member, same_variant⟩ :=
              (find?_key_eq_some (distinct.variants _ type type_found flag)).mp selected
            have is_entry : IsEntry errorKind metadata pallet variant :=
              ⟨pallet.errors, type, if_pos has_errors, type_found, flag, variant_member⟩
            exact ⟨pallet, member, variant, is_entry, same_pallet, same_variant, rfl⟩
          · cases returned
  · rintro ⟨pallet, member, variant, ⟨id, type, has_type, type_found, flag, variant_member⟩, same_pallet,
      same_variant, rfl⟩
    have has_errors : pallet.hasErrors = true := by
      by_contra without
      simp [errorKind, without] at has_type
    obtain rfl : pallet.errors = id := by simpa [errorKind, has_errors] using has_type
    rw [(find?_key_eq_some distinct.pallets).mpr ⟨member, same_pallet⟩]
    simp only [has_errors, if_true, type_found, flag]
    rw [(find?_key_eq_some (distinct.variants _ type type_found flag)).mpr ⟨variant_member, same_variant⟩]
    rfl

end Scans

/-- The static lookups and the registries agree on calls, events and errors. -/
theorem lookups_agree (metadata : MetadataV14) (order₁ order₂ order₃ : MapOrder)
    (fuel₁ fuel₂ fuel₃ : Nat) (before₁ before₂ before₃ final₁ final₂ final₃ : Factory)
    (callRegistry : TypeRegistry CallIndex) (eventRegistry : TypeRegistry EventID)
    (errorRegistry : TypeRegistry ErrorID) (distinct : metadata.DistinctIndices)
    (named : metadata.WellNamed)
    (calls : createCallRegistry metadata order₁ fuel₁ before₁ = .ok (callRegistry, final₁))
    (events : createEventRegistry metadata order₂ fuel₂ before₂ = .ok (eventRegistry, final₂))
    (errors : createErrorRegistry metadata order₃ fuel₃ before₃ = .ok (errorRegistry, final₃)) :
    (∀ module name callIndex, DotFree module → DotFree name →
      (findCallIndex metadata (module ++ "." ++ name) = .ok callIndex ↔
        ∃ typeDecoder, callRegistry.lookup callIndex = some typeDecoder ∧
          typeDecoder.name = module ++ "." ++ name)) ∧
      (∀ eventID module name, findEventNamesForEventID metadata eventID = .ok (module, name) ↔
        ∃ typeDecoder, eventRegistry.lookup eventID = some typeDecoder ∧
          typeDecoder.name = module ++ "." ++ name) ∧
      ∀ moduleIndex errorByte name,
        findError metadata moduleIndex (errorByte, 0, 0, 0) = .ok ⟨name⟩ ↔
          ∃ typeDecoder, errorRegistry.lookup ⟨moduleIndex, errorByte, 0, 0, 0⟩ = some typeDecoder ∧
            ∃ pallet ∈ metadata.pallets, pallet.index = moduleIndex ∧
              typeDecoder.name = pallet.name ++ "." ++ name := by
  refine ⟨fun module name callIndex module_free name_free => ?_, fun eventID module name => ?_,
    fun moduleIndex errorByte name => ?_⟩
  · rw [findCallIndex_eq_ok named calls module_free name_free]
    refine Iff.trans ?_ (lookup_join_iff distinct named calls).symm
    constructor
    · rintro ⟨pallet, member, variant, is_entry, rfl, rfl, rfl⟩
      exact ⟨pallet, member, variant, is_entry, rfl, rfl, rfl, rfl⟩
    · rintro ⟨pallet, member, variant, is_entry, same_pallet, same_variant, rfl, rfl⟩
      exact ⟨pallet, member, variant, is_entry, rfl, rfl, by rw [same_pallet, same_variant]⟩
  · rw [findEventNamesForEventID_eq_ok distinct events]
    exact (lookup_join_iff distinct named events).symm
  · rw [findError_eq_ok distinct]
    constructor
    · rintro ⟨pallet, member, variant, is_entry, same_pallet, same_variant, rfl⟩
      obtain ⟨typeDecoder, found, name_eq⟩ := (lookup_name_iff distinct errors).mpr
        ⟨pallet, member, variant, is_entry, same_pallet, same_variant, rfl⟩
      exact ⟨typeDecoder, found, pallet, member, same_pallet, name_eq⟩
    · rintro ⟨typeDecoder, found, pallet, member, same_pallet, name_eq⟩
      obtain ⟨other, other_member, variant, is_entry, same_other, same_variant, same_name⟩ :=
        (lookup_name_iff distinct errors).mp ⟨typeDecoder, found, name_eq⟩
      obtain rfl : other = pallet := List.inj_on_of_nodup_map distinct.pallets other_member member
        (same_other.trans same_pallet.symm)
      have same : name = variant.name := by
        have chars := congrArg String.toList same_name
        simpa [toList_join, String.toList_inj] using chars
      exact ⟨other, member, variant, is_entry, same_pallet, same_variant, same⟩

/-- One pallet with one call, one event and one error. -/
def trioMetadata : MetadataV14 where
  pallets := [⟨"System", true, (1 : Int), true, (2 : Int), true, (3 : Int), 0⟩]
  efficientLookup := toMap
    [⟨(1 : Int), ["Call"], { isVariant := true, variant := [⟨"remark", [], 0⟩] }⟩,
      ⟨(2 : Int), ["Event"], { isVariant := true, variant := [⟨"Done", [], 1⟩] }⟩,
      ⟨(3 : Int), ["Error"], { isVariant := true, variant := [⟨"Bad", [], 2⟩] }⟩]

theorem trioMetadata_distinct : trioMetadata.DistinctIndices :=
  distinctIndices_toMap (by decide) (by simp)

theorem trioMetadata_named : trioMetadata.WellNamed where
  pallets := by decide
  pallets_free := by simp [trioMetadata, DotFree]
  variants := by
    intro id type found flag
    obtain ⟨portable, member, _, rfl⟩ := exists_portable_of_toMap found
    simp only [List.mem_cons, List.not_mem_nil, or_false] at member
    rcases member with rfl | rfl | rfl <;> exact List.nodup_singleton _
  variants_free := by
    intro id type found flag
    obtain ⟨portable, member, _, rfl⟩ := exists_portable_of_toMap found
    simp only [List.mem_cons, List.not_mem_nil, or_false] at member
    rcases member with rfl | rfl | rfl <;> simp [DotFree]

theorem lookups_agree_trio :
    findCallIndex trioMetadata ("System" ++ "." ++ "remark") = .ok ⟨0, 0⟩ ∧
      findEventNamesForEventID trioMetadata (0, 1) = .ok ("System", "Done") ∧
      findError trioMetadata 0 (2, 0, 0, 0) = .ok ⟨"Bad"⟩ := by
  obtain ⟨calls, events, errors⟩ := lookups_agree trioMetadata .newestFirst .newestFirst .newestFirst
    1 1 1 (newFactory [] []) (newFactory [] []) (newFactory [] []) _ _ _ _ _ _ trioMetadata_distinct
    trioMetadata_named rfl rfl rfl
  refine ⟨(calls _ _ _ (by simp [DotFree]) (by simp [DotFree])).mpr ⟨_, rfl, rfl⟩,
    (events _ _ _).mpr ⟨_, rfl, rfl⟩, (errors _ _ _).mpr ⟨_, rfl, _, List.mem_singleton_self _, rfl, rfl⟩⟩

end SubstrateClient.Registry
