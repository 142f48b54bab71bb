import SubstrateClient.MetadataFormat.CallIndex
import SubstrateClient.Utf8Text

/-!
# Indices of calls in the registry's view

The registry looks calls up in a view of version 14 whose names are strings.  Where the names of the metadata
are strings, both lookups do the same for every string.
-/

namespace SubstrateClient.MetadataFormat

open Scale SubstrateClient.Types

theorem viewText_bytes (text : String) : viewText (Utf8Text.bytes text) = text := by
  rw [viewText, Utf8Text.fromUTF8?_bytes, Option.getD_some]

/-- The parts of a string are the same in both views. -/
theorem splitCall_bytes (call : String) :
    splitCall (Utf8Text.bytes call) = (Registry.splitDots call).map Utf8Text.bytes := by
  have parts := @Utf8Text.splitOn_bytes '.' (by decide) call.toList
  rw [String.ofList_toList] at parts
  rw [splitCall, Registry.splitDots, List.map_map]
  exact parts

namespace MetadataV14

/-- The names of pallets and of their calls are strings. -/
structure NamesAreStrings (metadata : MetadataV14) : Prop where
  pallets : ∀ mod ∈ metadata.pallets, ∃ name, mod.name = Utf8Text.bytes name
  calls : ∀ mod ∈ metadata.pallets, ∀ entry ∈ metadata.palletCalls mod, ∃ name,
    entry.1 = Utf8Text.bytes name

/-- The variants of the view, found by their name. -/
theorem find?_view_name {variants : List Si1Variant}
    (strings : ∀ vars ∈ variants, ∃ name, vars.name = Utf8Text.bytes name) (name : String) :
    ((variants.map Si1Variant.view).find? (·.name = name)).map (·.index) =
      (variants.map fun vars => (vars.name, vars.index)).lookup (Utf8Text.bytes name) := by
  induction variants with
  | nil => rfl
  | cons vars variants ih =>
      obtain ⟨text, named⟩ := strings vars List.mem_cons_self
      have later := ih fun other member => strings other (List.mem_cons_of_mem _ member)
      have view_name : vars.view.name = text := by
        rw [Si1Variant.view, named, viewText_bytes]
      rw [List.map_cons, List.map_cons, List.lookup_cons, named]
      by_cases same : text = name
      · subst same
        rw [List.find?_cons_of_pos (by simp [view_name]), beq_self_eq_true]
        rfl
      · have other : Utf8Text.bytes name ≠ Utf8Text.bytes text := fun equal =>
          same (Utf8Text.bytes_inj.mp equal).symm
        rw [List.find?_cons_of_neg (by simp [view_name, same]), later, beq_false_of_ne other]

variable {metadata : MetadataV14} {mod : PalletMetadataV14}

/-- What a scan of the view does with one pallet. -/
theorem scanPallet_call_view (pallet : ∃ name, mod.name = Utf8Text.bytes name) (first : String)
    (wanted : Registry.Si1Variant → Bool) :
    (Registry.scanPallet Registry.callKind metadata.view (·.name = first) wanted mod.view).map
        (fun found => (⟨found.1.index, found.2.index⟩ : CallIndex)) =
      if mod.hasCalls = true ∧ mod.name = Utf8Text.bytes first then
        (metadata.efficientLookup (Si1LookupTypeID.int64 mod.calls)).bind fun typ =>
          (typ.typeDef.view.variant.find? wanted).map fun vars => ⟨mod.index, vars.index⟩
      else
        none := by
  have lookup_view : metadata.view.efficientLookup (Registry.Si1LookupTypeID.int64 mod.calls) =
      (metadata.efficientLookup (Si1LookupTypeID.int64 mod.calls)).map Si1Type.view := rfl
  have index_view : mod.view.index = mod.index := rfl
  have type_view : Registry.callKind.variantType mod.view =
      if mod.hasCalls = true then some mod.calls else none := rfl
  have name_view : mod.view.name = first ↔ mod.name = Utf8Text.bytes first := by
    obtain ⟨text, named⟩ := pallet
    rw [PalletMetadataV14.view, named, viewText_bytes, Utf8Text.bytes_inj]
  simp only [Registry.scanPallet, name_view, type_view]
  by_cases named : mod.name = Utf8Text.bytes first
  · by_cases has : mod.hasCalls = true
    · cases found : metadata.efficientLookup (Si1LookupTypeID.int64 mod.calls) with
      | none => simp [named, has, lookup_view, found]
      | some typ =>
          have variant_view : typ.view.typeDef = typ.typeDef.view := rfl
          cases vars : typ.typeDef.view.variant.find? wanted with
          | none => simp [named, has, lookup_view, found, variant_view, vars]
          | some variant => simp [named, has, lookup_view, found, variant_view, vars, index_view]
    · simp [has]
  · simp [named]

/-- A scan for a name finds what the loop over the calls finds. -/
theorem scanPallet_name_view (pallet : ∃ name, mod.name = Utf8Text.bytes name)
    (calls : ∀ entry ∈ metadata.palletCalls mod, ∃ name, entry.1 = Utf8Text.bytes name)
    (first name : String) :
    (Registry.scanPallet Registry.callKind metadata.view (·.name = first) (·.name = name) mod.view).map
        (fun found => (⟨found.1.index, found.2.index⟩ : CallIndex)) =
      if mod.hasCalls = true ∧ mod.name = Utf8Text.bytes first then
        ((metadata.palletCalls mod).lookup (Utf8Text.bytes name)).map fun index => ⟨mod.index, index⟩
      else
        none := by
  rw [scanPallet_call_view pallet]
  congr 1
  rw [palletCalls] at calls ⊢
  cases found : metadata.efficientLookup (Si1LookupTypeID.int64 mod.calls) with
  | none => rfl
  | some typ =>
      rw [found] at calls
      have variants := @find?_view_name (typ.typeDef.payload .isVariant)
        (fun vars member => calls (vars.name, vars.index) (List.mem_map_of_mem member)) name
      rw [Option.bind_some, ← variants, Option.map_map]
      rfl

/-- A scan for anything finds the first call. -/
theorem scanPallet_any_view (pallet : ∃ name, mod.name = Utf8Text.bytes name) (first : String) :
    (Registry.scanPallet Registry.callKind metadata.view (·.name = first) (fun _ => true) mod.view).map
        (fun found => (⟨found.1.index, found.2.index⟩ : CallIndex)) =
      if mod.hasCalls = true ∧ mod.name = Utf8Text.bytes first then
        (metadata.palletCalls mod).head?.map fun entry => ⟨mod.index, entry.2⟩
      else
        none := by
  rw [scanPallet_call_view pallet]
  congr 1
  rw [palletCalls]
  cases found : metadata.efficientLookup (Si1LookupTypeID.int64 mod.calls) with
  | none => rfl
  | some typ =>
      have variant_view : typ.typeDef.view.variant =
        List.map Si1Variant.view (typ.typeDef.payload .isVariant) := rfl
      rw [Option.bind_some, variant_view]
      dsimp only
      generalize typ.typeDef.payload .isVariant = variants
      cases variants <;> rfl

end MetadataV14

/-! ## The loop as a scan -/

/-- What a scan of the pallets takes from one of them. -/
def ModuleCalls.pick (s : List Text) (choose : List (Text × UInt8) → Option UInt8)
    (entry : ModuleCalls × UInt8) : Option CallIndex :=
  if entry.1.hasCalls = true ∧ entry.1.name = s.headD [] then
    (choose entry.1.calls).map fun index => ⟨entry.2, index⟩
  else
    none

section Loop

variable {s : List Text} {pallets : List (ModuleCalls × UInt8)}

/-- With a second part the loop returns the first index that a scan picks. -/
theorem findPalletCall_of_present {method : Text} (present : s[1]? = some method) (call : Text) :
    findPalletCall s call pallets =
      (pallets.findSome? (ModuleCalls.pick s (List.lookup method))).elim
        (.error (callModuleNotFound s call)) .ok := by
  induction pallets with
  | nil => rfl
  | cons entry pallets ih =>
      obtain ⟨mod, index⟩ := entry
      rw [findPalletCall, List.findSome?_cons, ModuleCalls.pick, ih]
      dsimp only
      generalize s.headD [] = first
      by_cases hasCalls : mod.hasCalls = true
      · by_cases named : mod.name = first
        · rw [findMethod_of_present present]
          cases mod.calls.lookup method <;> simp [hasCalls, named]
        · simp [hasCalls, named]
      · simp [hasCalls]

/-- Without one it aborts where a scan picks anything. -/
theorem findPalletCall_of_missing (missing : s[1]? = none) (call : Text) :
    findPalletCall s call pallets =
      (pallets.findSome? (ModuleCalls.pick s fun calls => calls.head?.map Prod.snd)).elim
        (.error (callModuleNotFound s call)) fun _ => .panic := by
  induction pallets with
  | nil => rfl
  | cons entry pallets ih =>
      obtain ⟨mod, index⟩ := entry
      rw [findPalletCall, List.findSome?_cons, ModuleCalls.pick, ih]
      dsimp only
      generalize s.headD [] = first
      by_cases hasCalls : mod.hasCalls = true
      · by_cases named : mod.name = first
        · rw [findMethod_of_missing missing]
          cases mod.calls <;> simp [hasCalls, named]
        · simp [hasCalls, named]
      · simp [hasCalls]

end Loop

namespace MetadataV14

variable {metadata : MetadataV14}

/-- A scan of the view that agrees pallet by pallet agrees as a whole. -/
theorem scanPallets_view {first : String} {wanted : Registry.Si1Variant → Bool} {s : List Text}
    {choose : List (Text × UInt8) → Option UInt8}
    (each : ∀ mod ∈ metadata.pallets,
      (Registry.scanPallet Registry.callKind metadata.view (·.name = first) wanted mod.view).map
          (fun found => (⟨found.1.index, found.2.index⟩ : CallIndex)) =
        ModuleCalls.pick s choose (⟨mod.name, mod.hasCalls, metadata.palletCalls mod⟩, mod.index)) :
    (Registry.scanPallets Registry.callKind metadata.view (·.name = first) wanted).map
        (fun found => (⟨found.1.index, found.2.index⟩ : CallIndex)) =
      metadata.callModules.findSome? (ModuleCalls.pick s choose) :=
  ListLookup.map_findSome?_map each

/-- The error after the loop is the same. -/
theorem callModuleNotFound_bytes (call : String) :
    callModuleNotFound ((Registry.splitDots call).map Utf8Text.bytes) (Utf8Text.bytes call) =
      .printed (Utf8Text.bytes ("module " ++ (Registry.splitDots call).headD "" ++
        " not found in metadata for call " ++ call)) := by
  rw [callModuleNotFound, Utf8Text.bytes_append, Utf8Text.bytes_append, Utf8Text.bytes_append]
  cases Registry.splitDots call <;> rfl

/-- The registry's lookup does for every string what the metadata does for its bytes. -/
theorem findCallIndex_view (strings : metadata.NamesAreStrings) (call : String) :
    Registry.findCallIndex metadata.view call = metadata.findCallIndex (Utf8Text.bytes call) := by
  have first : ((Registry.splitDots call).map Utf8Text.bytes).headD [] =
      Utf8Text.bytes ((Registry.splitDots call).headD "") := by
    cases Registry.splitDots call <;> rfl
  rw [findCallIndex, splitCall_bytes, Registry.findCallIndex, ← callModuleNotFound_bytes]
  cases second : (Registry.splitDots call)[1]? with
  | some name =>
      have present : ((Registry.splitDots call).map Utf8Text.bytes)[1]? = some (Utf8Text.bytes name) := by
        rw [List.getElem?_map, second, Option.map_some]
      have scanned := @scanPallets_view metadata ((Registry.splitDots call).headD "") (·.name = name)
        ((Registry.splitDots call).map Utf8Text.bytes) (List.lookup (Utf8Text.bytes name))
        (fun mod member => by
          rw [scanPallet_name_view (strings.pallets mod member) (strings.calls mod member),
            ModuleCalls.pick, first])
      rw [findPalletCall_of_present present, ← scanned]
      dsimp only
      cases Registry.scanPallets Registry.callKind metadata.view
        (·.name = (Registry.splitDots call).headD "") (·.name = name) <;> rfl
  | none =>
      have missing : ((Registry.splitDots call).map Utf8Text.bytes)[1]? = none := by
        rw [List.getElem?_map, second, Option.map_none]
      have scanned := @scanPallets_view metadata ((Registry.splitDots call).headD "") (fun _ => true)
        ((Registry.splitDots call).map Utf8Text.bytes) (fun calls => calls.head?.map Prod.snd)
        (fun mod member => by
          rw [scanPallet_any_view (strings.pallets mod member), ModuleCalls.pick, first, Option.map_map]
          rfl)
      rw [findPalletCall_of_missing missing, ← scanned]
      dsimp only
      cases Registry.scanPallets Registry.callKind metadata.view
        (·.name = (Registry.splitDots call).headD "") (fun _ => true) <;> rfl

end MetadataV14

end SubstrateClient.MetadataFormat
