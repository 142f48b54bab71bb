import SubstrateClient.MetadataFormat.RegistryView
import SubstrateClient.MetadataFormat.Versions
import SubstrateClient.Registry.Lookups

/-!
# Names of events

`FindEventNamesForEventID` of every metadata version.  Up to version 11 the first byte of an identifier
counts the modules that have events, from version 12 on it is the index of the module.
-/

namespace SubstrateClient.MetadataFormat

open Scale SubstrateClient.Types

/-- What `FindEventNamesForEventID` reads of a module. -/
structure ModuleEvents where
  /-- The name that the method returns. -/
  title : Text
  name : Text
  hasEvents : Bool
  events : List EventMetadataV4

/-- The error after the loop over the modules. -/
def moduleOutOfRange (eventID : EventID) : GoError :=
  .text ("module index " ++ toString eventID.1.toNat ++ " out of range")

/-- The event of a module at the second byte of the identifier. -/
def ModuleEvents.eventNames (mod : ModuleEvents) (eventID : EventID) :
    Outcome GoError (Text × Text) :=
  match mod.events[eventID.2.toNat]? with
  | some event => .ok (mod.title, event.name)
  | none => .error (.printed (Utf8Text.bytes ("event index " ++ toString eventID.2.toNat ++ " for module ") ++
      mod.name ++ Utf8Text.bytes " out of range"))

/-- The loop up to version 11; the counter is a byte and wraps around. -/
def findCountedModule (eventID : EventID) : UInt8 → List ModuleEvents → Outcome GoError (Text × Text)
  | _, [] => .error (moduleOutOfRange eventID)
  | mi, mod :: modules =>
      if !mod.hasEvents then
        findCountedModule eventID mi modules
      else if mi ≠ eventID.1 then
        findCountedModule eventID (mi + 1) modules
      else
        mod.eventNames eventID

/-- The loop of versions 12 and 13, over the modules and their indices. -/
def findIndexedModule (eventID : EventID) : List (ModuleEvents × UInt8) → Outcome GoError (Text × Text)
  | [] => .error (moduleOutOfRange eventID)
  | (mod, index) :: modules =>
      if !mod.hasEvents then
        findIndexedModule eventID modules
      else if index ≠ eventID.1 then
        findIndexedModule eventID modules
      else
        mod.eventNames eventID

/-- `MetadataV4.FindEventNamesForEventID`, which returns the prefix of the module. -/
def MetadataV4.findEventNamesForEventID (metadata : MetadataV4) (eventID : EventID) :
    Outcome GoError (Text × Text) :=
  findCountedModule eventID 0 (metadata.modules.map fun mod =>
    ⟨mod.modulePrefix, mod.name, mod.hasEvents, mod.events⟩)

/-- `MetadataV7.FindEventNamesForEventID`. -/
def MetadataV7.findEventNamesForEventID (metadata : MetadataV7) (eventID : EventID) :
    Outcome GoError (Text × Text) :=
  findCountedModule eventID 0 (metadata.modules.map fun mod =>
    ⟨mod.name, mod.name, mod.hasEvents, mod.events⟩)

/-- `MetadataV8.FindEventNamesForEventID`. -/
def MetadataV8.findEventNamesForEventID (metadata : MetadataV8) (eventID : EventID) :
    Outcome GoError (Text × Text) :=
  findCountedModule eventID 0 (metadata.modules.map fun mod =>
    ⟨mod.name, mod.name, mod.hasEvents, mod.events⟩)

/-- `MetadataV9.FindEventNamesForEventID`. -/
def MetadataV9.findEventNamesForEventID (metadata : MetadataV9) (eventID : EventID) :
    Outcome GoError (Text × Text) :=
  findCountedModule eventID 0 (metadata.modules.map fun mod =>
    ⟨mod.name, mod.name, mod.hasEvents, mod.events⟩)

/-- `MetadataV10.FindEventNamesForEventID`. -/
def MetadataV10.findEventNamesForEventID (metadata : MetadataV10) (eventID : EventID) :
    Outcome GoError (Text × Text) :=
  findCountedModule eventID 0 (metadata.modules.map fun mod =>
    ⟨mod.name, mod.name, mod.hasEvents, mod.events⟩)

/-- `MetadataV12.FindEventNamesForEventID`. -/
def MetadataV12.findEventNamesForEventID (metadata : MetadataV12) (eventID : EventID) :
    Outcome GoError (Text × Text) :=
  findIndexedModule eventID (metadata.modules.map fun mod =>
    (⟨mod.moduleMetadataV10.name, mod.moduleMetadataV10.name, mod.moduleMetadataV10.hasEvents,
      mod.moduleMetadataV10.events⟩, mod.index))

/-- `MetadataV13.FindEventNamesForEventID`. -/
def MetadataV13.findEventNamesForEventID (metadata : MetadataV13) (eventID : EventID) :
    Outcome GoError (Text × Text) :=
  findIndexedModule eventID (metadata.modules.map fun mod =>
    (⟨mod.name, mod.name, mod.hasEvents, mod.events⟩, mod.index))

namespace MetadataV14

/-- The body of the loop over the pallets: a pallet without the event is passed over. -/
def palletEventNames (metadata : MetadataV14) (eventID : EventID) (mod : PalletMetadataV14) :
    Option (Text × Text) :=
  if mod.index = eventID.1 ∧ mod.hasEvents = true then do
    let typ ← metadata.efficientLookup (Si1LookupTypeID.int64 mod.events)
    let variants : List Si1Variant := typ.typeDef.payload .isVariant
    let vars ← variants.find? fun vars => vars.index = eventID.2
    pure (mod.name, vars.name)
  else
    none

/-- `MetadataV14.FindEventNamesForEventID`. -/
def findEventNamesForEventID (metadata : MetadataV14) (eventID : EventID) :
    Outcome GoError (Text × Text) :=
  match metadata.pallets.findSome? (metadata.palletEventNames eventID) with
  | some names => .ok names
  | none => .error (moduleOutOfRange eventID)

end MetadataV14

/-- `Metadata.FindEventNamesForEventID`; version 11 embeds version 10. -/
def Metadata.findEventNamesForEventID (metadata : Metadata) (eventID : EventID) :
    Outcome GoError (Text × Text) :=
  match metadata.version.toNat with
  | 4 => MetadataV4.findEventNamesForEventID metadata.asMetadataV4 eventID
  | 7 => MetadataV7.findEventNamesForEventID metadata.asMetadataV7 eventID
  | 8 => MetadataV8.findEventNamesForEventID metadata.asMetadataV8 eventID
  | 9 => MetadataV9.findEventNamesForEventID metadata.asMetadataV9 eventID
  | 10 => MetadataV10.findEventNamesForEventID metadata.asMetadataV10 eventID
  | 11 => MetadataV10.findEventNamesForEventID metadata.asMetadataV11.metadataV10 eventID
  | 12 => MetadataV12.findEventNamesForEventID metadata.asMetadataV12 eventID
  | 13 => MetadataV13.findEventNamesForEventID metadata.asMetadataV13 eventID
  | 14 => MetadataV14.findEventNamesForEventID metadata.asMetadataV14 eventID
  | _ => .error (.text "unsupported metadata version")

/-! ## The view of version 14 -/

namespace MetadataV14

/-- A variant of the view is the view of the variant that has the same index. -/
theorem find?_variant_view (typeDef : Si1TypeDef) (index : UInt8) :
    typeDef.view.variant.find? (·.index = index) =
      (List.find? (fun vars => vars.index = index) (typeDef.payload .isVariant)).map
        Si1Variant.view := by
  exact List.find?_map ..

theorem scanPallet_view (metadata : MetadataV14) (eventID : EventID) (mod : PalletMetadataV14) :
    (Registry.scanPallet Registry.eventKind metadata.view (·.index = eventID.1)
        (·.index = eventID.2) mod.view).map (fun found => (found.1.name, found.2.name)) =
      (metadata.palletEventNames eventID mod).map
        fun names => (viewText names.1, viewText names.2) := by
  have lookup_view : metadata.view.efficientLookup (Registry.Si1LookupTypeID.int64 mod.events) =
      (metadata.efficientLookup (Si1LookupTypeID.int64 mod.events)).map Si1Type.view := rfl
  have index_view : mod.view.index = mod.index := rfl
  have type_view : Registry.eventKind.variantType mod.view =
      if mod.hasEvents = true then some mod.events else none := rfl
  simp only [Registry.scanPallet, palletEventNames, index_view, type_view]
  by_cases same : mod.index = eventID.1
  · by_cases has : mod.hasEvents = true
    · cases found : metadata.efficientLookup (Si1LookupTypeID.int64 mod.events) with
      | none => simp [same, has, lookup_view, found]
      | some typ =>
          have variant_view := find?_variant_view typ.typeDef eventID.2
          cases vars : List.find? (fun vars => vars.index = eventID.2)
              (typ.typeDef.payload .isVariant) with
          | none => simp [same, has, lookup_view, found, variant_view, vars, Si1Type.view]
          | some variant =>
              simp [same, has, lookup_view, found, variant_view, vars, Si1Type.view,
                PalletMetadataV14.view, Si1Variant.view]
    · simp [has]
  · simp [same]

/-- The registry looks the names up in the view of the metadata. -/
theorem findEventNamesForEventID_view (metadata : MetadataV14) (eventID : EventID) :
    Registry.findEventNamesForEventID metadata.view eventID =
      (fun names => (viewText names.1, viewText names.2)) <$>
        metadata.findEventNamesForEventID eventID := by
  have scanned : (Registry.scanPallets Registry.eventKind metadata.view (·.index = eventID.1)
      (·.index = eventID.2)).map (fun found => (found.1.name, found.2.name)) =
      (metadata.pallets.findSome? (metadata.palletEventNames eventID)).map
        fun names => (viewText names.1, viewText names.2) := by
    rw [Registry.scanPallets, view, List.findSome?_map, List.map_findSome?, List.map_findSome?]
    congr 1
    funext mod
    exact scanPallet_view metadata eventID mod
  unfold Registry.findEventNamesForEventID findEventNamesForEventID
  cases names : metadata.pallets.findSome? (metadata.palletEventNames eventID) with
  | none =>
      rw [names, Option.map_none, Option.map_eq_none_iff] at scanned
      rw [scanned]
      rfl
  | some found =>
      rw [names, Option.map_some, Option.map_eq_some_iff] at scanned
      obtain ⟨⟨mod, vars⟩, scanned, same⟩ := scanned
      rw [scanned]
      exact congrArg Outcome.ok same

end MetadataV14

end SubstrateClient.MetadataFormat
