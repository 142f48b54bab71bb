import SubstrateClient.MetadataFormat.Storage

/-!
# Modules up to version 13

The metadata of these versions are a list of modules, from version 11 on followed by the signed
extensions.  A module lists its storage, calls, events, constants and errors; later versions add
fields at the end.
-/

namespace SubstrateClient.MetadataFormat

open ByteParser Scale SubstrateClient.Types TaggedUnion

section Parts

variable (allowed : Nat → Prop)

/-! ## Calls, events, constants and errors -/

/-- `FunctionArgumentMetadata`. -/
structure FunctionArgumentMetadata where
  name : Text
  type : Text
  deriving Inhabited

namespace FunctionArgumentMetadata

def encode (argument : FunctionArgumentMetadata) : Written :=
  encodeStruct [encodeText argument.name, encodeText argument.type]

def decode : Decoder FunctionArgumentMetadata := do
  let name ← decodeField decodeText
  let type ← decodeField decodeText
  pure ⟨name, type⟩

structure WellFormed (argument : FunctionArgumentMetadata) : Prop where
  name : allowed argument.name.length
  type : allowed argument.type.length

end FunctionArgumentMetadata

/-- `FunctionMetadataV4`. -/
structure FunctionMetadataV4 where
  name : Text
  args : List FunctionArgumentMetadata
  documentation : List Text
  deriving Inhabited

namespace FunctionMetadataV4

def encode (function : FunctionMetadataV4) : Written :=
  encodeStruct [encodeText function.name, encodeSlice FunctionArgumentMetadata.encode function.args,
    encodeSlice encodeText function.documentation]

def decode : Decoder FunctionMetadataV4 := do
  let name ← decodeField decodeText
  let args ← decodeField (decodeList FunctionArgumentMetadata.decode)
  let documentation ← decodeField (decodeList decodeText)
  pure ⟨name, args, documentation⟩

structure WellFormed (function : FunctionMetadataV4) : Prop where
  name : allowed function.name.length
  args : AllFit allowed (FunctionArgumentMetadata.WellFormed allowed) function.args
  documentation : TextsFit allowed function.documentation

end FunctionMetadataV4

/-- `EventMetadataV4`. -/
structure EventMetadataV4 where
  name : Text
  args : List Text
  documentation : List Text
  deriving Inhabited

namespace EventMetadataV4

def encode (event : EventMetadataV4) : Written :=
  encodeStruct [encodeText event.name, encodeSlice encodeText event.args,
    encodeSlice encodeText event.documentation]

def decode : Decoder EventMetadataV4 := do
  let name ← decodeField decodeText
  let args ← decodeField (decodeList decodeText)
  let documentation ← decodeField (decodeList decodeText)
  pure ⟨name, args, documentation⟩

structure WellFormed (event : EventMetadataV4) : Prop where
  name : allowed event.name.length
  args : TextsFit allowed event.args
  documentation : TextsFit allowed event.documentation

end EventMetadataV4

/-- `ModuleConstantMetadataV6`. -/
structure ModuleConstantMetadataV6 where
  name : Text
  type : Text
  value : List UInt8
  documentation : List Text
  deriving Inhabited

namespace ModuleConstantMetadataV6

def encode (constant : ModuleConstantMetadataV6) : Written :=
  encodeStruct [encodeText constant.name, encodeText constant.type, encodeBytes constant.value,
    encodeSlice encodeText constant.documentation]

def decode : Decoder ModuleConstantMetadataV6 := do
  let name ← decodeField decodeText
  let type ← decodeField decodeText
  let value ← decodeField (decodeBytes [])
  let documentation ← decodeField (decodeList decodeText)
  pure ⟨name, type, value, documentation⟩

structure WellFormed (constant : ModuleConstantMetadataV6) : Prop where
  name : allowed constant.name.length
  type : allowed constant.type.length
  value : allowed constant.value.length
  documentation : TextsFit allowed constant.documentation

end ModuleConstantMetadataV6

/-- `ErrorMetadataV8`. -/
structure ErrorMetadataV8 where
  name : Text
  documentation : List Text
  deriving Inhabited

namespace ErrorMetadataV8

def encode (error : ErrorMetadataV8) : Written :=
  encodeStruct [encodeText error.name, encodeSlice encodeText error.documentation]

def decode : Decoder ErrorMetadataV8 := do
  let name ← decodeField decodeText
  let documentation ← decodeField (decodeList decodeText)
  pure ⟨name, documentation⟩

structure WellFormed (error : ErrorMetadataV8) : Prop where
  name : allowed error.name.length
  documentation : TextsFit allowed error.documentation

end ErrorMetadataV8

/-- `ExtrinsicV11`. -/
structure ExtrinsicV11 where
  version : UInt8
  signedExtensions : List Text
  deriving Inhabited

namespace ExtrinsicV11

/-- `ExtrinsicV11.Encode`. -/
def encode (extrinsic : ExtrinsicV11) : Written :=
  writeAll [encodeU8 extrinsic.version, encodeSlice encodeText extrinsic.signedExtensions]

/-- `ExtrinsicV11.Decode`. -/
def decode : Decoder ExtrinsicV11 := do
  let version ← decodeU8
  let signedExtensions ← decodeList decodeText
  pure ⟨version, signedExtensions⟩

end ExtrinsicV11

end Parts

section RestoredParts

variable {allowed : Nat → Prop} (short : ∀ length, allowed length → length ≤ maxUint32)

include short

theorem FunctionArgumentMetadata.restores {argument : FunctionArgumentMetadata}
    (well : argument.WellFormed allowed) : Restores argument.encode decode argument := by
  refine restores_field (restores_text (short _ well.name)) ?_
  exact restores_field (restores_text (short _ well.type)) (restores_struct_nil argument)

theorem FunctionMetadataV4.restores {function : FunctionMetadataV4}
    (well : function.WellFormed allowed) : Restores function.encode decode function := by
  refine restores_field (restores_text (short _ well.name)) ?_
  refine restores_field (well.args.restores short fun _ => FunctionArgumentMetadata.restores short) ?_
  exact restores_field (well.documentation.restores short) (restores_struct_nil function)

theorem EventMetadataV4.restores {event : EventMetadataV4} (well : event.WellFormed allowed) :
    Restores event.encode decode event := by
  refine restores_field (restores_text (short _ well.name)) ?_
  refine restores_field (well.args.restores short) ?_
  exact restores_field (well.documentation.restores short) (restores_struct_nil event)

theorem ModuleConstantMetadataV6.restores {constant : ModuleConstantMetadataV6}
    (well : constant.WellFormed allowed) : Restores constant.encode decode constant := by
  refine restores_field (restores_text (short _ well.name)) ?_
  refine restores_field (restores_text (short _ well.type)) ?_
  refine restores_field (restores_bytes (short _ well.value)) ?_
  exact restores_field (well.documentation.restores short) (restores_struct_nil constant)

theorem ErrorMetadataV8.restores {error : ErrorMetadataV8} (well : error.WellFormed allowed) :
    Restores error.encode decode error := by
  refine restores_field (restores_text (short _ well.name)) ?_
  exact restores_field (well.documentation.restores short) (restores_struct_nil error)

theorem ExtrinsicV11.restores {extrinsic : ExtrinsicV11}
    (fit : TextsFit allowed extrinsic.signedExtensions) :
    Restores extrinsic.encode decode extrinsic :=
  (restores_u8 extrinsic.version).cons ((fit.restores short).cons (restores_nil extrinsic))

end RestoredParts

/-! ## Modules -/

section Modules

variable {σ : Type} (allowed : Nat → Prop)

/-- `ModuleMetadataV4`. -/
structure ModuleMetadataV4 where
  name : Text
  modulePrefix : Text
  hasStorage : Bool
  storage : List StorageFunctionMetadataV4
  hasCalls : Bool
  calls : List FunctionMetadataV4
  hasEvents : Bool
  events : List EventMetadataV4
  deriving Inhabited

namespace ModuleMetadataV4

/-- `ModuleMetadataV4.Encode`. -/
def encode (module : ModuleMetadataV4) : Written :=
  writeAll [encodeText module.name, encodeText module.modulePrefix,
    encodeOption module.hasStorage (encodeSlice StorageFunctionMetadataV4.encode module.storage),
    encodeOption module.hasCalls (encodeSlice FunctionMetadataV4.encode module.calls),
    encodeOption module.hasEvents (encodeSlice EventMetadataV4.encode module.events)]

/-- `ModuleMetadataV4.Decode`. -/
def decode : Decoder ModuleMetadataV4 := do
  let name ← decodeText
  let modulePrefix ← decodeText
  let storage ← decodeOptional (decodeList StorageFunctionMetadataV4.decode)
  let calls ← decodeOptional (decodeList FunctionMetadataV4.decode)
  let events ← decodeOptional (decodeList EventMetadataV4.decode)
  pure ⟨name, modulePrefix, storage.1, storage.2, calls.1, calls.2, events.1, events.2⟩

structure WellFormed (module : ModuleMetadataV4) : Prop where
  name : allowed module.name.length
  modulePrefix : allowed module.modulePrefix.length
  storage : OptionFits (AllFit allowed (StorageFunctionMetadataV4.WellFormed allowed))
    module.hasStorage module.storage
  calls : OptionFits (AllFit allowed (FunctionMetadataV4.WellFormed allowed)) module.hasCalls module.calls
  events : OptionFits (AllFit allowed (EventMetadataV4.WellFormed allowed)) module.hasEvents module.events

end ModuleMetadataV4

/-- `ModuleMetadataV7`. -/
structure ModuleMetadataV7 where
  name : Text
  hasStorage : Bool
  storage : StorageMetadataV7
  hasCalls : Bool
  calls : List FunctionMetadataV4
  hasEvents : Bool
  events : List EventMetadataV4
  constants : List ModuleConstantMetadataV6
  deriving Inhabited

namespace ModuleMetadataV7

/-- `ModuleMetadataV7.Encode`. -/
def encode (module : ModuleMetadataV7) : Written :=
  writeAll [encodeText module.name,
    encodeOption module.hasStorage (module.storage.encode StorageFunctionMetadataV5.encode),
    encodeOption module.hasCalls (encodeSlice FunctionMetadataV4.encode module.calls),
    encodeOption module.hasEvents (encodeSlice EventMetadataV4.encode module.events),
    encodeSlice ModuleConstantMetadataV6.encode module.constants]

/-- `ModuleMetadataV7.Decode`. -/
def decode : Decoder ModuleMetadataV7 := do
  let name ← decodeText
  let storage ← decodeOptional (StorageMetadata.decode StorageFunctionMetadataV5.decode)
  let calls ← decodeOptional (decodeList FunctionMetadataV4.decode)
  let events ← decodeOptional (decodeList EventMetadataV4.decode)
  let constants ← decodeList ModuleConstantMetadataV6.decode
  pure ⟨name, storage.1, storage.2, calls.1, calls.2, events.1, events.2, constants⟩

structure WellFormed (module : ModuleMetadataV7) : Prop where
  name : allowed module.name.length
  storage : OptionFits (StorageMetadata.WellFormed allowed (StorageFunctionMetadataV5.WellFormed allowed))
    module.hasStorage module.storage
  calls : OptionFits (AllFit allowed (FunctionMetadataV4.WellFormed allowed)) module.hasCalls module.calls
  events : OptionFits (AllFit allowed (EventMetadataV4.WellFormed allowed)) module.hasEvents module.events
  constants : AllFit allowed (ModuleConstantMetadataV6.WellFormed allowed) module.constants

end ModuleMetadataV7

/-- A module with errors, over the type of its storage. -/
structure ModuleMetadata (σ : Type) where
  name : Text
  hasStorage : Bool
  storage : σ
  hasCalls : Bool
  calls : List FunctionMetadataV4
  hasEvents : Bool
  events : List EventMetadataV4
  constants : List ModuleConstantMetadataV6
  errors : List ErrorMetadataV8
  deriving Inhabited

/-- `ModuleMetadataV8`. -/
abbrev ModuleMetadataV8 : Type := ModuleMetadata StorageMetadataV7

/-- `ModuleMetadataV10`. -/
abbrev ModuleMetadataV10 : Type := ModuleMetadata StorageMetadataV10

namespace ModuleMetadata

/-- The `Encode` methods. -/
def encode (encodeStorage : σ → Written) (module : ModuleMetadata σ) : Written :=
  writeAll [encodeText module.name, encodeOption module.hasStorage (encodeStorage module.storage),
    encodeOption module.hasCalls (encodeSlice FunctionMetadataV4.encode module.calls),
    encodeOption module.hasEvents (encodeSlice EventMetadataV4.encode module.events),
    encodeSlice ModuleConstantMetadataV6.encode module.constants,
    encodeSlice ErrorMetadataV8.encode module.errors]

/-- The `Decode` methods. -/
def decode [Inhabited σ] (decodeStorage : Decoder σ) : Decoder (ModuleMetadata σ) := do
  let name ← decodeText
  let storage ← decodeOptional decodeStorage
  let calls ← decodeOptional (decodeList FunctionMetadataV4.decode)
  let events ← decodeOptional (decodeList EventMetadataV4.decode)
  let constants ← decodeList ModuleConstantMetadataV6.decode
  let errors ← decodeList ErrorMetadataV8.decode
  pure ⟨name, storage.1, storage.2, calls.1, calls.2, events.1, events.2, constants, errors⟩

structure WellFormed [Inhabited σ] (good : σ → Prop) (module : ModuleMetadata σ) : Prop where
  name : allowed module.name.length
  storage : OptionFits good module.hasStorage module.storage
  calls : OptionFits (AllFit allowed (FunctionMetadataV4.WellFormed allowed)) module.hasCalls module.calls
  events : OptionFits (AllFit allowed (EventMetadataV4.WellFormed allowed)) module.hasEvents module.events
  constants : AllFit allowed (ModuleConstantMetadataV6.WellFormed allowed) module.constants
  errors : AllFit allowed (ErrorMetadataV8.WellFormed allowed) module.errors

end ModuleMetadata

namespace ModuleMetadataV8

/-- `ModuleMetadataV8.Encode`. -/
def encode : ModuleMetadataV8 → Written :=
  ModuleMetadata.encode (StorageMetadata.encode StorageFunctionMetadataV5.encode)

/-- `ModuleMetadataV8.Decode`. -/
def decode : Decoder ModuleMetadataV8 :=
  ModuleMetadata.decode (StorageMetadata.decode StorageFunctionMetadataV5.decode)

def WellFormed : ModuleMetadataV8 → Prop :=
  ModuleMetadata.WellFormed allowed
    (StorageMetadata.WellFormed allowed (StorageFunctionMetadataV5.WellFormed allowed))

end ModuleMetadataV8

namespace ModuleMetadataV10

/-- `ModuleMetadataV10.Encode`. -/
def encode : ModuleMetadataV10 → Written :=
  ModuleMetadata.encode (StorageMetadata.encode StorageFunctionMetadataV10.encode)

/-- `ModuleMetadataV10.Decode`. -/
def decode : Decoder ModuleMetadataV10 :=
  ModuleMetadata.decode (StorageMetadata.decode StorageFunctionMetadataV10.decode)

def WellFormed : ModuleMetadataV10 → Prop :=
  ModuleMetadata.WellFormed allowed
    (StorageMetadata.WellFormed allowed (StorageFunctionMetadataV10.WellFormed allowed))

end ModuleMetadataV10

/-- `ModuleMetadataV12`. -/
structure ModuleMetadataV12 where
  moduleMetadataV10 : ModuleMetadataV10
  index : UInt8
  deriving Inhabited

namespace ModuleMetadataV12

/-- `ModuleMetadataV12.Encode`. -/
def encode (module : ModuleMetadataV12) : Written :=
  writeAll [ModuleMetadataV10.encode module.moduleMetadataV10, encodeU8 module.index]

/-- `ModuleMetadataV12.Decode`. -/
def decode : Decoder ModuleMetadataV12 := do
  let moduleMetadataV10 ← ModuleMetadataV10.decode
  let index ← decodeU8
  pure ⟨moduleMetadataV10, index⟩

end ModuleMetadataV12

/-- `ModuleMetadataV13`. -/
structure ModuleMetadataV13 where
  name : Text
  hasStorage : Bool
  storage : StorageMetadataV13
  hasCalls : Bool
  calls : List FunctionMetadataV4
  hasEvents : Bool
  events : List EventMetadataV4
  constants : List ModuleConstantMetadataV6
  errors : List ErrorMetadataV8
  index : UInt8
  deriving Inhabited

namespace ModuleMetadataV13

/-- `ModuleMetadataV13.Encode`. -/
def encode (module : ModuleMetadataV13) : Written :=
  writeAll [encodeText module.name,
    encodeOption module.hasStorage (module.storage.encode StorageFunctionMetadataV13.encode),
    encodeOption module.hasCalls (encodeSlice FunctionMetadataV4.encode module.calls),
    encodeOption module.hasEvents (encodeSlice EventMetadataV4.encode module.events),
    encodeSlice ModuleConstantMetadataV6.encode module.constants,
    encodeSlice ErrorMetadataV8.encode module.errors, encodeU8 module.index]

/-- `ModuleMetadataV13.Decode`. -/
def decode : Decoder ModuleMetadataV13 := do
  let name ← decodeText
  let storage ← decodeOptional (StorageMetadata.decode StorageFunctionMetadataV13.decode)
  let calls ← decodeOptional (decodeList FunctionMetadataV4.decode)
  let events ← decodeOptional (decodeList EventMetadataV4.decode)
  let constants ← decodeList ModuleConstantMetadataV6.decode
  let errors ← decodeList ErrorMetadataV8.decode
  let index ← decodeU8
  pure ⟨name, storage.1, storage.2, calls.1, calls.2, events.1, events.2, constants, errors, index⟩

structure WellFormed (module : ModuleMetadataV13) : Prop where
  name : allowed module.name.length
  storage : OptionFits (StorageMetadata.WellFormed allowed (StorageFunctionMetadataV13.WellFormed allowed))
    module.hasStorage module.storage
  calls : OptionFits (AllFit allowed (FunctionMetadataV4.WellFormed allowed)) module.hasCalls module.calls
  events : OptionFits (AllFit allowed (EventMetadataV4.WellFormed allowed)) module.hasEvents module.events
  constants : AllFit allowed (ModuleConstantMetadataV6.WellFormed allowed) module.constants
  errors : AllFit allowed (ErrorMetadataV8.WellFormed allowed) module.errors

end ModuleMetadataV13

end Modules

section RestoredModules

variable {σ : Type} {allowed : Nat → Prop} (short : ∀ length, allowed length → length ≤ maxUint32)

include short

theorem restores_calls {hasCalls : Bool} {calls : List FunctionMetadataV4}
    (fits : OptionFits (AllFit allowed (FunctionMetadataV4.WellFormed allowed)) hasCalls calls) :
    Restores (encodeOption hasCalls (encodeSlice FunctionMetadataV4.encode calls))
      (decodeOptional (decodeList FunctionMetadataV4.decode)) (hasCalls, calls) :=
  fits.restores fun all => all.restores short fun _ => FunctionMetadataV4.restores short

theorem restores_events {hasEvents : Bool} {events : List EventMetadataV4}
    (fits : OptionFits (AllFit allowed (EventMetadataV4.WellFormed allowed)) hasEvents events) :
    Restores (encodeOption hasEvents (encodeSlice EventMetadataV4.encode events))
      (decodeOptional (decodeList EventMetadataV4.decode)) (hasEvents, events) :=
  fits.restores fun all => all.restores short fun _ => EventMetadataV4.restores short

theorem restores_constants {constants : List ModuleConstantMetadataV6}
    (fit : AllFit allowed (ModuleConstantMetadataV6.WellFormed allowed) constants) :
    Restores (encodeSlice ModuleConstantMetadataV6.encode constants)
      (decodeList ModuleConstantMetadataV6.decode) constants :=
  fit.restores short fun _ => ModuleConstantMetadataV6.restores short

theorem restores_errors {errors : List ErrorMetadataV8}
    (fit : AllFit allowed (ErrorMetadataV8.WellFormed allowed) errors) :
    Restores (encodeSlice ErrorMetadataV8.encode errors) (decodeList ErrorMetadataV8.decode) errors :=
  fit.restores short fun _ => ErrorMetadataV8.restores short

theorem ModuleMetadataV4.restores {module : ModuleMetadataV4} (well : module.WellFormed allowed) :
    Restores module.encode decode module := by
  have storage := well.storage.restores fun all =>
    all.restores short fun _ => StorageFunctionMetadataV4.restores short
  refine (restores_text (short _ well.name)).cons ?_
  refine (restores_text (short _ well.modulePrefix)).cons ?_
  refine storage.cons ?_
  refine (restores_calls short well.calls).cons ?_
  exact (restores_events short well.events).cons (restores_nil module)

theorem ModuleMetadataV7.restores {module : ModuleMetadataV7} (well : module.WellFormed allowed) :
    Restores module.encode decode module := by
  have storage := well.storage.restores fun all =>
    StorageMetadata.restores short (fun _ => StorageFunctionMetadataV5.restores short) all
  refine (restores_text (short _ well.name)).cons ?_
  refine storage.cons ?_
  refine (restores_calls short well.calls).cons ?_
  refine (restores_events short well.events).cons ?_
  exact (restores_constants short well.constants).cons (restores_nil module)

theorem ModuleMetadata.restores [Inhabited σ] {encodeStorage : σ → Written} {decodeStorage : Decoder σ}
    {good : σ → Prop}
    (storages : ∀ storage, good storage → Restores (encodeStorage storage) decodeStorage storage)
    {module : ModuleMetadata σ} (well : module.WellFormed allowed good) :
    Restores (module.encode encodeStorage) (decode decodeStorage) module := by
  refine (restores_text (short _ well.name)).cons ?_
  refine (well.storage.restores (storages module.storage)).cons ?_
  refine (restores_calls short well.calls).cons ?_
  refine (restores_events short well.events).cons ?_
  refine (restores_constants short well.constants).cons ?_
  exact (restores_errors short well.errors).cons (restores_nil module)

theorem ModuleMetadataV8.restores {module : ModuleMetadataV8} (well : WellFormed allowed module) :
    Restores (encode module) decode module :=
  ModuleMetadata.restores short (fun _ => StorageMetadata.restores short fun _ =>
    StorageFunctionMetadataV5.restores short) well

theorem ModuleMetadataV10.restores {module : ModuleMetadataV10} (well : WellFormed allowed module) :
    Restores (encode module) decode module :=
  ModuleMetadata.restores short (fun _ => StorageMetadata.restores short fun _ =>
    StorageFunctionMetadataV10.restores short) well

theorem ModuleMetadataV12.restores {module : ModuleMetadataV12}
    (well : ModuleMetadataV10.WellFormed allowed module.moduleMetadataV10) :
    Restores module.encode decode module :=
  (ModuleMetadataV10.restores short well).cons ((restores_u8 module.index).cons (restores_nil module))

theorem ModuleMetadataV13.restores {module : ModuleMetadataV13} (well : module.WellFormed allowed) :
    Restores module.encode decode module := by
  have storage := well.storage.restores fun all =>
    StorageMetadata.restores short (fun _ => StorageFunctionMetadataV13.restores short) all
  refine (restores_text (short _ well.name)).cons ?_
  refine storage.cons ?_
  refine (restores_calls short well.calls).cons ?_
  refine (restores_events short well.events).cons ?_
  refine (restores_constants short well.constants).cons ?_
  refine (restores_errors short well.errors).cons ?_
  exact (restores_u8 module.index).cons (restores_nil module)

end RestoredModules

end SubstrateClient.MetadataFormat
