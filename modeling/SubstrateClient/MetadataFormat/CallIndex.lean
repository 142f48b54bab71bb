import SubstrateClient.MetadataFormat.EventNames

/-!
# Indices of calls

`FindCallIndex` of every metadata version.  The call is split at its dots; the first part is compared
with the names of modules that have calls and the second part with the names of the calls, whether or not
there is a second part and whatever follows it.
-/

namespace SubstrateClient.MetadataFormat

open Scale SubstrateClient.Types

/-- What `FindCallIndex` reads of a module: the calls come with the second byte of their index. -/
structure ModuleCalls where
  name : Text
  hasCalls : Bool
  calls : List (Text × UInt8)

/-- The calls in order, each with its position as a byte. -/
def countedCalls (calls : List FunctionMetadataV4) : List (Text × UInt8) :=
  calls.zipIdx.map fun entry => (entry.1.name, UInt8.ofNat entry.2)

/-- `strings.Split(call, ".")`. -/
def splitCall (call : Text) : List Text := call.splitOn 0x2e

/-- The error after the loop over the modules. -/
def callModuleNotFound (s : List Text) (call : Text) : GoError :=
  .printed (Utf8Text.bytes "module " ++ s.headD [] ++ Utf8Text.bytes " not found in metadata for call " ++ call)

/-- The loop over the calls: every comparison reads `s[1]`. -/
def findMethod (s : List Text) : List (Text × UInt8) → Outcome GoError (Option UInt8)
  | [] => .ok none
  | (name, index) :: calls =>
      match s[1]? with
      | none => .panic
      | some method => if name = method then .ok (some index) else findMethod s calls

/-- What the loop does with the module that is named by the first part: the text of the error reads
`s[1]` again. -/
def ModuleCalls.callIndex (mod : ModuleCalls) (s : List Text) (call : Text) (moduleIndex : UInt8) :
    Outcome GoError CallIndex := do
  let found ← findMethod s mod.calls
  match found with
  | some callIndex => .ok ⟨moduleIndex, callIndex⟩
  | none =>
      match s[1]? with
      | none => .panic
      | some method => .error (.printed (Utf8Text.bytes "method " ++ method ++
          Utf8Text.bytes " not found within module " ++ mod.name ++ Utf8Text.bytes " for call " ++ call))

/-- The loop up to version 11; the counter is a byte and wraps around. -/
def findCountedCall (s : List Text) (call : Text) : UInt8 → List ModuleCalls → Outcome GoError CallIndex
  | _, [] => .error (callModuleNotFound s call)
  | mi, mod :: modules =>
      if !mod.hasCalls then
        findCountedCall s call mi modules
      else if mod.name ≠ s.headD [] then
        findCountedCall s call (mi + 1) modules
      else
        mod.callIndex s call mi

/-- The loop of versions 12 and 13, over the modules and their indices. -/
def findIndexedCall (s : List Text) (call : Text) : List (ModuleCalls × UInt8) → Outcome GoError CallIndex
  | [] => .error (callModuleNotFound s call)
  | (mod, index) :: modules =>
      if !mod.hasCalls then
        findIndexedCall s call modules
      else if mod.name ≠ s.headD [] then
        findIndexedCall s call modules
      else
        mod.callIndex s call index

/-- The loop of version 14, which goes on after a pallet that does not have the call. -/
def findPalletCall (s : List Text) (call : Text) : List (ModuleCalls × UInt8) → Outcome GoError CallIndex
  | [] => .error (callModuleNotFound s call)
  | (mod, index) :: pallets =>
      if !mod.hasCalls then
        findPalletCall s call pallets
      else if mod.name ≠ s.headD [] then
        findPalletCall s call pallets
      else do
        let found ← findMethod s mod.calls
        match found with
        | some callIndex => .ok ⟨index, callIndex⟩
        | none => findPalletCall s call pallets

/-- The modules of version 4. -/
def MetadataV4.callModules (metadata : MetadataV4) : List ModuleCalls :=
  metadata.modules.map fun mod => ⟨mod.name, mod.hasCalls, countedCalls mod.calls⟩

/-- `MetadataV4.FindCallIndex`. -/
def MetadataV4.findCallIndex (metadata : MetadataV4) (call : Text) : Outcome GoError CallIndex :=
  findCountedCall (splitCall call) call 0 metadata.callModules

/-- The modules of version 7. -/
def MetadataV7.callModules (metadata : MetadataV7) : List ModuleCalls :=
  metadata.modules.map fun mod => ⟨mod.name, mod.hasCalls, countedCalls mod.calls⟩

/-- `MetadataV7.FindCallIndex`. -/
def MetadataV7.findCallIndex (metadata : MetadataV7) (call : Text) : Outcome GoError CallIndex :=
  findCountedCall (splitCall call) call 0 metadata.callModules

/-- The modules of version 8. -/
def MetadataV8.callModules (metadata : MetadataV8) : List ModuleCalls :=
  metadata.modules.map fun mod => ⟨mod.name, mod.hasCalls, countedCalls mod.calls⟩

/-- `MetadataV8.FindCallIndex`. -/
def MetadataV8.findCallIndex (metadata : MetadataV8) (call : Text) : Outcome GoError CallIndex :=
  findCountedCall (splitCall call) call 0 (MetadataV8.callModules metadata)

/-- The modules of version 9. -/
def MetadataV9.callModules (metadata : MetadataV9) : List ModuleCalls :=
  metadata.modules.map fun mod => ⟨mod.name, mod.hasCalls, countedCalls mod.calls⟩

/-- `MetadataV9.FindCallIndex`. -/
def MetadataV9.findCallIndex (metadata : MetadataV9) (call : Text) : Outcome GoError CallIndex :=
  findCountedCall (splitCall call) call 0 (MetadataV9.callModules metadata)

/-- The modules of version 10. -/
def MetadataV10.callModules (metadata : MetadataV10) : List ModuleCalls :=
  metadata.modules.map fun mod => ⟨mod.name, mod.hasCalls, countedCalls mod.calls⟩

/-- `MetadataV10.FindCallIndex`. -/
def MetadataV10.findCallIndex (metadata : MetadataV10) (call : Text) : Outcome GoError CallIndex :=
  findCountedCall (splitCall call) call 0 (MetadataV10.callModules metadata)

/-- The modules of version 12 with their indices. -/
def MetadataV12.callModules (metadata : MetadataV12) : List (ModuleCalls × UInt8) :=
  metadata.modules.map fun mod =>
    (⟨mod.moduleMetadataV10.name, mod.moduleMetadataV10.hasCalls,
      countedCalls mod.moduleMetadataV10.calls⟩, mod.index)

/-- `MetadataV12.FindCallIndex`. -/
def MetadataV12.findCallIndex (metadata : MetadataV12) (call : Text) : Outcome GoError CallIndex :=
  findIndexedCall (splitCall call) call metadata.callModules

/-- The modules of version 13 with their indices. -/
def MetadataV13.callModules (metadata : MetadataV13) : List (ModuleCalls × UInt8) :=
  metadata.modules.map fun mod => (⟨mod.name, mod.hasCalls, countedCalls mod.calls⟩, mod.index)

/-- `MetadataV13.FindCallIndex`. -/
def MetadataV13.findCallIndex (metadata : MetadataV13) (call : Text) : Outcome GoError CallIndex :=
  findIndexedCall (splitCall call) call metadata.callModules

namespace MetadataV14

/-- The variants of the type of the calls; a type that is not found has none. -/
def palletCalls (metadata : MetadataV14) (mod : PalletMetadataV14) : List (Text × UInt8) :=
  match metadata.efficientLookup (Si1LookupTypeID.int64 mod.calls) with
  | none => []
  | some typ => List.map (fun vars => (vars.name, vars.index)) (typ.typeDef.payload .isVariant)

/-- The pallets with their indices. -/
def callModules (metadata : MetadataV14) : List (ModuleCalls × UInt8) :=
  metadata.pallets.map fun mod => (⟨mod.name, mod.hasCalls, metadata.palletCalls mod⟩, mod.index)

/-- `MetadataV14.FindCallIndex`. -/
def findCallIndex (metadata : MetadataV14) (call : Text) : Outcome GoError CallIndex :=
  findPalletCall (splitCall call) call metadata.callModules

end MetadataV14

namespace Metadata

/-- `Metadata.FindCallIndex`; version 11 embeds version 10. -/
def findCallIndex (metadata : Metadata) (call : Text) : Outcome GoError CallIndex :=
  match metadata.version.toNat with
  | 4 => MetadataV4.findCallIndex metadata.asMetadataV4 call
  | 7 => MetadataV7.findCallIndex metadata.asMetadataV7 call
  | 8 => MetadataV8.findCallIndex metadata.asMetadataV8 call
  | 9 => MetadataV9.findCallIndex metadata.asMetadataV9 call
  | 10 => MetadataV10.findCallIndex metadata.asMetadataV10 call
  | 11 => MetadataV10.findCallIndex metadata.asMetadataV11.metadataV10 call
  | 12 => MetadataV12.findCallIndex metadata.asMetadataV12 call
  | 13 => MetadataV13.findCallIndex metadata.asMetadataV13 call
  | 14 => MetadataV14.findCallIndex metadata.asMetadataV14 call
  | _ => .error (.text "unsupported metadata version")

/-- The modules of the version that is used. -/
def callModules (metadata : Metadata) : List ModuleCalls :=
  match metadata.version.toNat with
  | 4 => MetadataV4.callModules metadata.asMetadataV4
  | 7 => MetadataV7.callModules metadata.asMetadataV7
  | 8 => MetadataV8.callModules metadata.asMetadataV8
  | 9 => MetadataV9.callModules metadata.asMetadataV9
  | 10 => MetadataV10.callModules metadata.asMetadataV10
  | 11 => MetadataV10.callModules metadata.asMetadataV11.metadataV10
  | 12 => (MetadataV12.callModules metadata.asMetadataV12).map Prod.fst
  | 13 => (MetadataV13.callModules metadata.asMetadataV13).map Prod.fst
  | 14 => (MetadataV14.callModules metadata.asMetadataV14).map Prod.fst
  | _ => []

end Metadata

/-! ## What the loops find -/

/-- The loop goes into a module: it has calls and its name is the first part. -/
structure ModuleCalls.Called (mod : ModuleCalls) (s : List Text) : Prop where
  hasCalls : mod.hasCalls = true
  named : mod.name = s.headD []

/-- A search aborts exactly when it reads a missing second part, and returns an index exactly when the
second part is a call of the module that the first part names. -/
structure Behaves (s : List Text) (reads : ModuleCalls → Prop) (modules : List ModuleCalls)
    (result : Outcome GoError CallIndex) : Prop where
  panics : result = .panic ↔ s[1]? = none ∧ ∃ mod ∈ modules, mod.Called s ∧ reads mod
  finds : (∃ index, result = .ok index) ↔
    ∃ mod ∈ modules, mod.Called s ∧ ∃ method ∈ mod.calls.map Prod.fst, s[1]? = some method

section Searches

variable {s : List Text} {reads : ModuleCalls → Prop} {mod : ModuleCalls} {modules : List ModuleCalls}
  {result : Outcome GoError CallIndex}

/-- The two tests of every loop. -/
theorem called_iff : mod.Called s ↔ ¬ (!mod.hasCalls) = true ∧ ¬ mod.name ≠ s.headD [] := by
  constructor
  · rintro ⟨hasCalls, named⟩
    simp [hasCalls, named]
  · rintro ⟨hasCalls, named⟩
    exact ⟨by simpa using hasCalls, not_not.mp named⟩

/-- No module is left. -/
theorem Behaves.nil (reason : GoError) : Behaves s reads [] (.error reason) := by
  constructor <;> simp

/-- A module that the loop does not go into changes nothing. -/
theorem Behaves.skip (behaves : Behaves s reads modules result) (other : ¬ mod.Called s) :
    Behaves s reads (mod :: modules) result := by
  constructor
  · rw [behaves.panics]
    simp [other]
  · rw [behaves.finds]
    simp [other]

/-- The loop goes into no module after the one it goes into. -/
theorem not_called_of_distinct (distinct : ((mod :: modules).map ModuleCalls.name).Nodup)
    (called : mod.Called s) {later : ModuleCalls} (member : later ∈ modules) : ¬ later.Called s := by
  intro again
  rw [List.map_cons, List.nodup_cons] at distinct
  have same : later.name = mod.name := again.named.trans called.named.symm
  exact distinct.1 (List.mem_map.mpr ⟨later, member, same⟩)

/-- Among modules with distinct names, the one that the loop goes into is the only one. -/
theorem exists_called_iff (distinct : ((mod :: modules).map ModuleCalls.name).Nodup)
    (called : mod.Called s) {holds : ModuleCalls → Prop} :
    (∃ other ∈ mod :: modules, other.Called s ∧ holds other) ↔ holds mod := by
  constructor
  · rintro ⟨other, member, again, found⟩
    rcases List.mem_cons.mp member with rfl | later
    · exact found
    · exact absurd again (not_called_of_distinct distinct called later)
  · intro found
    exact ⟨mod, List.mem_cons_self, called, found⟩

/-- The module that the loop goes into decides. -/
theorem Behaves.settled (distinct : ((mod :: modules).map ModuleCalls.name).Nodup)
    (called : mod.Called s) (panics : result = .panic ↔ s[1]? = none ∧ reads mod)
    (finds : (∃ index, result = .ok index) ↔ ∃ method ∈ mod.calls.map Prod.fst, s[1]? = some method) :
    Behaves s reads (mod :: modules) result := by
  constructor
  · rw [panics, exists_called_iff distinct called]
  · rw [finds, exists_called_iff distinct called]

/-- The two tests of a loop, with what it does after each of them. -/
theorem Behaves.step {without other found : Outcome GoError CallIndex}
    (passed : Behaves s reads modules without) (passed' : Behaves s reads modules other)
    (here : mod.Called s → Behaves s reads (mod :: modules) found) :
    Behaves s reads (mod :: modules)
      (if !mod.hasCalls then without else if mod.name ≠ s.headD [] then other else found) := by
  split
  next none => exact passed.skip fun called => (called_iff.mp called).1 none
  next hasCalls =>
    split
    next different => exact passed'.skip fun called => (called_iff.mp called).2 different
    next named => exact here (called_iff.mpr ⟨hasCalls, named⟩)

/-- Without a second part the first comparison aborts. -/
theorem findMethod_of_missing (missing : s[1]? = none) (calls : List (Text × UInt8)) :
    findMethod s calls = if calls = [] then .ok none else .panic := by
  cases calls with
  | nil => rfl
  | cons => simp [findMethod, missing]

/-- With a second part the loop over the calls looks it up. -/
theorem findMethod_of_present {method : Text} (present : s[1]? = some method)
    (calls : List (Text × UInt8)) : findMethod s calls = .ok (calls.lookup method) := by
  induction calls with
  | nil => rfl
  | cons entry calls ih =>
      obtain ⟨name, index⟩ := entry
      by_cases same : method = name
      · subst method
        simp [findMethod, present]
      · rw [findMethod, present, List.lookup_cons, beq_false_of_ne same]
        simpa [Ne.symm same] using ih

/-- In the module that the loop goes into, a missing second part is read whatever the calls are. -/
theorem callIndex_eq_panic (call : Text) (index : UInt8) :
    mod.callIndex s call index = .panic ↔ s[1]? = none := by
  cases second : s[1]? with
  | none =>
      rw [ModuleCalls.callIndex, findMethod_of_missing second, second]
      split <;> simp
  | some method =>
      rw [ModuleCalls.callIndex, findMethod_of_present second, second]
      cases mod.calls.lookup method <;> simp

theorem callIndex_eq_ok (call : Text) (index : UInt8) :
    (∃ found, mod.callIndex s call index = .ok found) ↔
      ∃ method ∈ mod.calls.map Prod.fst, s[1]? = some method := by
  cases second : s[1]? with
  | none =>
      rw [ModuleCalls.callIndex, findMethod_of_missing second, second]
      split <;> simp
  | some method =>
      have names := ListLookup.exists_lookup_iff method mod.calls
      rw [ModuleCalls.callIndex, findMethod_of_present second, second]
      cases looked : mod.calls.lookup method <;> simp_all

/-- The loop up to version 11, from any value of the counter. -/
theorem findCountedCall_behaves (call : Text) (mi : UInt8)
    (distinct : (modules.map ModuleCalls.name).Nodup) :
    Behaves s (fun _ => True) modules (findCountedCall s call mi modules) := by
  induction modules generalizing mi with
  | nil => exact .nil _
  | cons mod modules ih =>
      have later := fun mi => ih mi (List.nodup_cons.mp distinct).2
      rw [findCountedCall]
      exact .step (later mi) (later (mi + 1)) fun called =>
        .settled distinct called (by simp [callIndex_eq_panic]) (callIndex_eq_ok call mi)

/-- The loop of versions 12 and 13. -/
theorem findIndexedCall_behaves (call : Text) {modules : List (ModuleCalls × UInt8)}
    (distinct : ((modules.map Prod.fst).map ModuleCalls.name).Nodup) :
    Behaves s (fun _ => True) (modules.map Prod.fst) (findIndexedCall s call modules) := by
  induction modules with
  | nil => exact .nil _
  | cons entry modules ih =>
      obtain ⟨mod, index⟩ := entry
      have later := ih (List.nodup_cons.mp distinct).2
      rw [findIndexedCall]
      exact .step later later fun called =>
        .settled distinct called (by simp [callIndex_eq_panic]) (callIndex_eq_ok call index)

/-- The loop of version 14: a pallet without calls in its type does not make it read the second part. -/
theorem findPalletCall_behaves (call : Text) {pallets : List (ModuleCalls × UInt8)}
    (distinct : ((pallets.map Prod.fst).map ModuleCalls.name).Nodup) :
    Behaves s (fun mod => mod.calls ≠ []) (pallets.map Prod.fst) (findPalletCall s call pallets) := by
  induction pallets with
  | nil => exact .nil _
  | cons entry pallets ih =>
      obtain ⟨mod, index⟩ := entry
      have later := ih (List.nodup_cons.mp distinct).2
      rw [findPalletCall]
      refine .step later later fun called => ?_
      -- The loop goes on, but into no other pallet.
      have rest := fun other member => @not_called_of_distinct s mod _ distinct called other member
      have rest_panics : findPalletCall s call pallets ≠ .panic := by
        rw [Ne, later.panics]
        rintro ⟨_, other, member, again, _⟩
        exact rest other member again
      have rest_finds : ¬ ∃ found, findPalletCall s call pallets = .ok found := by
        rw [later.finds]
        rintro ⟨other, member, again, _⟩
        exact rest other member again
      cases second : s[1]? with
      | none =>
          rw [findMethod_of_missing second]
          refine .settled distinct called ?_ ?_
          · split <;> simp_all
          · split <;> simp_all
      | some method =>
          have names := ListLookup.exists_lookup_iff method mod.calls
          rw [findMethod_of_present second]
          refine .settled distinct called ?_ ?_
          · cases looked : mod.calls.lookup method <;> simp_all
          · cases looked : mod.calls.lookup method <;> simp_all

end Searches

/-! ## The strings that name a call -/

/-- A name and a call without dots are the two parts of the string they make. -/
theorem eq_dotted_iff {name method call : Text} (name_plain : 0x2e ∉ name) (method_plain : 0x2e ∉ method) :
    call = name ++ 0x2e :: method ↔ splitCall call = [name, method] := by
  constructor
  · rintro rfl
    rw [splitCall, List.splitOn_append_cons_self_of_not_mem name_plain,
      List.splitOn_eq_singleton method_plain]
  · intro parts
    have joined : [0x2e].intercalate (splitCall call) = call := List.intercalate_splitOn 0x2e
    rw [← joined, parts]
    simp [List.intercalate]

namespace Metadata

/-- The versions that `FindCallIndex` knows. -/
def CallsSupported (metadata : Metadata) : Prop :=
  metadata.version.toNat ∈ [4, 7, 8, 9, 10, 11, 12, 13, 14]

/-- A module reads the second part of the string that names it; a pallet without calls does not. -/
def ReadsMethod (metadata : Metadata) (mod : ModuleCalls) : Prop :=
  metadata.version.toNat = 14 → mod.calls ≠ []

theorem findCallIndex_behaves {metadata : Metadata} (supported : metadata.CallsSupported)
    (distinct : (metadata.callModules.map ModuleCalls.name).Nodup) (call : Text) :
    Behaves (splitCall call) metadata.ReadsMethod metadata.callModules (metadata.findCallIndex call) := by
  have version := supported
  simp only [CallsSupported, List.mem_cons, List.not_mem_nil, or_false] at version
  have reads : metadata.ReadsMethod =
      if metadata.version.toNat = 14 then fun mod => mod.calls ≠ [] else fun _ => True := by
    funext mod
    split <;> simp_all [ReadsMethod]
  unfold callModules at distinct
  rw [reads, findCallIndex, callModules]
  rcases version with version | version | version | version | version | version | version | version |
    version <;> rw [version] at distinct ⊢
  · exact findCountedCall_behaves call 0 distinct
  · exact findCountedCall_behaves call 0 distinct
  · exact findCountedCall_behaves call 0 distinct
  · exact findCountedCall_behaves call 0 distinct
  · exact findCountedCall_behaves call 0 distinct
  · exact findCountedCall_behaves call 0 distinct
  · exact findIndexedCall_behaves call distinct
  · exact findIndexedCall_behaves call distinct
  · exact findPalletCall_behaves call distinct

/-- The modules have distinct names without dots, and so have the calls of each of them. -/
structure PlainNames (metadata : Metadata) : Prop where
  distinct : (metadata.callModules.map ModuleCalls.name).Nodup
  plain : ∀ mod ∈ metadata.callModules, 0x2e ∉ mod.name
  calls_distinct : ∀ mod ∈ metadata.callModules, (mod.calls.map Prod.fst).Nodup
  calls_plain : ∀ mod ∈ metadata.callModules, ∀ method ∈ mod.calls.map Prod.fst, 0x2e ∉ method

/-- The string is a module with calls, a dot and a call of the module. -/
def IsCall (metadata : Metadata) (call : Text) : Prop :=
  ∃ mod ∈ metadata.callModules, mod.hasCalls = true ∧
    ∃ method ∈ mod.calls.map Prod.fst, call = mod.name ++ 0x2e :: method

/-- The search does not abort, and finds the strings that name a call. -/
def FindsExactly (metadata : Metadata) (call : Text) : Prop :=
  metadata.findCallIndex call ≠ .panic ∧
    ((∃ index, metadata.findCallIndex call = .ok index) ↔ metadata.IsCall call)

/-- A string that names a module has a second part for the module to read, and no third part after a
call. -/
def PartsFit (metadata : Metadata) (call : Text) : Prop :=
  ∀ mod ∈ metadata.callModules, mod.Called (splitCall call) →
    ((splitCall call).length = 1 → ¬ metadata.ReadsMethod mod) ∧
      (3 ≤ (splitCall call).length →
        ∀ method ∈ mod.calls.map Prod.fst, (splitCall call)[1]? ≠ some method)

/-- The strings that name a call have the two parts that the loops compare. -/
theorem isCall_iff {metadata : Metadata} (plain : metadata.PlainNames) (call : Text) :
    metadata.IsCall call ↔ ∃ mod ∈ metadata.callModules, mod.Called (splitCall call) ∧
      ∃ method ∈ mod.calls.map Prod.fst, splitCall call = [mod.name, method] := by
  constructor
  · rintro ⟨mod, member, hasCalls, method, listed, dotted⟩
    have parts : splitCall call = [mod.name, method] :=
      (eq_dotted_iff (plain.plain mod member) (plain.calls_plain mod member method listed)).mp dotted
    exact ⟨mod, member, ⟨hasCalls, by rw [parts]; rfl⟩, method, listed, parts⟩
  · rintro ⟨mod, member, called, method, listed, parts⟩
    exact ⟨mod, member, called.hasCalls, method, listed,
      (eq_dotted_iff (plain.plain mod member) (plain.calls_plain mod member method listed)).mpr parts⟩

theorem splitCall_length_pos (call : Text) : 0 < (splitCall call).length :=
  List.length_pos_iff.mpr (List.splitOn_ne_nil 0x2e call)

/-- `FindCallIndex` finds exactly the strings that name a call, without aborting, if and only if the
parts of the string fit. -/
theorem findCallIndex_exact_iff {metadata : Metadata} (supported : metadata.CallsSupported)
    (plain : metadata.PlainNames) (call : Text) :
    metadata.FindsExactly call ↔ metadata.PartsFit call := by
  have behaves := findCallIndex_behaves supported plain.distinct call
  have positive := splitCall_length_pos call
  rw [FindsExactly, Ne, behaves.panics, behaves.finds, isCall_iff plain]
  constructor
  · rintro ⟨returns, exact⟩ mod member called
    constructor
    · intro single reads
      exact returns ⟨by simp [single], mod, member, called, reads⟩
    · intro three method listed second
      obtain ⟨_, _, _, _, _, parts⟩ := exact.mp ⟨mod, member, called, method, listed, second⟩
      rw [parts] at three
      simp at three
  · intro fit
    constructor
    · rintro ⟨missing, mod, member, called, reads⟩
      have single : (splitCall call).length = 1 := by
        have := List.getElem?_eq_none_iff.mp missing
        omega
      exact (fit mod member called).1 single reads
    · constructor
      · rintro ⟨mod, member, called, method, listed, second⟩
        refine ⟨mod, member, called, method, listed, ?_⟩
        have short : ¬ 3 ≤ (splitCall call).length := fun three =>
          (fit mod member called).2 three method listed second
        have long : 1 < (splitCall call).length := (List.getElem?_eq_some_iff.mp second).1
        obtain ⟨first, last, parts⟩ := List.length_eq_two.mp (show (splitCall call).length = 2 by omega)
        have named := called.named
        rw [parts] at named second ⊢
        simp only [List.getElem?_cons_succ, List.getElem?_cons_zero, Option.some.injEq] at second
        rw [named, second, List.headD_cons]
      · rintro ⟨mod, member, called, method, listed, parts⟩
        exact ⟨mod, member, called, method, listed, by rw [parts]; rfl⟩

/-- Metadata of version 13 with one module and one call. -/
def oneCall : Metadata :=
  { (default : Metadata) with
    version := 13
    asMetadataV13 :=
      { (default : MetadataV13) with
        modules := [{ (default : ModuleMetadataV13) with
          name := [0x4d]
          hasCalls := true
          calls := [{ (default : FunctionMetadataV4) with name := [0x66] }] }] } }

theorem oneCall_supported : oneCall.CallsSupported := by
  simp [CallsSupported, oneCall]

theorem oneCall_plain : oneCall.PlainNames := by
  constructor <;> decide

theorem findCallIndex_exact_dotted : oneCall.FindsExactly [0x4d, 0x2e, 0x66] :=
  (findCallIndex_exact_iff oneCall_supported oneCall_plain _).mpr fun _ _ _ =>
    ⟨fun single => absurd single (by decide), fun three => absurd three (by decide)⟩

/-- The name of a module alone makes the search abort, and a third part after a call is ignored. -/
theorem findCallIndex_not_exact :
    oneCall.CallsSupported ∧ oneCall.PlainNames ∧
      ¬ oneCall.FindsExactly [0x4d] ∧ ¬ oneCall.FindsExactly [0x4d, 0x2e, 0x66, 0x2e, 0x78] := by
  refine ⟨oneCall_supported, oneCall_plain, ?_, ?_⟩
  · intro exact
    exact exact.1 rfl
  · intro exact
    have named : oneCall.IsCall [0x4d, 0x2e, 0x66, 0x2e, 0x78] := exact.2.mp ⟨_, rfl⟩
    revert named
    unfold IsCall
    decide

end Metadata

end SubstrateClient.MetadataFormat
