import SubstrateClient.TaggedUnion

/-!
# Trees of tagged unions

A node is a union together with lists of further nodes.  A variant may own one of the lists, which is
written after its payload.  Reading is bounded by fuel, and as much of it as there are bytes is enough.
-/

/-- A union, and a list of trees for every field that holds one. -/
inductive TaggedTree (ν κ : Type) (Payload : ν → Type) : Type where
  | node (head : TaggedUnion ν Payload) (children : κ → List (TaggedTree ν κ Payload))

namespace TaggedTree

open ByteParser TaggedUnion

variable {ε ν κ : Type} {Payload : ν → Type}

section Values

variable (zero : (variant : ν) → Payload variant)

/-- No flag is set and all lists are empty. -/
def blank : TaggedTree ν κ Payload := node (TaggedUnion.blank zero) fun _ => []

variable [DecidableEq ν] [DecidableEq κ]

/-- One flag is set, and only the list that its variant owns has items. -/
def choose (field : ν → Option κ) (variant : ν) (payload : Payload variant)
    (items : List (TaggedTree ν κ Payload)) : TaggedTree ν κ Payload :=
  node (TaggedUnion.choose zero variant payload) fun other =>
    if field variant = some other then items else []

/-- At every node exactly one flag is set, its own payload is good, and all that it does not own is
zero. -/
inductive WellFormed (field : ν → Option κ) (good : (variant : ν) → Payload variant → Prop)
    (allowed : Nat → Prop) : TaggedTree ν κ Payload → Prop where
  | node {head : TaggedUnion ν Payload} {children : κ → List (TaggedTree ν κ Payload)} {variant : ν}
      (selects : head.Selects zero variant) (holds : good variant (head.payload variant))
      (others : ∀ list, field variant ≠ some list → children list = [])
      (short : ∀ list, allowed (children list).length)
      (each : ∀ list, ∀ child ∈ children list, WellFormed field good allowed child) :
      WellFormed field good allowed (node head children)

variable {zero}

/-- A node that selects a variant is the one that its payload and its list make. -/
theorem node_eq_choose {field : ν → Option κ} {head : TaggedUnion ν Payload}
    {children : κ → List (TaggedTree ν κ Payload)} {variant : ν} (selects : head.Selects zero variant)
    (items : List (TaggedTree ν κ Payload)) (own : ∀ list, field variant = some list → children list = items)
    (others : ∀ list, field variant ≠ some list → children list = []) :
    node head children = choose zero field variant (head.payload variant) items := by
  have lists : children = fun other => if field variant = some other then items else [] := by
    funext other
    split_ifs with owned
    · exact own other owned
    · exact others other owned
  rw [choose, ← selects.eq_choose, lists]

theorem wellFormed_choose {field : ν → Option κ} {good : (variant : ν) → Payload variant → Prop}
    {allowed : Nat → Prop} {variant : ν} {payload : Payload variant}
    {items : List (TaggedTree ν κ Payload)} (holds : good variant payload) (none_allowed : allowed 0)
    (short : allowed items.length) (each : ∀ item ∈ items, item.WellFormed zero field good allowed) :
    (choose zero field variant payload items).WellFormed zero field good allowed := by
  refine .node (selects_choose variant payload) ((choose_payload variant payload).symm ▸ holds)
    (fun list other => if_neg other) (fun list => ?_) (fun list child member => ?_)
  · split_ifs
    · exact short
    · exact none_allowed
  · split_ifs at member
    · exact each child member
    · cases member

end Values

section Codec

variable (field : ν → Option κ) (encodePayload : (variant : ν) → Payload variant → Outcome ε (List UInt8))
  (writeList : List (Outcome ε (List UInt8)) → Outcome ε (List UInt8))

mutual

/-- The first variant whose flag is set decides the tag, the payload and the list. -/
def encode (cases : List (ν × UInt8)) (otherwise : Outcome ε (List UInt8)) :
    TaggedTree ν κ Payload → Outcome ε (List UInt8)
  | node head children =>
      match cases.find? fun entry => head.flag entry.1 with
      | some (variant, tag) =>
          match field variant with
          | some list => writeAll [.ok [tag], encodePayload variant (head.payload variant),
              writeList (encodeEach cases otherwise (children list))]
          | none => writeAll [.ok [tag], encodePayload variant (head.payload variant)]
      | none => otherwise

/-- The items of a list, each on its own. -/
def encodeEach (cases : List (ν × UInt8)) (otherwise : Outcome ε (List UInt8)) :
    List (TaggedTree ν κ Payload) → List (Outcome ε (List UInt8))
  | [] => []
  | tree :: trees => encode cases otherwise tree :: encodeEach cases otherwise trees

end

variable [DecidableEq ν] [DecidableEq κ]

/-- The tag decides which flag is set, which payload is read and which list. -/
def decode (zero : (variant : ν) → Payload variant) (readTag : ByteParser ε UInt8)
    (cases : List (UInt8 × ν)) (decodePayload : (variant : ν) → ByteParser ε (Payload variant))
    (readList : ByteParser ε (TaggedTree ν κ Payload) → ByteParser ε (List (TaggedTree ν κ Payload)))
    (otherwise : UInt8 → ByteParser ε (TaggedTree ν κ Payload)) :
    Nat → ByteParser ε (TaggedTree ν κ Payload)
  | 0 => exhaust
  | fuel + 1 => do
      let tag ← readTag
      match cases.lookup tag with
      | some variant => do
          let payload ← decodePayload variant
          match field variant with
          | some _ => do
              let items ← readList (decode zero readTag cases decodePayload readList otherwise fuel)
              pure (choose zero field variant payload items)
          | none => pure (choose zero field variant payload [])
      | none => otherwise tag

end Codec

/-- Chunks of an allowed number are written as a list no shorter than any of them, and read back one by
one. -/
def ListLaw {α : Type} (allowed : Nat → Prop)
    (writeList : List (Outcome ε (List UInt8)) → Outcome ε (List UInt8))
    (readList : ByteParser ε α → ByteParser ε (List α)) : Prop :=
  ∀ chunks : List (List UInt8), allowed chunks.length →
    ∃ bytes, writeList (chunks.map .ok) = .ok bytes ∧ (∀ chunk ∈ chunks, chunk.length ≤ bytes.length) ∧
      ∀ parser values, List.Forall₂ (Reads parser) chunks values → Reads (readList parser) bytes values

section RoundTrip

variable {zero : (variant : ν) → Payload variant} {field : ν → Option κ}
  {readTag : ByteParser ε UInt8} {written : List (ν × UInt8)} {read : List (UInt8 × ν)}
  {encodePayload : (variant : ν) → Payload variant → Outcome ε (List UInt8)}
  {decodePayload : (variant : ν) → ByteParser ε (Payload variant)}
  {writeList : List (Outcome ε (List UInt8)) → Outcome ε (List UInt8)}
  {readList : ByteParser ε (TaggedTree ν κ Payload) → ByteParser ε (List (TaggedTree ν κ Payload))}
  {writeOtherwise : Outcome ε (List UInt8)}
  {readOtherwise : UInt8 → ByteParser ε (TaggedTree ν κ Payload)}

/-- Trees that are written one by one are written as a list of chunks. -/
theorem exists_chunks {trees : List (TaggedTree ν κ Payload)}
    {related : List UInt8 → TaggedTree ν κ Payload → Prop}
    (each : ∀ tree ∈ trees, ∃ bytes,
      encode field encodePayload writeList written writeOtherwise tree = .ok bytes ∧ related bytes tree) :
    ∃ chunks, encodeEach field encodePayload writeList written writeOtherwise trees = chunks.map .ok ∧
      List.Forall₂ related chunks trees := by
  induction trees with
  | nil => exact ⟨[], rfl, .nil⟩
  | cons tree trees ih =>
      obtain ⟨bytes, tree_written, holds⟩ := each tree List.mem_cons_self
      obtain ⟨chunks, trees_written, later⟩ := ih fun other member =>
        each other (List.mem_cons_of_mem tree member)
      refine ⟨bytes :: chunks, ?_, .cons holds later⟩
      rw [encodeEach, tree_written, trees_written]
      rfl

/-- A list of restored trees is restored by any fuel that its bytes do not exceed. -/
theorem list_restores {allowed : Nat → Prop} {trees : List (TaggedTree ν κ Payload)}
    {family : Nat → ByteParser ε (TaggedTree ν κ Payload)} (law : ListLaw allowed writeList readList)
    (short : allowed trees.length)
    (each : ∀ tree ∈ trees, ∃ bytes,
      encode field encodePayload writeList written writeOtherwise tree = .ok bytes ∧
        ∀ fuel, bytes.length ≤ fuel → Reads (family fuel) bytes tree) :
    ∃ bytes, writeList (encodeEach field encodePayload writeList written writeOtherwise trees) = .ok bytes ∧
      ∀ fuel, bytes.length ≤ fuel → Reads (readList (family fuel)) bytes trees := by
  obtain ⟨chunks, chunks_written, related⟩ := exists_chunks each
  have count : chunks.length = trees.length := related.length_eq
  obtain ⟨bytes, list_written, bounds, list_read⟩ := law chunks (count ▸ short)
  refine ⟨bytes, chunks_written ▸ list_written, fun fuel enough => list_read _ _ ?_⟩
  have bounded := (List.forall₂_and_left ..).mpr ⟨bounds, related⟩
  exact bounded.imp fun _ _ both => both.2 fuel (both.1.trans enough)

variable [DecidableEq ν] [DecidableEq κ]

/-- If the tables agree, a well-formed tree is restored by any fuel that its bytes do not exceed. -/
theorem restores {good : (variant : ν) → Payload variant → Prop} {allowed : Nat → Prop}
    {tree : TaggedTree ν κ Payload} (agree : Agree written read)
    (tag_read : ∀ tag, Reads readTag [tag] tag)
    (payloads : ∀ variant payload, good variant payload →
      Restores (encodePayload variant payload) (decodePayload variant) payload)
    (law : ListLaw allowed writeList readList) (well : tree.WellFormed zero field good allowed) :
    ∃ bytes, encode field encodePayload writeList written writeOtherwise tree = .ok bytes ∧
      ∀ fuel, bytes.length ≤ fuel →
        Reads (decode field zero readTag read decodePayload readList readOtherwise fuel) bytes tree := by
  -- The fuel of a child is one less than that of its node, and so is the number of bytes left for it.
  induction well with
  | @node head children variant selects holds others short each ih =>
      obtain ⟨tag, tag_written, tag_known⟩ := agree variant
      obtain ⟨payload, payload_written, payload_read⟩ := payloads variant _ holds
      have first := selects.find?_eq tag_written
      cases owned : field variant with
      | none =>
          refine ⟨tag :: payload, ?_, fun fuel enough => ?_⟩
          · simp [encode, first, owned, writeAll, payload_written]
          · cases fuel with
            | zero => cases enough
            | succ fuel =>
                refine (tag_read tag).bind ?_
                simp only [tag_known, owned]
                rw [node_eq_choose selects [] (fun list own => by cases owned.symm.trans own) others]
                exact payload_read.bind_pure _
      | some list =>
          obtain ⟨bytes, list_written, list_read⟩ := list_restores law (short list) (ih list)
          refine ⟨tag :: (payload ++ bytes), ?_, fun fuel enough => ?_⟩
          · simp [encode, first, owned, writeAll, payload_written, list_written]
          · cases fuel with
            | zero => cases enough
            | succ fuel =>
                have room : bytes.length ≤ fuel := by
                  simp only [List.length_cons, List.length_append] at enough
                  omega
                have own : ∀ other, field variant = some other → children other = children list :=
                  fun other own => congrArg children (Option.some.inj (own.symm.trans owned))
                refine (tag_read tag).bind ?_
                simp only [tag_known, owned]
                rw [node_eq_choose selects (children list) own others]
                exact payload_read.bind ((list_read fuel room).bind_pure _)

end RoundTrip

end TaggedTree
