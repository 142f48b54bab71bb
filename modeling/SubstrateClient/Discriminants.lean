import SubstrateClient.ListLookup
import SubstrateClient.ParserRelations
import SubstrateClient.TaggedUnion

/-!
# Discriminant bytes

A parser that reads one byte and branches on it.  `Definite` says of one input that a successful run
gives a value with exactly one flag that can be written as something, and that a byte which stands for
nothing is an error.  A parser that lets unknown bytes pass is definite exactly on the inputs that start
with a known one.
-/

namespace ByteParser

variable {ε α : Type}

/-- Every returned value can be written. -/
def Rewrites (write : α → Outcome ε (List UInt8)) (parser : ByteParser ε α) : Prop :=
  Ensures (fun value => ∃ bytes, write value = .ok bytes) parser

theorem rewrites_of_total {write : α → Outcome ε (List UInt8)}
    (total : ∀ value, ∃ bytes, write value = .ok bytes) (parser : ByteParser ε α) :
    Rewrites write parser :=
  fun _ value _ _ => total value

/-- The input is empty or starts with one of the tags. -/
def StartsKnown (tags input : List UInt8) : Prop :=
  ∀ tag ∈ input.head?, tag ∈ tags

section Definite

variable (flags : α → List Bool) (write : α → Outcome ε (List UInt8)) (parser : ByteParser ε α)
  (tags : List UInt8)

/-- A value read from the input has exactly one flag and is written as at least one byte, and an unknown
first byte is an error. -/
def Definite (input : List UInt8) : Prop :=
  (∀ value rest, parser input = .ok (value, rest) →
    (flags value).count true = 1 ∧ ∃ bytes, write value = .ok bytes ∧ bytes ≠ []) ∧
  ∀ tag rest, input = tag :: rest → tag ∉ tags → ∃ reason, parser input = .error reason

/-- After the tag a payload is read and kept under one flag, and the value is written as it was read. -/
def Branches (tag : UInt8) : Prop :=
  ∃ (Payload : Type) (keep : Payload → α) (payload : ByteParser ε Payload)
    (writePayload : Payload → Outcome ε (List UInt8)),
    (∀ rest, parser (tag :: rest) = (payload >>= fun read => pure (keep read)) rest) ∧
    (∀ read, (flags (keep read)).count true = 1) ∧
    (∀ read, write (keep read) = writePayload read >>= fun bytes => pure (tag :: bytes)) ∧
    Rewrites writePayload payload

variable {flags write parser tags}

/-- A tag followed by nothing. -/
theorem branches_of_tag {tag : UInt8} (value : α)
    (reads : ∀ rest, parser (tag :: rest) = .ok (value, rest))
    (one : (flags value).count true = 1) (written : write value = .ok [tag]) :
    Branches flags write parser tag :=
  ⟨Unit, fun _ => value, pure (), fun _ => .ok [], reads, fun _ => one, fun _ => written,
    rewrites_of_total (fun _ => ⟨[], rfl⟩) _⟩

theorem definite_iff (empty : ∃ reason, parser [] = .error reason)
    (known : ∀ tag ∈ tags, Branches flags write parser tag)
    (unknown : ∀ tag ∉ tags, ∀ rest, ∃ value, parser (tag :: rest) = .ok (value, rest) ∧
      (flags value).count true ≠ 1) (input : List UInt8) :
    Definite flags write parser tags input ↔ StartsKnown tags input := by
  cases input with
  | nil =>
      obtain ⟨reason, failed⟩ := empty
      refine ⟨fun _ tag starts => by simp at starts, fun _ => ⟨?_, ?_⟩⟩
      · intro value rest run
        rw [failed] at run
        cases run
      · intro tag rest starts
        cases starts
  | cons tag rest =>
      have starts_iff : StartsKnown tags (tag :: rest) ↔ tag ∈ tags := by simp [StartsKnown]
      rw [starts_iff]
      constructor
      · rintro ⟨definite, -⟩
        by_contra new
        obtain ⟨value, run, no_flag⟩ := unknown tag new rest
        exact no_flag (definite value rest run).1
      · intro member
        obtain ⟨Payload, keep, payload, writePayload, reads, one, written, rewrites⟩ := known tag member
        refine ⟨fun value after run => ?_, ?_⟩
        · rw [reads rest] at run
          obtain ⟨read, middle, payload_read, kept⟩ := bind_eq_ok.mp run
          obtain ⟨bytes, payload_written⟩ := rewrites rest read middle payload_read
          cases kept
          refine ⟨one read, tag :: bytes, ?_, List.cons_ne_nil tag bytes⟩
          rw [written read, payload_written]
          rfl
        · rintro _ _ ⟨⟩ new
          exact absurd member new

end Definite

/-! ## Tagged unions -/

section Unions

open TaggedUnion

variable {ν : Type} {Payload : ν → Type} [DecidableEq ν] {zero : (variant : ν) → Payload variant}
  {readTag : ByteParser ε UInt8} {written : List (ν × UInt8)} {read : List (UInt8 × ν)}
  {encodePayload : (variant : ν) → Payload variant → Outcome ε (List UInt8)}
  {decodePayload : (variant : ν) → ByteParser ε (Payload variant)} {variants : List ν}

/-- One flag is set, whatever the order in which the flags are listed. -/
theorem count_choose (distinct : variants.Nodup) (all : ∀ variant, variant ∈ variants) (variant : ν)
    (payload : Payload variant) :
    (variants.map (choose zero variant payload).flag).count true = 1 := by
  have counted : (variants.map (choose zero variant payload).flag).count true =
      variants.count variant := by
    rw [List.count_eq_countP, List.countP_map, List.count_eq_countP]
    refine List.countP_congr fun other _ => ?_
    simp [choose]
  rw [counted, List.count_eq_one_of_mem distinct (all variant)]

omit [DecidableEq ν] in
theorem count_blank : (variants.map (blank zero).flag).count true ≠ 1 := by
  have none_set : (variants.map (blank zero).flag).count true = 0 := by
    rw [List.count_eq_zero]
    simp [blank]
  omega

/-- A union whose unknown tags leave the zero value, which is written as nothing. -/
theorem union_definite_iff (empty : ∃ reason, readTag [] = .error reason)
    (tag_read : ∀ tag, Reads readTag [tag] tag)
    (tables : ∀ entry ∈ read,
      (written.find? fun other => decide (other.1 = entry.2)) = some (entry.2, entry.1))
    (distinct : variants.Nodup) (all : ∀ variant, variant ∈ variants)
    (payloads : ∀ variant, Rewrites (encodePayload variant) (decodePayload variant))
    (input : List UInt8) :
    Definite (fun union : TaggedUnion ν Payload => variants.map union.flag)
        (TaggedUnion.encode written encodePayload (.ok []))
        (TaggedUnion.decode zero readTag read decodePayload fun _ => pure (blank zero))
        (read.map Prod.fst) input ↔
      StartsKnown (read.map Prod.fst) input := by
  refine definite_iff ?_ (fun tag member => ?_) (fun tag new rest => ?_) input
  · obtain ⟨reason, failed⟩ := empty
    exact ⟨reason, by rw [TaggedUnion.decode, bind_apply, failed]; rfl⟩
  · obtain ⟨variant, looked_up⟩ : ∃ variant, read.lookup tag = some variant := by
      rw [← Option.isSome_iff_exists, List.lookup_isSome_iff]
      simpa using member
    have entry : (tag, variant) ∈ read := ListLookup.mem_of_lookup looked_up
    refine ⟨Payload variant, choose zero variant, decodePayload variant, encodePayload variant,
      fun rest => ?_, count_choose distinct all variant, fun payload => ?_, payloads variant⟩
    · rw [TaggedUnion.decode, bind_apply]
      have tag_first := tag_read tag rest
      rw [List.singleton_append] at tag_first
      rw [tag_first, Outcome.ok_bind, looked_up]
    · rw [TaggedUnion.encode, (selects_choose variant payload).find?_eq (tables _ entry)]
      change (encodePayload variant ((choose zero variant payload).payload variant) >>= _) = _
      rw [choose_payload]
  · refine ⟨blank zero, ?_, count_blank⟩
    have tag_first := tag_read tag rest
    rw [List.singleton_append] at tag_first
    have absent : read.lookup tag = none := by
      rw [List.lookup_eq_none_iff]
      intro entry member
      rw [bne_iff_ne]
      rintro rfl
      exact new (List.mem_map_of_mem member)
    rw [TaggedUnion.decode, bind_apply, tag_first, Outcome.ok_bind, absent]
    rfl

end Unions

end ByteParser
