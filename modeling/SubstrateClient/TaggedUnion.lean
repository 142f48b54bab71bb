import Mathlib.Logic.Function.Basic
import SubstrateClient.Restoring

/-!
# Tagged unions

A union is a record with a flag and a payload for every variant.  Writing it looks for the first
variant whose flag is set, reading it sets the flag and the payload of the variant that a tag stands
for.  The two directions have tables of their own, and the round trip needs that they agree.
-/

/-- A flag and a payload for every variant. -/
@[ext]
structure TaggedUnion (ν : Type) (Payload : ν → Type) where
  flag : ν → Bool
  payload : (variant : ν) → Payload variant

namespace TaggedUnion

open ByteParser

variable {ε ν : Type} {Payload : ν → Type}

section Values

variable (zero : (variant : ν) → Payload variant)

/-- No flag is set. -/
def blank : TaggedUnion ν Payload := ⟨fun _ => false, zero⟩

variable [DecidableEq ν]

/-- One flag is set, and the other payloads are zero. -/
def choose (variant : ν) (payload : Payload variant) : TaggedUnion ν Payload :=
  ⟨fun other => decide (other = variant), Function.update zero variant payload⟩

/-- Exactly the flag of the variant is set and the payloads of the others are zero. -/
structure Selects (union : TaggedUnion ν Payload) (variant : ν) : Prop where
  flags : ∀ other, union.flag other = decide (other = variant)
  others : ∀ other, other ≠ variant → union.payload other = zero other

/-- Exactly one flag is set, the payloads of the others are zero, and its own payload is good. -/
def WellFormed (good : (variant : ν) → Payload variant → Prop) (union : TaggedUnion ν Payload) : Prop :=
  ∃ variant, union.Selects zero variant ∧ good variant (union.payload variant)

variable {zero}

theorem Selects.eq_choose {union : TaggedUnion ν Payload} {variant : ν}
    (selects : union.Selects zero variant) : union = choose zero variant (union.payload variant) := by
  refine TaggedUnion.ext (funext selects.flags) (funext fun other => ?_)
  by_cases same : other = variant
  · subst same
    exact (Function.update_self other (union.payload other) zero).symm
  · exact (selects.others other same).trans (Function.update_of_ne same _ zero).symm

theorem selects_choose (variant : ν) (payload : Payload variant) :
    (choose zero variant payload).Selects zero variant where
  flags := fun _ => rfl
  others := fun _ different => Function.update_of_ne different payload zero

theorem choose_payload (variant : ν) (payload : Payload variant) :
    (choose zero variant payload).payload variant = payload :=
  Function.update_self variant payload zero

theorem wellFormed_choose {good : (variant : ν) → Payload variant → Prop} {variant : ν}
    {payload : Payload variant} (holds : good variant payload) :
    (choose zero variant payload).WellFormed zero good :=
  ⟨variant, selects_choose variant payload, (choose_payload variant payload).symm ▸ holds⟩

end Values

/-- The first variant whose flag is set decides the tag and the payload. -/
def encode (cases : List (ν × UInt8))
    (encodePayload : (variant : ν) → Payload variant → Outcome ε (List UInt8))
    (otherwise : Outcome ε (List UInt8)) (union : TaggedUnion ν Payload) : Outcome ε (List UInt8) :=
  match cases.find? fun entry => union.flag entry.1 with
  | some (variant, tag) => do
      let bytes ← encodePayload variant (union.payload variant)
      pure (tag :: bytes)
  | none => otherwise

variable [DecidableEq ν]

/-- The tag decides which flag is set and which payload is read. -/
def decode (zero : (variant : ν) → Payload variant) (readTag : ByteParser ε UInt8)
    (cases : List (UInt8 × ν)) (decodePayload : (variant : ν) → ByteParser ε (Payload variant))
    (otherwise : UInt8 → ByteParser ε (TaggedUnion ν Payload)) :
    ByteParser ε (TaggedUnion ν Payload) := do
  let tag ← readTag
  match cases.lookup tag with
  | some variant => do
      let payload ← decodePayload variant
      pure (choose zero variant payload)
  | none => otherwise tag

/-- Every variant has a tag, and the tag stands for that variant. -/
def Agree (written : List (ν × UInt8)) (read : List (UInt8 × ν)) : Prop :=
  ∀ variant, ∃ tag, (written.find? fun entry => decide (entry.1 = variant)) = some (variant, tag) ∧
    read.lookup tag = some variant

/-- The first set flag is that of the selected variant. -/
theorem Selects.find?_eq {zero : (variant : ν) → Payload variant} {union : TaggedUnion ν Payload}
    {variant : ν} (selects : union.Selects zero variant) {written : List (ν × UInt8)} {tag : UInt8}
    (tag_written : (written.find? fun entry => decide (entry.1 = variant)) = some (variant, tag)) :
    (written.find? fun entry => union.flag entry.1) = some (variant, tag) :=
  (congrArg (fun test => written.find? test)
    (funext fun entry : ν × UInt8 => selects.flags entry.1)).trans tag_written

variable {zero : (variant : ν) → Payload variant} {readTag : ByteParser ε UInt8}
  {written : List (ν × UInt8)} {read : List (UInt8 × ν)}
  {encodePayload : (variant : ν) → Payload variant → Outcome ε (List UInt8)}
  {decodePayload : (variant : ν) → ByteParser ε (Payload variant)}
  {writeOtherwise : Outcome ε (List UInt8)}
  {readOtherwise : UInt8 → ByteParser ε (TaggedUnion ν Payload)}

/-- If the tables agree, a well-formed union is restored as soon as its payload is. -/
theorem restores {good : (variant : ν) → Payload variant → Prop} {union : TaggedUnion ν Payload}
    (agree : Agree written read) (tag_read : ∀ tag, Reads readTag [tag] tag)
    (payloads : ∀ variant payload, good variant payload →
      Restores (encodePayload variant payload) (decodePayload variant) payload)
    (well : union.WellFormed zero good) :
    Restores (union.encode written encodePayload writeOtherwise)
      (decode zero readTag read decodePayload readOtherwise) union := by
  obtain ⟨variant, selects, holds⟩ := well
  obtain ⟨tag, tag_written, tag_known⟩ := agree variant
  obtain ⟨bytes, payload_written, payload_read⟩ := payloads variant _ holds
  refine ⟨tag :: bytes, ?_, ?_⟩
  · rw [encode, selects.find?_eq tag_written]
    exact Outcome.bind_eq_ok.mpr ⟨bytes, payload_written, rfl⟩
  · refine (tag_read tag).bind ?_
    rw [tag_known]
    have reads := payload_read.bind_pure (choose zero variant)
    rwa [← selects.eq_choose] at reads

/-! ## Flags without payloads -/

/-- A union in which no variant has a payload. -/
abbrev Flags (ν : Type) : Type := TaggedUnion ν fun _ => Unit

/-- Only the tag is written. -/
def encodeFlags (cases : List (ν × UInt8)) (otherwise : Outcome ε (List UInt8)) (flags : Flags ν) :
    Outcome ε (List UInt8) :=
  flags.encode cases (fun _ _ => .ok []) otherwise

/-- Only the tag is read. -/
def decodeFlags (readTag : ByteParser ε UInt8) (cases : List (UInt8 × ν))
    (otherwise : UInt8 → ByteParser ε (Flags ν)) : ByteParser ε (Flags ν) :=
  decode (fun _ => ()) readTag cases (fun _ => pure ()) otherwise

/-- Exactly one flag is set. -/
def OneFlag (flags : Flags ν) : Prop := flags.WellFormed (fun _ => ()) fun _ _ => True

theorem restores_flags {writeOtherwise : Outcome ε (List UInt8)}
    {readOtherwise : UInt8 → ByteParser ε (Flags ν)} {flags : Flags ν} (agree : Agree written read)
    (tag_read : ∀ tag, Reads readTag [tag] tag) (one : OneFlag flags) :
    Restores (encodeFlags written writeOtherwise flags) (decodeFlags readTag read readOtherwise)
      flags :=
  restores agree tag_read (fun _ _ _ => ⟨[], rfl, reads_pure ()⟩) one

end TaggedUnion
