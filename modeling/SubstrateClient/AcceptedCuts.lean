import SubstrateClient.CutInput
import SubstrateClient.TaggedUnion

/-!
# The cuts a parser accepts

The proper front parts that a sequence, a list or a tagged union accepts, given those which its parts
accept.  A cut of a sequence is accepted where its second part accepts one, as long as that part does
not start without input.
-/

namespace ByteParser

variable {ε α β : Type}

/-- A sequence is cut in its second part, unless that part accepts the empty input. -/
theorem CutsAt.bind {parser : ByteParser ε α} {next : α → ByteParser ε β} {left right : List UInt8}
    {accepted accepted_next : List UInt8 → Prop} (first : CutsAt parser left accepted)
    (second : ∀ value, Reads parser left value → CutsAt (next value) right accepted_next)
    (starved : ∀ value, (∃ cut, accepted cut) → ¬ (next value []).Succeeds) :
    CutsAt (parser >>= next) (left ++ right) (Behind left accepted_next) := by
  obtain ⟨value, left_reads⟩ := first.reads
  have after := second value left_reads
  have behind : ∀ more, (parser >>= next) (left ++ more) = next value more := by
    intro more
    rw [bind_apply, left_reads]
    rfl
  have inside : ∀ cut lost, left = cut ++ lost → lost ≠ [] → ∀ result,
      (parser >>= next) cut ≠ .ok result := by
    rintro cut lost split proper ⟨result, rest⟩ success
    obtain ⟨early, middle, parsed, continued⟩ := bind_eq_ok.mp success
    obtain rfl := first.exhausts cut lost split proper early middle parsed
    have accepted_here := (first.succeeds_iff cut lost split proper).mp ⟨_, parsed⟩
    exact starved early ⟨cut, accepted_here⟩ ⟨_, continued⟩
  refine ⟨?_, ?_, ?_⟩
  · obtain ⟨result, right_reads⟩ := after.reads
    exact ⟨result, left_reads.bind right_reads⟩
  · intro cut missing split proper result rest success
    rcases append_cut_cases split with ⟨lost, left_eq, lost_ne⟩ | ⟨more, rfl, right_eq⟩
    · exact absurd success (inside cut lost left_eq lost_ne _)
    · rw [behind] at success
      exact after.exhausts more missing right_eq proper result rest success
  · intro cut missing split proper
    rcases append_cut_cases split with ⟨lost, left_eq, lost_ne⟩ | ⟨more, rfl, right_eq⟩
    · refine iff_of_false ?_ (not_behind left_eq lost_ne)
      rintro ⟨result, success⟩
      exact inside cut lost left_eq lost_ne result success
    · rw [behind, behind_append]
      exact after.succeeds_iff more missing right_eq proper

/-- A first part that accepts no cut. -/
theorem CutsAt.bind_closed {parser : ByteParser ε α} {next : α → ByteParser ε β}
    {left right : List UInt8} {accepted : List UInt8 → Prop} (first : CutsAt parser left NoCut)
    (second : ∀ value, Reads parser left value → CutsAt (next value) right accepted) :
    CutsAt (parser >>= next) (left ++ right) (Behind left accepted) :=
  first.bind second fun _ some_cut => some_cut.elim fun _ none => none.elim

/-- A pure step at the end changes nothing. -/
theorem CutsAt.bind_pure {parser : ByteParser ε α} {bytes : List UInt8}
    {accepted : List UInt8 → Prop} (cuts : CutsAt parser bytes accepted) (transform : α → β) :
    CutsAt (parser >>= fun value => pure (transform value)) bytes accepted := by
  have same : ∀ input, ((parser >>= fun value => pure (transform value)) input).Succeeds ↔
      (parser input).Succeeds := by
    intro input
    rw [bind_apply]
    cases parser input with
    | ok => exact iff_of_true ⟨_, rfl⟩ ⟨_, rfl⟩
    | error | panic | outOfFuel => simp [Outcome.Succeeds]
  obtain ⟨value, reads⟩ := cuts.reads
  refine ⟨⟨transform value, reads.bind_pure transform⟩, ?_, ?_⟩
  · intro cut missing split proper result rest success
    obtain ⟨early, middle, parsed, kept⟩ := bind_eq_ok.mp success
    obtain rfl := cuts.exhausts cut missing split proper early middle parsed
    cases kept
    rfl
  · intro cut missing split proper
    rw [same]
    exact cuts.succeeds_iff cut missing split proper

/-! ## Lists -/

/-- The items before the last are complete, and the last one is cut at an accepted place. -/
def CutInLast (encodeItem : α → Outcome ε (List UInt8)) (accepted : α → List UInt8 → Prop) :
    List α → List UInt8 → Prop
  | [], _ => False
  | [item], cut => accepted item cut
  | item :: later, cut => ∃ bytes more, encodeItem item = .ok bytes ∧ cut = bytes ++ more ∧
      CutInLast encodeItem accepted later more

theorem cutInLast_cons {encodeItem : α → Outcome ε (List UInt8)} {accepted : α → List UInt8 → Prop}
    {item next : α} {later : List α} {bytes cut : List UInt8} (encoded : encodeItem item = .ok bytes) :
    CutInLast encodeItem accepted (item :: next :: later) cut ↔
      Behind bytes (CutInLast encodeItem accepted (next :: later)) cut := by
  constructor
  · rintro ⟨written, more, success, rfl, inside⟩
    rw [encoded] at success
    cases success
    exact ⟨more, rfl, inside⟩
  · rintro ⟨more, rfl, inside⟩
    exact ⟨bytes, more, encoded, rfl, inside⟩

/-- Where no item can be cut, no list can. -/
theorem not_cutInLast {encodeItem : α → Outcome ε (List UInt8)} {items : List α} {cut : List UInt8} :
    ¬ CutInLast encodeItem (fun _ => NoCut) items cut := by
  induction items generalizing cut with
  | nil => exact id
  | cons item later ih =>
      cases later with
      | nil => exact id
      | cons next later =>
          rintro ⟨_, more, _, _, inside⟩
          exact ih inside

/-- Of several items only the last can be cut unnoticed: another one would be missed behind it. -/
theorem cutsAt_mapVector {γ : Type} {encodeItem : α → Outcome ε (List UInt8)} {decodeItem : ByteParser ε β}
    {accepted : α → List UInt8 → Prop} {count : Nat} (starts : List.Vector γ count) {items : List α}
    {chunks : List (List UInt8)} (width : items.length = count)
    (each : ∀ item ∈ items, ∀ bytes, encodeItem item = .ok bytes → CutsAt decodeItem bytes (accepted item))
    (starved : ¬ (decodeItem []).Succeeds) (encoded : items.mapM encodeItem = .ok chunks) :
    CutsAt (mapVector (fun _ => decodeItem) starts) chunks.flatten (CutInLast encodeItem accepted items) := by
  induction items generalizing count chunks with
  | nil =>
      subst width
      cases encoded
      exact (delimited_pure _).cutsAt (reads_pure _)
  | cons item later ih =>
      subst width
      rw [List.mapM_cons] at encoded
      obtain ⟨chunk, chunk_written, encoded⟩ := Outcome.bind_eq_ok.mp encoded
      obtain ⟨others, others_written, whole⟩ := Outcome.bind_eq_ok.mp encoded
      cases whole
      rw [List.flatten_cons]
      have here := each item List.mem_cons_self chunk chunk_written
      have behind := ih starts.tail rfl (fun other member => each other (List.mem_cons_of_mem _ member))
        others_written
      cases later with
      | nil =>
          cases others_written
          rw [List.reverse_nil, List.flatten_nil, List.append_nil]
          exact here.bind_pure _
      | cons next later =>
          have sequence := here.bind (fun first _ => behind.bind_pure (List.Vector.cons first)) fun first _ => ?_
          · exact sequence.congr fun cut _ _ _ => (cutInLast_cons chunk_written).symm
          · rintro ⟨⟨result, rest⟩, success⟩
            obtain ⟨_, _, all, _⟩ := bind_eq_ok.mp success
            obtain ⟨_, _, item_read, _⟩ := bind_eq_ok.mp all
            exact starved ⟨_, item_read⟩

/-- The same over a list. -/
theorem cutsAt_mapM {encodeItem : α → Outcome ε (List UInt8)} {decodeItem : ByteParser ε β}
    {accepted : α → List UInt8 → Prop} (start : β) {items : List α} {chunks : List (List UInt8)}
    (each : ∀ item ∈ items, ∀ bytes, encodeItem item = .ok bytes → CutsAt decodeItem bytes (accepted item))
    (starved : ¬ (decodeItem []).Succeeds) (encoded : items.mapM encodeItem = .ok chunks) :
    CutsAt ((List.replicate items.length start).mapM fun _ => decodeItem) chunks.flatten
      (CutInLast encodeItem accepted items) := by
  have vector := cutsAt_mapVector (List.Vector.replicate items.length start) rfl each starved encoded
  have list := vector.bind_pure List.Vector.toList
  rwa [← mapM_toList] at list

/-! ## Writers -/

/-- Whatever is written is read as something. -/
def Readable (writer : Outcome ε (List UInt8)) (parser : ByteParser ε α) : Prop :=
  ∀ bytes, writer = .ok bytes → ∃ value, Reads parser bytes value

theorem Restores.readable {writer : Outcome ε (List UInt8)} {parser : ByteParser ε α} {value : α}
    (restores : Restores writer parser value) : Readable writer parser := by
  obtain ⟨written, success, reads⟩ := restores
  intro bytes encoded
  rw [success] at encoded
  cases encoded
  exact ⟨value, reads⟩

/-- Two parts, one written and read after the other. -/
theorem Readable.pair {first second : Outcome ε (List UInt8)} {parser : ByteParser ε α}
    {other : ByteParser ε β} (left : Readable first parser) (right : Readable second other) :
    Readable (writeAll [first, second])
      (parser >>= fun value => other >>= fun result => pure (value, result)) := by
  intro bytes encoded
  obtain ⟨front, back, front_written, back_written, rfl⟩ := writeAll_pair_eq_ok.mp encoded
  obtain ⟨value, front_read⟩ := left front front_written
  obtain ⟨result, back_read⟩ := right back back_written
  exact ⟨(value, result), front_read.bind (back_read.bind_pure _)⟩

theorem Delimited.cutsAt_of_readable {writer : Outcome ε (List UInt8)} {parser : ByteParser ε α}
    {bytes : List UInt8} (delimited : Delimited parser) (readable : Readable writer parser)
    (encoded : writer = .ok bytes) : CutsAt parser bytes NoCut := by
  obtain ⟨value, reads⟩ := readable bytes encoded
  exact delimited.cutsAt reads

/-- Two parts, of which the second notices every cut and does not start without input. -/
theorem CutsAt.pair_closed {γ : Type} {first second : Outcome ε (List UInt8)} {parser : ByteParser ε α}
    {other : ByteParser ε β} {bytes : List UInt8} (combine : α → β → γ)
    (encoded : writeAll [first, second] = .ok bytes)
    (cuts : ∀ front, first = .ok front → ∃ accepted, CutsAt parser front accepted) (delimited : Delimited other)
    (readable : Readable second other) (starved : ¬ (other []).Succeeds) :
    CutsAt (parser >>= fun value => other >>= fun result => pure (combine value result)) bytes NoCut := by
  obtain ⟨front, back, front_written, back_written, rfl⟩ := writeAll_pair_eq_ok.mp encoded
  have behind := delimited.cutsAt_of_readable readable back_written
  obtain ⟨accepted, front_cuts⟩ := cuts front front_written
  have sequence := front_cuts.bind (fun value _ => behind.bind_pure (combine value)) ?_
  · apply sequence.congr
    intro cut _ _ _
    refine iff_of_false ?_ id
    rintro ⟨_, _, nothing⟩
    exact nothing
  · rintro value - ⟨⟨_, _⟩, success⟩
    obtain ⟨_, _, started, _⟩ := bind_eq_ok.mp success
    exact starved ⟨_, started⟩

/-! ## Tagged unions -/

section Unions

open TaggedUnion

variable {ν : Type} {Payload : ν → Type}

/-- Exactly the flag of one variant is set, and its payload is good. -/
def Marked (good : (variant : ν) → Payload variant → Prop) [DecidableEq ν]
    (union : TaggedUnion ν Payload) : Prop :=
  ∃ variant, (∀ other, union.flag other = decide (other = variant)) ∧
    good variant (union.payload variant)

theorem marked_of_wellFormed [DecidableEq ν] {zero : (variant : ν) → Payload variant}
    {good weaker : (variant : ν) → Payload variant → Prop} {union : TaggedUnion ν Payload}
    (well : union.WellFormed zero good)
    (weakens : ∀ variant payload, good variant payload → weaker variant payload) : Marked weaker union := by
  obtain ⟨variant, selects, holds⟩ := well
  exact ⟨variant, selects.flags, weakens variant _ holds⟩

variable [DecidableEq ν] {zero : (variant : ν) → Payload variant} {readTag : ByteParser ε UInt8}
  {written : List (ν × UInt8)} {read : List (UInt8 × ν)}
  {encodePayload : (variant : ν) → Payload variant → Outcome ε (List UInt8)}
  {decodePayload : (variant : ν) → ByteParser ε (Payload variant)}
  {writeOtherwise : Outcome ε (List UInt8)} {readOtherwise : UInt8 → ByteParser ε (TaggedUnion ν Payload)}

/-- What is written for a union with one flag: the tag of its variant and the payload. -/
theorem exists_tag_of_marked {union : TaggedUnion ν Payload} {variant : ν}
    (flags : ∀ other, union.flag other = decide (other = variant)) (agree : Agree written read)
    {bytes : List UInt8} (encoded : union.encode written encodePayload writeOtherwise = .ok bytes) :
    ∃ tag payload, bytes = tag :: payload ∧
      (written.find? fun entry => decide (entry.1 = variant)) = some (variant, tag) ∧
      read.lookup tag = some variant ∧ encodePayload variant (union.payload variant) = .ok payload := by
  obtain ⟨tag, tag_written, tag_known⟩ := agree variant
  have first_set : (written.find? fun entry => union.flag entry.1) = some (variant, tag) := by
    rw [← tag_written]
    exact congrArg (fun test => written.find? test)
      (funext fun entry : ν × UInt8 => flags entry.1)
  rw [TaggedUnion.encode, first_set] at encoded
  obtain ⟨payload, payload_written, whole⟩ := Outcome.bind_eq_ok.mp encoded
  cases whole
  exact ⟨tag, payload, rfl, tag_written, tag_known, payload_written⟩

theorem readable_union {union : TaggedUnion ν Payload} {good : (variant : ν) → Payload variant → Prop}
    (marked : Marked good union) (agree : Agree written read) (tag_read : ∀ tag, Reads readTag [tag] tag)
    (payloads : ∀ variant payload, good variant payload →
      Readable (encodePayload variant payload) (decodePayload variant)) :
    Readable (union.encode written encodePayload writeOtherwise)
      (TaggedUnion.decode zero readTag read decodePayload readOtherwise) := by
  intro bytes encoded
  obtain ⟨variant, flags, holds⟩ := marked
  obtain ⟨tag, payload, rfl, -, tag_known, payload_written⟩ := exists_tag_of_marked flags agree encoded
  obtain ⟨value, reads⟩ := payloads variant _ holds payload payload_written
  refine ⟨choose zero variant value, (tag_read tag).bind ?_⟩
  rw [tag_known]
  exact reads.bind_pure _

/-- A union is cut where its payload is. -/
theorem cutsAt_union {tag : UInt8} {variant : ν} {payload : List UInt8}
    {accepted : List UInt8 → Prop} (tag_delimited : Delimited readTag)
    (tag_read : Reads readTag [tag] tag) (tag_known : read.lookup tag = some variant)
    (cuts : CutsAt (decodePayload variant) payload accepted) :
    CutsAt (TaggedUnion.decode zero readTag read decodePayload readOtherwise) (tag :: payload)
      (Behind [tag] accepted) := by
  refine (tag_delimited.cutsAt tag_read).bind_closed fun value value_read => ?_
  have same : value = tag := by
    have twice := (value_read []).symm.trans (tag_read [])
    cases twice
    rfl
  subst same
  rw [tag_known]
  exact cuts.bind_pure _

/-- Of a union that is cut, the tag is there and the payload is cut. -/
theorem cutsAt_union_tail {tag : UInt8} {variant : ν} {payload : List UInt8}
    {accepted : List UInt8 → Prop} (tag_delimited : Delimited readTag)
    (tag_read : Reads readTag [tag] tag) (tag_known : read.lookup tag = some variant)
    (cuts : CutsAt (decodePayload variant) payload accepted) :
    CutsAt (TaggedUnion.decode zero readTag read decodePayload readOtherwise) (tag :: payload)
      fun cut => cut ≠ [] ∧ accepted cut.tail :=
  (cutsAt_union tag_delimited tag_read tag_known cuts).congr fun _ _ split _ => behind_singleton_iff split

theorem delimited_union (tag_delimited : Delimited readTag)
    (payloads : ∀ variant, Delimited (decodePayload variant))
    (otherwise : ∀ tag, Delimited (readOtherwise tag)) :
    Delimited (TaggedUnion.decode zero readTag read decodePayload readOtherwise) := by
  refine tag_delimited.bind fun tag => ?_
  cases read.lookup tag with
  | none => exact otherwise tag
  | some variant => exact (payloads variant).bind fun _ => delimited_pure _

end Unions

end ByteParser
