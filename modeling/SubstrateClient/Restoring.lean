import SubstrateClient.ByteParser

/-!
# Writers and the parsers that restore them

A writer restores a value through a parser if it succeeds and its bytes are exactly what the parser
consumes to return the value.  The relation composes along the fields of a record.
-/

variable {ε α β : Type}

/-- Writers one after another. -/
def writeAll : List (Outcome ε (List UInt8)) → Outcome ε (List UInt8)
  | [] => .ok []
  | writer :: writers => do
      let bytes ← writer
      let later ← writeAll writers
      pure (bytes ++ later)

theorem writeAll_cons_eq_ok {writer : Outcome ε (List UInt8)} {writers : List (Outcome ε (List UInt8))}
    {bytes : List UInt8} :
    writeAll (writer :: writers) = .ok bytes ↔
      ∃ front back, writer = .ok front ∧ writeAll writers = .ok back ∧ bytes = front ++ back := by
  simp only [writeAll, Outcome.bind_eq_ok, Outcome.pure_eq, Outcome.ok.injEq]
  constructor
  · rintro ⟨front, front_written, back, back_written, rfl⟩
    exact ⟨front, back, front_written, back_written, rfl⟩
  · rintro ⟨front, back, front_written, back_written, rfl⟩
    exact ⟨front, front_written, back, back_written, rfl⟩

theorem writeAll_pair_eq_ok {first second : Outcome ε (List UInt8)} {bytes : List UInt8} :
    writeAll [first, second] = .ok bytes ↔
      ∃ front back, first = .ok front ∧ second = .ok back ∧ bytes = front ++ back := by
  rw [writeAll_cons_eq_ok]
  refine exists_congr fun front => exists_congr fun back => and_congr_right fun _ => ?_
  refine and_congr_left fun _ => ?_
  cases second <;> simp [writeAll]

namespace ByteParser

/-- The writer succeeds, and the parser returns the value from exactly its bytes. -/
def Restores (writer : Outcome ε (List UInt8)) (parser : ByteParser ε α) (value : α) : Prop :=
  ∃ bytes, writer = .ok bytes ∧ Reads parser bytes value

theorem restores_nil (value : α) : Restores (writeAll []) (pure value : ByteParser ε α) value :=
  ⟨[], rfl, reads_pure value⟩

/-- The first field is restored, and then the others by what the parser does with it. -/
theorem Restores.cons {writer : Outcome ε (List UInt8)} {writers : List (Outcome ε (List UInt8))}
    {parser : ByteParser ε α} {next : α → ByteParser ε β} {value : α} {result : β}
    (first : Restores writer parser value) (later : Restores (writeAll writers) (next value) result) :
    Restores (writeAll (writer :: writers)) (parser >>= next) result := by
  obtain ⟨bytes, written, reads⟩ := first
  obtain ⟨others, others_written, others_read⟩ := later
  refine ⟨bytes ++ others, ?_, reads.bind others_read⟩
  rw [writeAll, written, others_written]
  rfl

/-- The last field, with nothing written after it. -/
theorem Restores.last {writer : Outcome ε (List UInt8)} {parser : ByteParser ε α} {value : α}
    (only : Restores writer parser value) (transform : α → β) :
    Restores (writeAll [writer]) (parser >>= fun value => pure (transform value)) (transform value) :=
  only.cons (restores_nil (transform value))

theorem Restores.map {writer : Outcome ε (List UInt8)} {parser : ByteParser ε α} {value : α}
    (restores : Restores writer parser value) (transform : α → β) :
    Restores writer (parser >>= fun value => pure (transform value)) (transform value) := by
  obtain ⟨bytes, written, reads⟩ := restores
  exact ⟨bytes, written, reads.bind_pure transform⟩

/-- Two fields that are kept as a pair. -/
theorem Restores.pair {writer other : Outcome ε (List UInt8)} {parser : ByteParser ε α}
    {second : ByteParser ε β} {value : α} {result : β} (first : Restores writer parser value)
    (later : Restores other second result) :
    Restores (writeAll [writer, other])
      (parser >>= fun value => second >>= fun result => pure (value, result)) (value, result) :=
  first.cons (later.last _)

theorem Restores.mapError {δ : Type} {writer : Outcome ε (List UInt8)} {parser : ByteParser ε α}
    {value : α} (restores : Restores writer parser value) (rewrite : ε → δ) :
    Restores (writer.mapError rewrite) (parser.mapError rewrite) value := by
  obtain ⟨bytes, written, reads⟩ := restores
  exact ⟨bytes, Outcome.mapError_eq_ok.mpr written, reads.mapError rewrite⟩

/-- Rewriting the errors of the writer alone changes nothing, since it has none. -/
theorem Restores.mapErrorLeft {writer : Outcome ε (List UInt8)} {parser : ByteParser ε α} {value : α}
    (restores : Restores writer parser value) {rewrite : ε → ε} :
    Restores (writer.mapError rewrite) parser value := by
  obtain ⟨bytes, written, reads⟩ := restores
  exact ⟨bytes, Outcome.mapError_eq_ok.mpr written, reads⟩

end ByteParser
