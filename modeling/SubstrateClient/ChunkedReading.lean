import SubstrateClient.ByteParser

/-!
# Reading from a source that delivers chunks

A reader hands out its bytes in chunks of its own choice, at least one byte by each call until there are none
left.  A reading program asks for bytes in three ways: by one call, which may give less than was asked for; by
calls until it has what it asked for; and by calls until there is nothing left.  Run on a byte string in
memory, one call gives everything that was asked for.  A program that gives up on what one call left out
returns the same from every reader exactly if it does not ask one call for more than a byte.
-/

/-- A source of bytes, with the bytes it has not delivered yet. -/
structure Reader where
  State : Type
  /-- What is still to be delivered. -/
  remaining : State → List UInt8
  /-- One call with a buffer of the given size, or nothing at the end. -/
  read : State → Nat → Option (List UInt8 × State)
  read_end : ∀ state count, 0 < count → remaining state = [] → read state count = none
  read_chunk : ∀ state count, 0 < count → remaining state ≠ [] →
    ∃ chunk next, read state count = some (chunk, next) ∧ chunk ≠ [] ∧ chunk.length ≤ count ∧
      remaining state = chunk ++ remaining next

namespace Reader

variable (reader : Reader)

/-- Calls until a buffer of the given size is full. -/
def fill : (fuel count : Nat) → reader.State → List UInt8 × reader.State
  | 0, _, state => ([], state)
  | fuel + 1, count, state =>
      if count = 0 then
        ([], state)
      else
        match reader.read state count with
        | none => ([], state)
        | some (chunk, next) =>
            let later := fill fuel (count - chunk.length) next
            (chunk ++ later.1, later.2)

/-- Calls for one byte each until there are no more. -/
def drain : (fuel : Nat) → reader.State → List UInt8 × reader.State
  | 0, state => ([], state)
  | fuel + 1, state =>
      match reader.read state 1 with
      | none => ([], state)
      | some (chunk, next) =>
          let later := drain fuel next
          (chunk ++ later.1, later.2)

variable {reader}

theorem fill_spec {fuel count : Nat} (enough : count ≤ fuel) (state : reader.State) :
    (reader.fill fuel count state).1 = (reader.remaining state).take count ∧
      reader.remaining (reader.fill fuel count state).2 = (reader.remaining state).drop count := by
  induction fuel generalizing count state with
  | zero =>
      obtain rfl : count = 0 := Nat.le_zero.mp enough
      simp [fill]
  | succ fuel ih =>
      rw [fill]
      split_ifs with nothing
      · simp [nothing]
      · have positive : 0 < count := Nat.pos_of_ne_zero nothing
        by_cases finished : reader.remaining state = []
        · simp [reader.read_end state count positive finished, finished]
        · obtain ⟨chunk, next, call, nonempty, short, split⟩ :=
            reader.read_chunk state count positive finished
          have chunk_pos := List.length_pos_of_ne_nil nonempty
          obtain ⟨filled, left⟩ := ih (show count - chunk.length ≤ fuel by omega) next
          simp only [call, filled, left]
          rw [split, List.take_append, List.drop_append, List.take_of_length_le short,
            List.drop_of_length_le short, List.nil_append]
          exact ⟨rfl, rfl⟩

theorem drain_spec {fuel : Nat} {state : reader.State} (enough : (reader.remaining state).length ≤ fuel) :
    (reader.drain fuel state).1 = reader.remaining state ∧
      reader.remaining (reader.drain fuel state).2 = [] := by
  induction fuel generalizing state with
  | zero =>
      have finished := List.length_eq_zero_iff.mp (Nat.le_zero.mp enough)
      simp [drain, finished]
  | succ fuel ih =>
      rw [drain]
      by_cases finished : reader.remaining state = []
      · simp [reader.read_end state 1 Nat.one_pos finished, finished]
      · obtain ⟨chunk, next, call, nonempty, short, split⟩ := reader.read_chunk state 1 Nat.one_pos finished
        have chunk_pos := List.length_pos_of_ne_nil nonempty
        have shorter : (reader.remaining next).length ≤ fuel := by
          rw [split, List.length_append] at enough
          omega
        obtain ⟨drained, left⟩ := ih shorter
        simp only [call, drained, left, split, and_self]

/-- A reader of a byte string that delivers, for each size of a buffer, a fixed number of bytes. -/
def delivering (amount : Nat → Nat) (positive : ∀ count, 0 < count → 0 < amount count)
    (bounded : ∀ count, amount count ≤ count) : Reader where
  State := List UInt8
  remaining := fun state => state
  read := fun state count =>
    if state = [] then none else some (state.take (amount count), state.drop (amount count))
  read_end := by
    intro state count _ finished
    exact if_pos finished
  read_chunk := by
    intro state count count_pos unfinished
    have state_pos := List.length_pos_of_ne_nil unfinished
    have amount_pos := positive count count_pos
    have amount_le := bounded count
    refine ⟨_, _, if_neg unfinished, ?_, ?_, (List.take_append_drop _ state).symm⟩
    · refine List.ne_nil_of_length_pos ?_
      rw [List.length_take]
      omega
    · rw [List.length_take]
      omega

/-- Every call delivers what it was asked for, as far as there is as much. -/
def Whole (reader : Reader) : Prop :=
  ∀ state count chunk next, reader.read state count = some (chunk, next) →
    chunk = (reader.remaining state).take count

/-- Every call delivers one byte. -/
def Single (reader : Reader) : Prop :=
  ∀ state count chunk next, reader.read state count = some (chunk, next) → chunk.length ≤ 1

/-- A byte string in memory. -/
def memory : Reader := delivering (fun count => count) (fun _ => id) fun _ => Nat.le_refl _

/-- A byte string that is delivered byte by byte. -/
def bytewise : Reader :=
  delivering (fun count => min count 1) (fun count positive => by omega) fun count => Nat.min_le_left count 1

theorem whole_memory : memory.Whole := by
  intro state count chunk next call
  obtain ⟨-, delivered⟩ := Option.ite_none_left_eq_some.mp call
  cases delivered
  rfl

theorem single_bytewise : bytewise.Single := by
  intro state count chunk next call
  obtain ⟨-, delivered⟩ := Option.ite_none_left_eq_some.mp call
  cases delivered
  exact (List.length_take_le _ _).trans (Nat.min_le_right count 1)

end Reader

/-- A program that asks a reader for bytes.  Nothing delivered stands for the end. -/
inductive Reading (ε α : Type) : Type where
  | done (ending : Outcome ε α)
  /-- One call with a buffer of `extra + 1` bytes. -/
  | read (extra : Nat) (next : List UInt8 → Reading ε α)
  /-- Calls until a buffer of `count` bytes is full. -/
  | readFull (count : Nat) (next : List UInt8 → Reading ε α)
  /-- Calls for one byte each until the end. -/
  | readAll (next : List UInt8 → Reading ε α)

namespace Reading

variable {ε δ α β : Type}

/-- Run a program on a reader. -/
def run (reader : Reader) : Reading ε α → reader.State → Outcome ε (α × reader.State)
  | done ending, state => ending >>= fun value => .ok (value, state)
  | read extra next, state =>
      match reader.read state (extra + 1) with
      | none => (next []).run reader state
      | some (chunk, later) => (next chunk).run reader later
  | readFull count next, state =>
      let filled := reader.fill count count state
      (next filled.1).run reader filled.2
  | readAll next, state =>
      let drained := reader.drain (reader.remaining state).length state
      (next drained.1).run reader drained.2

/-- Run a program on a byte string in memory. -/
def inMemory : Reading ε α → ByteParser ε α
  | done ending, input => ending >>= fun value => .ok (value, input)
  | read extra next, input => (next (input.take (extra + 1))).inMemory (input.drop (extra + 1))
  | readFull count next, input => (next (input.take count)).inMemory (input.drop count)
  | readAll next, input => (next input).inMemory []

/-- No run of the program succeeds. -/
def Hopeless : Reading ε α → Prop
  | done ending => ¬ ending.Succeeds
  | read _ next | readFull _ next | readAll next => ∀ chunk, (next chunk).Hopeless

/-- The program gives up when one call has delivered some bytes but less than it asked for. -/
def Strict : Reading ε α → Prop
  | done _ => True
  | read extra next =>
      ∀ chunk, (next chunk).Strict ∧ (chunk ≠ [] → chunk.length ≤ extra → (next chunk).Hopeless)
  | readFull _ next | readAll next => ∀ chunk, (next chunk).Strict

/-- On the byte string, the program asks one call for more than a byte only at the end. -/
def Narrow : Reading ε α → List UInt8 → Prop
  | done _, _ => True
  | read extra next, input =>
      (extra = 0 ∨ input = []) ∧ (next (input.take (extra + 1))).Narrow (input.drop (extra + 1))
  | readFull count next, input => (next (input.take count)).Narrow (input.drop count)
  | readAll next, input => (next input).Narrow []

theorem Hopeless.not_succeeds {program : Reading ε α} (hopeless : program.Hopeless) (reader : Reader)
    (state : reader.State) : ¬ (program.run reader state).Succeeds := by
  induction program generalizing state with
  | done ending =>
      rintro ⟨result, success⟩
      obtain ⟨value, ended, -⟩ := Outcome.bind_eq_ok.mp success
      exact hopeless ⟨value, ended⟩
  | read extra next ih =>
      rw [run]
      cases reader.read state (extra + 1) with
      | none => exact ih [] (hopeless []) state
      | some call => exact ih call.1 (hopeless call.1) call.2
  | readFull count next ih => exact ih _ (hopeless _) _
  | readAll next ih => exact ih _ (hopeless _) _

/-- What a reader's run returns is what the run in memory returns. -/
theorem Strict.inMemory_of_run {program : Reading ε α} (strict : program.Strict) {reader : Reader}
    {state after : reader.State} {value : α} (success : program.run reader state = .ok (value, after)) :
    program.inMemory (reader.remaining state) = .ok (value, reader.remaining after) := by
  induction program generalizing state with
  | done ending =>
      obtain ⟨result, rfl, returned⟩ := Outcome.bind_eq_ok.mp success
      cases returned
      rfl
  | read extra next ih =>
      rw [inMemory]
      rw [run] at success
      by_cases finished : reader.remaining state = []
      · rw [reader.read_end state _ (Nat.succ_pos extra) finished] at success
        have same := ih [] (strict []).1 success
        rw [finished] at same
        rwa [finished, List.take_nil, List.drop_nil]
      · obtain ⟨chunk, later, call, nonempty, short, split⟩ :=
          reader.read_chunk state _ (Nat.succ_pos extra) finished
        rw [call] at success
        have whole : chunk.length = extra + 1 := by
          by_contra less
          exact ((strict chunk).2 nonempty (by omega)).not_succeeds reader later ⟨_, success⟩
        rw [split, ← whole, List.take_left, List.drop_left]
        exact ih chunk (strict chunk).1 success
  | readFull count next ih =>
      obtain ⟨filled, left⟩ := reader.fill_spec (Nat.le_refl count) state
      rw [inMemory, ← filled, ← left]
      exact ih _ (strict _) success
  | readAll next ih =>
      obtain ⟨drained, left⟩ := reader.drain_spec (Nat.le_refl (reader.remaining state).length)
      rw [inMemory, ← drained, ← left]
      exact ih _ (strict _) success

/-- Asking for one byte at a time, or being given all it asks for, a program sees what it sees in memory. -/
theorem run_of_inMemory {program : Reading ε α} {reader : Reader} {state : reader.State}
    (seen : program.Narrow (reader.remaining state) ∨ reader.Whole) {value : α} {rest : List UInt8}
    (success : program.inMemory (reader.remaining state) = .ok (value, rest)) :
    ∃ after, program.run reader state = .ok (value, after) ∧ reader.remaining after = rest := by
  induction program generalizing state with
  | done ending =>
      obtain ⟨result, rfl, returned⟩ := Outcome.bind_eq_ok.mp success
      cases returned
      exact ⟨state, rfl, rfl⟩
  | read extra next ih =>
      rw [inMemory] at success
      rw [run]
      by_cases finished : reader.remaining state = []
      · rw [reader.read_end state _ (Nat.succ_pos extra) finished]
        rw [Narrow, finished, List.take_nil, List.drop_nil] at seen
        rw [finished, List.take_nil, List.drop_nil] at success
        refine ih [] (seen.imp (fun narrow => ?_) id) (by rwa [finished])
        rw [finished]
        exact narrow.2
      · obtain ⟨chunk, later, call, nonempty, short, split⟩ :=
          reader.read_chunk state _ (Nat.succ_pos extra) finished
        have taken : chunk = (reader.remaining state).take (extra + 1) := by
          rcases seen with narrow | whole
          · have chunk_pos := List.length_pos_of_ne_nil nonempty
            have one := narrow.1.resolve_right finished
            rw [split, show extra + 1 = chunk.length by omega, List.take_left]
          · exact whole _ _ _ _ call
        have left : reader.remaining later = (reader.remaining state).drop (extra + 1) := by
          refine (List.append_right_inj chunk).mp ?_
          rw [← split, taken, List.take_append_drop]
        rw [call]
        rw [Narrow, ← taken, ← left] at seen
        rw [← taken, ← left] at success
        exact ih chunk (seen.imp And.right id) success
  | readFull count next ih =>
      obtain ⟨filled, left⟩ := reader.fill_spec (Nat.le_refl count) state
      rw [Narrow, ← filled, ← left] at seen
      rw [inMemory, ← filled, ← left] at success
      exact ih _ seen success
  | readAll next ih =>
      obtain ⟨drained, left⟩ := reader.drain_spec (Nat.le_refl (reader.remaining state).length)
      rw [Narrow, ← drained, ← left] at seen
      rw [inMemory, ← drained, ← left] at success
      exact ih _ seen success

/-- A program that succeeds although every call delivers a single byte has asked no call for more. -/
theorem Strict.narrow_of_single {program : Reading ε α} (strict : program.Strict) {reader : Reader}
    (single : reader.Single) {state : reader.State} (success : (program.run reader state).Succeeds) :
    program.Narrow (reader.remaining state) := by
  induction program generalizing state with
  | done ending => trivial
  | read extra next ih =>
      rw [run] at success
      by_cases finished : reader.remaining state = []
      · rw [reader.read_end state _ (Nat.succ_pos extra) finished] at success
        have later := ih [] (strict []).1 success
        rw [finished] at later
        rw [Narrow, finished, List.take_nil, List.drop_nil]
        exact ⟨.inr rfl, later⟩
      · obtain ⟨chunk, later, call, nonempty, short, split⟩ :=
          reader.read_chunk state _ (Nat.succ_pos extra) finished
        rw [call] at success
        have one := single _ _ _ _ call
        have whole : extra = 0 := by
          by_contra more
          exact ((strict chunk).2 nonempty (by omega)).not_succeeds reader later success
        have chunk_length : chunk.length = extra + 1 := by
          have := List.length_pos_of_ne_nil nonempty
          omega
        rw [Narrow, split, ← chunk_length, List.take_left, List.drop_left]
        exact ⟨.inl whole, ih chunk (strict chunk).1 success⟩
  | readFull count next ih =>
      obtain ⟨filled, left⟩ := reader.fill_spec (Nat.le_refl count) state
      rw [Narrow, ← filled, ← left]
      exact ih _ (strict _) success
  | readAll next ih =>
      obtain ⟨drained, left⟩ := reader.drain_spec (Nat.le_refl (reader.remaining state).length)
      rw [Narrow, ← drained, ← left]
      exact ih _ (strict _) success

/-- Two runs return the same value, or both fail. -/
def SameEnding {first second : Reader} (run : Outcome ε (α × first.State))
    (other : Outcome ε (α × second.State)) : Prop :=
  (∃ value after after', run = .ok (value, after) ∧ other = .ok (value, after')) ∨
    ¬ run.Succeeds ∧ ¬ other.Succeeds

/-- The program ends in the same way on all readers that deliver the bytes. -/
def Robust (program : Reading ε α) (bytes : List UInt8) : Prop :=
  ∀ (first second : Reader) (state : first.State) (state' : second.State),
    first.remaining state = bytes → second.remaining state' = bytes →
      SameEnding (program.run first state) (program.run second state')

/-- A strict program is robust on a byte string exactly if it fails on it, or asks no call for more than a byte
of it. -/
theorem Strict.robust_iff {program : Reading ε α} (strict : program.Strict) (bytes : List UInt8) :
    program.Robust bytes ↔ ((program.inMemory bytes).Succeeds → program.Narrow bytes) := by
  constructor
  · rintro robust ⟨⟨value, rest⟩, success⟩
    obtain ⟨after, run, -⟩ :=
      @run_of_inMemory _ _ program .memory bytes (.inr Reader.whole_memory) value rest success
    rcases robust .memory .bytewise bytes bytes rfl rfl with ⟨_, _, _, _, run'⟩ | ⟨fails, -⟩
    · exact strict.narrow_of_single Reader.single_bytewise ⟨_, run'⟩
    · exact absurd ⟨_, run⟩ fails
  · intro narrow first second state state' delivers delivers'
    by_cases accepted : (program.inMemory bytes).Succeeds
    · obtain ⟨⟨value, rest⟩, success⟩ := accepted
      have narrow := narrow ⟨_, success⟩
      subst delivers
      obtain ⟨after, run, -⟩ := run_of_inMemory (.inl narrow) success
      rw [← delivers'] at narrow success
      obtain ⟨after', run', -⟩ := run_of_inMemory (.inl narrow) success
      exact .inl ⟨value, after, after', run, run'⟩
    · have fails : ∀ (reader : Reader) (state : reader.State), reader.remaining state = bytes →
          ¬ (program.run reader state).Succeeds := by
        rintro reader state rfl ⟨⟨value, after⟩, success⟩
        exact accepted ⟨_, strict.inMemory_of_run success⟩
      exact .inr ⟨fails first state delivers, fails second state' delivers'⟩

/-! ## Programs in sequence -/

/-- Continue with a returned value. -/
def bind : Reading ε α → (α → Reading ε β) → Reading ε β
  | done ending, next =>
      match ending with
      | .ok value => next value
      | .error reason => done (.error reason)
      | .panic => done .panic
      | .outOfFuel => done .outOfFuel
  | read extra ask, next => read extra fun chunk => (ask chunk).bind next
  | readFull count ask, next => readFull count fun chunk => (ask chunk).bind next
  | readAll ask, next => readAll fun chunk => (ask chunk).bind next

instance : Monad (Reading ε) where
  pure value := done (.ok value)
  bind := bind

theorem bind_done (ending : Outcome ε α) (next : α → Reading ε β) :
    (done ending >>= next) =
      match ending with
      | .ok value => next value
      | .error reason => done (.error reason)
      | .panic => done .panic
      | .outOfFuel => done .outOfFuel := rfl

theorem bind_read (extra : Nat) (ask : List UInt8 → Reading ε α) (next : α → Reading ε β) :
    (read extra ask >>= next) = read extra fun chunk => ask chunk >>= next := rfl

theorem bind_readFull (count : Nat) (ask : List UInt8 → Reading ε α) (next : α → Reading ε β) :
    (readFull count ask >>= next) = readFull count fun chunk => ask chunk >>= next := rfl

theorem bind_readAll (ask : List UInt8 → Reading ε α) (next : α → Reading ε β) :
    (readAll ask >>= next) = readAll fun chunk => ask chunk >>= next := rfl

theorem bind_done_eq (program : Reading ε α) : (program >>= fun value => done (.ok value)) = program := by
  induction program with
  | done ending => cases ending <;> rfl
  | read extra ask ih => simp only [bind_read, ih]
  | readFull count ask ih => simp only [bind_readFull, ih]
  | readAll ask ih => simp only [bind_readAll, ih]

theorem bind_bind {γ : Type} (program : Reading ε α) (next : α → Reading ε β) (last : β → Reading ε γ) :
    (program >>= next >>= last) = program >>= fun value => next value >>= last := by
  induction program with
  | done ending => cases ending <;> rfl
  | read extra ask ih => simp only [bind_read, ih]
  | readFull count ask ih => simp only [bind_readFull, ih]
  | readAll ask ih => simp only [bind_readAll, ih]

instance : LawfulMonad (Reading ε) :=
  LawfulMonad.mk' (Reading ε) (fun program => bind_done_eq program) (fun _ _ => rfl)
    fun program next last => bind_bind program next last

@[simp]
theorem inMemory_pure (value : α) : (pure value : Reading ε α).inMemory = pure value := rfl

@[simp]
theorem inMemory_bind (program : Reading ε α) (next : α → Reading ε β) :
    (program >>= next).inMemory = program.inMemory >>= fun value => (next value).inMemory := by
  funext input
  induction program generalizing input with
  | done ending => cases ending <;> rfl
  | read extra ask ih => exact ih _ _
  | readFull count ask ih => exact ih _ _
  | readAll ask ih => exact ih _ _

theorem Hopeless.bind {program : Reading ε α} (hopeless : program.Hopeless) (next : α → Reading ε β) :
    (program >>= next).Hopeless := by
  induction program with
  | done ending =>
      cases ending with
      | ok value => exact absurd (Outcome.succeeds_ok value) hopeless
      | error _ | panic | outOfFuel => simp [bind_done, Hopeless, Outcome.Succeeds]
  | read extra ask ih => exact fun chunk => ih chunk (hopeless chunk)
  | readFull count ask ih => exact fun chunk => ih chunk (hopeless chunk)
  | readAll ask ih => exact fun chunk => ih chunk (hopeless chunk)

theorem strict_pure (value : α) : (pure value : Reading ε α).Strict := trivial

theorem Strict.bind {program : Reading ε α} (strict : program.Strict) {next : α → Reading ε β}
    (later : ∀ value, (next value).Strict) : (program >>= next).Strict := by
  induction program with
  | done ending =>
      cases ending with
      | ok value => exact later value
      | error _ | panic | outOfFuel => trivial
  | read extra ask ih =>
      exact fun chunk => ⟨ih chunk (strict chunk).1, fun some less => ((strict chunk).2 some less).bind next⟩
  | readFull count ask ih => exact fun chunk => ih chunk (strict chunk)
  | readAll ask ih => exact fun chunk => ih chunk (strict chunk)

/-- Two programs in sequence ask for one byte at a time exactly if the first does, and the second from where the
first ends. -/
theorem narrow_bind {program : Reading ε α} {next : α → Reading ε β} {input : List UInt8} :
    (program >>= next).Narrow input ↔
      program.Narrow input ∧
        ∀ value rest, program.inMemory input = .ok (value, rest) → (next value).Narrow rest := by
  induction program generalizing input with
  | done ending => cases ending <;> simp [bind_done, Narrow, inMemory]
  | read extra ask ih => rw [bind_read, Narrow, Narrow, ih, inMemory, and_assoc]
  | readFull count ask ih => exact ih _
  | readAll ask ih => exact ih _

/-! ## Endings -/

/-- Rewrite how a program ends. -/
def mapEnding (rewrite : Outcome ε α → Outcome δ α) : Reading ε α → Reading δ α
  | done ending => done (rewrite ending)
  | read extra ask => read extra fun chunk => (ask chunk).mapEnding rewrite
  | readFull count ask => readFull count fun chunk => (ask chunk).mapEnding rewrite
  | readAll ask => readAll fun chunk => (ask chunk).mapEnding rewrite

/-- Rewrite the errors of a program. -/
def mapError (rewrite : ε → δ) (program : Reading ε α) : Reading δ α :=
  program.mapEnding fun ending => ending.mapError rewrite

/-- Abort where a program fails. -/
def orAbort (program : Reading ε α) : Reading ε α :=
  program.mapEnding fun ending =>
    match ending with
    | .ok value => .ok value
    | _ => .panic

@[simp]
theorem inMemory_mapError (rewrite : ε → δ) (program : Reading ε α) :
    (program.mapError rewrite).inMemory = program.inMemory.mapError rewrite := by
  funext input
  induction program generalizing input with
  | done ending => cases ending <;> rfl
  | read extra ask ih => exact ih _ _
  | readFull count ask ih => exact ih _ _
  | readAll ask ih => exact ih _ _

theorem inMemory_orAbort (program : Reading ε α) (input : List UInt8) :
    program.orAbort.inMemory input =
      match program.inMemory input with
      | .ok result => .ok result
      | _ => .panic := by
  induction program generalizing input with
  | done ending => cases ending <;> rfl
  | read extra ask ih => exact ih _ _
  | readFull count ask ih => exact ih _ _
  | readAll ask ih => exact ih _ _

theorem inMemory_orAbort_eq_ok {program : Reading ε α} {input : List UInt8} {result : α × List UInt8} :
    program.orAbort.inMemory input = .ok result ↔ program.inMemory input = .ok result := by
  rw [inMemory_orAbort]
  cases program.inMemory input <;> simp

theorem narrow_mapEnding (rewrite : Outcome ε α → Outcome δ α) (program : Reading ε α) (input : List UInt8) :
    (program.mapEnding rewrite).Narrow input ↔ program.Narrow input := by
  induction program generalizing input with
  | done ending => exact Iff.rfl
  | read extra ask ih => exact and_congr_right fun _ => ih _ _
  | readFull count ask ih => exact ih _ _
  | readAll ask ih => exact ih _ _

/-- No failure is turned into a success. -/
theorem Strict.mapEnding {program : Reading ε α} (strict : program.Strict)
    {rewrite : Outcome ε α → Outcome δ α} (keeps : ∀ ending, (rewrite ending).Succeeds → ending.Succeeds) :
    (program.mapEnding rewrite).Strict := by
  have hopeless : ∀ {program : Reading ε α}, program.Hopeless → (program.mapEnding rewrite).Hopeless := by
    intro program without
    induction program with
    | done ending => exact mt (keeps ending) without
    | read extra ask ih => exact fun chunk => ih chunk (without chunk)
    | readFull count ask ih => exact fun chunk => ih chunk (without chunk)
    | readAll ask ih => exact fun chunk => ih chunk (without chunk)
  induction program with
  | done ending => trivial
  | read extra ask ih =>
      exact fun chunk => ⟨ih chunk (strict chunk).1, fun some less => hopeless ((strict chunk).2 some less)⟩
  | readFull count ask ih => exact fun chunk => ih chunk (strict chunk)
  | readAll ask ih => exact fun chunk => ih chunk (strict chunk)

theorem Strict.mapError {program : Reading ε α} (strict : program.Strict) (rewrite : ε → δ) :
    (program.mapError rewrite).Strict := by
  refine strict.mapEnding fun ending => ?_
  rintro ⟨value, success⟩
  exact ⟨value, Outcome.mapError_eq_ok.mp success⟩

theorem Strict.orAbort {program : Reading ε α} (strict : program.Strict) : program.orAbort.Strict := by
  refine strict.mapEnding fun ending => ?_
  cases ending <;> simp

/-! ## Loops -/

/-- Run a program for every entry of a fixed-length vector, in order. -/
def mapVector (step : α → Reading ε β) :
    {count : Nat} → List.Vector α count → Reading ε (List.Vector β count)
  | 0, _ => pure List.Vector.nil
  | _ + 1, entries => do
      let first ← step entries.head
      let later ← mapVector step entries.tail
      pure (List.Vector.cons first later)

theorem inMemory_mapM {step : α → Reading ε β} {parse : α → ByteParser ε β}
    (each : ∀ entry, (step entry).inMemory = parse entry) (entries : List α) :
    (entries.mapM step).inMemory = entries.mapM parse := by
  induction entries with
  | nil => rfl
  | cons entry entries ih => simp only [List.mapM_cons, inMemory_bind, inMemory_pure, each, ih]

theorem inMemory_mapVector {step : α → Reading ε β} {parse : α → ByteParser ε β}
    (each : ∀ entry, (step entry).inMemory = parse entry) {count : Nat} (entries : List.Vector α count) :
    (mapVector step entries).inMemory = ByteParser.mapVector parse entries := by
  induction count with
  | zero => rfl
  | succ count ih => simp only [mapVector, ByteParser.mapVector, inMemory_bind, inMemory_pure, each, ih]

theorem strict_mapM {step : α → Reading ε β} (each : ∀ entry, (step entry).Strict) (entries : List α) :
    (entries.mapM step).Strict := by
  induction entries with
  | nil => exact strict_pure []
  | cons entry entries ih =>
      rw [List.mapM_cons]
      exact (each entry).bind fun first => ih.bind fun later => strict_pure (first :: later)

theorem strict_mapVector {step : α → Reading ε β} (each : ∀ entry, (step entry).Strict) {count : Nat}
    (entries : List.Vector α count) : (mapVector step entries).Strict := by
  induction count with
  | zero => exact strict_pure List.Vector.nil
  | succ count ih =>
      exact (each entries.head).bind fun first => (ih entries.tail).bind fun later =>
        strict_pure (List.Vector.cons first later)

/-- A pass over the entries arrives at one that meets the condition where it begins to read. -/
def Arrives (condition : α → List UInt8 → Prop) (parse : α → ByteParser ε β) : List α → List UInt8 → Prop
  | [], _ => False
  | entry :: entries, input =>
      condition entry input ∨
        ∃ value rest, parse entry input = .ok (value, rest) ∧ Arrives condition parse entries rest

theorem not_arrives_at_nothing (parse : α → ByteParser ε β) (entries : List α) (input : List UInt8) :
    ¬ Arrives (fun _ _ => False) parse entries input := by
  induction entries generalizing input with
  | nil => exact id
  | cons entry entries ih => simp [Arrives, ih]

/-- A first part and a later one, with nothing asked for after them. -/
theorem narrow_two {γ : Type} {first : Reading ε α} {later : Reading ε β} {result : α → β → γ}
    {parse : ByteParser δ α} {input : List UInt8} {first_wide : Prop} {later_wide : List UInt8 → Prop}
    (same : ∀ value rest, first.inMemory input = .ok (value, rest) ↔ parse input = .ok (value, rest))
    (begins : first.Narrow input ↔ ¬ first_wide) (continues : ∀ rest, later.Narrow rest ↔ ¬ later_wide rest) :
    (first >>= fun value => later >>= fun values => pure (result value values)).Narrow input ↔
      ¬ (first_wide ∨ ∃ value rest, parse input = .ok (value, rest) ∧ later_wide rest) := by
  have ends : ∀ value rest, (later >>= fun values => pure (result value values)).Narrow rest ↔
      later.Narrow rest := by
    intro value rest
    rw [narrow_bind]
    exact and_iff_left fun _ _ _ => trivial
  rw [narrow_bind, begins, not_or]
  refine and_congr_right fun _ => ?_
  simp only [ends, continues, same]
  push Not
  rfl

section Narrow

variable {step : α → Reading ε β} {parse : α → ByteParser ε β} {wide : α → List UInt8 → Prop}

theorem narrow_mapM (same : ∀ entry, (step entry).inMemory = parse entry)
    (each : ∀ entry input, (step entry).Narrow input ↔ ¬ wide entry input) (entries : List α)
    (input : List UInt8) : (entries.mapM step).Narrow input ↔ ¬ Arrives wide parse entries input := by
  induction entries generalizing input with
  | nil => exact iff_of_true trivial id
  | cons entry entries ih =>
      rw [List.mapM_cons]
      exact narrow_two (fun _ _ => by rw [same]) (each entry input) ih

theorem narrow_mapVector (same : ∀ entry, (step entry).inMemory = parse entry)
    (each : ∀ entry input, (step entry).Narrow input ↔ ¬ wide entry input) {count : Nat}
    (entries : List.Vector α count) (input : List UInt8) :
    (mapVector step entries).Narrow input ↔ ¬ Arrives wide parse entries.toList input := by
  induction count generalizing input with
  | zero =>
      obtain rfl := entries.eq_nil
      exact iff_of_true trivial id
  | succ count ih =>
      have split : entries.toList = entries.head :: entries.tail.toList := by
        rw [← List.Vector.toList_cons, List.Vector.cons_head_tail]
      rw [split]
      exact narrow_two (fun _ _ => by rw [same]) (each entries.head input) (ih entries.tail)

end Narrow

end Reading
