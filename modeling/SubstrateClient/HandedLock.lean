import SubstrateClient.Interleaving

/-!
# A lock that is handed over and given back by a signal

A keeper lets one party in at a time and remembers which.  The party leaves on its own and signals so; the keeper lets
the next one in after it has seen the signal.  The keeper's memory is therefore about a party that is inside or has
signalled, and nobody else is inside.
-/

namespace Interleaving

/-- A lock with the parties `P`. -/
structure HandedLock (P : Type) where
  /-- The party that was let in last, until its signal is seen. -/
  owner : Option P
  locked : Bool
  inside : P → Bool
  /-- A signal is under way. -/
  signal : Bool

namespace HandedLock

variable {P : Type}

/-- What holds of a lock at any time. -/
structure Exclusive (lock : HandedLock P) : Prop where
  locked_iff : lock.locked = true ↔ lock.owner ≠ none
  inside_owner : ∀ party, lock.inside party = true → lock.owner = some party ∧ lock.signal = false
  signal_owner : lock.signal = true → lock.owner ≠ none

/-- Nobody is inside an open lock. -/
theorem Exclusive.open {lock : HandedLock P} (holds : lock.Exclusive) (unlocked : lock.locked = false) (party : P) :
    lock.inside party = false ∧ lock.signal = false := by
  have no_owner : lock.owner = none := by
    by_contra owned
    simp [holds.locked_iff.mpr owned] at unlocked
  constructor
  · by_contra inside
    simp only [Bool.not_eq_false] at inside
    simpa [no_owner] using (holds.inside_owner party inside).1
  · by_contra signal
    simp only [Bool.not_eq_false] at signal
    exact holds.signal_owner signal no_owner

/-- Two parties are never inside together. -/
theorem Exclusive.unique {lock : HandedLock P} (holds : lock.Exclusive) {first second : P}
    (first_inside : lock.inside first = true) (second_inside : lock.inside second = true) : first = second := by
  have first_owner := (holds.inside_owner first first_inside).1
  have second_owner := (holds.inside_owner second second_inside).1
  rw [first_owner] at second_owner
  exact Option.some.inj second_owner

inductive Action (P : Type) where
  /-- The keeper lets a party in. -/
  | enter (party : P)
  /-- A party leaves and signals. -/
  | leave (party : P)
  /-- The keeper sees the signal. -/
  | release

variable [DecidableEq P]

/-- The system of the keeper and the parties. -/
def next : System (HandedLock P) (Action P)
  | .enter party, lock =>
      Option.when (lock.locked = false)
        { lock with owner := some party, locked := true, inside := Function.update lock.inside party true }
  | .leave party, lock =>
      Option.when (lock.inside party = true ∧ lock.signal = false)
        { lock with inside := Function.update lock.inside party false, signal := true }
  | .release, lock =>
      Option.when (lock.signal = true) { lock with owner := none, locked := false, signal := false }

theorem keeps_exclusive : (@next P _).Keeps Exclusive := by
  intro action lock after stepped holds
  cases action with
  | enter party =>
      simp only [next, Option.when_eq_some] at stepped
      obtain ⟨unlocked, rfl⟩ := stepped
      constructor
      · simp
      · intro other inside
        by_cases same : other = party
        · simp [same, (holds.open unlocked party).2]
        · have outside := (holds.open unlocked other).1
          simp [Function.update_of_ne same, outside] at inside
      · simp
  | leave party =>
      simp only [next, Option.when_eq_some] at stepped
      obtain ⟨⟨inside, quiet⟩, rfl⟩ := stepped
      have owner := (holds.inside_owner party inside).1
      constructor
      · exact holds.locked_iff
      · intro other other_inside
        by_cases same : other = party
        · simp [same] at other_inside
        · simp only [Function.update_of_ne same] at other_inside
          exact absurd (holds.unique other_inside inside) same
      · simp [owner]
  | release =>
      simp only [next, Option.when_eq_some] at stepped
      obtain ⟨signal, rfl⟩ := stepped
      constructor
      · simp
      · intro party inside
        have quiet := (holds.inside_owner party inside).2
        simp [quiet] at signal
      · simp

end HandedLock

end Interleaving
