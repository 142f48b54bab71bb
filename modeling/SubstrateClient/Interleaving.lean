import Mathlib.Data.Option.Basic
import Mathlib.Logic.Function.Basic

/-!
# Interleaved parties

A system of several parties moves by actions, and nothing fixes which party moves next: a run is any sequence of
actions that are possible one after the other.  What every action keeps, every run keeps.  A system whose actions
look like those of a smaller one, or like nothing at all, keeps what the smaller one keeps.
-/

/-- A state where the condition holds. -/
def Option.when {S : Type} (condition : Prop) [Decidable condition] (state : S) : Option S :=
  if condition then some state else none

@[simp]
theorem Option.when_eq_some {S : Type} {condition : Prop} [Decidable condition] {state next : S} :
    Option.when condition state = some next ↔ condition ∧ state = next := by
  simp [Option.when]

namespace Interleaving

variable {S A T B : Type}

/-- What an action makes of a state, where it is possible. -/
def System (S A : Type) : Type := A → S → Option S

namespace System

/-- A run: actions one after the other. -/
def run (system : System S A) : List A → S → Option S
  | [], state => some state
  | action :: actions, state => system action state >>= system.run actions

/-- Some run leads from one state to the other. -/
def Reaches (system : System S A) (start last : S) : Prop := ∃ actions, system.run actions start = some last

/-- The system, with its actions taken only where they are allowed. -/
def restrict (system : System S A) (allowed : A → S → Bool) : System S A := fun action state =>
  if allowed action state then system action state else none

variable {system : System S A} {abstract : System T B}

theorem restrict_eq_some {allowed : A → S → Bool} {action : A} {state next : S} :
    system.restrict allowed action state = some next ↔
      allowed action state = true ∧ system action state = some next := by
  simp [restrict]

theorem run_cons {action : A} {actions : List A} {start last : S} :
    system.run (action :: actions) start = some last ↔
      ∃ next, system action start = some next ∧ system.run actions next = some last := by
  simp [run, Option.bind_eq_some_iff]

theorem Reaches.refl (state : S) : system.Reaches state state := ⟨[], rfl⟩

theorem Reaches.head {action : A} {start next last : S} (first : system action start = some next)
    (later : system.Reaches next last) : system.Reaches start last := by
  obtain ⟨actions, ran⟩ := later
  exact ⟨action :: actions, run_cons.mpr ⟨next, first, ran⟩⟩

/-- Every action keeps the invariant. -/
def Keeps (system : System S A) (invariant : S → Prop) : Prop :=
  ∀ action state next, system action state = some next → invariant state → invariant next

/-- Every action keeps the invariant, given another one that holds before it. -/
def KeepsGiven (system : System S A) (given invariant : S → Prop) : Prop :=
  ∀ action state next, system action state = some next → given state → invariant state → invariant next

/-- What every action keeps, every run keeps. -/
theorem Keeps.reaches {invariant : S → Prop} (keeps : system.Keeps invariant) {start last : S}
    (reached : system.Reaches start last) (holds : invariant start) : invariant last := by
  obtain ⟨actions, ran⟩ := reached
  induction actions generalizing start with
  | nil =>
      cases ran
      exact holds
  | cons action actions ih =>
      obtain ⟨next, first, later⟩ := run_cons.mp ran
      exact ih (keeps action start next first holds) later

/-- What every action keeps together with the actions so far, every run keeps. -/
theorem keeps_along {invariant : List A → S → Prop}
    (keeps : ∀ seen action state next, system action state = some next → invariant seen state →
      invariant (seen ++ [action]) next)
    {actions : List A} {start last : S} (ran : system.run actions start = some last) {seen : List A}
    (holds : invariant seen start) : invariant (seen ++ actions) last := by
  induction actions generalizing seen start with
  | nil =>
      cases ran
      rwa [List.append_nil]
  | cons action actions ih =>
      obtain ⟨next, first, later⟩ := run_cons.mp ran
      have after := ih later (keeps seen action start next first holds)
      rwa [List.append_assoc, List.singleton_append] at after

/-- An invariant that needs another one is kept together with it. -/
theorem Keeps.and {given invariant : S → Prop} (keeps : system.Keeps given)
    (more : system.KeepsGiven given invariant) :
    system.Keeps fun state => given state ∧ invariant state := by
  intro action state next stepped holds
  exact ⟨keeps action state next stepped holds.1, more action state next stepped holds.1 holds.2⟩

/-- A restricted system keeps what the system keeps. -/
theorem Keeps.restrict {invariant : S → Prop} (keeps : system.Keeps invariant) (allowed : A → S → Bool) :
    (system.restrict allowed).Keeps invariant := by
  intro action state next stepped holds
  exact keeps action state next (restrict_eq_some.mp stepped).2 holds

/-- Seen through the view, an action does nothing or is one of the smaller system. -/
def Simulates (system : System S A) (abstract : System T B) (view : S → T) : Prop :=
  ∀ action state next, system action state = some next →
    view next = view state ∨ ∃ seen, abstract seen (view state) = some (view next)

/-- What the smaller system keeps, the larger one keeps. -/
theorem Simulates.keeps {view : S → T} (simulates : system.Simulates abstract view) {invariant : T → Prop}
    (keeps : abstract.Keeps invariant) : system.Keeps fun state => invariant (view state) := by
  intro action state next stepped holds
  rcases simulates action state next stepped with same | ⟨seen, moved⟩
  · rwa [same]
  · exact keeps seen (view state) (view next) moved holds

/-- A run is seen as a run of the smaller system. -/
theorem Simulates.reaches {view : S → T} (simulates : system.Simulates abstract view) {start last : S}
    (reached : system.Reaches start last) : abstract.Reaches (view start) (view last) := by
  obtain ⟨actions, ran⟩ := reached
  induction actions generalizing start with
  | nil =>
      cases ran
      exact .refl _
  | cons action actions ih =>
      obtain ⟨next, first, later⟩ := run_cons.mp ran
      rcases simulates action start next first with same | ⟨seen, moved⟩
      · rw [← same]
        exact ih later
      · exact .head moved (ih later)

end System

end Interleaving
