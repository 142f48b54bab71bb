import SubstrateClient.Interleaving

/-!
# Stopping a server

Every connection of a server is served by a call of `ServeCodec`, which waits until the codec is closed.  `Stop` takes
the server out of service and closes the codecs of its set, through the function that it hands to the set's `Each`.
The sets come from a package outside this repository; of it only what it says about `Each` is used.
-/

namespace SubstrateClient.Rpc

open Interleaving

/-- Where a call of `ServeCodec` is. -/
inductive ServePhase where
  | unborn
  /-- Before the load of `run`. -/
  | called
  /-- `run` was set, and the codec is not in the set yet. -/
  | admitted
  /-- Waiting for `codec.Closed`. -/
  | serving
  /-- The client of the connection is closed, and the codec is still in the set. -/
  | closing
  | returned
  deriving DecidableEq, Repr

/-- Who was the first to close a codec. -/
inductive Closer where
  | connection | stop | serveCodec
  deriving DecidableEq, Repr

/-- What the server uses of the package `mapset`.  `Each` may come to the members of a set in any order, which is chosen
anew at every call. -/
structure SetPackage where
  Set : Type
  newSet : Set
  add : Set → Nat → Set
  remove : Set → Nat → Set
  each : {State : Type} → Set → (choice : Nat) → (Nat → State → State × Bool) → State → State

/-- The function is called on one element after another until it returns true. -/
def untilTrue {State : Type} (function : Nat → State → State × Bool) : List Nat → State → State
  | [], state => state
  | element :: elements, state =>
      if (function element state).2 then (function element state).1
      else untilTrue function elements (function element state).1

/-- What the package says about `Each`: it runs over elements and executes the function against each, and stops when
the function returns true. -/
structure SetPackage.Documented (package : SetPackage) : Prop where
  each : ∀ {State : Type} (set : package.Set) (choice : Nat) (function : Nat → State → State × Bool) (state : State),
    ∃ elements, package.each set choice function state = untilTrue function elements state

/-- A server with the codecs that it was given, each by its own call of `ServeCodec`. -/
structure Server (package : SetPackage) where
  run : Bool
  codecs : package.Set
  phase : Nat → ServePhase
  closed : Nat → Option Closer
  /-- A call of `Stop` has swapped `run` and not yet gone through the set. -/
  stopping : Bool

namespace Server

variable {package : SetPackage}

/-- `NewServer`. -/
def newServer : Server package := ⟨true, package.newSet, fun _ => .unborn, fun _ => none, false⟩

/-- `ServerCodec.Close`, which acts once only. -/
def close (closer : Closer) (codec : Nat) (server : Server package) : Server package :=
  { server with closed := Function.update server.closed codec (server.closed codec <|> some closer) }

/-- The call of `ServeCodec` for the codec moves on. -/
def goto (codec : Nat) (phase : ServePhase) (server : Server package) : Server package :=
  { server with phase := Function.update server.phase codec phase }

/-- The function that `Stop` hands to `Each`. -/
def stopCodec (codec : Nat) (server : Server package) : Server package × Bool := (server.close .stop codec, true)

/-- What can happen next. -/
inductive Action where
  /-- `ServeCodec` is called with a new codec. -/
  | serveCodec (codec : Nat)
  /-- It loads `run`. -/
  | load (codec : Nat)
  /-- It adds the codec to the set and starts the client of the connection. -/
  | add (codec : Nat)
  /-- The connection ends: the other side or an error closes the codec. -/
  | connectionEnds (codec : Nat)
  /-- `ServeCodec` sees the codec closed and closes the client. -/
  | seeClosed (codec : Nat)
  /-- It removes the codec from the set, closes it and returns. -/
  | finish (codec : Nat)
  /-- `Stop` is called and swaps `run`. -/
  | swap
  /-- `Stop` goes through the set, which is locked meanwhile. -/
  | goThrough (choice : Nat)

/-- What an action makes of the server. -/
def next : System (Server package) Action
  | .serveCodec codec, server => Option.when (server.phase codec = .unborn) (server.goto codec .called)
  | .load codec, server =>
      Option.when (server.phase codec = .called)
        (if server.run then server.goto codec .admitted else (server.close .serveCodec codec).goto codec .returned)
  | .add codec, server =>
      Option.when (server.phase codec = .admitted)
        ({ server with codecs := package.add server.codecs codec }.goto codec .serving)
  | .connectionEnds codec, server =>
      Option.when (server.phase codec ≠ .unborn) (server.close .connection codec)
  | .seeClosed codec, server =>
      Option.when (server.phase codec = .serving ∧ server.closed codec ≠ none) (server.goto codec .closing)
  | .finish codec, server =>
      Option.when (server.phase codec = .closing)
        (({ server with codecs := package.remove server.codecs codec }.close .serveCodec codec).goto codec .returned)
  | .swap, server => some (if server.run then { server with run := false, stopping := true } else server)
  | .goThrough choice, server =>
      Option.when (server.stopping = true)
        { package.each server.codecs choice stopCodec server with stopping := false }

/-! ## One codec at most -/

variable {server after : Server package} {codec other : Nat} {closer : Closer}

theorem phase_goto_of_ne {phase : ServePhase} (apart : codec ≠ other) :
    (server.goto other phase).phase codec = server.phase codec :=
  Function.update_of_ne apart _ _

theorem closed_close_of_ne (apart : codec ≠ other) : (server.close closer other).closed codec = server.closed codec :=
  Function.update_of_ne apart _ _

theorem closed_close_eq_stop (closed : (server.close closer codec).closed other = some .stop) :
    server.closed other = some .stop ∨ closer = .stop ∧ other = codec := by
  by_cases same : other = codec
  · subst same
    simp only [close, Function.update_self] at closed
    cases before : server.closed other with
    | none =>
        rw [before] at closed
        cases closed
        exact .inr ⟨rfl, rfl⟩
    | some earlier =>
        rw [before] at closed
        exact .inl closed
  · rw [closed_close_of_ne same] at closed
    exact .inl closed

/-- The function returns true, so that `Each` comes to one member only. -/
theorem each_stopCodec (documented : package.Documented) (set : package.Set) (choice : Nat) (server : Server package) :
    package.each set choice stopCodec server = server ∨
      ∃ codec, package.each set choice stopCodec server = server.close .stop codec := by
  obtain ⟨elements, same⟩ := documented.each set choice stopCodec server
  rw [same]
  cases elements with
  | nil => exact .inl rfl
  | cons codec elements => exact .inr ⟨codec, rfl⟩

/-- `Stop` has closed no codec before it goes through the set, and one codec at most. -/
structure StopsOne (server : Server package) : Prop where
  stopping : server.stopping = true → server.run = false
  before : server.run = true ∨ server.stopping = true → ∀ codec, server.closed codec ≠ some .stop
  one : ∀ codec other, server.closed codec = some .stop → server.closed other = some .stop → codec = other

/-- Closing by others than `Stop`. -/
theorem StopsOne.of_closed (stops : server.StopsOne) (run : after.run = server.run)
    (stopping : after.stopping = server.stopping)
    (closed : ∀ codec, after.closed codec = some .stop → server.closed codec = some .stop) : after.StopsOne := by
  refine ⟨?_, ?_, ?_⟩
  · rw [run, stopping]
    exact stops.stopping
  · rw [run, stopping]
    exact fun before codec now => stops.before before codec (closed codec now)
  · exact fun codec other now too => stops.one codec other (closed codec now) (closed other too)

theorem StopsOne.close (stops : server.StopsOne) (apart : closer ≠ .stop) : (server.close closer codec).StopsOne :=
  stops.of_closed rfl rfl fun _ closed => (closed_close_eq_stop closed).resolve_right fun stop => apart stop.1

theorem keeps_stopsOne (documented : package.Documented) : (next : System (Server package) Action).Keeps StopsOne := by
  intro action server after stepped stops
  cases action with
  | serveCodec codec =>
      obtain ⟨_, rfl⟩ := Option.when_eq_some.mp stepped
      exact stops.of_closed rfl rfl fun _ => id
  | load codec =>
      obtain ⟨_, rfl⟩ := Option.when_eq_some.mp stepped
      split
      · exact stops.of_closed rfl rfl fun _ => id
      · exact (stops.close (by simp)).of_closed rfl rfl fun _ => id
  | add codec =>
      obtain ⟨_, rfl⟩ := Option.when_eq_some.mp stepped
      exact stops.of_closed rfl rfl fun _ => id
  | connectionEnds codec =>
      obtain ⟨_, rfl⟩ := Option.when_eq_some.mp stepped
      exact stops.close (by simp)
  | seeClosed codec =>
      obtain ⟨_, rfl⟩ := Option.when_eq_some.mp stepped
      exact stops.of_closed rfl rfl fun _ => id
  | finish codec =>
      obtain ⟨_, rfl⟩ := Option.when_eq_some.mp stepped
      exact (stops.close (by simp)).of_closed rfl rfl fun _ => id
  | swap =>
      cases stepped
      split
      · rename_i running
        refine ⟨fun _ => rfl, fun _ => stops.before (.inl running), stops.one⟩
      · exact stops
  | goThrough choice =>
      obtain ⟨stopping, rfl⟩ := Option.when_eq_some.mp stepped
      have none_before := stops.before (.inr stopping)
      have out : server.run = false := stops.stopping stopping
      rcases each_stopCodec documented server.codecs choice server with same | ⟨codec, same⟩
      · rw [same]
        exact ⟨by rintro ⟨⟩, fun _ => none_before, stops.one⟩
      · rw [same]
        have only : ∀ other, (server.close .stop codec).closed other = some .stop → other = codec := fun other closed =>
          ((closed_close_eq_stop closed).resolve_left (none_before other)).2
        refine ⟨by rintro ⟨⟩, ?_, fun other another now too => (only other now).trans (only another too).symm⟩
        rintro (running | again)
        · cases out.symm.trans running
        · cases again

theorem stopsOne_newServer : (newServer : Server package).StopsOne :=
  ⟨by rintro ⟨⟩, fun _ _ => by rintro ⟨⟩, by rintro _ _ ⟨⟩⟩

/-! ## The others stay -/

/-- The call of `ServeCodec` is on its way to serve the codec or does so. -/
def Serves (server : Server package) (codec : Nat) : Prop :=
  server.phase codec = .admitted ∨ server.phase codec = .serving

/-- `Stop` is over, and the codec is served and open, unless its connection has ended. -/
structure Outlasts (codec : Nat) (server : Server package) : Prop where
  out : server.run = false
  stopped : server.stopping = false
  served : server.closed codec = some .connection ∨ server.closed codec = none ∧ server.Serves codec

theorem Outlasts.of_same (outlasts : server.Outlasts codec) (run : after.run = server.run)
    (stopping : after.stopping = server.stopping) (closed : after.closed codec = server.closed codec)
    (phase : after.phase codec = server.phase codec) : after.Outlasts codec := by
  refine ⟨run.trans outlasts.out, stopping.trans outlasts.stopped, ?_⟩
  rw [Serves, closed, phase]
  exact outlasts.served

theorem closed_close_of_ended (ended : server.closed codec = some .connection) (closer : Closer) (other : Nat) :
    (server.close closer other).closed codec = some .connection := by
  by_cases same : codec = other
  · subst same
    simp [close, ended]
  · rw [closed_close_of_ne same, ended]

/-- A codec that the connection has closed stays closed by it. -/
theorem Outlasts.of_ended (outlasts : server.Outlasts codec) (run : after.run = server.run)
    (stopping : after.stopping = server.stopping) (ended : after.closed codec = some .connection) :
    after.Outlasts codec :=
  ⟨run.trans outlasts.out, stopping.trans outlasts.stopped, .inl ended⟩

theorem Outlasts.ended_of_phase {phase : ServePhase} (outlasts : server.Outlasts codec)
    (now : server.phase codec = phase) (not_admitted : phase ≠ .admitted) (not_serving : phase ≠ .serving) :
    server.closed codec = some .connection := by
  subst now
  rcases outlasts.served with ended | ⟨_, admitted | serving⟩
  · exact ended
  · exact absurd admitted not_admitted
  · exact absurd serving not_serving

theorem keeps_outlasts (codec : Nat) : (next : System (Server package) Action).Keeps (Outlasts codec) := by
  intro action server after stepped outlasts
  -- What the call of another codec does is out of sight, and the phase of this one rules out most actions.
  cases action with
  | serveCodec other =>
      obtain ⟨unborn, rfl⟩ := Option.when_eq_some.mp stepped
      by_cases same : codec = other
      · subst same
        exact outlasts.of_ended rfl rfl (outlasts.ended_of_phase unborn (by simp) (by simp))
      · exact outlasts.of_same rfl rfl rfl (phase_goto_of_ne same)
  | load other =>
      obtain ⟨called, rfl⟩ := Option.when_eq_some.mp stepped
      rw [outlasts.out]
      by_cases same : codec = other
      · subst same
        have ended := outlasts.ended_of_phase called (by simp) (by simp)
        exact outlasts.of_ended rfl rfl (closed_close_of_ended ended _ _)
      · exact outlasts.of_same rfl rfl (closed_close_of_ne same) (phase_goto_of_ne same)
  | add other =>
      obtain ⟨admitted, rfl⟩ := Option.when_eq_some.mp stepped
      by_cases same : codec = other
      · subst same
        refine ⟨outlasts.out, outlasts.stopped, outlasts.served.imp_right fun served => ⟨served.1, .inr ?_⟩⟩
        exact Function.update_self _ _ _
      · exact outlasts.of_same rfl rfl rfl (phase_goto_of_ne same)
  | connectionEnds other =>
      obtain ⟨_, rfl⟩ := Option.when_eq_some.mp stepped
      by_cases same : codec = other
      · subst same
        refine outlasts.of_ended rfl rfl ?_
        rcases outlasts.served with ended | ⟨not_closed, _⟩
        · exact closed_close_of_ended ended _ _
        · simp [close, not_closed]
      · exact outlasts.of_same rfl rfl (closed_close_of_ne same) rfl
  | seeClosed other =>
      obtain ⟨⟨_, closed⟩, rfl⟩ := Option.when_eq_some.mp stepped
      by_cases same : codec = other
      · subst same
        exact outlasts.of_ended rfl rfl (outlasts.served.resolve_right fun served => closed served.1)
      · exact outlasts.of_same rfl rfl rfl (phase_goto_of_ne same)
  | finish other =>
      obtain ⟨closing, rfl⟩ := Option.when_eq_some.mp stepped
      by_cases same : codec = other
      · subst same
        have ended := outlasts.ended_of_phase closing (by simp) (by simp)
        exact outlasts.of_ended rfl rfl (closed_close_of_ended ended _ _)
      · exact outlasts.of_same rfl rfl (closed_close_of_ne same) (phase_goto_of_ne same)
  | swap =>
      cases stepped
      rw [outlasts.out]
      exact outlasts
  | goThrough choice =>
      obtain ⟨stopping, _⟩ := Option.when_eq_some.mp stepped
      cases stopping.symm.trans outlasts.stopped

/-- Over any run of a server and any calls of `Stop`, one codec at most is closed by `Stop`.  A codec that is served and
open when `Stop` is over is served and open in every later state, until its own connection ends. -/
theorem stop_closes_one (documented : package.Documented) (server : Server package)
    (reached : System.Reaches next newServer server) :
    (∀ codec other, server.closed codec = some .stop → server.closed other = some .stop → codec = other) ∧
    (server.run = false → server.stopping = false → ∀ codec, server.closed codec = none → server.Serves codec →
      ∀ later, System.Reaches next server later → later.closed codec ≠ some .connection →
        later.closed codec = none ∧ later.Serves codec) := by
  refine ⟨((keeps_stopsOne documented).reaches reached stopsOne_newServer).one, ?_⟩
  intro out stopped codec not_closed serves later continued connected
  have outlasts := (keeps_outlasts codec).reaches continued ⟨out, stopped, .inr ⟨not_closed, serves⟩⟩
  exact outlasts.served.resolve_left connected

/-- Sets as lists, gone through from some member on. -/
def listSets : SetPackage where
  Set := List Nat
  newSet := []
  add set element := set.insert element
  remove set element := set.erase element
  each set choice function state := untilTrue function (set.drop choice ++ set.take choice) state

theorem documented_listSets : listSets.Documented := ⟨fun _ _ _ _ => ⟨_, rfl⟩⟩

/-- Two codecs are served when `Stop` comes. -/
def twoServed : List Action :=
  [.serveCodec 0, .load 0, .add 0, .serveCodec 1, .load 1, .add 1, .swap, .goThrough 1, .seeClosed 0, .finish 0]

theorem stop_closes_one_of_two :
    ∃ server : Server listSets, System.run next twoServed newServer = some server ∧ server.closed 0 = some .stop ∧
      ∀ later, System.Reaches next server later → later.closed 1 ≠ some .connection →
        later.closed 1 = none ∧ later.Serves 1 := by
  refine ⟨_, rfl, rfl, ?_⟩
  exact (stop_closes_one documented_listSets _ ⟨twoServed, rfl⟩).2 rfl rfl 1 rfl (.inr rfl)

end Server

end SubstrateClient.Rpc
