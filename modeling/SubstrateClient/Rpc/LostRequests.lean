import SubstrateClient.Rpc.Routing

/-!
# Requests that go down with their connection

`cancelAllRequests` spares the request in flight, which is meant to be registered again with a new connection.  A
request that has passed the check of its connection does not ask for a new one, so that after a read error nobody is
left who could answer it or close its channel.
-/

namespace SubstrateClient.Rpc

open JsonText Interleaving

/-- The request is past the check of its connection and has no result. -/
def Phase.unresolved : Phase → Bool
  | writing | signalling _ | waiting | expired | returned (some _) => true
  | _ => false

/-- The request is past the check of its connection and has neither a result nor an error. -/
def Phase.pending : Phase → Bool
  | writing | signalling none | waiting | expired => true
  | _ => false

/-- The error that the request ends with. -/
def Phase.failure : Phase → Option RpcError
  | signalling err | returned err => err
  | _ => none

theorem Phase.failure_of_pending {phase : Phase} (pending : phase.pending = true) : phase.failure = none := by
  cases phase with
  | writing | waiting | expired => rfl
  | signalling err =>
      cases err with
      | none => rfl
      | some err => cases pending
  | unborn | preparing | sending | checking | dialled | returned | crashed => cases pending

theorem Phase.unresolved_of_pending {phase : Phase} (pending : phase.pending = true) : phase.unresolved = true := by
  cases phase <;> first | rfl | cases pending

/-- A lost request has neither a result nor an error, or the error that it ends with. -/
theorem Phase.pending_or_failure {phase : Phase} (unresolved : phase.unresolved = true) :
    phase.pending = true ∨ ∃ err, phase.failure = some err := by
  cases phase with
  | writing | waiting | expired => exact .inl rfl
  | signalling err | returned err =>
      cases err with
      | none => first | exact .inl rfl | cases unresolved
      | some err => exact .inr ⟨err, rfl⟩
  | unborn | preparing | sending | checking | dialled | crashed => cases unresolved

theorem Phase.Leads.unresolved {before phase : Phase} (leads : before.Leads phase)
    (unresolved : before.unresolved = true) :
    phase.unresolved = true := by
  cases leads <;> first | rfl | cases unresolved

namespace Client

variable {Value : Type} {client after : Client Value} {o : Nat}

/-- Nobody is left to answer the request or to close its channel. -/
structure Lost (client : Client Value) (o : Nat) : Prop where
  unresolved : (client.ops o).phase.unresolved = true
  expects : (client.ops o).ids ≠ []
  unanswered : (client.ops o).got = [] ∧ (client.ops o).resp = []
  not_closed : (client.ops o).closed = false
  unregistered : ∀ id, ¬client.core.Waits o id
  forgotten : ¬client.core.Reconnecting o

/-- A request in another phase is another one. -/
theorem Lost.ne_of_phase (lost : client.Lost o) {other : Nat}
    (resolved : (client.ops other).phase.unresolved = false) : o ≠ other := by
  rintro rfl
  simp [lost.unresolved] at resolved

/-- A move registers no request but one that comes to `reqInit`. -/
theorem waits_of_moved {core after : Core} {o other id : Nat} {op : RequestOp} {phase : Phase}
    (moved : Moved core after other op phase) (waits : after.Waits o id) :
    core.Waits o id ∨ o = other ∧ op.phase = .sending := by
  cases moved with
  | accept sending selecting unlocked same =>
      subst same
      rcases Core.waits_addRequestOp.mp waits with ⟨_, owner⟩ | ⟨_, before⟩
      · exact .inr ⟨owner, sending⟩
      · exact .inl before
  | timeOut expired selecting same =>
      subst same
      exact .inl (List.mem_filter.mp waits).1
  | check checking conn alive same =>
      subst same
      exact .inl waits
  | signal err signalling quiet same =>
      subst same
      exact .inl waits
  | prepare preparing ready same =>
      subst same
      exact .inl waits
  | expire waiting deadline same =>
      subst same
      exact .inl waits
  | alone _ leads agrees => exact .inl (agrees.waits waits)

theorem reconnecting_of_moved {core after : Core} {o other : Nat} {op : RequestOp} {phase : Phase}
    (moved : Moved core after other op phase) (reconnecting : after.Reconnecting o) : core.Reconnecting o := by
  obtain ⟨⟨conn, reconnects⟩, owner⟩ := reconnecting
  have before := ((dispatch_of_moved moved).reconnects conn).mp reconnects
  rcases lastOp_of_moved moved with same | ⟨_, _, selecting⟩
  · exact ⟨⟨conn, before⟩, same ▸ owner⟩
  · rw [selecting] at before
    exact before.elim

/-- A request that expects a response does not return with a result of its own. -/
theorem unresolved_of_moved {core after : Core} {o : Nat} {op : RequestOp} {phase : Phase}
    (moved : Moved core after o op phase) (unresolved : op.phase.unresolved = true) (expects : op.ids ≠ []) :
    phase.unresolved = true := by
  cases moved with
  | accept sending selecting unlocked same => simp [sending, Phase.unresolved] at unresolved
  | check checking conn alive same => rfl
  | signal err signalling quiet same =>
      cases err with
      | some err => rfl
      | none => simp [RequestOp.afterSignal, expects, Phase.unresolved]
  | timeOut expired selecting same => rfl
  | prepare preparing ready same => simp [preparing, Phase.unresolved] at unresolved
  | expire waiting deadline same => rfl
  | alone _ leads agrees => exact leads.unresolved unresolved

theorem Cancelled.same {err : RpcError} {table : List (Nat × Nat)} {spared : List Nat} {ops after : Nat → RequestOp}
    (cancelled : Cancelled err table spared ops after) (out : o ∈ spared ∨ ∀ id, (id, o) ∉ table) :
    after o = ops o := by
  rcases cancelled o with ⟨⟨registered, unspared⟩, _⟩ | ⟨_, same⟩
  · obtain ⟨⟨id, other⟩, member, rfl⟩ := List.mem_map.mp registered
    rcases out with spare | absent
    · exact absurd spare unspared
    · exact absurd member (absent id)
  · exact same

/-- What an action can do to a lost request: nothing, or a move of its own goroutine. -/
def Spared (action : Action) (client after : Client Value) (o : Nat) : Prop :=
  (after.ops o = client.ops o ∨ ∃ phase, Moved client.core after.core o (client.ops o) phase ∧
      (∃ move, action = .move o move ∧ (client.ops o).advance move = some phase) ∧
      after.ops o = { client.ops o with phase }) ∧
    (∀ id, ¬after.core.Waits o id) ∧ ¬after.core.Reconnecting o

variable {action : Action}

theorem Lost.spared (lost : client.Lost o) (same : after.ops o = client.ops o)
    (waits : ∀ id, after.core.Waits o id → client.core.Waits o id)
    (reconnecting : after.core.Reconnecting o → client.core.Reconnecting o) : Spared action client after o :=
  ⟨.inl same, fun id waiting => lost.unregistered id (waits id waiting),
    fun flight => lost.forgotten (reconnecting flight)⟩

theorem Lost.spared_of_agrees {core : Core} (lost : client.Lost o) (same : after.ops o = client.ops o)
    (agrees : core.Agrees after.core) (waits : ∀ id, core.Waits o id → client.core.Waits o id)
    (reconnecting : core.Reconnecting o → client.core.Reconnecting o) : Spared action client after o :=
  lost.spared same (fun id waiting => waits id (agrees.waits waiting))
    fun flight => reconnecting (agrees.reconnecting flight)

theorem Lost.spared_of_moved (lost : client.Lost o) {other : Nat} {phase : Phase}
    (ops : after.ops = Function.update client.ops other { client.ops other with phase })
    (moved : Moved client.core after.core other (client.ops other) phase)
    (taken : ∃ move, action = .move other move ∧ (client.ops other).advance move = some phase) :
    Spared action client after o := by
  refine ⟨?_, ?_, ?_⟩
  · by_cases equal : o = other
    · subst equal
      exact .inr ⟨phase, moved, taken, by rw [ops, Function.update_self]⟩
    · exact .inl (by rw [ops, Function.update_of_ne equal])
  · intro id waiting
    rcases waits_of_moved moved waiting with before | ⟨rfl, sending⟩
    · exact lost.unregistered id before
    · exact absurd rfl (lost.ne_of_phase (by rw [sending]; rfl))
  · exact fun flight => lost.forgotten (reconnecting_of_moved moved flight)

theorem Lost.spared_of_effect (lost : client.Lost o) (exclusive : client.writeLock.Exclusive)
    (effect : Effect action client after) : Spared action client after o := by
  have in_flight : ∀ {other conn}, (client.ops other).phase = .dialled conn →
      o ≠ other ∧ client.core.lastOp = some other := by
    intro other conn dialled
    exact ⟨lost.ne_of_phase (by rw [dialled]; rfl),
      (exclusive.inside_owner other (by simp [writeLock, dialled, Phase.holds])).1⟩
  cases effect with
  | newOp purpose unborn ops core =>
      have apart := lost.ne_of_phase (by rw [unborn]; rfl)
      exact lost.spared_of_agrees (by rw [ops, Function.update_of_ne apart]) core (fun _ => id) id
  | nextID other taken preparing ops core =>
      have apart : o ≠ other := lost.ne_of_phase (by rw [preparing]; rfl)
      apply lost.spared (by rw [ops, Function.update_of_ne apart])
      · rw [core]
        exact fun _ => id
      · rw [core]
        exact id
  | move other phase ops moved taken => exact lost.spared_of_moved ops moved taken
  | receive other op received ops core =>
      have apart : o ≠ other := by
        rintro rfl
        have waiting := (receive_cases received).1
        simp [RequestOp.next, waiting, lost.unanswered.2, lost.not_closed, Option.when] at received
      apply lost.spared (by rw [ops, Function.update_of_ne apart])
      · rw [core]
        exact fun _ => id
      · rw [core]
        exact id
  | sent err table signalled selecting kept ops core =>
      apply lost.spared_of_agrees (by rw [ops]) core
      · intro id waiting
        rcases kept with ⟨rfl, _⟩ | ⟨other, _, _, rfl⟩
        · exact waiting
        · exact (List.mem_filter.mp waiting).1
      · rintro ⟨_, missing⟩
        cases missing
  | close err goal spared selecting cause ops core =>
      apply lost.spared_of_agrees (ops.same (.inr lost.unregistered)) core
      · intro id waiting
        cases waiting
      · rintro ⟨⟨conn, reconnects⟩, _⟩
        rcases cause with ⟨_, rfl, _⟩ | ⟨_, rfl, _⟩
        · exact reconnects.elim
        · exact reconnects.elim
  | reconnect other conn dialled selecting reading ops core =>
      obtain ⟨apart, owner⟩ := in_flight dialled
      have same := ops.same (.inr lost.unregistered)
      rw [Function.update_of_ne apart] at same
      apply lost.spared_of_agrees same core
      · intro id waiting
        cases waiting
      · rintro ⟨_, owned⟩
        have equal : some other = some o := owner.symm.trans owned
        exact absurd (Option.some.inj equal).symm apart
  | reconnectAtOnce other conn owner dialled selecting stopped owned ops core =>
      obtain ⟨apart, other_owner⟩ := in_flight dialled
      obtain rfl : owner = other := by simpa [other_owner] using owned.symm
      apply lost.spared_of_agrees (by rw [ops, Function.update_of_ne apart]) core
      · intro id waiting
        rcases Core.waits_addRequestOp.mp waiting with ⟨_, same⟩ | ⟨_, before⟩
        · exact absurd same apart
        · cases before
      · exact id
  | connect conn owner reconnects owned ops core =>
      have apart : o ≠ owner := by
        rintro rfl
        exact lost.forgotten ⟨⟨conn, reconnects⟩, owned⟩
      apply lost.spared_of_agrees (by rw [ops]) core
      · intro id waiting
        rcases Core.waits_addRequestOp.mp waiting with ⟨_, same⟩ | ⟨_, before⟩
        · exact absurd same apart
        · cases before
      · rintro ⟨⟨_, reconnects⟩, _⟩
        exact reconnects.elim
  | answer key other msg msgs calls op handling response keyed registered not_closed answered ops core =>
      have apart : o ≠ other := by
        rintro rfl
        exact lost.unregistered key (ListLookup.mem_of_lookup registered)
      apply lost.spared_of_agrees (by rw [ops, Function.update_of_ne apart]) core
      · exact fun id waiting => (List.mem_filter.mp waiting).1
      · exact id
  | read msgs batch taken ops core =>
      apply lost.spared (by rw [ops])
      · rw [core]
        exact fun _ => id
      · rw [core]
        exact id
  | stop stops ops core =>
      apply lost.spared_of_agrees (by rw [ops]) core (fun _ => id)
      rintro ⟨⟨conn, reconnects⟩, _⟩
      exact reconnects.elim
  | quiet ops core => exact lost.spared_of_agrees (by rw [ops]) core (fun _ => id) id
  | crash defect crashed ops respWait lastOp locked reqSent =>
      have same : after.ops o = client.ops o := by
        rcases ops o with same | ⟨conn, dialled, _⟩
        · exact same
        · exact absurd rfl (in_flight dialled).1
      apply lost.spared same
      · exact fun id waiting => respWait _ waiting
      · rintro ⟨⟨conn, reconnects⟩, _⟩
        rw [crashed] at reconnects
        exact reconnects.elim

/-- A lost request stays lost, whatever happens. -/
theorem keeps_lost (etype : Nat → ElementType Value) (o : Nat) :
    (next etype).KeepsGiven (fun client => client.writeLock.Exclusive) fun client => client.Lost o := by
  intro action client after stepped exclusive lost
  obtain ⟨same | ⟨phase, moved, _, same⟩, unregistered, forgotten⟩ :=
    lost.spared_of_effect exclusive (effect_of_next stepped)
  · refine ⟨?_, ?_, ?_, ?_, unregistered, forgotten⟩ <;> rw [same]
    exacts [lost.unresolved, lost.expects, lost.unanswered, lost.not_closed]
  · refine ⟨?_, ?_, ?_, ?_, unregistered, forgotten⟩ <;> rw [same]
    exacts [unresolved_of_moved moved lost.unresolved lost.expects, lost.expects, lost.unanswered, lost.not_closed]

/-- A lost request whose context cannot end waits for ever. -/
theorem keeps_waiting (etype : Nat → ElementType Value) (o : Nat) :
    (next etype).KeepsGiven (fun client => client.writeLock.Exclusive ∧ client.Lost o)
      fun client => (client.ops o).phase = .waiting ∧ (client.ops o).purpose.hasDeadline = false := by
  intro action client after stepped ⟨exclusive, lost⟩ ⟨waiting, endless⟩
  obtain ⟨same | ⟨phase, moved, _, same⟩, _⟩ := lost.spared_of_effect exclusive (effect_of_next stepped)
  · rw [same]
    exact ⟨waiting, endless⟩
  · cases moved with
    | accept at_phase | check at_phase | signal _ at_phase | timeOut at_phase | prepare at_phase =>
        rw [waiting] at at_phase
        cases at_phase
    | expire _ deadline => simp [endless] at deadline
    | alone _ leads =>
        rw [waiting] at leads
        cases leads

/-- What the goroutine of a lost request can do: its write ends, it goes on to wait, or its context ends. -/
theorem advance_of_unresolved {op : RequestOp} {move : Move} {phase : Phase} (unresolved : op.phase.unresolved = true)
    (advanced : op.advance move = some phase) :
    phase = .signalling none ∨ (∃ err, move = .writeFail err ∧ phase = .signalling (some err)) ∨
      (∃ err, op.phase = .signalling err ∧ phase = op.afterSignal err) ∨
      phase = .expired ∧ op.purpose.hasDeadline = true ∨ op.phase = .expired ∧ phase = .returned (some .context) := by
  cases at_phase : op.phase with
  | unborn | preparing | sending | checking | dialled | crashed => simp [at_phase, Phase.unresolved] at unresolved
  | writing =>
      cases move <;> simp only [RequestOp.advance, at_phase] at advanced <;> cases advanced
      · exact .inl rfl
      · exact .inr (.inl ⟨_, rfl, rfl⟩)
  | signalling err =>
      cases move <;> simp only [RequestOp.advance, at_phase] at advanced <;> cases advanced
      exact .inr (.inr (.inl ⟨err, rfl, rfl⟩))
  | waiting =>
      cases move <;> simp only [RequestOp.advance, at_phase] at advanced <;> try cases advanced
      obtain ⟨deadline, rfl⟩ := Option.when_eq_some.mp advanced
      exact .inr (.inr (.inr (.inl ⟨rfl, deadline⟩)))
  | expired =>
      cases move <;> simp only [RequestOp.advance, at_phase] at advanced <;> cases advanced
      · exact .inr (.inr (.inr (.inr ⟨rfl, rfl⟩)))
      · exact .inr (.inr (.inr (.inr ⟨rfl, rfl⟩)))
  | returned err => cases move <;> simp only [RequestOp.advance, at_phase] at advanced <;> cases advanced

/-- Where the error of a lost request comes from, given what happened since it was lost: from its own write or from
its context. -/
structure Accounted (purpose : Purpose) (o : Nat) (seen : List Action) (op : RequestOp) : Prop where
  same : op.purpose = purpose
  expired : op.phase = .expired → purpose.hasDeadline = true
  failed : ∀ err, op.phase.failure = some err →
    .move o (.writeFail err) ∈ seen ∨ err = .context ∧ purpose.hasDeadline = true

theorem Accounted.advance {purpose : Purpose} {seen : List Action} {op : RequestOp}
    (accounted : Accounted purpose o seen op) (unresolved : op.phase.unresolved = true) {move : Move} {phase : Phase}
    (advanced : op.advance move = some phase) :
    Accounted purpose o (seen ++ [.move o move]) { op with phase } := by
  obtain ⟨same, expired, failed⟩ := accounted
  rcases advance_of_unresolved unresolved advanced with rfl | ⟨err, rfl, rfl⟩ | ⟨err, signalling, rfl⟩ |
    ⟨rfl, deadline⟩ | ⟨ended, rfl⟩
  · exact ⟨same, by rintro ⟨⟩, by rintro err ⟨⟩⟩
  · refine ⟨same, by rintro ⟨⟩, ?_⟩
    rintro _ ⟨⟩
    exact .inl (List.mem_append_right _ (List.mem_singleton_self _))
  · cases err with
    | none =>
        rw [RequestOp.afterSignal]
        split
        · exact ⟨same, by rintro ⟨⟩, by rintro err ⟨⟩⟩
        · exact ⟨same, by rintro ⟨⟩, by rintro err ⟨⟩⟩
    | some err =>
        refine ⟨same, by rintro ⟨⟩, ?_⟩
        rintro _ ⟨⟩
        exact (failed err (by rw [signalling]; rfl)).imp_left (List.mem_append_left _)
  · exact ⟨same, fun _ => same ▸ deadline, by rintro err ⟨⟩⟩
  · refine ⟨same, by rintro ⟨⟩, ?_⟩
    rintro _ ⟨⟩
    exact .inr ⟨rfl, expired ended⟩

theorem accounted_of_next {etype : Nat → ElementType Value} {purpose : Purpose} {seen : List Action}
    (stepped : next etype action client = some after) (exclusive : client.writeLock.Exclusive) (lost : client.Lost o)
    (accounted : Accounted purpose o seen (client.ops o)) : Accounted purpose o (seen ++ [action]) (after.ops o) := by
  obtain ⟨same | ⟨phase, _, ⟨move, rfl, advanced⟩, same⟩, _⟩ := lost.spared_of_effect exclusive (effect_of_next stepped)
  · rw [same]
    exact ⟨accounted.same, accounted.expired, fun err failed =>
      (accounted.failed err failed).imp_left (List.mem_append_left _)⟩
  · rw [same]
    exact accounted.advance lost.unresolved advanced

/-- A lost request stays lost and accounted for, whatever happens. -/
theorem accounted_along (etype : Nat → ElementType Value) (purpose : Purpose) (o : Nat) (seen : List Action)
    (action : Action) (client after : Client Value) (stepped : next etype action client = some after)
    (holds : (client.writeLock.Exclusive ∧ client.Lost o) ∧ Accounted purpose o seen (client.ops o)) :
    (after.writeLock.Exclusive ∧ after.Lost o) ∧ Accounted purpose o (seen ++ [action]) (after.ops o) := by
  obtain ⟨⟨exclusive, lost⟩, accounted⟩ := holds
  exact ⟨((keeps_exclusive etype).and (keeps_lost etype o)) action client after stepped ⟨exclusive, lost⟩,
    accounted_of_next stepped exclusive lost accounted⟩

/-- Only a context that can end has ended. -/
def Timely (client : Client Value) : Prop :=
  ∀ o, (client.ops o).phase = .expired → (client.ops o).purpose.hasDeadline = true

theorem Timely.update (timely : client.Timely) {op : RequestOp}
    (own : op.phase = .expired → op.purpose.hasDeadline = true)
    (ops : after.ops = Function.update client.ops o op) : after.Timely := by
  intro other
  rw [ops]
  by_cases same : other = o
  · subst same
    simpa using own
  · rw [Function.update_of_ne same]
    exact timely other

theorem Timely.cancelled {err : RpcError} {table : List (Nat × Nat)} {spared : List Nat} (timely : client.Timely)
    (cancelled : Cancelled err table spared client.ops after.ops) : after.Timely := by
  intro other
  rw [cancelled.phase other, cancelled.purpose other]
  exact timely other

theorem Timely.same (timely : client.Timely) (ops : after.ops = client.ops) : after.Timely := by
  intro other
  rw [ops]
  exact timely other

theorem expired_of_moved {core after : Core} {op : RequestOp} (moved : Moved core after o op .expired) :
    op.purpose.hasDeadline = true := by
  generalize reached : Phase.expired = phase at moved
  cases moved with
  | expire waiting deadline same => exact deadline
  | signal err signalling quiet same =>
      cases err with
      | some err => cases reached
      | none =>
          rw [RequestOp.afterSignal] at reached
          split at reached <;> cases reached
  | alone _ leads agrees =>
      rw [← reached] at leads
      generalize op.phase = before at leads
      cases leads
  | accept | check | timeOut | prepare => cases reached

theorem not_expired_of_receive {op received : RequestOp} (next : RequestOp.next .receive op = some received) :
    received.phase ≠ .expired := by
  simp only [RequestOp.next] at next
  split at next
  · cases next
    rw [RequestOp.afterMessage]
    split
    · simp
    · dsimp only
      split <;> simp
  · obtain ⟨_, rfl⟩ := Option.when_eq_some.mp next
    rw [RequestOp.afterClose]
    split <;> simp
  · cases next

theorem keeps_timely (etype : Nat → ElementType Value) : (next etype).Keeps Timely := by
  intro action client after stepped timely
  cases effect_of_next stepped with
  | newOp purpose unborn ops core => exact timely.update (by rintro ⟨⟩) ops
  | nextID o taken preparing ops core =>
      refine timely.update ?_ ops
      exact timely o
  | move o phase ops moved =>
      refine timely.update ?_ ops
      rintro rfl
      exact (expired_of_moved moved : (client.ops o).purpose.hasDeadline = true)
  | receive o op received ops core =>
      exact timely.update (fun expired => absurd expired (not_expired_of_receive received)) ops
  | close err goal spared selecting cause ops core => exact timely.cancelled ops
  | reconnect o conn dialled selecting reading ops core =>
      have written : (client.setOp o { client.ops o with phase := .writing }).Timely :=
        timely.update (by rintro ⟨⟩) rfl
      exact written.cancelled ops
  | reconnectAtOnce o conn owner dialled selecting stopped owned ops core => exact timely.update (by rintro ⟨⟩) ops
  | answer key o msg msgs calls op handling response keyed registered not_closed answered ops core =>
      refine timely.update ?_ ops
      rcases answered with ⟨_, delivered⟩ | ⟨_, err, closed⟩
      · obtain ⟨_, rfl⟩ := Option.when_eq_some.mp delivered
        exact timely o
      · obtain ⟨_, rfl⟩ := Option.when_eq_some.mp closed
        exact timely o
  | crash defect crashed ops respWait lastOp locked reqSent =>
      intro o expired
      rcases ops o with same | ⟨conn, _, same⟩
      · rw [same] at expired ⊢
        exact timely o expired
      · rw [same] at expired
        cases expired
  | sent _ _ _ _ _ ops | connect _ _ _ _ ops | read _ _ _ ops | stop _ ops | quiet ops => exact timely.same ops

/-- A read error loses the request in flight, once this is past the check of its connection. -/
theorem lost_of_readErr {etype : Nat → ElementType Value}
    (in_flight : client.core.lastOp = some o) (unresolved : (client.ops o).phase.unresolved = true)
    (expects : (client.ops o).ids ≠ []) (unanswered : (client.ops o).got = [] ∧ (client.ops o).resp = [])
    (not_closed : (client.ops o).closed = false) (handled : next etype .acceptReadErr client = some after)
    (sound : after.core.dispatch ≠ .crashed) : after.ops o = client.ops o ∧ after.Lost o := by
  simp only [next] at handled
  split at handled
  · rename_i selecting _
    rcases close_cases (Option.some.inj handled) with ⟨_, rfl⟩ | ⟨ops, _, core⟩
    · exact absurd rfl sound
    · have same : after.ops o = client.ops o := ops.same (.inl (by simp [in_flight]))
      rw [← same] at unresolved expects unanswered not_closed
      refine ⟨same, unresolved, expects, unanswered, not_closed, ?_, ?_⟩
      · simp [Core.Waits, core]
      · rintro ⟨⟨conn, reconnects⟩, _⟩
        rw [core] at reconnects
        exact reconnects
  · cases handled

/-- A read error that is handled while a request is in flight, after the check of its connection and before its first
response, loses the request: in every continuation it gets no response and its channel is not closed.  It can only end
with an error of its own write, or of its context where this can end; a call to unsubscribe, whose context cannot,
waits for ever from whenever it comes to wait. -/
theorem request_lost_with_connection (etype : Nat → ElementType Value) (canReconnect : Bool)
    (client after last : Client Value) (o : Nat) (actions : List Action)
    (reached : (next etype).Reaches (initClient canReconnect) client)
    (in_flight : client.core.lastOp = some o) (pending : (client.ops o).phase.pending = true)
    (expects : (client.ops o).ids ≠ []) (unanswered : (client.ops o).got = [] ∧ (client.ops o).resp = [])
    (not_closed : (client.ops o).closed = false) (handled : next etype .acceptReadErr client = some after)
    (sound : after.core.dispatch ≠ .crashed) (ran : (next etype).run actions after = some last) :
    (last.ops o).got = [] ∧ (last.ops o).resp = [] ∧ (last.ops o).closed = false ∧
      ((last.ops o).phase.pending = true ∨ ∃ err, (last.ops o).phase.failure = some err ∧
        (.move o (.writeFail err) ∈ actions ∨ err = .context ∧ (client.ops o).purpose.hasDeadline = true)) ∧
      ((client.ops o).purpose.hasDeadline = false → (last.ops o).phase = .waiting →
        ∀ later, (next etype).Reaches last later → (later.ops o).phase = .waiting) := by
  have exclusive : after.writeLock.Exclusive :=
    keeps_exclusive etype .acceptReadErr client after handled (lock_of_reaches reached).1
  obtain ⟨same, lost⟩ := lost_of_readErr in_flight (Phase.unresolved_of_pending pending) expects unanswered not_closed
    handled sound
  have keeps := (keeps_exclusive etype).and (keeps_lost etype o)
  have timely := (keeps_timely etype).reaches reached (by rintro _ ⟨⟩)
  have start : Accounted (client.ops o).purpose o [] (after.ops o) := by
    rw [same]
    exact ⟨rfl, timely o, fun err failed => by simp [Phase.failure_of_pending pending] at failed⟩
  obtain ⟨⟨exclusive_last, still⟩, accounted⟩ := System.keeps_along (accounted_along etype (client.ops o).purpose o) ran
    ⟨⟨exclusive, lost⟩, start⟩
  refine ⟨still.unanswered.1, still.unanswered.2, still.not_closed, ?_, ?_⟩
  · exact (Phase.pending_or_failure still.unresolved).imp_right fun ⟨err, failed⟩ =>
      ⟨err, failed, accounted.failed err failed⟩
  · intro endless waiting later goes_on
    rw [← accounted.same] at endless
    exact ((keeps.and (keeps_waiting etype o)).reaches goes_on ⟨⟨exclusive_last, still⟩, waiting, endless⟩).2.1

/-- A call to unsubscribe that has just been written when the connection fails. -/
def unsubscribeWritten : List Action :=
  subscribeSent ++ [.read [some { id := some (.number ['1']), result := some (.string ['s']) }] false, .acceptRead,
    .handle, .handle, .receive 0, .subscription 0 (.unsubscribe 1), .nextID 1, .move 1 .prepare, .move 1 .accept,
    .move 1 .check, .move 1 .write, .readFail .dead]

theorem request_lost_with_connection_unsubscribe :
    ∃ client after last : Client Json,
      (next fun _ => rawMessage).run unsubscribeWritten (initClient true) = some client ∧
      next (fun _ => rawMessage) .acceptReadErr client = some after ∧
      (next fun _ => rawMessage).run [.move 1 .signal] after = some last ∧
      (last.ops 1).phase = .waiting ∧
      ∀ later, (next fun _ => rawMessage).Reaches last later → (later.ops 1).phase = .waiting :=
  ⟨_, _, _, rfl, rfl, rfl, rfl,
    (request_lost_with_connection (fun _ => rawMessage) true _ _ _ 1 [.move 1 .signal] ⟨unsubscribeWritten, rfl⟩ rfl
      rfl (by rintro ⟨⟩) ⟨rfl, rfl⟩ rfl rfl (by rintro ⟨⟩) rfl).2.2.2.2 rfl rfl⟩

end Client

end SubstrateClient.Rpc
