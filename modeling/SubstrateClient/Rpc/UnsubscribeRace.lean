import SubstrateClient.Rpc.Delivery

/-!
# `Unsubscribe` while the connection is closed

The body of `quitOnce` calls the server, for which it needs the dispatcher; the dispatcher, in `cancelAllRequests`,
waits for the body of `quitOnce`.  The call to unsubscribe has no context that could end.
-/

namespace SubstrateClient.Rpc

open JsonText Interleaving

namespace Client

variable {Value : Type} {client after : Client Value} {sub call : Nat}

/-- The dispatcher waits for the end of the subscription, and this for the dispatcher. -/
structure Deadlocked (client : Client Value) (sub call : Nat) : Prop where
  cancelling : ∃ subs err goal, client.core.dispatch = .cancelling subs err goal ∧ sub ∈ subs
  not_closing : client.core.closing = false
  running : ∃ err byForwarder, (client.subs sub).quitOnce = .running err byForwarder call
  sending : (client.ops call).phase = .sending
  endless : (client.ops call).purpose.hasDeadline = false

/-- The dispatcher stays where it is. -/
theorem Deadlocked.congr (stuck : client.Deadlocked sub call) (dispatch : after.core.dispatch = client.core.dispatch)
    (closing : after.core.closing = client.core.closing) (subs : after.subs = client.subs)
    (phase : (after.ops call).phase = (client.ops call).phase)
    (purpose : (after.ops call).purpose = (client.ops call).purpose) : after.Deadlocked sub call := by
  constructor
  · rw [dispatch]
    exact stuck.cancelling
  · rw [closing]
    exact stuck.not_closing
  · rw [subs]
    exact stuck.running
  · rw [phase]
    exact stuck.sending
  · rw [purpose]
    exact stuck.endless

/-- What the subscriptions do does not end the body of `quitOnce`, unless its call has returned. -/
theorem running_of_next {etype : ElementType Value} {action : SubscriptionAction}
    {value moved : ClientSubscription Value} {err : Option RpcError} {byForwarder : Bool}
    (running : value.quitOnce = .running err byForwarder call)
    (stepped : ClientSubscription.next etype action value = some moved) (unfinished : action ≠ .finish) :
    moved.quitOnce = .running err byForwarder call := by
  cases action with
  | start subid =>
      simp only [ClientSubscription.next] at stepped
      split at stepped <;> cases stepped
      exact running
  | take result | notice =>
      simp only [ClientSubscription.next] at stepped
      split at stepped
      · obtain ⟨_, rfl⟩ := Option.when_eq_some.mp stepped
        exact running
      · cases stepped
  | handOut =>
      cases stepped
      exact running
  | send =>
      simp only [ClientSubscription.next] at stepped
      split at stepped
      · split at stepped <;> cases stepped <;> exact running
      · cases stepped
  | quit _ | cancel _ =>
      simp [ClientSubscription.next, running] at stepped
  | unsubscribe _ =>
      simp only [ClientSubscription.next, running] at stepped
      split at stepped
      · rename_i fresh
        cases fresh
      · cases stepped
        rfl
      · cases stepped
  | finish => exact absurd rfl unfinished
  | closeErr =>
      simp only [ClientSubscription.next, running] at stepped
      split at stepped
      · rename_i done _
        cases done
      · cases stepped
  | closeChannel =>
      obtain ⟨_, rfl⟩ := Option.when_eq_some.mp stepped
      exact running

/-- A subscription moves, and the dispatcher with the subscriptions that are left to cancel. -/
theorem Deadlocked.setSub {etype : Nat → ElementType Value} (stuck : client.Deadlocked sub call)
    {other : Nat} {action : SubscriptionAction} {moved : ClientSubscription Value}
    (step : ClientSubscription.next (etype other) action (client.subs other) = some moved)
    (unfinished : other = sub → action ≠ .finish) (subs : after.subs = Function.update client.subs other moved)
    (dispatch : ∃ subs err goal, after.core.dispatch = .cancelling subs err goal ∧ sub ∈ subs)
    (closing : after.core.closing = client.core.closing)
    (phase : (after.ops call).phase = (client.ops call).phase)
    (purpose : (after.ops call).purpose = (client.ops call).purpose) : after.Deadlocked sub call := by
  constructor
  · exact dispatch
  · rw [closing]
    exact stuck.not_closing
  · obtain ⟨err, byForwarder, running⟩ := stuck.running
    refine ⟨err, byForwarder, ?_⟩
    by_cases same : sub = other
    · subst same
      rw [subs, Function.update_self]
      exact running_of_next running step (unfinished rfl)
    · rw [subs, Function.update_of_ne same]
      exact running
  · rw [phase]
    exact stuck.sending
  · rw [purpose]
    exact stuck.endless

/-- The call has not been unborn since it was made. -/
theorem Deadlocked.newOp (stuck : client.Deadlocked sub call) {purpose : Purpose}
    (unborn : (client.ops client.core.opCount).phase = .unborn)
    (ops : after.ops = Function.update client.ops client.core.opCount { purpose, phase := .preparing }) :
    after.ops call = client.ops call := by
  have apart : call ≠ client.core.opCount := by
    intro same
    rw [← same, stuck.sending] at unborn
    cases unborn
  rw [ops, Function.update_of_ne apart]

/-- The call cannot leave `send`. -/
theorem Deadlocked.move (stuck : client.Deadlocked sub call) {o : Nat} {move : Move} {phase : Phase} {core : Core}
    (advanced : (client.ops o).advance move = some phase) (moved : client.core.move o (client.ops o) move = some core) :
    call ≠ o := by
  rintro rfl
  obtain ⟨subs, err, goal, cancelling, _⟩ := stuck.cancelling
  cases move with
  | giveUp =>
      simp only [RequestOp.advance, stuck.sending, Option.when_eq_some, stuck.endless] at advanced
      exact absurd advanced.1 (by rintro ⟨⟩)
  | refuse =>
      simp only [Core.move, Option.when_eq_some, stuck.not_closing] at moved
      exact absurd moved.1 (by rintro ⟨⟩)
  | accept =>
      simp only [Core.move, Option.when_eq_some, cancelling] at moved
      exact absurd moved.1.1 (by rintro ⟨⟩)
  | abandon | prepare | check | endCheck | redialFail | redial | reconnect | redialRefuse | write | writeFail | signal |
    expire | timeOut | timeOutClosing => simp [RequestOp.advance, stuck.sending] at advanced

theorem Deadlocked.subscription {etype : Nat → ElementType Value}
    (stuck : client.Deadlocked sub call) {other : Nat} {action : SubscriptionAction}
    (stepped : next etype (.subscription other action) client = some after) : after.Deadlocked sub call := by
  obtain ⟨moved, step, _, finished, made⟩ := subscription_cases stepped
  have unfinished : other = sub → action ≠ .finish := by
    rintro rfl finish
    obtain ⟨_, _, _, _, running, returned⟩ := finished finish
    obtain ⟨_, _, also⟩ := stuck.running
    rw [also] at running
    cases running
    rw [stuck.sending] at returned
    cases returned
  rcases made with rfl | made
  · exact stuck.setSub step unfinished rfl stuck.cancelling rfl rfl rfl
  · obtain ⟨unborn, ops, core, subs⟩ := newOp_cases made
    have kept : after.ops call = client.ops call := stuck.newOp unborn ops
    refine stuck.setSub step unfinished subs ?_ ?_ (by rw [kept]) (by rw [kept])
    · rw [core]
      exact stuck.cancelling
    · rw [core]
      rfl

theorem keeps_deadlocked (etype : Nat → ElementType Value) (sub call : Nat) :
    (next etype).Keeps fun client => client.Deadlocked sub call := by
  intro action client after stepped stuck
  obtain ⟨subs, err, goal, cancelling, left⟩ := stuck.cancelling
  cases action with
  | begin purpose =>
      cases purpose with
      | call | batch | notify =>
          obtain ⟨unborn, ops, core, same⟩ := newOp_cases stepped
          have kept := stuck.newOp unborn ops
          exact stuck.congr (by rw [core]) (by rw [core]) same (by rw [kept]) (by rw [kept])
      | subscribe other =>
          simp only [next, Option.bind_eq_bind, Option.bind_eq_some_iff, Option.when_eq_some] at stepped
          obtain ⟨made, created, _, rfl⟩ := stepped
          obtain ⟨unborn, ops, core, same⟩ := newOp_cases created
          have kept : made.ops call = client.ops call := stuck.newOp unborn ops
          exact stuck.congr (by rw [core]) (by rw [core]) same (by rw [kept]) (by rw [kept])
      | unsubscribe other => cases stepped
  | nextID o =>
      simp only [next, RequestOp.next, Option.bind_eq_bind, Option.bind_eq_some_iff] at stepped
      obtain ⟨op, numbered, same⟩ := stepped
      split at numbered <;> rename_i preparing <;> cases numbered
      cases same
      have apart : call ≠ o := by
        rintro rfl
        rw [stuck.sending] at preparing
        cases preparing
      exact stuck.congr rfl rfl rfl (by simp [setOp, Function.update_of_ne apart])
        (by simp [setOp, Function.update_of_ne apart])
  | move o move =>
      simp only [next, RequestOp.next, Option.bind_eq_bind, Option.bind_eq_some_iff,
        Option.map_eq_some_iff] at stepped
      obtain ⟨op, ⟨phase, advanced, rfl⟩, core, moved, same⟩ := stepped
      cases same
      have apart := stuck.move advanced moved
      obtain ⟨dispatch, _, closing⟩ := same_of_move moved
      exact stuck.congr dispatch closing rfl (by simp [setOp, Function.update_of_ne apart])
        (by simp [setOp, Function.update_of_ne apart])
  | receive o =>
      simp only [next, Option.bind_eq_bind, Option.bind_eq_some_iff] at stepped
      obtain ⟨op, received, same⟩ := stepped
      have apart : call ≠ o := by
        rintro rfl
        have waiting := (receive_cases received).1
        rw [stuck.sending] at waiting
        cases waiting
      split at same
      · obtain ⟨returned, handed, same⟩ := Option.bind_eq_some_iff.mp same
        cases same
        exact stuck.setSub handed (by simp) rfl stuck.cancelling rfl
          (by simp [Client.setSub, setOp, Function.update_of_ne apart])
          (by simp [Client.setSub, setOp, Function.update_of_ne apart])
      · cases same
        exact stuck.congr rfl rfl rfl (by simp [setOp, Function.update_of_ne apart])
          (by simp [setOp, Function.update_of_ne apart])
  | cancelSub other =>
      simp only [next, cancelling] at stepped
      obtain ⟨cancelled, step, kept⟩ := Option.bind_eq_some_iff.mp stepped
      obtain ⟨listed, rfl⟩ := Option.when_eq_some.mp kept
      have apart : sub ≠ other := by
        rintro rfl
        obtain ⟨_, _, running⟩ := stuck.running
        simp [ClientSubscription.next, running] at step
      exact stuck.setSub step (by simp) rfl ⟨subs.erase other, err, goal, rfl, (List.mem_erase_of_ne apart).mpr left⟩
        rfl rfl
        rfl
  | closeConn =>
      cases subs with
      | nil => cases left
      | cons => simp [next, cancelling] at stepped
  | acceptReconnect o | acceptSent | acceptRead | acceptReadErr | acceptClose | handle | deliver | drop | drain |
    drained => simp [next, cancelling] at stepped
  | read msgs batch | readFail err =>
      simp only [next] at stepped
      split at stepped <;> cases stepped
      exact stuck.congr rfl rfl rfl rfl rfl
  | serve proc =>
      obtain ⟨_, rfl⟩ := Option.when_eq_some.mp stepped
      exact stuck.congr rfl rfl rfl rfl rfl
  | subscription other action => exact stuck.subscription stepped

/-- A connection that is closed, by a read error, while `Unsubscribe` of one of its subscriptions has come to `send`
and not to the dispatcher: in every continuation the dispatcher waits for `quitOnce`, so that it serves no request and
no `Close` any more, and the call of `Unsubscribe` waits for the dispatcher. -/
theorem unsubscribe_race_deadlocks (etype : Nat → ElementType Value)
    (client after last : Client Value) (subid : List Char) (sub call : Nat) (err : Option RpcError)
    (byForwarder : Bool) (listed : (subid, sub) ∈ client.core.clientSubs)
    (running : (client.subs sub).quitOnce = .running err byForwarder call)
    (sending : (client.ops call).phase = .sending) (purpose : (client.ops call).purpose = .unsubscribe sub)
    (not_closing : client.core.closing = false) (handled : next etype .acceptReadErr client = some after)
    (sound : after.core.dispatch ≠ .crashed) (later : (next etype).Reaches after last) :
    (∃ subs err goal, last.core.dispatch = .cancelling subs err goal ∧ sub ∈ subs) ∧ last.core.closing = false ∧
      (last.ops call).phase = .sending ∧
      ∃ err byForwarder, (last.subs sub).quitOnce = .running err byForwarder call := by
  have stuck : after.Deadlocked sub call := by
    simp only [next] at handled
    split at handled
    · rcases close_cases (Option.some.inj handled) with ⟨_, rfl⟩ | ⟨ops, subs, core⟩
      · exact absurd rfl sound
      · constructor
        · rw [core]
          exact ⟨_, _, _, rfl, List.mem_map_of_mem listed⟩
        · rw [core]
          exact not_closing
        · rw [subs]
          exact ⟨err, byForwarder, running⟩
        · rw [ops.phase]
          exact sending
        · rw [ops.purpose]
          simp [purpose, Purpose.hasDeadline]
    · cases handled
  have still := (keeps_deadlocked etype sub call).reaches later stuck
  exact ⟨still.cancelling, still.not_closing, still.sending, still.running⟩

/-- A subscription whose user has called `Unsubscribe` when the connection fails. -/
def unsubscribing : List Action :=
  [.begin (.subscribe 0), .nextID 0, .move 0 .prepare, .move 0 .accept, .move 0 .check, .move 0 .write,
    .move 0 .signal, .acceptSent, .read [some { id := some (.number ['1']), result := some (.string ['s']) }] false,
    .acceptRead, .handle, .handle, .receive 0, .subscription 0 (.unsubscribe 1), .nextID 1, .move 1 .prepare,
    .readFail .dead]

/-- What the others can still do. -/
def othersGoOn : List Action := [.begin .call, .nextID 2, .move 2 .prepare, .subscription 0 .notice]

/-- The client just before the dispatcher hears of it. -/
def raceStart : Client Json :=
  ((next fun _ => rawMessage).run unsubscribing (initClient true)).get rfl

theorem unsubscribe_race_deadlocks_run :
    ∃ after last : Client Json, next (fun _ => rawMessage) .acceptReadErr raceStart = some after ∧
      (next fun _ => rawMessage).run othersGoOn after = some last ∧ (last.ops 2).phase = .sending ∧
      (last.ops 1).phase = .sending := by
  refine ⟨_, _, rfl, rfl, rfl, ?_⟩
  exact (unsubscribe_race_deadlocks (fun _ => rawMessage) raceStart _ _ ['s'] 0 1 none false List.mem_cons_self rfl
    rfl rfl rfl rfl (by rintro ⟨⟩) ⟨othersGoOn, rfl⟩).2.2.1

end Client

end SubstrateClient.Rpc
