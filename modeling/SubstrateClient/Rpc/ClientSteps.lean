import SubstrateClient.ListLookup
import SubstrateClient.Rpc.Client

/-!
# What an action does to the requests of a client

Every action has one of the effects below on the requests and on the tables of the dispatcher.  Invariants of the
requests are proved over these effects; what an action does to a subscription is an action of the subscription.
-/

namespace SubstrateClient.Rpc

open JsonText Interleaving

/-- The dispatcher is about to connect the request in flight again. -/
def Dispatch.Reconnects (conn : Nat) : Dispatch → Prop
  | cancelling _ _ (.reconnect other) | draining (.reconnect other) => other = conn
  | _ => False

/-- The dispatcher will not come back to its loop. -/
def Dispatch.quits : Dispatch → Bool
  | cancelling _ _ .quit | draining .quit | exited | crashed => true
  | _ => false

theorem Dispatch.not_reconnects_of_quits {dispatch : Dispatch} (quits : dispatch.quits = true) (conn : Nat) :
    ¬dispatch.Reconnects conn := by
  cases dispatch with
  | cancelling subs err goal =>
      cases goal with
      | reconnect other => cases quits
      | stopReading | quit => exact id
  | draining goal =>
      cases goal with
      | reconnect other => cases quits
      | stopReading | quit => exact id
  | selecting | handling | delivering | exited | crashed => exact id

/-- The messages that the dispatcher has not handled yet. -/
def Dispatch.pending : Dispatch → List (Option Message)
  | handling msgs _ | delivering _ _ msgs _ => msgs
  | _ => []

def Reader.pending : Reader → List (Option Message)
  | offering msgs _ => msgs
  | _ => []

/-- The dispatcher closes a connection that it cannot read from any more. -/
def Dispatch.Stops : Dispatch → Prop
  | cancelling _ _ .stopReading => True
  | _ => False

/-- The dispatcher goes on with the same goal and without failing, and does not come back if it was quitting. -/
structure Dispatch.Leads (dispatch after : Dispatch) : Prop where
  reconnects : ∀ conn, after.Reconnects conn ↔ dispatch.Reconnects conn
  stops : after.Stops → dispatch.Stops
  quits : dispatch.quits = true → after.quits = true
  crashed : after = .crashed → dispatch = .crashed

theorem Dispatch.Leads.of_live {dispatch before after : Dispatch} (at_dispatch : dispatch = before)
    (live : before.quits = false) (calm : ∀ conn, ¬before.Reconnects conn) (calm_after : ∀ conn, ¬after.Reconnects conn)
    (goes_on : ¬after.Stops) (sound : after ≠ .crashed) : dispatch.Leads after := by
  subst at_dispatch
  exact ⟨fun conn => iff_of_false (calm_after conn) (calm conn), fun stops => absurd stops goes_on, by simp [live],
    fun crashed => absurd crashed sound⟩

theorem Dispatch.Leads.refl (dispatch : Dispatch) : dispatch.Leads dispatch := ⟨fun _ => Iff.rfl, id, id, id⟩

/-- What the requests meet in the dispatcher. -/
structure Tables where
  idCounter : Nat
  respWait : List (Nat × Nat)
  lastOp : Option Nat
  locked : Bool
  reqSent : Option (Option RpcError)
  wire : List (Nat × Nat)
  conn : Nat
  reading : Bool

namespace Core

def tables (core : Core) : Tables :=
  { idCounter := core.idCounter, respWait := core.respWait, lastOp := core.lastOp, locked := core.locked,
    reqSent := core.reqSent, wire := core.wire, conn := core.conn, reading := core.reading }

/-- The messages that were read and not handled yet. -/
def pending (core : Core) : List (Option Message) := core.reader.pending ++ core.dispatch.pending

/-- The tables of two states agree, and no message is new. -/
structure Agrees (core after : Core) : Prop where
  tables : after.tables = core.tables
  pending : ∀ msg ∈ after.pending, msg ∈ core.pending
  leads : core.dispatch.Leads after.dispatch

/-- A dispatcher that handles no messages has none but those that the reader offers. -/
theorem pending_of_idle {core after : Core} (reader : after.reader = core.reader ∨ after.reader.pending = [])
    (idle : after.dispatch.pending = []) : ∀ msg ∈ after.pending, msg ∈ core.pending := by
  intro msg member
  rw [pending, idle, List.append_nil] at member
  rcases reader with same | empty
  · rw [same] at member
    exact List.mem_append_left _ member
  · simp [empty] at member

theorem Agrees.refl (core : Core) : core.Agrees core := ⟨rfl, fun _ => id, .refl _⟩

variable {core after : Core}

theorem Agrees.idCounter (agrees : core.Agrees after) : after.idCounter = core.idCounter :=
  congrArg Tables.idCounter agrees.tables

theorem Agrees.respWait (agrees : core.Agrees after) : after.respWait = core.respWait :=
  congrArg Tables.respWait agrees.tables

theorem Agrees.lastOp (agrees : core.Agrees after) : after.lastOp = core.lastOp :=
  congrArg Tables.lastOp agrees.tables

theorem Agrees.locked (agrees : core.Agrees after) : after.locked = core.locked :=
  congrArg Tables.locked agrees.tables

theorem Agrees.reqSent (agrees : core.Agrees after) : after.reqSent = core.reqSent :=
  congrArg Tables.reqSent agrees.tables

theorem Agrees.wire (agrees : core.Agrees after) : after.wire = core.wire :=
  congrArg Tables.wire agrees.tables

theorem Agrees.reading (agrees : core.Agrees after) : after.reading = core.reading :=
  congrArg Tables.reading agrees.tables

theorem Agrees.conn (agrees : core.Agrees after) : after.conn = core.conn :=
  congrArg Tables.conn agrees.tables

end Core

/-! ## Moves of a request -/

/-- The moves that the dispatcher takes no part in. -/
inductive Phase.Leads : Phase → Phase → Prop where
  | abandon (err : RpcError) : Leads .preparing (.returned (some err))
  | refuse (err : RpcError) : Leads .sending (.returned (some err))
  | fail (err : RpcError) : Leads .checking (.signalling (some err))
  | redial (conn : Nat) : Leads .checking (.dialled conn)
  | redialFail (conn : Nat) (err : RpcError) : Leads (.dialled conn) (.signalling (some err))
  | write (err : Option RpcError) : Leads .writing (.signalling err)
  | timeOut (err : RpcError) : Leads .expired (.returned (some err))

/-- What a move does to the tables. -/
inductive Moved (core after : Core) (o : Nat) (op : RequestOp) : Phase → Prop where
  | accept (sending : op.phase = .sending) (selecting : core.dispatch = .selecting) (unlocked : core.locked = false)
      (same : after = { core.addRequestOp o op.ids with locked := true, lastOp := some o }) :
      Moved core after o op .checking
  | check (checking : op.phase = .checking) (conn : Nat)
      (alive : core.writeConn = some conn ∧ conn ∉ core.closedConns) (same : after = core.send conn op.ids) :
      Moved core after o op .writing
  | signal (err : Option RpcError) (signalling : op.phase = .signalling err) (quiet : core.reqSent = none)
      (same : after = { core with reqSent := some err }) : Moved core after o op (op.afterSignal err)
  | timeOut (expired : op.phase = .expired) (selecting : core.dispatch = .selecting)
      (same : after = core.removeRequestOp op.ids) : Moved core after o op (.returned (some .context))
  | prepare (preparing : op.phase = .preparing)
      (ready : op.purpose = .batch ∨ op.purpose = .notify ∨ op.ids.length = 1) (same : after = core) :
      Moved core after o op .sending
  | expire (waiting : op.phase = .waiting) (deadline : op.purpose.hasDeadline = true) (same : after = core) :
      Moved core after o op .expired
  | alone (phase : Phase) (leads : op.phase.Leads phase) (agrees : core.Agrees after) : Moved core after o op phase

theorem Dispatch.eq_selecting {dispatch : Dispatch} (selecting : dispatch.isSelecting = true) :
    dispatch = .selecting := by
  cases dispatch <;> first | rfl | cases selecting

/-- A move of the goroutine alone. -/
theorem Moved.of_leads {core after : Core} {o : Nat} {op : RequestOp} {before phase : Phase}
    (at_phase : op.phase = before) (leads : before.Leads phase) (same : core = after) :
    Moved core after o op phase := by
  subst same
  rw [← at_phase] at leads
  exact .alone phase leads (.refl core)

theorem moved_of_move {core after : Core} {o : Nat} {op : RequestOp} {move : Move} {phase : Phase}
    (advanced : op.advance move = some phase) (moved : core.move o op move = some after) :
    Moved core after o op phase := by
  unfold RequestOp.advance at advanced
  split at advanced <;> rename_i at_phase
  · cases advanced
    exact .of_leads at_phase (.abandon _) (Option.some.inj moved)
  · obtain ⟨ready, rfl⟩ := Option.when_eq_some.mp advanced
    exact .prepare at_phase ready (Option.some.inj moved).symm
  · obtain ⟨_, rfl⟩ := Option.when_eq_some.mp advanced
    exact .of_leads at_phase (.refuse _) (Option.some.inj moved)
  · cases advanced
    exact .of_leads at_phase (.refuse _) (Option.when_eq_some.mp moved).2
  · cases advanced
    obtain ⟨⟨selecting, unlocked⟩, same⟩ := Option.when_eq_some.mp moved
    exact .accept at_phase (Dispatch.eq_selecting selecting) unlocked same.symm
  · cases advanced
    simp only [Core.move] at moved
    split at moved
    · rename_i conn target
      obtain ⟨alive, same⟩ := Option.when_eq_some.mp moved
      exact .check at_phase conn ⟨target, alive⟩ same.symm
    · cases moved
  · obtain ⟨_, rfl⟩ := Option.when_eq_some.mp advanced
    exact .of_leads at_phase (.fail _) (Option.when_eq_some.mp moved).2
  · cases advanced
    exact .of_leads at_phase (.fail _) (Option.when_eq_some.mp moved).2
  · cases advanced
    obtain ⟨_, rfl⟩ := Option.when_eq_some.mp moved
    exact .alone _ (by rw [at_phase]; exact .redial _) ⟨rfl, fun _ => id, .refl _⟩
  · cases moved
  · cases advanced
    simp only [Core.move, at_phase] at moved
    obtain ⟨_, rfl⟩ := Option.when_eq_some.mp moved
    exact .alone _ (by rw [at_phase]; exact .redialFail _ _) ⟨rfl, fun _ => id, .refl _⟩
  · cases advanced
    exact .of_leads at_phase (.write none) (Option.some.inj moved)
  · cases advanced
    cases moved
    exact .alone _ (by rw [at_phase]; exact .write _) ⟨rfl, fun _ => id, .refl _⟩
  · cases advanced
    simp only [Core.move, at_phase] at moved
    obtain ⟨quiet, same⟩ := Option.when_eq_some.mp moved
    exact .signal _ at_phase quiet same.symm
  · obtain ⟨deadline, rfl⟩ := Option.when_eq_some.mp advanced
    exact .expire at_phase deadline (Option.some.inj moved).symm
  · cases advanced
    obtain ⟨selecting, same⟩ := Option.when_eq_some.mp moved
    exact .timeOut at_phase (Dispatch.eq_selecting selecting) same.symm
  · cases advanced
    exact .of_leads at_phase (.timeOut _) (Option.when_eq_some.mp moved).2
  · cases advanced

namespace Client

variable {Value : Type}

/-! ## Cancelled requests -/

/-- The requests after `cancelAllRequests`: those in the table, apart from the one in flight, are closed. -/
def Cancelled (err : RpcError) (table : List (Nat × Nat)) (spared : List Nat) (ops after : Nat → RequestOp) : Prop :=
  ∀ o,
    (o ∈ table.map Prod.snd ∧ o ∉ spared) ∧ (ops o).closed = false ∧
        after o = { ops o with err := some err, closed := true } ∨
      ¬(o ∈ table.map Prod.snd ∧ o ∉ spared) ∧ after o = ops o

theorem cancelled_of_cancelRequests {err : RpcError} {table : List (Nat × Nat)} {spared : List Nat}
    {ops after : Nat → RequestOp} (ran : cancelRequests err table spared ops = some after) :
    Cancelled err table spared ops after := by
  induction table generalizing spared ops with
  | nil =>
      cases ran
      intro o
      simp
  | cons entry table ih =>
      obtain ⟨key, first⟩ := entry
      intro o
      rw [cancelRequests] at ran
      by_cases spare : first ∈ spared
      · have later := ih (by simpa [spare] using ran) o
        by_cases same : o = first
        · subst same
          simpa [spare] using later
        · simpa [same] using later
      · simp only [spare, if_false, RequestOp.next, Option.bind_eq_bind, Option.bind_eq_some_iff,
          Option.when_eq_some] at ran
        obtain ⟨op, ⟨not_closed, rfl⟩, ran⟩ := ran
        have later := ih ran o
        by_cases same : o = first
        · subst same
          simpa [spare, not_closed] using later
        · simpa [same, Function.update_of_ne same] using later

/-- `cancelAllRequests` fails at a channel that was closed before. -/
theorem closed_of_cancelRequests {err : RpcError} {table : List (Nat × Nat)} {spared : List Nat}
    {ops : Nat → RequestOp} (ran : cancelRequests err table spared ops = none) :
    ∃ entry ∈ table, entry.2 ∉ spared ∧ (ops entry.2).closed = true := by
  induction table generalizing spared ops with
  | nil => cases ran
  | cons entry table ih =>
      obtain ⟨key, first⟩ := entry
      rw [cancelRequests] at ran
      by_cases spare : first ∈ spared
      · obtain ⟨other, member, unspared, closed⟩ := ih (by simpa [spare] using ran)
        exact ⟨other, List.mem_cons_of_mem _ member, unspared, closed⟩
      · by_cases closed : (ops first).closed = true
        · exact ⟨(key, first), List.mem_cons_self, spare, closed⟩
        · simp only [Bool.not_eq_true] at closed
          simp only [spare, if_false, RequestOp.next, Option.when, closed, if_true, Option.bind_eq_bind,
            Option.bind_some] at ran
          obtain ⟨other, member, unspared, other_closed⟩ := ih ran
          have apart : other.2 ≠ first := fun same => unspared (by simp [same])
          rw [Function.update_of_ne apart] at other_closed
          exact ⟨other, List.mem_cons_of_mem _ member, fun spare => unspared (by simp [spare]), other_closed⟩

/-! ## The effects -/

/-- What the dispatcher fails at: a nil message, a channel that is closed already, or a request in flight that is not
there. -/
inductive Defect (client : Client Value) : Prop where
  | nilMessage (pending : none ∈ client.core.pending)
  | closedChannel (entry : Nat × Nat) (member : entry ∈ client.core.respWait)
      (closed : (client.ops entry.2).closed = true)
  | noOwner (missing : client.core.lastOp = none)
      (needed : client.core.reqSent ≠ none ∨ (∃ conn, client.core.dispatch.Reconnects conn) ∨
        ∃ o conn, (client.ops o).phase = .dialled conn)

/-- What an action does to the requests and the tables. -/
inductive Effect (action : Action) (client after : Client Value) : Prop where
  | newOp (purpose : Purpose) (unborn : (client.ops client.core.opCount).phase = .unborn)
      (ops : after.ops = Function.update client.ops client.core.opCount { purpose, phase := .preparing })
      (core : client.core.Agrees after.core)
  | nextID (o : Nat) (taken : action = .nextID o) (preparing : (client.ops o).phase = .preparing)
      (ops : after.ops = Function.update client.ops o
        { client.ops o with ids :=
            if (client.ops o).purpose = .notify then []
            else (client.ops o).ids ++ [(client.core.idCounter + 1) % 2 ^ 32] })
      (core : after.core = { client.core with idCounter := client.core.idCounter + 1 })
  | move (o : Nat) (phase : Phase) (ops : after.ops = Function.update client.ops o { client.ops o with phase })
      (moved : Moved client.core after.core o (client.ops o) phase)
      (taken : ∃ move, action = .move o move ∧ (client.ops o).advance move = some phase)
  | receive (o : Nat) (op : RequestOp) (received : RequestOp.next .receive (client.ops o) = some op)
      (ops : after.ops = Function.update client.ops o op) (core : after.core = client.core)
  | sent (err : Option RpcError) (table : List (Nat × Nat)) (signalled : client.core.reqSent = some err)
      (selecting : client.core.dispatch = .selecting)
      (kept : table = client.core.respWait ∧ err = none ∨ ∃ o, client.core.lastOp = some o ∧ err ≠ none ∧
        table = client.core.respWait.filter fun entry => entry.1 ∉ (client.ops o).ids)
      (ops : after.ops = client.ops)
      (core : Core.Agrees
        { client.core with respWait := table, reqSent := none, locked := false, lastOp := none } after.core)
  | close (err : RpcError) (goal : Goal) (spared : List Nat) (selecting : client.core.dispatch = .selecting)
      (cause : action = .acceptReadErr ∧ goal = .stopReading ∧ spared = client.core.lastOp.toList ∨
        action = .acceptClose ∧ goal = .quit ∧ spared = [])
      (ops : Cancelled err client.core.respWait spared client.ops after.ops)
      (core : Core.Agrees { client.core with respWait := [], dispatch := .cancelling [] err goal } after.core)
  | reconnect (o conn : Nat) (dialled : (client.ops o).phase = .dialled conn)
      (selecting : client.core.dispatch = .selecting) (reading : client.core.reading = true)
      (ops : Cancelled .clientReconnected client.core.respWait client.core.lastOp.toList
        (Function.update client.ops o { client.ops o with phase := .writing }) after.ops)
      (core : Core.Agrees { client.core.send conn (client.ops o).ids with
        respWait := [], dispatch := .draining (.reconnect conn) } after.core)
  | reconnectAtOnce (o conn owner : Nat) (dialled : (client.ops o).phase = .dialled conn)
      (selecting : client.core.dispatch = .selecting) (stopped : client.core.reading = false)
      (owned : client.core.lastOp = some owner)
      (ops : after.ops = Function.update client.ops o { client.ops o with phase := .writing })
      (core : Core.Agrees (Core.addRequestOp { client.core.send conn (client.ops o).ids with
        respWait := [], conn, reading := true, reader := .reading } owner (client.ops owner).ids) after.core)
  | connect (conn owner : Nat) (reconnects : client.core.dispatch.Reconnects conn)
      (owned : client.core.lastOp = some owner) (ops : after.ops = client.ops)
      (core : Core.Agrees (Core.addRequestOp { client.core with
        respWait := [], conn, reading := true, reader := .reading, dispatch := .selecting }
        owner (client.ops owner).ids) after.core)
  | answer (key o : Nat) (msg : Message) (msgs : List (Option Message)) (calls : List Message) (op : RequestOp)
      (handling : client.core.dispatch = .handling (some msg :: msgs) calls) (response : msg.isResponse = true)
      (keyed : msg.key = some key)
      (registered : client.core.respWait.lookup key = some o) (not_closed : (client.ops o).closed = false)
      (answered : (client.ops o).purpose.sub = none ∧ RequestOp.next (.deliver msg) (client.ops o) = some op ∨
        (client.ops o).purpose.sub ≠ none ∧ ∃ err, RequestOp.next (.close err) (client.ops o) = some op)
      (ops : after.ops = Function.update client.ops o op)
      (core : Core.Agrees
        { client.core with respWait := client.core.respWait.filter fun entry => entry.1 ≠ key } after.core)
  | read (msgs : List (Option Message)) (batch : Bool) (taken : action = .read msgs batch)
      (ops : after.ops = client.ops) (core : after.core = { client.core with reader := .offering msgs batch })
  | stop (stops : client.core.dispatch.Stops) (ops : after.ops = client.ops)
      (core : Core.Agrees { client.core with reading := false, dispatch := .selecting } after.core)
  | quiet (ops : after.ops = client.ops) (core : Core.Agrees client.core after.core)
  | crash (defect : client.Defect) (crashed : after.core.dispatch = .crashed)
      (ops : ∀ o, after.ops o = client.ops o ∨
        ∃ conn, (client.ops o).phase = .dialled conn ∧ after.ops o = { client.ops o with phase := .writing })
      (respWait : ∀ entry ∈ after.core.respWait, entry ∈ client.core.respWait)
      (lastOp : after.core.lastOp = client.core.lastOp) (locked : after.core.locked = client.core.locked)
      (reqSent : after.core.reqSent = client.core.reqSent)

theorem newOp_cases {purpose : Purpose} {client after : Client Value} (made : client.newOp purpose = some after) :
    (client.ops client.core.opCount).phase = .unborn ∧
      after.ops = Function.update client.ops client.core.opCount { purpose, phase := .preparing } ∧
      after.core = { client.core with opCount := client.core.opCount + 1 } ∧ after.subs = client.subs := by
  simp only [newOp, RequestOp.next, Option.bind_eq_bind, Option.bind_eq_some_iff] at made
  obtain ⟨op, begun, same⟩ := made
  split at begun <;> rename_i unborn <;> cases begun
  cases same
  exact ⟨unborn, rfl, rfl, rfl⟩

/-- The effect of closing a connection. -/
theorem close_cases {client after : Client Value} {err : RpcError} {spared : Option Nat} {goal : Goal}
    (closed : client.close err spared goal = after) :
    (∃ entry ∈ client.core.respWait, entry.2 ∉ spared.toList ∧ (client.ops entry.2).closed = true) ∧
        after = client.goto .crashed ∨
      Cancelled err client.core.respWait spared.toList client.ops after.ops ∧ after.subs = client.subs ∧
        after.core = { client.core with
          respWait := []
          clientSubs := []
          dispatch := .cancelling (client.core.clientSubs.map Prod.snd) err goal } := by
  rw [close] at closed
  split at closed <;> rename_i ran <;> subst closed
  · exact .inl ⟨closed_of_cancelRequests ran, rfl⟩
  · exact .inr ⟨cancelled_of_cancelRequests ran, rfl, rfl⟩

theorem answerSubscribe_cases {etype : Nat → ElementType Value} {client after : Client Value}
    {o sub : Nat} {msg : Message} (answered : client.answerSubscribe etype o sub msg = some after) :
    ∃ op err clientSubs, RequestOp.next (.close err) (client.ops o) = some op ∧
      after.ops = Function.update client.ops o op ∧ after.core = { client.core with clientSubs } := by
  rw [answerSubscribe] at answered
  split at answered
  · obtain ⟨op, closes, rfl⟩ := Option.map_eq_some_iff.mp answered
    exact ⟨op, _, client.core.clientSubs, closes, rfl, rfl⟩
  · obtain ⟨op, closes, rfl⟩ := Option.map_eq_some_iff.mp answered
    exact ⟨op, _, client.core.clientSubs, closes, rfl, rfl⟩
  · simp only [Option.bind_eq_bind, Option.bind_eq_some_iff] at answered
    obtain ⟨op, closes, started, _, same⟩ := answered
    cases same
    exact ⟨op, none, _, closes, rfl, rfl⟩

theorem answer_cases {etype : Nat → ElementType Value} {client after : Client Value} {o : Nat}
    {msg : Message} (answered : client.answer etype o msg = some after) :
    (client.ops o).closed = true ∧ after = client.goto .crashed ∨
      (client.ops o).closed = false ∧ ∃ op clientSubs,
        ((client.ops o).purpose.sub = none ∧ RequestOp.next (.deliver msg) (client.ops o) = some op ∨
          (client.ops o).purpose.sub ≠ none ∧ ∃ err, RequestOp.next (.close err) (client.ops o) = some op) ∧
        after.ops = Function.update client.ops o op ∧ after.core = { client.core with clientSubs } := by
  rw [answer] at answered
  split at answered
  · rename_i closed
    cases answered
    exact .inl ⟨closed, rfl⟩
  · rename_i not_closed
    right
    constructor
    · simpa using not_closed
    · split at answered <;> rename_i subscribes
      · obtain ⟨op, delivered, rfl⟩ := Option.map_eq_some_iff.mp answered
        exact ⟨op, client.core.clientSubs, .inl ⟨subscribes, delivered⟩, rfl, rfl⟩
      · obtain ⟨op, err, clientSubs, closes, ops, core⟩ := answerSubscribe_cases answered
        exact ⟨op, clientSubs, .inr ⟨by simp [subscribes], err, closes⟩, ops, core⟩

theorem effect_of_handleResponse {etype : Nat → ElementType Value} {action : Action}
    {client after : Client Value} {msgs : List (Option Message)} {calls : List Message} {msg : Message}
    (handling : client.core.dispatch = .handling (some msg :: msgs) calls) (response : msg.isResponse = true)
    (handled : handleResponse etype (client.goto (.handling msgs calls)) msg = some after) :
    Effect action client after := by
  have shorter : ∀ other ∈ (client.goto (.handling msgs calls)).core.pending, other ∈ client.core.pending := by
    intro other member
    simp only [Core.pending, goto, Dispatch.pending, handling, List.mem_append, List.mem_cons] at member ⊢
    tauto
  have agrees : ∀ table clientSubs, Core.Agrees { client.core with respWait := table }
      { (client.goto (.handling msgs calls)).core with respWait := table, clientSubs } := fun table clientSubs =>
    ⟨rfl, shorter, .of_live handling rfl (fun _ => id) (fun _ => id) id (by rintro ⟨⟩)⟩
  rw [handleResponse] at handled
  split at handled
  · cases handled
    exact .quiet rfl (agrees client.core.respWait client.core.clientSubs)
  · rename_i o found
    obtain ⟨key, keyed, registered⟩ := Option.bind_eq_some_iff.mp found
    simp only [keyed, ne_eq, Option.some.injEq] at handled
    rcases answer_cases handled with ⟨closed, rfl⟩ | ⟨not_closed, op, clientSubs, answered, ops, core⟩
    · exact .crash (.closedChannel (key, o) (ListLookup.mem_of_lookup registered) closed) rfl (fun _ => .inl rfl)
        (fun _ member => (List.mem_filter.mp member).1) rfl rfl rfl
    · apply Effect.answer key o msg msgs calls op handling response keyed registered not_closed answered ops
      rw [core]
      exact agrees _ clientSubs

/-- An action that leaves the requests and the tables alone. -/
theorem Effect.of_same {action : Action} {client after : Client Value} (ops : after.ops = client.ops)
    (core : after.core = client.core) : Effect action client after := by
  apply Effect.quiet ops
  rw [core]
  exact .refl _

theorem effect_of_handle {etype : Nat → ElementType Value} {client after : Client Value}
    (stepped : next etype .handle client = some after) : Effect .handle client after := by
  simp only [next] at stepped
  split at stepped
  · rename_i calls handling
    cases stepped
    exact .quiet rfl ⟨rfl, by
      simp [Core.pending, goto, Dispatch.pending, handling],
      .of_live handling rfl (fun _ => id) (fun _ => id) id (by rintro ⟨⟩)⟩
  · rename_i msgs calls handling
    cases stepped
    have pending : none ∈ client.core.pending := by simp [Core.pending, Dispatch.pending, handling]
    exact .crash (.nilMessage pending) rfl (fun _ => .inl rfl) (fun _ => id) rfl rfl rfl
  · rename_i msg msgs calls handling
    have shorter : ∀ other ∈ client.core.reader.pending ++ msgs, other ∈ client.core.pending := by
      intro other member
      simp only [Core.pending, Dispatch.pending, handling, List.mem_append, List.mem_cons] at member ⊢
      tauto
    have agrees : ∀ calls, Core.Agrees client.core (client.goto (.handling msgs calls)).core := fun calls =>
      ⟨rfl, shorter, .of_live handling rfl (fun _ => id) (fun _ => id) id (by rintro ⟨⟩)⟩
    rw [handleImmediate] at stepped
    split at stepped
    · split at stepped
      · cases stepped
        exact .quiet rfl (agrees calls)
      · split at stepped <;> cases stepped
        · exact .quiet rfl (agrees calls)
        · exact .quiet rfl
            ⟨rfl, shorter, .of_live handling rfl (fun _ => id) (fun _ => id) id (by rintro ⟨⟩)⟩
    · split at stepped <;> rename_i response
      · exact effect_of_handleResponse handling response stepped
      · cases stepped
        exact .quiet rfl (agrees (calls ++ [msg]))
  · cases stepped

theorem effect_of_acceptReconnect {etype : Nat → ElementType Value} {o : Nat}
    {client after : Client Value} (stepped : next etype (.acceptReconnect o) client = some after) :
    Effect (.acceptReconnect o) client after := by
  simp only [next] at stepped
  split at stepped
  · rename_i conn selecting dialled
    simp only [RequestOp.next, RequestOp.advance, dialled, Option.map_some, Option.bind_eq_bind,
      Option.bind_some] at stepped
    split at stepped
    · rename_i reading
      rcases close_cases (Option.some.inj stepped) with ⟨⟨entry, member, _, closed⟩, rfl⟩ | ⟨ops, _, core⟩
      · refine .crash (.closedChannel entry member ?_) rfl (fun other => ?_) (fun _ => id) rfl rfl rfl
        · by_cases same : entry.2 = o
          · simpa [setOp, same] using closed
          · simpa [setOp, Function.update_of_ne same] using closed
        · by_cases same : other = o
          · exact .inr ⟨conn, by simp [goto, setOp, same, dialled]⟩
          · exact .inl (by simp [goto, setOp, Function.update_of_ne same])
      · apply Effect.reconnect o conn dialled selecting reading ops
        rw [core]
        exact ⟨rfl, fun _ => id, ⟨fun _ => Iff.rfl, id, (by rintro ⟨⟩), (by rintro ⟨⟩)⟩⟩
    · rename_i stopped
      rw [connect] at stepped
      split at stepped <;> rename_i owner <;> cases stepped
      · refine .crash (.noOwner owner (.inr (.inr ⟨o, conn, dialled⟩))) rfl (fun other => ?_) (fun _ => id) rfl rfl rfl
        by_cases same : other = o
        · exact .inr ⟨conn, by simp [goto, setOp, same, dialled]⟩
        · exact .inl (by simp [goto, setOp, Function.update_of_ne same])
      · rename_i first
        have ids : ((Function.update client.ops o { client.ops o with phase := .writing }) first).ids =
            (client.ops first).ids := by
          by_cases same : first = o
          · simp [same]
          · simp [Function.update_of_ne same]
        apply Effect.reconnectAtOnce o conn first dialled selecting (by simpa [Core.send] using stopped) owner rfl
        simp only [setOp, ids]
        exact ⟨rfl, by
          simp [Core.pending, Core.addRequestOp, Reader.pending, Dispatch.pending, Core.send, selecting],
          .of_live selecting rfl (fun _ => id) (fun _ => id) id (by rintro ⟨⟩)⟩
  · cases stepped

theorem effect_of_acceptSent {etype : Nat → ElementType Value} {client after : Client Value}
    (stepped : next etype .acceptSent client = some after) : Effect .acceptSent client after := by
  simp only [next] at stepped
  split at stepped
  · rename_i err selecting signalled
    have agrees : ∀ table, Core.Agrees
        { client.core with respWait := table, reqSent := none, locked := false, lastOp := none }
        { client.core with respWait := table, reqSent := none, locked := false, lastOp := none } := fun table =>
      ⟨rfl, fun _ => id, .refl _⟩
    split at stepped
    · rename_i owner
      cases stepped
      exact .crash (.noOwner owner (.inl (by simp [signalled]))) rfl (fun _ => .inl rfl) (fun _ => id) rfl rfl rfl
    · rename_i o reason owner
      cases stepped
      exact .sent _ _ signalled selecting (.inr ⟨o, owner, by simp, rfl⟩) rfl (agrees _)
    · cases stepped
      exact .sent none client.core.respWait signalled selecting (.inl ⟨rfl, rfl⟩) rfl (agrees _)
  · cases stepped

theorem effect_of_acceptRead {etype : Nat → ElementType Value} {client after : Client Value}
    (stepped : next etype .acceptRead client = some after) : Effect .acceptRead client after := by
  simp only [next] at stepped
  split at stepped
  · rename_i msgs batch selecting offering
    have moved : ∀ others : List (Option Message), (∀ other ∈ others, other ∈ msgs) →
        ∀ other ∈ others, other ∈ client.core.pending := by
      intro others sub other member
      simp [Core.pending, Reader.pending, offering, sub other member]
    split at stepped
    · split at stepped <;> cases stepped
      · exact .quiet rfl ⟨rfl, by
          simp [Core.pending, Reader.pending, Dispatch.pending, selecting], .refl _⟩
      · exact .quiet rfl
          ⟨rfl, moved msgs fun _ => id, .of_live selecting rfl (fun _ => id) (fun _ => id) id (by rintro ⟨⟩)⟩
    · cases stepped
      exact .quiet rfl
        ⟨rfl, moved (msgs.take 1) fun _ => List.mem_of_mem_take,
          .of_live selecting rfl (fun _ => id) (fun _ => id) id (by rintro ⟨⟩)⟩
  · cases stepped

theorem effect_of_acceptReadErr {etype : Nat → ElementType Value}
    {client after : Client Value} (stepped : next etype .acceptReadErr client = some after) :
    Effect .acceptReadErr client after := by
  simp only [next] at stepped
  split at stepped
  · rename_i err selecting failed
    rcases close_cases (Option.some.inj stepped) with ⟨⟨entry, member, _, closed⟩, rfl⟩ | ⟨ops, _, core⟩
    · exact .crash (.closedChannel entry member closed) rfl (fun _ => .inl rfl) (fun _ => id) rfl rfl rfl
    · apply Effect.close err .stopReading _ selecting (.inl ⟨rfl, rfl, rfl⟩) ops
      rw [core]
      exact ⟨rfl, Core.pending_of_idle (.inr rfl) rfl, ⟨fun _ => Iff.rfl, id, (by rintro ⟨⟩), (by rintro ⟨⟩)⟩⟩
  · cases stepped

theorem effect_of_acceptClose {etype : Nat → ElementType Value} {client after : Client Value}
    (stepped : next etype .acceptClose client = some after) : Effect .acceptClose client after := by
  simp only [next] at stepped
  split at stepped
  · rename_i selecting
    split at stepped
    · rcases close_cases (Option.some.inj stepped) with ⟨⟨entry, member, _, closed⟩, rfl⟩ | ⟨ops, _, core⟩
      · exact .crash (.closedChannel entry member closed) rfl (fun _ => .inl rfl) (fun _ => id) rfl rfl rfl
      · apply Effect.close .clientQuit .quit [] selecting (.inr ⟨rfl, rfl, rfl⟩) ops
        rw [core]
        exact ⟨rfl, Core.pending_of_idle (.inl rfl) rfl, ⟨fun _ => Iff.rfl, id, fun _ => rfl, (by rintro ⟨⟩)⟩⟩
    · cases stepped
      exact .quiet rfl ⟨rfl, Core.pending_of_idle (.inl rfl) rfl,
        .of_live selecting rfl (fun _ => id) (fun _ => id) id (by rintro ⟨⟩)⟩
  · cases stepped

theorem effect_of_closeConn {etype : Nat → ElementType Value} {client after : Client Value}
    (stepped : next etype .closeConn client = some after) : Effect .closeConn client after := by
  simp only [next] at stepped
  split at stepped
  · rename_i err goal cancelling
    simp only [Option.when_eq_some] at stepped
    obtain ⟨_, same⟩ := stepped
    split at same
    · subst same
      refine .stop ?_ rfl ⟨rfl, Core.pending_of_idle (.inl rfl) rfl, .refl _⟩
      rw [cancelling]
      exact trivial
    · subst same
      refine .quiet rfl ⟨rfl, Core.pending_of_idle (.inl rfl) rfl, ?_⟩
      rw [cancelling]
      cases goal with
      | stopReading | reconnect | quit => exact ⟨fun _ => Iff.rfl, False.elim, id, (by rintro ⟨⟩)⟩
  · cases stepped

theorem effect_of_drained {etype : Nat → ElementType Value} {client after : Client Value}
    (stepped : next etype .drained client = some after) : Effect .drained client after := by
  simp only [next] at stepped
  split at stepped
  · rename_i goal err draining failed
    split at stepped
    · cases stepped
      exact .quiet rfl ⟨rfl, Core.pending_of_idle (.inr rfl) rfl,
        .of_live draining rfl (fun _ => id) (fun _ => id) id (by rintro ⟨⟩)⟩
    · rename_i conn
      have reconnects : client.core.dispatch.Reconnects conn := by simp [Dispatch.Reconnects, draining]
      rw [connect] at stepped
      split at stepped <;> rename_i owner <;> cases stepped
      · exact .crash (.noOwner owner (.inr (.inl ⟨conn, reconnects⟩))) rfl (fun _ => .inl rfl) (fun _ => id) rfl rfl rfl
      · exact .connect conn _ reconnects owner rfl
          ⟨rfl, fun _ => id, .refl _⟩
    · cases stepped
      refine .quiet rfl ⟨rfl, Core.pending_of_idle (.inr rfl) rfl, ?_⟩
      rw [draining]
      exact ⟨fun _ => Iff.rfl, False.elim, fun _ => rfl, (by rintro ⟨⟩)⟩
  · cases stepped

/-! ## Every action has one of the effects -/

/-- The effect of `dispatch` moving on inside a batch or inside `cancelAllRequests`. -/
theorem effect_of_goto {action : Action} {client : Client Value} {dispatch : Dispatch}
    {subs : Nat → ClientSubscription Value}
    (pending : ∀ msg ∈ client.core.reader.pending ++ dispatch.pending, msg ∈ client.core.pending)
    (leads : client.core.dispatch.Leads dispatch) : Effect action client ({ client with subs }.goto dispatch) :=
  .quiet rfl ⟨rfl, pending, leads⟩

theorem effect_of_next {etype : Nat → ElementType Value} {action : Action}
    {client after : Client Value} (stepped : next etype action client = some after) :
    Effect action client after := by
  cases action with
  | begin purpose =>
      cases purpose with
      | call | batch | notify =>
          obtain ⟨unborn, ops, core, _⟩ := newOp_cases stepped
          refine .newOp _ unborn ops ?_
          rw [core]
          exact ⟨rfl, fun _ => id, .refl _⟩
      | subscribe sub =>
          simp only [next, Option.bind_eq_bind, Option.bind_eq_some_iff, Option.when_eq_some] at stepped
          obtain ⟨made, created, _, rfl⟩ := stepped
          obtain ⟨unborn, ops, core, _⟩ := newOp_cases created
          refine .newOp _ unborn ops ?_
          rw [core]
          exact ⟨rfl, fun _ => id, .refl _⟩
      | unsubscribe sub => cases stepped
  | nextID o =>
      simp only [next, RequestOp.next, Option.bind_eq_bind, Option.bind_eq_some_iff] at stepped
      obtain ⟨op, numbered, same⟩ := stepped
      split at numbered <;> rename_i preparing <;> cases numbered
      cases same
      exact .nextID o rfl preparing rfl rfl
  | move o move =>
      simp only [next, RequestOp.next, Option.bind_eq_bind, Option.bind_eq_some_iff,
        Option.map_eq_some_iff] at stepped
      obtain ⟨op, ⟨phase, advanced, rfl⟩, core, moved, same⟩ := stepped
      cases same
      exact .move o phase rfl (moved_of_move advanced moved) ⟨move, rfl, advanced⟩
  | acceptReconnect o => exact effect_of_acceptReconnect stepped
  | receive o =>
      simp only [next, Option.bind_eq_bind, Option.bind_eq_some_iff] at stepped
      obtain ⟨op, received, same⟩ := stepped
      split at same
      · obtain ⟨returned, _, same⟩ := Option.bind_eq_some_iff.mp same
        cases same
        exact .receive o op received rfl rfl
      · cases same
        exact .receive o op received rfl rfl
  | acceptSent => exact effect_of_acceptSent stepped
  | acceptRead => exact effect_of_acceptRead stepped
  | acceptReadErr => exact effect_of_acceptReadErr stepped
  | acceptClose => exact effect_of_acceptClose stepped
  | handle => exact effect_of_handle stepped
  | deliver =>
      simp only [next] at stepped
      split at stepped
      · rename_i sub result msgs calls delivering
        obtain ⟨taken, _, same⟩ := Option.bind_eq_some_iff.mp stepped
        cases same
        apply effect_of_goto
        · simp [Core.pending, Dispatch.pending, delivering]
        · exact .of_live delivering rfl (fun _ => id) (fun _ => id) id (by rintro ⟨⟩)
      · cases stepped
  | drop =>
      simp only [next] at stepped
      split at stepped
      · rename_i sub result msgs calls delivering
        obtain ⟨_, rfl⟩ := Option.when_eq_some.mp stepped
        apply effect_of_goto
        · simp [Core.pending, Dispatch.pending, delivering]
        · exact .of_live delivering rfl (fun _ => id) (fun _ => id) id (by rintro ⟨⟩)
      · cases stepped
  | cancelSub sub =>
      simp only [next] at stepped
      split at stepped
      · rename_i subs err goal cancelling
        obtain ⟨cancelled, _, kept⟩ := Option.bind_eq_some_iff.mp stepped
        obtain ⟨_, rfl⟩ := Option.when_eq_some.mp kept
        apply effect_of_goto
        · simp [Core.pending, Dispatch.pending, cancelling]
        · rw [cancelling]
          cases goal with
          | stopReading | reconnect | quit => exact ⟨fun _ => Iff.rfl, id, id, (by rintro ⟨⟩)⟩
      · cases stepped
  | closeConn => exact effect_of_closeConn stepped
  | drain =>
      simp only [next] at stepped
      split at stepped
      · rename_i goal msgs batch draining offering
        cases stepped
        exact .quiet rfl ⟨rfl,
          Core.pending_of_idle (.inr rfl) (by simp [Dispatch.pending, draining]), .refl _⟩
      · cases stepped
  | drained => exact effect_of_drained stepped
  | read msgs batch =>
      simp only [next] at stepped
      split at stepped <;> cases stepped
      exact .read msgs batch rfl rfl rfl
  | readFail err =>
      simp only [next] at stepped
      split at stepped <;> rename_i reading <;> cases stepped
      exact .quiet rfl ⟨rfl, by
        simp [Core.pending, Reader.pending, reading], .refl _⟩
  | serve proc =>
      obtain ⟨_, rfl⟩ := Option.when_eq_some.mp stepped
      exact .quiet rfl ⟨rfl, fun _ => id, .refl _⟩
  | subscription sub move =>
      obtain ⟨moved, _, _, _, rfl | made⟩ := subscription_cases stepped
      · exact .of_same rfl rfl
      · obtain ⟨unborn, ops, core, _⟩ := newOp_cases made
        refine .newOp (.unsubscribe sub) unborn ops ?_
        rw [core]
        exact ⟨rfl, fun _ => id, .refl _⟩

end Client

end SubstrateClient.Rpc
