import SubstrateClient.Rpc.Link
import SubstrateClient.Rpc.Routing

/-!
# Requests that somebody answers

As long as no read error is handled while a request is in flight, every request that waits has a response coming for
each of its identifiers: it is there already, the dispatcher waits for it, or the channel of the request is closed.
The request in flight survives a new connection because it is registered again there, and all others are closed with
the old connection.
-/

namespace SubstrateClient.Rpc

open JsonText Interleaving

/-! ## While there is no connection -/

/-- The request has not got past the check of a connection. -/
def Phase.asking : Phase → Bool
  | checking | dialled _ | signalling (some _) | returned (some _) => true
  | _ => false

/-- The request has returned with an error. -/
def Phase.failed : Phase → Bool
  | returned (some _) => true
  | _ => false

theorem Phase.Leads.asking {before phase : Phase} (leads : before.Leads phase) (asking : before.asking = true) :
    phase.asking = true := by
  cases leads <;> first | rfl | cases asking

theorem Phase.Leads.not_failed {before phase : Phase} (leads : before.Leads phase) : before.failed = false := by
  cases leads <;> rfl

/-- The connection is lost, or is being closed because of that. -/
def Core.Down (core : Core) : Prop := core.reading = false ∨ core.dispatch.Stops

theorem Core.Agrees.down {core after : Core} (agrees : core.Agrees after) (down : after.Down) : core.Down := by
  rcases down with stopped | stops
  · exact .inl (agrees.reading ▸ stopped)
  · exact .inr (agrees.leads.stops stops)

namespace Client

variable {Value : Type} {client after : Client Value}

/-- While there is no connection, only the request that asks for one is registered. -/
structure Tidy (client : Client Value) : Prop where
  stopped : client.core.dispatch.Stops → client.core.lastOp = none
  registered : client.core.Down → ∀ o id, client.core.Waits o id → client.core.lastOp = some o
  asking : client.core.Down → ∀ o, client.core.lastOp = some o → (client.ops o).phase.asking = true
  unsent : client.core.Down → client.core.reqSent ≠ some none
  failed : ∀ err o, client.core.reqSent = some (some err) → client.core.lastOp = some o →
    (client.ops o).phase.failed = true
  cleared : ∀ conn, client.core.dispatch.Reconnects conn → client.core.respWait = []

/-- What an action leaves that does not end or begin a connection or the sending of a request. -/
structure KeepsTidy (client after : Client Value) : Prop where
  stops : after.core.dispatch.Stops → client.core.dispatch.Stops
  down : after.core.Down → client.core.Down
  reconnects : ∀ conn, after.core.dispatch.Reconnects conn → client.core.dispatch.Reconnects conn
  respWait : ∀ entry ∈ after.core.respWait, entry ∈ client.core.respWait
  lastOp : after.core.lastOp = client.core.lastOp
  reqSent : after.core.reqSent = client.core.reqSent
  asking : ∀ o, (client.ops o).phase.asking = true → (after.ops o).phase.asking = true
  failed : ∀ o, (client.ops o).phase.failed = true → (after.ops o).phase.failed = true

theorem Tidy.congr (tidy : client.Tidy) (keeps : KeepsTidy client after) : after.Tidy := by
  constructor
  · intro stops
    rw [keeps.lastOp]
    exact tidy.stopped (keeps.stops stops)
  · intro down o id waits
    rw [keeps.lastOp]
    exact tidy.registered (keeps.down down) o id (keeps.respWait _ waits)
  · intro down o owner
    rw [keeps.lastOp] at owner
    exact keeps.asking o (tidy.asking (keeps.down down) o owner)
  · intro down
    rw [keeps.reqSent]
    exact tidy.unsent (keeps.down down)
  · intro err o signalled owner
    rw [keeps.reqSent] at signalled
    rw [keeps.lastOp] at owner
    exact keeps.failed o (tidy.failed err o signalled owner)
  · intro conn reconnects
    have empty := tidy.cleared conn (keeps.reconnects conn reconnects)
    apply List.eq_nil_iff_forall_not_mem.mpr
    intro entry member
    simpa [empty] using keeps.respWait entry member

/-- One request changes that is not at a phase that matters, or keeps to such a phase. -/
theorem keepsTidy_update {core : Core} {o : Nat} {op : RequestOp} (ops : after.ops = Function.update client.ops o op)
    (agrees : core.Agrees after.core)
    (stops : core.dispatch = client.core.dispatch) (reading : core.reading = client.core.reading)
    (respWait : ∀ entry ∈ core.respWait, entry ∈ client.core.respWait) (lastOp : core.lastOp = client.core.lastOp)
    (reqSent : core.reqSent = client.core.reqSent)
    (asking : (client.ops o).phase.asking = true → op.phase.asking = true)
    (failed : (client.ops o).phase.failed = true → op.phase.failed = true) : KeepsTidy client after := by
  constructor
  · intro stop
    rw [← stops]
    exact agrees.leads.stops stop
  · intro down
    have before := agrees.down down
    rwa [Core.Down, stops, reading] at before
  · intro conn reconnects
    rw [← stops]
    exact (agrees.leads.reconnects conn).mp reconnects
  · intro entry member
    rw [agrees.respWait] at member
    exact respWait entry member
  · exact agrees.lastOp.trans lastOp
  · exact agrees.reqSent.trans reqSent
  · intro other
    by_cases same : other = o
    · subst same
      rw [ops, Function.update_self]
      exact asking
    · rw [ops, Function.update_of_ne same]
      exact id
  · intro other
    by_cases same : other = o
    · subst same
      rw [ops, Function.update_self]
      exact failed
    · rw [ops, Function.update_of_ne same]
      exact id

theorem keepsTidy_same {core : Core} (ops : after.ops = client.ops) (agrees : core.Agrees after.core)
    (stops : core.dispatch = client.core.dispatch) (reading : core.reading = client.core.reading)
    (respWait : ∀ entry ∈ core.respWait, entry ∈ client.core.respWait) (lastOp : core.lastOp = client.core.lastOp)
    (reqSent : core.reqSent = client.core.reqSent) : KeepsTidy client after := by
  have same : after.ops = Function.update client.ops 0 (client.ops 0) := by rw [ops, Function.update_eq_self]
  exact keepsTidy_update same agrees stops reading respWait lastOp reqSent id id

/-- A request with the write lock is in flight, and its signal is still to come. -/
theorem in_flight_of_holds (exclusive : client.writeLock.Exclusive) {o : Nat}
    (holds : (client.ops o).phase.holds = true) : client.core.lastOp = some o ∧ client.core.reqSent = none := by
  obtain ⟨owner, quiet⟩ := exclusive.inside_owner o holds
  exact ⟨owner, by simpa [writeLock] using quiet⟩

theorem reqSent_of_lastOp (exclusive : client.writeLock.Exclusive) (idle : client.core.lastOp = none) :
    client.core.reqSent = none := by
  by_contra signalled
  exact exclusive.signal_owner (by simpa [writeLock, Option.isSome_iff_ne_none] using signalled) idle

/-- A request that finds its connection alive is not there while the connection is down. -/
theorem Tidy.not_down_of_check (tidy : client.Tidy) (exclusive : client.writeLock.Exclusive)
    (linked : client.core.Linked) (sound : client.core.dispatch ≠ .crashed) {o conn : Nat}
    (checking : (client.ops o).phase = .checking)
    (alive : client.core.writeConn = some conn ∧ conn ∉ client.core.closedConns) : ¬client.core.Down := by
  obtain ⟨target, still_open⟩ := alive
  rintro (stopped | stops)
  · obtain ⟨closed, calm⟩ := linked.dead stopped
    rcases linked.target calm with none | same | crashed
    · simp [target] at none
    · have equal : conn = client.core.conn := by simpa [target] using same
      exact still_open (equal ▸ closed)
    · exact sound crashed
  · have owner := (in_flight_of_holds exclusive (o := o) (by rw [checking]; rfl)).1
    simp [tidy.stopped stops] at owner

theorem Tidy.accept (tidy : client.Tidy) (exclusive : client.writeLock.Exclusive) {o : Nat}
    (selecting : client.core.dispatch = .selecting) (unlocked : client.core.locked = false)
    (ops : after.ops = Function.update client.ops o { client.ops o with phase := .checking })
    (core : after.core = { client.core.addRequestOp o (client.ops o).ids with locked := true, lastOp := some o }) :
    after.Tidy := by
  have idle : client.core.lastOp = none := by
    by_contra owned
    have locked := exclusive.locked_iff.mpr owned
    simp [writeLock, unlocked] at locked
  have quiet := reqSent_of_lastOp exclusive idle
  have calm : ¬after.core.dispatch.Stops := by
    rw [core]
    simp only [Core.addRequestOp, selecting]
    exact id
  have before : after.core.Down → client.core.Down := by
    rw [core]
    exact id
  constructor
  · exact fun stops => absurd stops calm
  · intro down other id waits
    rw [core] at waits ⊢
    rcases Core.waits_addRequestOp.mp waits with ⟨_, rfl⟩ | ⟨_, earlier⟩
    · rfl
    · simpa [idle] using tidy.registered (before down) other id earlier
  · intro _ other owner
    rw [core] at owner
    cases owner
    rw [ops, Function.update_self]
    rfl
  · rw [core]
    exact fun _ => by simp [Core.addRequestOp, quiet]
  · intro err other signalled
    rw [core] at signalled
    simp [Core.addRequestOp, quiet] at signalled
  · intro conn reconnects
    rw [core] at reconnects
    simp only [Core.addRequestOp, selecting] at reconnects
    exact reconnects.elim

theorem Tidy.moved (tidy : client.Tidy) (exclusive : client.writeLock.Exclusive) (linked : client.core.Linked)
    (sound : client.core.dispatch ≠ .crashed) {o : Nat} {phase : Phase}
    (ops : after.ops = Function.update client.ops o { client.ops o with phase })
    (moved : Moved client.core after.core o (client.ops o) phase) : after.Tidy := by
  have agrees : after.core.Agrees after.core := .refl _
  cases moved with
  | accept sending selecting unlocked same => exact tidy.accept exclusive selecting unlocked ops same
  | check checking conn alive same =>
      have up := tidy.not_down_of_check exclusive linked sound checking alive
      have quiet := (in_flight_of_holds exclusive (o := o) (by rw [checking]; rfl)).2
      have down : after.core.Down → client.core.Down := by
        rw [same]
        exact id
      constructor
      · rw [same]
        exact tidy.stopped
      · exact fun now => absurd (down now) up
      · exact fun now => absurd (down now) up
      · exact fun now => absurd (down now) up
      · rw [same]
        intro err other signalled
        simp [Core.send, quiet] at signalled
      · rw [same]
        exact tidy.cleared
  | signal err signalling quiet same =>
      have owner := (in_flight_of_holds exclusive (o := o) (by rw [signalling]; rfl)).1
      have down : after.core.Down → err ≠ none := by
        rw [same]
        rintro now rfl
        simpa [signalling, Phase.asking] using tidy.asking now o owner
      constructor
      · rw [same]
        exact tidy.stopped
      · rw [same]
        exact tidy.registered
      · intro now other other_owner
        have now_owner : client.core.lastOp = some other := by rw [same] at other_owner; exact other_owner
        obtain rfl : other = o := by simpa [owner] using now_owner.symm
        obtain ⟨reason, rfl⟩ := Option.ne_none_iff_exists'.mp (down now)
        rw [ops, Function.update_self]
        rfl
      · intro now
        rw [same]
        simpa using down now
      · intro reason other signalled other_owner
        rw [same] at signalled other_owner
        obtain rfl : other = o := by simpa [owner] using other_owner.symm
        cases signalled
        rw [ops, Function.update_self]
        rfl
      · rw [same]
        exact tidy.cleared
  | timeOut expired selecting same =>
      apply tidy.congr
      apply keepsTidy_update ops agrees
      · rw [same]
        rfl
      · rw [same]
        rfl
      · rw [same]
        exact fun entry member => (List.mem_filter.mp member).1
      · rw [same]
        rfl
      · rw [same]
        rfl
      · exact fun _ => rfl
      · exact fun _ => rfl
  | prepare preparing ready same =>
      exact tidy.congr (keepsTidy_update ops agrees (by rw [same]) (by rw [same]) (by rw [same]; exact fun _ => id)
        (by rw [same]) (by rw [same]) (by simp [preparing, Phase.asking]) (by simp [preparing, Phase.failed]))
  | expire waiting deadline same =>
      exact tidy.congr (keepsTidy_update ops agrees (by rw [same]) (by rw [same]) (by rw [same]; exact fun _ => id)
        (by rw [same]) (by rw [same]) (by simp [waiting, Phase.asking]) (by simp [waiting, Phase.failed]))
  | alone _ leads agrees =>
      exact tidy.congr (keepsTidy_update ops agrees rfl rfl (fun _ => id) rfl rfl leads.asking
        (by simp [leads.not_failed]))

theorem Tidy.sent (tidy : client.Tidy) (routed : client.Routed) {err : Option RpcError} {table : List (Nat × Nat)}
    (signalled : client.core.reqSent = some err) (selecting : client.core.dispatch = .selecting)
    (kept : table = client.core.respWait ∧ err = none ∨ ∃ o, client.core.lastOp = some o ∧ err ≠ none ∧
      table = client.core.respWait.filter fun entry => entry.1 ∉ (client.ops o).ids)
    (agrees : Core.Agrees
      { client.core with respWait := table, reqSent := none, locked := false, lastOp := none } after.core) :
    after.Tidy := by
  have before : after.core.Down → client.core.Down := agrees.down
  constructor
  · exact fun stops => agrees.lastOp
  · intro now o id waits
    have down := before now
    rcases kept with ⟨rfl, rfl⟩ | ⟨owner, owned, _, rfl⟩
    · exact absurd signalled (tidy.unsent down)
    · obtain ⟨member, foreign⟩ := List.mem_filter.mp (agrees.waits waits)
      have same : client.core.lastOp = some o := tidy.registered down o id member
      obtain rfl : o = owner := by simpa [owned] using same.symm
      have own := ((routed.requests o).registered id member).1
      simp [own] at foreign
  · intro _ o owner
    rw [agrees.lastOp] at owner
    cases owner
  · intro _
    rw [agrees.reqSent]
    rintro ⟨⟩
  · intro reason o now
    rw [agrees.reqSent] at now
    cases now
  · intro conn reconnects
    have earlier := (agrees.leads.reconnects conn).mp reconnects
    simp only [selecting] at earlier
    exact earlier.elim

/-- The server behaves, and a read error is handled only while no request is in flight. -/
def undisturbed : Action → Client Value → Bool
  | .acceptReadErr, client => client.core.lastOp.isNone
  | action, client => behaves action client

theorem behaves_of_undisturbed {action : Action} (allowed : undisturbed action client = true) :
    behaves action client = true := by
  cases action <;> first | rfl | exact allowed

/-- What is known of a client besides. -/
structure Known (client : Client Value) : Prop where
  exclusive : client.writeLock.Exclusive
  keeps_owner : client.KeepsOwner
  routed : client.Routed
  linked : client.core.Linked

theorem Tidy.close (tidy : client.Tidy) (exclusive : client.writeLock.Exclusive) {err : RpcError} {goal : Goal}
    {spared : List Nat} (cause : goal = .stopReading ∧ client.core.lastOp = none ∨ goal = .quit)
    (ops : Cancelled err client.core.respWait spared client.ops after.ops)
    (agrees : Core.Agrees { client.core with respWait := [], dispatch := .cancelling [] err goal } after.core) :
    after.Tidy := by
  have unregistered : ∀ o id, ¬after.core.Waits o id := by
    intro o id waits
    simpa [Core.Waits] using agrees.waits waits
  have owner : after.core.lastOp = client.core.lastOp := agrees.lastOp
  have signal : after.core.reqSent = client.core.reqSent := agrees.reqSent
  have idle : after.core.Down → client.core.lastOp = none ∨ client.core.Down := by
    intro now
    rcases agrees.down now with stopped | stops
    · exact .inr (.inl stopped)
    · rcases cause with ⟨_, idle⟩ | rfl
      · exact .inl idle
      · exact stops.elim
  constructor
  · intro stops
    rcases cause with ⟨_, idle⟩ | rfl
    · rw [owner, idle]
    · exact (agrees.leads.stops stops).elim
  · exact fun _ o id waits => absurd waits (unregistered o id)
  · intro now o owned
    rw [owner] at owned
    rw [ops.phase]
    rcases idle now with idle | down
    · simp [idle] at owned
    · exact tidy.asking down o owned
  · intro now
    rw [signal]
    rcases idle now with idle | down
    · simp [reqSent_of_lastOp exclusive idle]
    · exact tidy.unsent down
  · intro reason o signalled owned
    rw [signal] at signalled
    rw [owner] at owned
    rw [ops.phase]
    exact tidy.failed reason o signalled owned
  · intro _ _
    exact agrees.respWait

/-- A new connection, where the request in flight is registered. -/
theorem tidy_of_up (up : ¬after.core.Down)
    (calm : ∀ conn, after.core.dispatch.Reconnects conn → after.core.respWait = [])
    (failed : ∀ err o, after.core.reqSent = some (some err) → after.core.lastOp = some o →
      (after.ops o).phase.failed = true) : after.Tidy where
  stopped := fun stops => absurd (.inr stops) up
  registered := fun down => absurd down up
  asking := fun down => absurd down up
  unsent := fun down => absurd down up
  failed := failed
  cleared := calm

theorem keeps_tidy (etype : Nat → ElementType Value) :
    ((next etype).restrict undisturbed).KeepsGiven Known Tidy := by
  intro action client after stepped ⟨exclusive, keeps_owner, routed, linked⟩ tidy
  obtain ⟨allowed, stepped⟩ := System.restrict_eq_some.mp stepped
  cases effect_of_next stepped with
  | newOp purpose unborn ops core =>
      exact tidy.congr (keepsTidy_update ops core rfl rfl (fun _ => id) rfl rfl (by simp [unborn, Phase.asking])
        (by simp [unborn, Phase.failed]))
  | nextID o taken preparing ops core =>
      exact tidy.congr (keepsTidy_update ops (.refl after.core) (by rw [core]) (by rw [core])
        (by rw [core]; exact fun _ => id) (by rw [core]) (by rw [core]) id id)
  | move o phase ops moved => exact tidy.moved exclusive linked routed.crashed ops moved
  | receive o op received ops core =>
      have waiting := (receive_cases received).1
      exact tidy.congr (keepsTidy_update ops (.refl after.core) (by rw [core]) (by rw [core])
        (by rw [core]; exact fun _ => id) (by rw [core]) (by rw [core]) (by simp [waiting, Phase.asking])
        (by simp [waiting, Phase.failed]))
  | sent err table signalled selecting kept ops core => exact tidy.sent routed signalled selecting kept core
  | close err goal spared selecting cause ops core =>
      apply tidy.close exclusive _ ops core
      rcases cause with ⟨rfl, rfl, _⟩ | ⟨_, rfl, _⟩
      · exact .inl ⟨rfl, by simpa [undisturbed] using allowed⟩
      · exact .inr rfl
  | reconnect o conn dialled selecting reading ops core =>
      have quiet := (in_flight_of_holds exclusive (o := o) (by rw [dialled]; rfl)).2
      apply tidy_of_up
      · rintro (stopped | stops)
        · have still : after.core.reading = client.core.reading := core.reading
          simp [still, reading] at stopped
        · exact core.leads.stops stops
      · exact fun _ _ => core.respWait
      · intro err other signalled
        have same : after.core.reqSent = client.core.reqSent := core.reqSent
        simp [same, quiet] at signalled
  | reconnectAtOnce o conn owner dialled selecting stopped owned ops core =>
      have quiet := (in_flight_of_holds exclusive (o := o) (by rw [dialled]; rfl)).2
      apply tidy_of_up
      · rintro (stopped | stops)
        · have up : after.core.reading = true := core.reading
          simp [up] at stopped
        · have before := core.leads.stops stops
          simp only [Core.addRequestOp, Core.send, selecting] at before
          exact before
      · intro other reconnects
        have before := (core.leads.reconnects other).mp reconnects
        simp only [Core.addRequestOp, Core.send, selecting] at before
        exact before.elim
      · intro err other signalled
        have same : after.core.reqSent = client.core.reqSent := core.reqSent
        simp [same, quiet] at signalled
  | connect conn owner reconnects owned ops core =>
      apply tidy_of_up
      · rintro (stopped | stops)
        · have up : after.core.reading = true := core.reading
          simp [up] at stopped
        · exact core.leads.stops stops
      · exact fun other reconnects => ((core.leads.reconnects other).mp reconnects).elim
      · intro err other signalled now_owner
        rw [ops]
        exact tidy.failed err other (core.reqSent ▸ signalled) (core.lastOp ▸ now_owner)
  | answer key o msg msgs calls op handling response keyed registered not_closed answered ops core =>
      have phase : op.phase = (client.ops o).phase := by
        rcases answered with ⟨_, delivered⟩ | ⟨_, reason, closed⟩
        · obtain ⟨_, rfl⟩ := Option.when_eq_some.mp delivered
          rfl
        · obtain ⟨_, rfl⟩ := Option.when_eq_some.mp closed
          rfl
      exact tidy.congr (keepsTidy_update ops core rfl rfl (fun _ member => (List.mem_filter.mp member).1) rfl rfl
        (by rw [phase]; exact id) (by rw [phase]; exact id))
  | read msgs batch taken ops core =>
      exact tidy.congr (keepsTidy_same ops (.refl after.core) (by rw [core]) (by rw [core])
        (by rw [core]; exact fun _ => id) (by rw [core]) (by rw [core]))
  | stop stops ops core =>
      have down : client.core.Down := .inr stops
      constructor
      · exact fun now => (core.leads.stops now).elim
      · intro _ o id waits
        rw [core.lastOp]
        exact tidy.registered down o id (core.waits waits)
      · intro _ o owner
        rw [core.lastOp] at owner
        rw [ops]
        exact tidy.asking down o owner
      · intro _
        rw [core.reqSent]
        exact tidy.unsent down
      · intro err o signalled owner
        rw [ops]
        exact tidy.failed err o (core.reqSent ▸ signalled) (core.lastOp ▸ owner)
      · exact fun other reconnects => ((core.leads.reconnects other).mp reconnects).elim
  | quiet ops core => exact tidy.congr (keepsTidy_same ops core rfl rfl (fun _ => id) rfl rfl)
  | crash defect crashed ops respWait lastOp locked reqSent =>
      exact absurd defect (routed.no_defect exclusive keeps_owner)

/-! ## Nothing is lost -/

end Client

/-- The request is past `reqInit` and has not failed or returned. -/
def Phase.expecting : Phase → Bool
  | checking | dialled _ | writing | signalling none | waiting => true
  | _ => false

theorem Phase.Leads.expecting {before phase : Phase} (leads : before.Leads phase) (expecting : phase.expecting = true) :
    before.expecting = true := by
  cases leads <;> first | rfl | cases expecting

namespace Client

variable {Value : Type} {client after : Client Value}

/-- Each response that the request expects is there, or comes, or will not come and the request knows. -/
def ServedIn (core : Core) (o : Nat) (op : RequestOp) : Prop :=
  op.phase.expecting = true → ∀ id ∈ op.ids,
    some id ∈ op.answers.map Message.key ∨ core.Waits o id ∨ op.closed = true ∨ core.Reconnecting o

/-- Every request is served. -/
def Served (client : Client Value) : Prop := ∀ o, ServedIn client.core o (client.ops o)

theorem ServedIn.mono {core after : Core} {o : Nat} {op : RequestOp} (served : ServedIn core o op)
    (waits : ∀ id, id ∈ op.ids → core.Waits o id → after.Waits o id)
    (reconnecting : core.Reconnecting o → after.Reconnecting o) : ServedIn after o op := by
  intro expecting id own
  rcases served expecting id own with answered | waiting | closed | flight
  · exact .inl answered
  · exact .inr (.inl (waits id own waiting))
  · exact .inr (.inr (.inl closed))
  · exact .inr (.inr (.inr (reconnecting flight)))

/-- One request changes, and the others keep what they wait for. -/
theorem Served.update (served : client.Served) {o : Nat} {op : RequestOp}
    (ops : after.ops = Function.update client.ops o op)
    (waits : ∀ other ≠ o, ∀ id, id ∈ (client.ops other).ids → client.core.Waits other id → after.core.Waits other id)
    (reconnecting : ∀ other, client.core.Reconnecting other → after.core.Reconnecting other)
    (now : ServedIn after.core o op) : after.Served := by
  intro other
  by_cases same : other = o
  · subst same
    rw [ops, Function.update_self]
    exact now
  · rw [ops, Function.update_of_ne same]
    exact (served other).mono (waits other same) (reconnecting other)

/-- The request goes on to a phase where it expects the same. -/
theorem ServedIn.advance {core : Core} {o : Nat} {op : RequestOp} {phase : Phase} (served : ServedIn core o op)
    (before : phase.expecting = true → op.phase.expecting = true) : ServedIn core o { op with phase } :=
  fun expecting => served (before expecting)

theorem Agrees.waits_after {core after : Core} (agrees : core.Agrees after) {o id : Nat} (waits : core.Waits o id) :
    after.Waits o id := by
  rw [Core.Waits, agrees.respWait]
  exact waits

theorem Agrees.reconnecting_after {core after : Core} (agrees : core.Agrees after) {o : Nat}
    (reconnecting : core.Reconnecting o) : after.Reconnecting o := by
  obtain ⟨⟨conn, reconnects⟩, owner⟩ := reconnecting
  exact ⟨⟨conn, (agrees.leads.reconnects conn).mpr reconnects⟩, agrees.lastOp.trans owner⟩

theorem ServedIn.agrees {core after : Core} {o : Nat} {op : RequestOp} (served : ServedIn core o op)
    (agrees : core.Agrees after) : ServedIn after o op :=
  served.mono (fun _ _ => Agrees.waits_after agrees) (Agrees.reconnecting_after agrees)

/-- An action in tables that agree. -/
theorem Served.agrees (served : client.Served) {o : Nat} {op : RequestOp}
    (ops : after.ops = Function.update client.ops o op) (agrees : client.core.Agrees after.core)
    (now : ServedIn client.core o op) : after.Served :=
  served.update ops (fun _ _ _ _ => Agrees.waits_after agrees) (fun _ => Agrees.reconnecting_after agrees)
    (now.agrees agrees)

theorem Served.accept (served : client.Served) (routed : client.Routed) {o : Nat}
    (selecting : client.core.dispatch = .selecting)
    (ops : after.ops = Function.update client.ops o { client.ops o with phase := .checking })
    (core : after.core = { client.core.addRequestOp o (client.ops o).ids with locked := true, lastOp := some o }) :
    after.Served := by
  have waits : ∀ other id, after.core.Waits other id ↔
      id ∈ (client.ops o).ids ∧ other = o ∨ id ∉ (client.ops o).ids ∧ client.core.Waits other id := by
    intro other id
    rw [core]
    exact Core.waits_addRequestOp
  apply served.update ops
  · intro other apart id own waiting
    refine (waits other id).mpr (.inr ⟨fun foreign => apart ?_, waiting⟩)
    exact routed.numbered.apart other o id own foreign
  · exact fun other flight => absurd flight (not_reconnecting_of_selecting selecting other)
  · exact fun _ id own => .inr (.inl ((waits o id).mpr (.inl ⟨own, rfl⟩)))

theorem Served.moved (served : client.Served) (routed : client.Routed) {o : Nat} {phase : Phase}
    (ops : after.ops = Function.update client.ops o { client.ops o with phase })
    (moved : Moved client.core after.core o (client.ops o) phase) : after.Served := by
  cases moved with
  | accept sending selecting unlocked same => exact served.accept routed selecting ops same
  | check checking conn alive same =>
      apply served.update ops
      · rw [same]
        exact fun _ _ _ _ => id
      · rw [same]
        exact fun _ => id
      · rw [same]
        exact (served o).advance fun _ => by simp [checking, Phase.expecting]
  | signal err signalling quiet same =>
      apply served.update ops
      · rw [same]
        exact fun _ _ _ _ => id
      · rw [same]
        exact fun _ => id
      · rw [same]
        refine (served o).advance fun expecting => ?_
        cases err with
        | none => simp [signalling, Phase.expecting]
        | some err => cases expecting
  | timeOut expired selecting same =>
      apply served.update ops
      · intro other apart id own waiting
        rw [same]
        refine List.mem_filter.mpr ⟨waiting, ?_⟩
        simp only [decide_eq_true_eq]
        exact fun foreign => apart (routed.numbered.apart other o id own foreign)
      · rw [same]
        exact fun _ => id
      · rintro ⟨⟩
  | prepare preparing ready same =>
      exact served.agrees ops (by rw [same]; exact .refl _) (by rintro ⟨⟩)
  | expire waiting deadline same =>
      exact served.agrees ops (by rw [same]; exact .refl _) (by rintro ⟨⟩)
  | alone _ leads agrees => exact served.agrees ops agrees ((served o).advance leads.expecting)

/-- A request that goes on waiting has what it had. -/
theorem servedIn_receive {core : Core} {o : Nat} {op received : RequestOp} (served : ServedIn core o op)
    (next : RequestOp.next .receive op = some received) : ServedIn core o received := by
  simp only [RequestOp.next] at next
  split at next
  · rename_i msg later waiting resp
    cases next
    rw [RequestOp.afterMessage]
    split
    · rintro ⟨⟩
    · intro _ id own
      have same : op.got ++ [msg] ++ later = op.answers := by simp [RequestOp.answers, resp]
      have before := served (by simp [waiting, Phase.expecting]) id own
      rw [← same] at before
      exact before
  · obtain ⟨_, rfl⟩ := Option.when_eq_some.mp next
    rw [RequestOp.afterClose]
    split <;> rintro ⟨⟩
  · cases next

theorem Served.sent (served : client.Served) (routed : client.Routed) (tidy : client.Tidy) {err : Option RpcError}
    {table : List (Nat × Nat)} (signalled : client.core.reqSent = some err)
    (selecting : client.core.dispatch = .selecting)
    (kept : table = client.core.respWait ∧ err = none ∨ ∃ o, client.core.lastOp = some o ∧ err ≠ none ∧
      table = client.core.respWait.filter fun entry => entry.1 ∉ (client.ops o).ids)
    (ops : after.ops = client.ops)
    (agrees : Core.Agrees
      { client.core with respWait := table, reqSent := none, locked := false, lastOp := none } after.core) :
    after.Served := by
  intro o expecting
  rw [ops] at expecting ⊢
  have waits : ∀ id, id ∈ (client.ops o).ids → client.core.Waits o id → after.core.Waits o id := ?_
  · exact (served o).mono waits (fun flight => absurd flight (not_reconnecting_of_selecting selecting o)) expecting
  intro id own waiting
  apply Agrees.waits_after agrees
  rcases kept with ⟨rfl, _⟩ | ⟨owner, owned, failed, rfl⟩
  · exact waiting
  · refine List.mem_filter.mpr ⟨waiting, ?_⟩
    simp only [decide_eq_true_eq]
    intro foreign
    -- The request in flight has failed, so that it expects nothing.
    obtain rfl : o = owner := routed.numbered.apart o owner id own foreign
    obtain ⟨reason, rfl⟩ := Option.ne_none_iff_exists'.mp failed
    have returned := tidy.failed reason o signalled owned
    cases at_phase : (client.ops o).phase <;> simp [at_phase, Phase.failed, Phase.expecting] at returned expecting

theorem Served.cancelled (served : client.Served) (selecting : client.core.dispatch = .selecting) {err : RpcError}
    {spared : List Nat} (cancelled : Cancelled err client.core.respWait spared client.ops after.ops)
    (spare : ∀ o ∈ spared, after.core.Reconnecting o) : after.Served := by
  intro o
  rcases cancelled o with ⟨_, _, same⟩ | ⟨out, same⟩
  · rw [same]
    exact fun _ _ _ => .inr (.inr (.inl rfl))
  · rw [same]
    intro expecting id own
    rcases served o expecting id own with answered | waiting | closed | flight
    · exact .inl answered
    · have in_spared : o ∈ spared := by
        by_contra unspared
        exact out ⟨List.mem_map.mpr ⟨(id, o), waiting, rfl⟩, unspared⟩
      exact .inr (.inr (.inr (spare o in_spared)))
    · exact .inr (.inr (.inl closed))
    · exact absurd flight (not_reconnecting_of_selecting selecting o)

/-- A new connection, when nobody but the request in flight waits for anything. -/
theorem Served.connect (served : client.Served) {owner conn : Nat}
    (only : ∀ other id, client.core.Waits other id → other = owner)
    (flight : ∀ other, client.core.Reconnecting other → other = owner) (ops : after.ops = client.ops)
    (agrees : Core.Agrees (Core.addRequestOp { client.core with
      respWait := [], conn, reading := true, reader := .reading, dispatch := .selecting } owner
        (client.ops owner).ids) after.core) : after.Served := by
  intro o
  rw [ops]
  by_cases same : o = owner
  · subst same
    intro _ id own
    exact .inr (.inl (Agrees.waits_after agrees (Core.waits_addRequestOp.mpr (.inl ⟨own, rfl⟩))))
  · exact (served o).mono (fun id _ waiting => absurd (only o id waiting) same)
      fun reconnecting => absurd (flight o reconnecting) same

theorem Served.answer (served : client.Served) (routed : client.Routed) {key o : Nat} {msg : Message} {op : RequestOp}
    (calm : ∀ other, ¬client.core.Reconnecting other) (keyed : msg.key = some key)
    (registered : client.core.respWait.lookup key = some o)
    (answered : (client.ops o).purpose.sub = none ∧ RequestOp.next (.deliver msg) (client.ops o) = some op ∨
      (client.ops o).purpose.sub ≠ none ∧ ∃ err, RequestOp.next (.close err) (client.ops o) = some op)
    (ops : after.ops = Function.update client.ops o op)
    (agrees : Core.Agrees
      { client.core with respWait := client.core.respWait.filter fun entry => entry.1 ≠ key } after.core) :
    after.Served := by
  have own_key := ((routed.requests o).registered key (ListLookup.mem_of_lookup registered)).1
  have waits : ∀ other id, id ≠ key → client.core.Waits other id → after.core.Waits other id := by
    intro other id apart waiting
    apply Agrees.waits_after agrees
    simpa [Core.Waits, apart] using waiting
  apply served.update ops
  · intro other apart id own waiting
    apply waits other id _ waiting
    rintro rfl
    exact apart (routed.numbered.apart other o id own own_key)
  · exact fun other flight => absurd flight (calm other)
  · rcases answered with ⟨_, delivered⟩ | ⟨_, err, closed⟩
    · obtain ⟨_, rfl⟩ := Option.when_eq_some.mp delivered
      intro expecting id own
      have answers_eq : ({ client.ops o with resp := (client.ops o).resp ++ [msg] } : RequestOp).answers =
          (client.ops o).answers ++ [msg] := by simp [RequestOp.answers]
      rw [answers_eq, List.map_append, List.mem_append]
      by_cases same : id = key
      · simp [same, keyed]
      · rcases served o expecting id own with before | waiting | closed | flight
        · exact .inl (.inl before)
        · exact .inr (.inl (waits o id same waiting))
        · exact .inr (.inr (.inl closed))
        · exact absurd flight (calm o)
    · obtain ⟨_, rfl⟩ := Option.when_eq_some.mp closed
      exact fun _ _ _ => .inr (.inr (.inl rfl))

theorem keeps_served (etype : Nat → ElementType Value) :
    ((next etype).restrict undisturbed).KeepsGiven (fun client => client.Known ∧ client.Tidy) Served := by
  intro action client after stepped ⟨⟨exclusive, keeps_owner, routed, linked⟩, tidy⟩ served
  obtain ⟨allowed, stepped⟩ := System.restrict_eq_some.mp stepped
  cases effect_of_next stepped with
  | newOp purpose unborn ops core => exact served.agrees ops core (by rintro ⟨⟩)
  | nextID o taken preparing ops core =>
      apply served.update ops
      · rw [core]
        exact fun _ _ _ _ => id
      · rw [core]
        exact fun _ => id
      · simp [ServedIn, preparing, Phase.expecting]
  | move o phase ops moved => exact served.moved routed ops moved
  | receive o op received ops core =>
      exact served.agrees ops (by rw [core]; exact .refl _) (servedIn_receive (served o) received)
  | sent err table signalled selecting kept ops core =>
      exact served.sent routed tidy signalled selecting kept ops core
  | close err goal spared selecting cause ops core =>
      apply served.cancelled selecting ops
      rcases cause with ⟨rfl, _, rfl⟩ | ⟨_, _, rfl⟩
      · have idle : client.core.lastOp = none := by simpa [undisturbed] using allowed
        simp [idle]
      · simp
  | reconnect o conn dialled selecting reading ops core =>
      have owner : client.core.lastOp = some o := (in_flight_of_holds exclusive (by rw [dialled]; rfl)).1
      have written : (client.written o conn).Served := by
        refine served.update rfl (fun _ _ _ _ => id) (fun _ => id) ?_
        exact (served o).advance fun _ => by simp [dialled, Phase.expecting]
      apply written.cancelled selecting ops
      intro other in_flight
      obtain rfl : other = o := by simpa [owner] using in_flight
      exact Agrees.reconnecting_after core ⟨⟨conn, rfl⟩, owner⟩
  | reconnectAtOnce o conn owner dialled selecting stopped owned ops core =>
      have owner_eq : client.core.lastOp = some o := (in_flight_of_holds exclusive (by rw [dialled]; rfl)).1
      obtain rfl : owner = o := by simpa [owner_eq] using owned.symm
      let connected := Core.addRequestOp { client.core with
        respWait := [], conn, reading := true, reader := .reading, dispatch := .selecting } owner (client.ops owner).ids
      have between : ({ client with core := connected } : Client Value).Served := by
        refine served.connect ?_ ?_ rfl (.refl connected)
        · intro other id waiting
          simpa [owned] using (tidy.registered (.inl stopped) other id waiting).symm
        · exact fun other flight => absurd flight (not_reconnecting_of_selecting selecting other)
      have agrees : (connected.send conn (client.ops owner).ids).Agrees after.core := by
        convert core using 1
        simp only [connected, Core.addRequestOp, Core.send, selecting]
      apply between.update ops
      · exact fun _ _ _ _ waiting => Agrees.waits_after agrees waiting
      · exact fun _ flight => Agrees.reconnecting_after agrees flight
      · have now : ServedIn connected owner { client.ops owner with phase := .writing } :=
          (between owner).advance fun _ => by simp [dialled, Phase.expecting]
        exact now.mono (fun _ _ waiting => Agrees.waits_after agrees waiting)
          fun flight => Agrees.reconnecting_after agrees flight
  | connect conn owner reconnects owned ops core =>
      apply served.connect _ _ ops core
      · intro other id waiting
        simp [Core.Waits, tidy.cleared conn reconnects] at waiting
      · rintro other ⟨_, other_owner⟩
        simpa [owned] using other_owner.symm
  | answer key o msg msgs calls op handling response keyed registered not_closed answered ops core =>
      apply served.answer routed _ keyed registered answered ops core
      rintro other ⟨⟨conn, reconnects⟩, _⟩
      rw [handling] at reconnects
      exact reconnects
  | read msgs batch taken ops core =>
      intro o
      rw [ops, core]
      exact served o
  | stop stops ops core =>
      intro o
      rw [ops]
      refine (served o).mono (fun id _ waiting => Agrees.waits_after core waiting) ?_
      rintro ⟨_, owner⟩
      simp [tidy.stopped stops] at owner
  | quiet ops core =>
      intro o
      rw [ops]
      exact (served o).agrees core
  | crash defect crashed ops respWait lastOp locked reqSent =>
      exact absurd defect (routed.no_defect exclusive keeps_owner)

theorem linked_initClient (canReconnect : Bool) : (initClient canReconnect : Client Value).core.Linked :=
  ⟨fun _ => False.elim, fun _ => .inr (.inl rfl), by rintro ⟨⟩⟩

theorem tidy_initClient (canReconnect : Bool) : (initClient canReconnect : Client Value).Tidy := by
  apply tidy_of_up
  · rintro (stopped | stops)
    · cases stopped
    · exact stops
  · exact fun _ => False.elim
  · rintro _ _ ⟨⟩

theorem keeps_known (etype : Nat → ElementType Value) :
    ((next etype).restrict undisturbed).Keeps Known := by
  intro action client after stepped known
  obtain ⟨allowed, stepped⟩ := System.restrict_eq_some.mp stepped
  have behaved : (next etype).restrict behaves action client = some after :=
    System.restrict_eq_some.mpr ⟨behaves_of_undisturbed allowed, stepped⟩
  constructor
  · exact keeps_exclusive etype action client after stepped known.exclusive
  · exact keeps_keepsOwner etype action client after stepped known.exclusive known.keeps_owner
  · exact keeps_routed etype action client after behaved ⟨known.exclusive, known.keeps_owner⟩ known.routed
  · exact keeps_linked etype action client after stepped known.linked

/-- As long as the server behaves and no read error is handled while a request is in flight, no request is forgotten:
of a request that waits, each identifier has its response, or the dispatcher waits for it, or the channel is closed,
with an error unless this answers `Subscribe`, or the dispatcher is about to register the request with a new
connection. -/
theorem no_request_forgotten (etype : Nat → ElementType Value) (canReconnect : Bool)
    (client : Client Value)
    (reached : ((next etype).restrict undisturbed).Reaches (initClient canReconnect) client) (o : Nat)
    (waiting : (client.ops o).phase = .waiting) :
    ∀ id ∈ (client.ops o).ids, some id ∈ (client.ops o).answers.map Message.key ∨ (id, o) ∈ client.core.respWait ∨
      (client.ops o).closed = true ∧ ((client.ops o).purpose.sub = none → (client.ops o).err ≠ none) ∨
      (∃ conn, client.core.dispatch.Reconnects conn) ∧ client.core.lastOp = some o := by
  have keeps := ((keeps_known etype).and (keeps_tidy etype)).and (keeps_served etype)
  have known : (initClient canReconnect : Client Value).Known :=
    ⟨exclusive_initClient canReconnect, fun _ => False.elim, routed_initClient canReconnect,
      linked_initClient canReconnect⟩
  have served : (initClient canReconnect : Client Value).Served := by rintro _ ⟨⟩
  obtain ⟨⟨known, _⟩, served⟩ := keeps.reaches reached ⟨⟨known, tidy_initClient canReconnect⟩, served⟩
  intro id own
  rcases served o (by rw [waiting]; rfl) id own with answered | registered | closed | reconnects
  · exact .inl answered
  · exact .inr (.inl registered)
  · refine .inr (.inr (.inl ⟨closed, fun plain silent => ?_⟩))
    exact (known.routed.requests o).silent closed silent plain
  · exact .inr (.inr (.inr reconnects))

/-- A call that meets a closed connection, dials again and waits there, after the first connection has failed. -/
def redialled : List Action :=
  [.readFail .dead, .acceptReadErr, .closeConn, .begin .call, .nextID 0, .move 0 .prepare, .move 0 .accept,
    .move 0 (.redial 1), .acceptReconnect 0, .move 0 .write, .move 0 .signal, .acceptSent]

theorem no_request_forgotten_redialled :
    ∃ client : Client Json,
      ((next fun _ => rawMessage).restrict undisturbed).run redialled (initClient true) = some client ∧
      (client.ops 0).ids = [1] ∧
      (some 1 ∈ (client.ops 0).answers.map Message.key ∨ (1, 0) ∈ client.core.respWait ∨
        (client.ops 0).closed = true ∧ ((client.ops 0).purpose.sub = none → (client.ops 0).err ≠ none) ∨
        (∃ conn, client.core.dispatch.Reconnects conn) ∧ client.core.lastOp = some 0) :=
  ⟨_, rfl, rfl,
    no_request_forgotten (fun _ => rawMessage) true _ ⟨redialled, rfl⟩ 0 rfl 1 List.mem_cons_self⟩

end Client

end SubstrateClient.Rpc
