import SubstrateClient.HandedLock
import SubstrateClient.Rpc.ClientSteps

/-!
# The write lock of a client

`writeConn` is used by the callers' goroutines, one at a time: the dispatcher lets a request in through `reqInit`,
remembers it in `lastOp` and lets the next one in after `reqSent`.  Seen so, a client is a lock that is handed over and
given back by a signal.
-/

namespace SubstrateClient.Rpc

open JsonText Interleaving

variable {Value : Type}

namespace Client

/-- What `dispatch` and the requests make of the write lock. -/
def writeLock (client : Client Value) : HandedLock Nat where
  owner := client.core.lastOp
  locked := client.core.locked
  inside o := (client.ops o).phase.holds
  signal := client.core.reqSent.isSome

/-- A client with a new connection. -/
def initClient (canReconnect : Bool) : Client Value := { core := { canReconnect } }

theorem exclusive_initClient (canReconnect : Bool) : (initClient canReconnect : Client Value).writeLock.Exclusive := by
  constructor <;> simp [writeLock, initClient, Phase.holds]

/-- The lock is the same when the dispatcher's part is and every request is inside as before. -/
theorem writeLock_congr {client after : Client Value}
    (phases : ∀ o, (after.ops o).phase.holds = (client.ops o).phase.holds)
    (lastOp : after.core.lastOp = client.core.lastOp) (locked : after.core.locked = client.core.locked)
    (reqSent : after.core.reqSent = client.core.reqSent) : after.writeLock = client.writeLock := by
  simp only [writeLock, lastOp, locked, reqSent, phases]

theorem holds_update {ops : Nat → RequestOp} {o : Nat} {op : RequestOp}
    (same : op.phase.holds = (ops o).phase.holds) (other : Nat) :
    (Function.update ops o op other).phase.holds = (ops other).phase.holds := by
  by_cases equal : other = o
  · simp [equal, same]
  · simp [Function.update_of_ne equal]

theorem Cancelled.purpose {err : RpcError} {table : List (Nat × Nat)} {spared : List Nat} {ops after : Nat → RequestOp}
    (cancelled : Cancelled err table spared ops after) (o : Nat) : (after o).purpose = (ops o).purpose := by
  rcases cancelled o with ⟨_, _, same⟩ | ⟨_, same⟩ <;> rw [same]

theorem Cancelled.phase {err : RpcError} {table : List (Nat × Nat)} {spared : List Nat} {ops after : Nat → RequestOp}
    (cancelled : Cancelled err table spared ops after) (o : Nat) : (after o).phase = (ops o).phase := by
  rcases cancelled o with ⟨_, _, same⟩ | ⟨_, same⟩ <;> rw [same]

/-- A message or a closed channel ends the wait, or there is more to wait for. -/
theorem receive_cases {op received : RequestOp} (next : RequestOp.next .receive op = some received) :
    op.phase = .waiting ∧ received.ids = op.ids ∧ received.phase.holds = false ∧ received.phase.written = true := by
  simp only [RequestOp.next] at next
  split at next
  · rename_i waiting _
    cases next
    rw [RequestOp.afterMessage]
    split
    · exact ⟨waiting, rfl, rfl, rfl⟩
    · dsimp only
      split
      · exact ⟨waiting, rfl, rfl, rfl⟩
      · exact ⟨waiting, rfl, rfl, rfl⟩
  · rename_i waiting _
    obtain ⟨_, rfl⟩ := Option.when_eq_some.mp next
    rw [RequestOp.afterClose]
    split
    · exact ⟨waiting, rfl, rfl, rfl⟩
    · exact ⟨waiting, rfl, rfl, rfl⟩
    · exact ⟨waiting, rfl, rfl, rfl⟩
  · cases next

end Client

theorem Phase.Leads.holds {before phase : Phase} (leads : before.Leads phase) : phase.holds = before.holds := by
  cases leads <;> rfl

theorem Client.holds_afterSignal (op : RequestOp) (err : Option RpcError) : (op.afterSignal err).holds = false := by
  cases err with
  | some err => rfl
  | none =>
      rw [RequestOp.afterSignal]
      split <;> rfl

namespace Client

/-- A move is letting a request in, its signal, or nothing that the lock knows of. -/
theorem writeLock_of_moved {client after : Client Value} {o : Nat} {phase : Phase}
    (ops : after.ops = Function.update client.ops o { client.ops o with phase })
    (moved : Moved client.core after.core o (client.ops o) phase) :
    after.writeLock = client.writeLock ∨
      ∃ seen, HandedLock.next seen client.writeLock = some after.writeLock := by
  have inside : ∀ flag, phase.holds = flag → (fun other => (after.ops other).phase.holds) =
      Function.update (fun other => (client.ops other).phase.holds) o flag := by
    rintro flag rfl
    funext other
    by_cases same : other = o
    · simp [ops, same]
    · simp [ops, Function.update_of_ne same]
  have alone : phase.holds = (client.ops o).phase.holds → client.core.tables = after.core.tables →
      after.writeLock = client.writeLock := by
    intro kept tables
    apply writeLock_congr
    · rw [ops]
      exact holds_update kept
    · exact (congrArg Tables.lastOp tables).symm
    · exact (congrArg Tables.locked tables).symm
    · exact (congrArg Tables.reqSent tables).symm
  cases moved with
  | accept sending selecting unlocked same =>
      right
      refine ⟨.enter o, ?_⟩
      rw [HandedLock.next, Option.when_eq_some]
      refine ⟨unlocked, ?_⟩
      simp only [writeLock, inside true rfl, same]
      rfl
  | check checking conn alive same =>
      left
      apply writeLock_congr
      · rw [ops]
        exact holds_update (by simp [checking, Phase.holds])
      · simp [same, Core.send]
      · simp [same, Core.send]
      · simp [same, Core.send]
  | signal err signalling quiet same =>
      right
      refine ⟨.leave o, ?_⟩
      rw [HandedLock.next, Option.when_eq_some]
      constructor
      · simp [writeLock, signalling, Phase.holds, quiet]
      · simp only [writeLock, inside false (holds_afterSignal _ _), same, Option.isSome_some]
  | timeOut expired selecting same =>
      left
      apply writeLock_congr
      · rw [ops]
        exact holds_update (by simp [expired, Phase.holds])
      · simp [same, Core.removeRequestOp]
      · simp [same, Core.removeRequestOp]
      · simp [same, Core.removeRequestOp]
  | prepare preparing ready same =>
      left
      exact alone (by rw [preparing]; rfl) (by rw [same])
  | expire waiting deadline same =>
      left
      exact alone (by rw [waiting]; rfl) (by rw [same])
  | alone _ leads agrees =>
      left
      exact alone leads.holds agrees.tables.symm

/-- What a client does with its write lock is what a handed lock can do. -/
theorem simulates_handedLock (etype : Nat → ElementType Value) :
    (next etype).Simulates HandedLock.next writeLock := by
  intro action client after stepped
  have same_lock : ∀ {core : Core}, core.Agrees after.core → core.lastOp = client.core.lastOp →
      core.locked = client.core.locked → core.reqSent = client.core.reqSent →
      (∀ o, (after.ops o).phase.holds = (client.ops o).phase.holds) → after.writeLock = client.writeLock := by
    intro core agrees lastOp locked reqSent phases
    exact writeLock_congr phases (agrees.lastOp.trans lastOp) (agrees.locked.trans locked)
      (agrees.reqSent.trans reqSent)
  cases effect_of_next stepped with
  | newOp purpose unborn ops core =>
      exact .inl (same_lock core rfl rfl rfl (by rw [ops]; exact holds_update (by simp [unborn, Phase.holds])))
  | nextID o taken preparing ops core =>
      refine .inl (writeLock_congr ?_ ?_ ?_ ?_)
      · rw [ops]
        exact holds_update rfl
      all_goals rw [core]
  | move o phase ops moved => exact writeLock_of_moved ops moved
  | receive o op received ops core =>
      refine .inl (writeLock_congr ?_ ?_ ?_ ?_)
      · obtain ⟨waiting, _, released, _⟩ := receive_cases received
        rw [ops]
        exact holds_update (by rw [released, waiting]; rfl)
      all_goals rw [core]
  | sent err table signalled selecting kept ops core =>
      right
      refine ⟨.release, ?_⟩
      rw [HandedLock.next, Option.when_eq_some]
      constructor
      · simp [writeLock, signalled]
      · simp only [writeLock, ops, core.lastOp, core.locked, core.reqSent, Option.isSome_none]
  | close err goal spared selecting cause ops core =>
      exact .inl (same_lock core rfl rfl rfl fun o => by rw [ops.phase])
  | reconnect o conn dialled selecting reading ops core =>
      refine .inl (same_lock core rfl rfl rfl fun other => ?_)
      rw [ops.phase]
      exact holds_update (by simp [dialled, Phase.holds]) other
  | reconnectAtOnce o conn owner dialled selecting stopped owned ops core =>
      exact .inl (same_lock core rfl rfl rfl (by rw [ops]; exact holds_update (by simp [dialled, Phase.holds])))
  | connect conn owner reconnects owned ops core =>
      exact .inl (same_lock core rfl rfl rfl fun o => by rw [ops])
  | answer key o msg msgs calls op handling response keyed registered not_closed answered ops core =>
      have phase : op.phase = (client.ops o).phase := by
        rcases answered with ⟨_, delivered⟩ | ⟨_, reason, closed⟩
        · obtain ⟨_, rfl⟩ := Option.when_eq_some.mp delivered
          rfl
        · obtain ⟨_, rfl⟩ := Option.when_eq_some.mp closed
          rfl
      exact .inl (same_lock core rfl rfl rfl (by rw [ops]; exact holds_update (by rw [phase])))
  | read msgs batch taken ops core =>
      refine .inl (writeLock_congr ?_ ?_ ?_ ?_)
      · simp [ops]
      all_goals rw [core]
  | stop stops ops core => exact .inl (same_lock core rfl rfl rfl fun o => by rw [ops])
  | quiet ops core => exact .inl (same_lock core rfl rfl rfl fun o => by rw [ops])
  | crash defect crashed ops respWait lastOp locked reqSent =>
      refine .inl (writeLock_congr (fun o => ?_) lastOp locked reqSent)
      rcases ops o with same | ⟨conn, dialled, same⟩
      · rw [same]
      · rw [same, dialled]
        rfl

theorem keeps_exclusive (etype : Nat → ElementType Value) :
    (next etype).Keeps fun client => client.writeLock.Exclusive :=
  (simulates_handedLock etype).keeps HandedLock.keeps_exclusive

/-! ## The request in flight -/

/-- The dispatcher remembers the request that it is about to connect again. -/
def KeepsOwner (client : Client Value) : Prop :=
  ∀ conn, client.core.dispatch.Reconnects conn → client.core.lastOp ≠ none

/-- What a move leaves of the dispatcher's own place. -/
theorem dispatch_of_moved {core after : Core} {o : Nat} {op : RequestOp} {phase : Phase}
    (moved : Moved core after o op phase) : core.dispatch.Leads after.dispatch := by
  cases moved with
  | accept sending selecting unlocked same =>
      subst same
      exact .refl _
  | check checking conn alive same =>
      subst same
      exact .refl _
  | signal err signalling quiet same =>
      subst same
      exact .refl _
  | timeOut expired selecting same =>
      subst same
      exact .refl _
  | prepare preparing ready same =>
      subst same
      exact .refl _
  | expire waiting deadline same =>
      subst same
      exact .refl _
  | alone _ leads agrees => exact agrees.leads

theorem lastOp_of_moved {core after : Core} {o : Nat} {op : RequestOp} {phase : Phase}
    (moved : Moved core after o op phase) :
    after.lastOp = core.lastOp ∨ after.lastOp = some o ∧ op.phase = .sending ∧ core.dispatch = .selecting := by
  cases moved with
  | accept sending selecting unlocked same =>
      subst same
      exact .inr ⟨rfl, sending, selecting⟩
  | check checking conn alive same =>
      subst same
      exact .inl rfl
  | signal err signalling quiet same =>
      subst same
      exact .inl rfl
  | timeOut expired selecting same =>
      subst same
      exact .inl rfl
  | prepare preparing ready same =>
      subst same
      exact .inl rfl
  | expire waiting deadline same =>
      subst same
      exact .inl rfl
  | alone _ leads agrees => exact .inl agrees.lastOp

theorem keeps_keepsOwner (etype : Nat → ElementType Value) :
    (next etype).KeepsGiven (fun client => client.writeLock.Exclusive) KeepsOwner := by
  intro action client after stepped exclusive owned conn reconnects
  have kept : ∀ {core : Core}, core.Agrees after.core → core.dispatch = client.core.dispatch →
      core.lastOp = client.core.lastOp → after.core.lastOp ≠ none := by
    intro core agrees dispatch lastOp
    rw [agrees.lastOp, lastOp]
    apply owned conn
    rw [← dispatch]
    exact (agrees.leads.reconnects conn).mp reconnects
  cases effect_of_next stepped with
  | newOp purpose unborn ops core => exact kept core rfl rfl
  | nextID o taken preparing ops core =>
      rw [core] at reconnects ⊢
      exact owned conn reconnects
  | move o phase ops moved =>
      rcases lastOp_of_moved moved with same | ⟨same, _⟩
      · rw [same]
        exact owned conn (((dispatch_of_moved moved).reconnects conn).mp reconnects)
      · simp [same]
  | receive o op received ops core =>
      rw [core] at reconnects ⊢
      exact owned conn reconnects
  | sent err table signalled selecting kept ops core =>
      have before := (core.leads.reconnects conn).mp reconnects
      simp only [selecting] at before
      exact before.elim
  | close err goal spared selecting cause ops core =>
      have reconnected := (core.leads.reconnects conn).mp reconnects
      rcases cause with ⟨_, rfl, _⟩ | ⟨_, rfl, _⟩
      · exact reconnected.elim
      · exact reconnected.elim
  | reconnect o other dialled selecting reading ops core =>
      rw [core.lastOp]
      have owner := (exclusive.inside_owner o (by simp [writeLock, dialled, Phase.holds])).1
      change client.core.lastOp ≠ none
      rw [show client.core.lastOp = some o from owner]
      simp
  | reconnectAtOnce o other owner dialled selecting stopped owned ops core =>
      rw [core.lastOp]
      change client.core.lastOp ≠ none
      simp [owned]
  | connect other owner before owned ops core =>
      rw [core.lastOp]
      change client.core.lastOp ≠ none
      simp [owned]
  | answer key o msg msgs calls op handling response keyed registered not_closed answered ops core =>
      exact kept core rfl rfl
  | read msgs batch taken ops core =>
      rw [core] at reconnects ⊢
      exact owned conn reconnects
  | stop stops ops core => exact ((core.leads.reconnects conn).mp reconnects).elim
  | quiet ops core => exact kept core rfl rfl
  | crash defect crashed ops respWait lastOp locked reqSent =>
      rw [crashed] at reconnects
      exact reconnects.elim

/-- The lock and the request in flight, in every state that a client comes to. -/
theorem lock_of_reaches {etype : Nat → ElementType Value} {canReconnect : Bool}
    {client : Client Value} (reached : (next etype).Reaches (initClient canReconnect) client) :
    client.writeLock.Exclusive ∧ client.KeepsOwner :=
  ((keeps_exclusive etype).and (keeps_keepsOwner etype)).reaches reached
    ⟨exclusive_initClient canReconnect, fun _ => False.elim⟩

/-- One request at a time is between `reqInit` and `reqSent`, where `writeConn` is used.  It is `lastOp`, so that
neither a failed write nor a new connection finds `lastOp` nil. -/
theorem one_request_in_flight (etype : Nat → ElementType Value) (canReconnect : Bool)
    (client : Client Value) (reached : (next etype).Reaches (initClient canReconnect) client) :
    (∀ o, (client.ops o).phase.holds = true →
        client.core.lastOp = some o ∧ client.core.locked = true ∧ client.core.reqSent = none) ∧
      (∀ first second, (client.ops first).phase.holds = true → (client.ops second).phase.holds = true →
        first = second) ∧
      (client.core.reqSent ≠ none ∨ (∃ conn, client.core.dispatch.Reconnects conn) → client.core.lastOp ≠ none) := by
  obtain ⟨exclusive, keeps_owner⟩ := lock_of_reaches reached
  refine ⟨?_, ?_, ?_⟩
  · intro o holds
    obtain ⟨owner, quiet⟩ := exclusive.inside_owner o holds
    have owned : client.writeLock.owner ≠ none := by simp [owner]
    exact ⟨owner, exclusive.locked_iff.mpr owned, by simpa [writeLock] using quiet⟩
  · intro first second first_holds second_holds
    exact exclusive.unique first_holds second_holds
  · rintro (signalled | ⟨conn, reconnects⟩)
    · exact exclusive.signal_owner (by simpa [writeLock, Option.isSome_iff_ne_none] using signalled)
    · exact keeps_owner conn reconnects

/-- Two callers, the first of them at `Write` and the second at `reqInit`. -/
def twoCalls : List Action :=
  [.begin .call, .begin .call, .nextID 1, .nextID 0, .move 0 .prepare, .move 1 .prepare, .move 0 .accept,
    .move 0 .check]

theorem one_request_in_flight_two_calls :
    ∃ client : Client Json, (next fun _ => rawMessage).run twoCalls (initClient true) = some client ∧
      (client.ops 0).phase = .writing ∧ (client.ops 1).phase = .sending ∧ client.core.lastOp = some 0 ∧
      client.core.locked = true ∧ client.core.reqSent = none :=
  ⟨_, rfl, rfl, rfl, (one_request_in_flight (fun _ => rawMessage) true _ ⟨twoCalls, rfl⟩).1 0 rfl⟩

end Client

end SubstrateClient.Rpc
