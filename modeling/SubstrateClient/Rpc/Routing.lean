import SubstrateClient.Rpc.RequestLife
import SubstrateClient.Rpc.Starting

/-!
# Responses find their requests

A server that answers what it was asked, on the connection where it was asked, and a counter that has not gone round:
then no channel is closed twice and none is written to after it was closed, every response goes to the request that
has its identifier, and a request that returns without an error has one response for each of its identifiers.
-/

namespace SubstrateClient.Rpc

open JsonText Interleaving

namespace Core

/-- The request is registered with the identifier. -/
def Waits (core : Core) (o id : Nat) : Prop := (id, o) ∈ core.respWait

def Live (core : Core) : Prop := core.dispatch.quits = false

/-- The request in flight is about to be connected again. -/
def Reconnecting (core : Core) (o : Nat) : Prop :=
  (∃ conn, core.dispatch.Reconnects conn) ∧ core.lastOp = some o

theorem waits_addRequestOp {core : Core} {owner o id : Nat} {ids : List Nat} :
    (core.addRequestOp owner ids).Waits o id ↔ id ∈ ids ∧ o = owner ∨ id ∉ ids ∧ core.Waits o id := by
  have table : ∀ respWait : List (Nat × Nat),
      (id, o) ∈ ids.foldl (fun table id => (id, owner) :: table.filter fun entry => entry.1 ≠ id) respWait ↔
        id ∈ ids ∧ o = owner ∨ id ∉ ids ∧ (id, o) ∈ respWait := by
    induction ids with
    | nil => simp
    | cons first ids ih =>
        intro respWait
        rw [List.foldl_cons, ih]
        by_cases same : id = first
        · simp [same]
          tauto
        · simp [same]
  exact table core.respWait

theorem Agrees.waits {core after : Core} (agrees : core.Agrees after) {o id : Nat} (waits : after.Waits o id) :
    core.Waits o id := by
  rw [Waits, agrees.respWait] at waits
  exact waits

theorem Agrees.live {core after : Core} (agrees : core.Agrees after) (live : after.Live) : core.Live := by
  by_contra dead
  rw [Live, Bool.not_eq_false] at dead
  simp [Live, agrees.leads.quits dead] at live

theorem Agrees.reconnecting {core after : Core} (agrees : core.Agrees after) {o : Nat}
    (reconnecting : after.Reconnecting o) : core.Reconnecting o := by
  obtain ⟨⟨conn, reconnects⟩, owner⟩ := reconnecting
  exact ⟨⟨conn, (agrees.leads.reconnects conn).mp reconnects⟩, agrees.lastOp ▸ owner⟩

end Core

namespace Client

variable {Value : Type}

/-! ## The other side -/

/-- What a server may send on a connection: no bare `null`, and no response to a request that it was not sent there. -/
def answersRequest (core : Core) : Option Message → Bool
  | none => false
  | some msg =>
      !msg.isResponse ||
        match msg.key with
        | none => true
        | some id => (core.conn, id) ∈ core.wire

/-- The counter does not go round and the server answers what it was asked. -/
def behaves : Action → Client Value → Bool
  | .nextID _, client => client.core.idCounter + 1 < 2 ^ 32
  | .read msgs _, client => msgs.all (answersRequest client.core)
  | _, _ => true

theorem answersRequest_mono {core after : Core} (conn : after.conn = core.conn) (wire : core.wire ⊆ after.wire)
    {msg : Option Message} (answers : answersRequest core msg = true) : answersRequest after msg = true := by
  cases msg with
  | none => cases answers
  | some msg =>
      simp only [answersRequest, Bool.or_eq_true, conn] at answers ⊢
      refine answers.imp_right fun answers => ?_
      split at answers
      · rfl
      · simp only [decide_eq_true_eq] at answers ⊢
        exact wire answers

/-! ## Identifiers -/

/-- No two requests have an identifier in common. -/
structure Numbered (client : Client Value) : Prop where
  counter : client.core.idCounter < 2 ^ 32
  bound : ∀ o, ∀ id ∈ (client.ops o).ids, id ≤ client.core.idCounter
  nodup : ∀ o, (client.ops o).ids.Nodup
  apart : ∀ o other id, id ∈ (client.ops o).ids → id ∈ (client.ops other).ids → o = other

theorem Numbered.congr {client after : Client Value} (numbered : client.Numbered)
    (ids : ∀ o, (after.ops o).ids = (client.ops o).ids) (counter : after.core.idCounter = client.core.idCounter) :
    after.Numbered := by
  constructor
  · rw [counter]
    exact numbered.counter
  · intro o
    rw [ids, counter]
    exact numbered.bound o
  · intro o
    rw [ids]
    exact numbered.nodup o
  · intro o other id
    rw [ids, ids]
    exact numbered.apart o other id

theorem Numbered.update {client after : Client Value} (numbered : client.Numbered) {o : Nat} {op : RequestOp}
    (ops : after.ops = Function.update client.ops o op) (same : op.ids = (client.ops o).ids)
    (counter : after.core.idCounter = client.core.idCounter) : after.Numbered := by
  apply numbered.congr _ counter
  intro other
  by_cases equal : other = o
  · simp [ops, equal, same]
  · simp [ops, Function.update_of_ne equal]

theorem Numbered.newOp {client after : Client Value} (numbered : client.Numbered) {o : Nat} {op : RequestOp}
    (ops : after.ops = Function.update client.ops o op) (empty : op.ids = [])
    (counter : after.core.idCounter = client.core.idCounter) : after.Numbered := by
  have smaller : ∀ other, (after.ops other).ids = [] ∨ (after.ops other).ids = (client.ops other).ids := by
    intro other
    by_cases equal : other = o
    · simp [ops, equal, empty]
    · simp [ops, Function.update_of_ne equal]
  have among : ∀ {other id}, id ∈ (after.ops other).ids → id ∈ (client.ops other).ids := by
    intro other id member
    rcases smaller other with none | same
    · simp [none] at member
    · rwa [same] at member
  constructor
  · rw [counter]
    exact numbered.counter
  · intro other id member
    rw [counter]
    exact numbered.bound other id (among member)
  · intro other
    rcases smaller other with none | same
    · simp [none]
    · rw [same]
      exact numbered.nodup other
  · intro first second id first_member second_member
    exact numbered.apart first second id (among first_member) (among second_member)

theorem Numbered.nextID {client after : Client Value} (numbered : client.Numbered) {o : Nat}
    (room : client.core.idCounter + 1 < 2 ^ 32) {notifies : Prop} [Decidable notifies]
    (ops : after.ops = Function.update client.ops o
      { client.ops o with ids :=
          if notifies then [] else (client.ops o).ids ++ [(client.core.idCounter + 1) % 2 ^ 32] })
    (counter : after.core.idCounter = client.core.idCounter + 1) : after.Numbered := by
  rw [Nat.mod_eq_of_lt room] at ops
  have among : ∀ {other id}, id ∈ (after.ops other).ids →
      id ∈ (client.ops other).ids ∨ other = o ∧ id = client.core.idCounter + 1 := by
    intro other id member
    by_cases equal : other = o
    · subst equal
      simp only [ops, Function.update_self] at member
      split at member
      · cases member
      · rw [List.mem_append, List.mem_singleton] at member
        exact member.imp_right fun last => ⟨rfl, last⟩
    · rw [ops, Function.update_of_ne equal] at member
      exact .inl member
  constructor
  · rw [counter]
    exact room
  · intro other id member
    rw [counter]
    rcases among member with before | ⟨_, rfl⟩
    · exact Nat.le_succ_of_le (numbered.bound other id before)
    · exact Nat.le_refl _
  · intro other
    by_cases equal : other = o
    · subst equal
      simp only [ops, Function.update_self]
      split
      · exact List.nodup_nil
      · refine List.nodup_append.mpr ⟨numbered.nodup other, List.nodup_singleton _, ?_⟩
        intro id member last same
        rw [List.mem_singleton] at same
        have := numbered.bound other id member
        omega
    · rw [ops, Function.update_of_ne equal]
      exact numbered.nodup other
  · intro first second id first_member second_member
    rcases among first_member with first_before | ⟨rfl, rfl⟩ <;>
      rcases among second_member with second_before | ⟨rfl, same⟩
    · exact numbered.apart first second id first_before second_before
    · have := numbered.bound first id first_before
      omega
    · have := numbered.bound second _ second_before
      omega
    · rfl

/-! ## The invariant -/

/-- The request is sound, seen from the dispatcher. -/
def SoundIn (core : Core) (o : Nat) (op : RequestOp) : Prop :=
  op.Sound (core.Waits o) core.Live (core.Reconnecting o)

/-- What holds of a client at any time. -/
structure Routed (client : Client Value) : Prop where
  numbered : client.Numbered
  requests : ∀ o, SoundIn client.core o (client.ops o)
  wire : ∀ entry ∈ client.core.wire, ∃ o, entry.2 ∈ (client.ops o).ids ∧ (client.ops o).phase.written = true
  pending : ∀ msg ∈ client.core.pending, answersRequest client.core msg = true
  crashed : client.core.dispatch ≠ .crashed

variable {client after : Client Value}

/-- What an action of one party leaves to the other requests: the dispatcher is no more alive than before, connects
nobody else again and registers nobody else. -/
structure Spares (core after : Core) (o : Nat) : Prop where
  live : after.Live → core.Live
  reconnecting : ∀ other ≠ o, after.Reconnecting other → core.Reconnecting other
  waits : ∀ other ≠ o, ∀ id, after.Waits other id → core.Waits other id

theorem SoundIn.mono {core after : Core} {o : Nat} {op : RequestOp} (sound : SoundIn core o op)
    (live : after.Live → core.Live) (reconnecting : after.Reconnecting o → core.Reconnecting o)
    (waits : ∀ id, after.Waits o id → core.Waits o id) : SoundIn after o op :=
  RequestOp.Sound.mono sound waits live reconnecting

theorem SoundIn.agrees {core after : Core} {o : Nat} {op : RequestOp} (sound : SoundIn core o op)
    (agrees : core.Agrees after) : SoundIn after o op :=
  sound.mono agrees.live agrees.reconnecting fun _ => agrees.waits

/-- An action that changes one request. -/
theorem Routed.update (routed : client.Routed) {o : Nat} {op : RequestOp}
    (ops : after.ops = Function.update client.ops o op) (numbered : after.Numbered)
    (spares : Spares client.core after.core o) (sound : SoundIn after.core o op)
    (written : (client.ops o).phase.written = true → op.ids = (client.ops o).ids ∧ op.phase.written = true)
    (wire : ∀ entry ∈ after.core.wire, entry ∈ client.core.wire ∨ entry.2 ∈ op.ids ∧ op.phase.written = true)
    (pending : ∀ msg ∈ after.core.pending, answersRequest after.core msg = true)
    (crashed : after.core.dispatch ≠ .crashed) : after.Routed := by
  refine ⟨numbered, ?_, ?_, pending, crashed⟩
  · intro other
    by_cases equal : other = o
    · subst equal
      simpa [ops] using sound
    · rw [ops, Function.update_of_ne equal]
      exact (routed.requests other).mono spares.live (spares.reconnecting other equal) (spares.waits other equal)
  · intro entry member
    rcases wire entry member with before | ⟨own, now⟩
    · obtain ⟨other, own, other_written⟩ := routed.wire entry before
      refine ⟨other, ?_⟩
      by_cases equal : other = o
      · subst equal
        obtain ⟨ids, still⟩ := written other_written
        simpa [ops, ids, still] using own
      · simpa [ops, Function.update_of_ne equal] using ⟨own, other_written⟩
    · exact ⟨o, by simpa [ops] using ⟨own, now⟩⟩

theorem Routed.pending_of_subset (routed : client.Routed)
    (pending : ∀ msg ∈ after.core.pending, msg ∈ client.core.pending)
    (conn : after.core.conn = client.core.conn) (wire : client.core.wire ⊆ after.core.wire) :
    ∀ msg ∈ after.core.pending, answersRequest after.core msg = true :=
  fun msg member => answersRequest_mono conn wire (routed.pending msg (pending msg member))

/-- An action that changes one request, in tables that agree. -/
theorem Routed.agrees (routed : client.Routed) {o : Nat} {op : RequestOp}
    (ops : after.ops = Function.update client.ops o op) (numbered : after.Numbered)
    (agrees : client.core.Agrees after.core) (sound : SoundIn client.core o op)
    (written : (client.ops o).phase.written = true → op.ids = (client.ops o).ids ∧ op.phase.written = true) :
    after.Routed := by
  apply routed.update ops numbered
  · exact ⟨agrees.live, fun _ _ => agrees.reconnecting, fun _ _ _ => agrees.waits⟩
  · exact sound.agrees agrees
  · exact written
  · intro entry member
    rw [agrees.wire] at member
    exact .inl member
  · exact routed.pending_of_subset agrees.pending agrees.conn (by simp [agrees.wire])
  · exact fun crashed => routed.crashed (agrees.leads.crashed crashed)

theorem Routed.quiet (routed : client.Routed) (ops : after.ops = client.ops)
    (agrees : client.core.Agrees after.core) : after.Routed := by
  have same : after.ops = Function.update client.ops 0 (client.ops 0) := by rw [ops, Function.update_eq_self]
  exact routed.agrees same (routed.numbered.congr (fun o => by rw [ops]) agrees.idCounter) agrees
    (routed.requests 0) fun written => ⟨rfl, written⟩

/-- The connection is closed after a read error. -/
theorem Routed.stop (routed : client.Routed) (stops : client.core.dispatch.Stops) (ops : after.ops = client.ops)
    (agrees : Core.Agrees { client.core with reading := false, dispatch := .selecting } after.core) :
    after.Routed := by
  have live : client.core.Live := by
    rw [Core.Live]
    cases dispatch : client.core.dispatch with
    | cancelling subs err goal => cases goal <;> simp_all [Dispatch.Stops, Dispatch.quits]
    | selecting | handling | delivering | draining | exited | crashed => simp_all [Dispatch.Stops]
  have calm : ∀ o, ¬after.core.Reconnecting o := fun o flight => (agrees.reconnecting flight).1.elim fun _ => id
  have same : after.ops = Function.update client.ops 0 (client.ops 0) := by rw [ops, Function.update_eq_self]
  apply routed.update same (routed.numbered.congr (fun o => by rw [ops]) agrees.idCounter)
  · exact ⟨fun _ => live, fun o _ flight => absurd flight (calm o), fun _ _ _ => agrees.waits⟩
  · exact (routed.requests 0).mono (fun _ => live) (fun flight => absurd flight (calm 0)) fun _ => agrees.waits
  · exact fun written => ⟨rfl, written⟩
  · rw [agrees.wire]
    exact fun _ => .inl
  · apply routed.pending_of_subset _ agrees.conn (by simp [agrees.wire])
    intro msg member
    have before := agrees.pending msg member
    simp only [Core.pending, Dispatch.pending, List.append_nil] at before
    exact List.mem_append_left _ before
  · rintro crashed
    cases agrees.leads.crashed crashed

theorem Routed.newOp (routed : client.Routed) {o : Nat} {purpose : Purpose}
    (unborn : (client.ops o).phase = .unborn)
    (ops : after.ops = Function.update client.ops o { purpose, phase := .preparing })
    (agrees : client.core.Agrees after.core) : after.Routed := by
  apply routed.agrees ops (routed.numbered.newOp ops rfl agrees.idCounter) agrees
  · exact (routed.requests o).begin unborn purpose
  · simp [unborn, Phase.written]

theorem Routed.nextID (routed : client.Routed) {o : Nat} (preparing : (client.ops o).phase = .preparing)
    (room : client.core.idCounter + 1 < 2 ^ 32)
    (ops : after.ops = Function.update client.ops o
      { client.ops o with ids :=
          if (client.ops o).purpose = .notify then []
          else (client.ops o).ids ++ [(client.core.idCounter + 1) % 2 ^ 32] })
    (core : after.core = { client.core with idCounter := client.core.idCounter + 1 }) : after.Routed := by
  apply routed.update ops (routed.numbered.nextID room ops (by rw [core]))
  · rw [core]
    exact ⟨id, fun _ _ => id, fun _ _ _ => id⟩
  · rw [core]
    exact (routed.requests o).number preparing _
  · simp [preparing, Phase.written]
  · rw [core]
    exact fun _ => .inl
  · rw [core]
    exact routed.pending
  · rw [core]
    exact routed.crashed

/-- Nobody is connected again while the dispatcher is at its `select`. -/
theorem not_reconnecting_of_selecting {core : Core} (selecting : core.dispatch = .selecting) (o : Nat) :
    ¬core.Reconnecting o := by
  rintro ⟨⟨conn, reconnects⟩, _⟩
  rw [selecting] at reconnects
  exact reconnects

theorem live_of_selecting {core : Core} (selecting : core.dispatch = .selecting) : core.Live := by
  rw [Core.Live, selecting]
  rfl

/-- The requests apart from the one that comes to `reqInit`. -/
theorem Routed.accept (routed : client.Routed) {o : Nat} (sending : (client.ops o).phase = .sending)
    (selecting : client.core.dispatch = .selecting)
    (ops : after.ops = Function.update client.ops o { client.ops o with phase := .checking })
    (core : after.core = { client.core.addRequestOp o (client.ops o).ids with locked := true, lastOp := some o }) :
    after.Routed := by
  have calm : ∀ other, ¬after.core.Reconnecting other := by
    rw [core]
    exact not_reconnecting_of_selecting selecting
  have waits : ∀ other id, after.core.Waits other id ↔
      id ∈ (client.ops o).ids ∧ other = o ∨ id ∉ (client.ops o).ids ∧ client.core.Waits other id := by
    intro other id
    rw [core]
    exact Core.waits_addRequestOp
  apply routed.update ops (routed.numbered.update ops rfl (by rw [core]; rfl))
  · refine ⟨fun _ => live_of_selecting selecting, fun other _ flight => absurd flight (calm other), ?_⟩
    intro other apart id waiting
    rcases (waits other id).mp waiting with ⟨_, owner⟩ | ⟨_, before⟩
    · exact absurd owner apart
    · exact before
  · have more : ∀ id, after.core.Waits o id → id ∈ (client.ops o).ids := by
      intro id waiting
      rcases (waits o id).mp waiting with ⟨member, _⟩ | ⟨_, before⟩
      · exact member
      · exact ((routed.requests o).registered id before).1
    have alive := live_of_selecting selecting
    exact RequestOp.Sound.mono ((routed.requests o).accept sending alive more) (fun _ => id) (fun _ => alive)
      fun flight => absurd flight (calm o)
  · simp [sending, Phase.written]
  · rw [core]
    exact fun _ => .inl
  · rw [core]
    exact routed.pending
  · rw [core]
    exact routed.crashed

/-- A request with the write lock comes to `Write`. -/
theorem Routed.write (routed : client.Routed) {o : Nat} (holds : (client.ops o).phase.holds = true) (conn : Nat)
    (ops : after.ops = Function.update client.ops o { client.ops o with phase := .writing })
    (agrees : (client.core.send conn (client.ops o).ids).Agrees after.core) : after.Routed := by
  apply routed.update ops (routed.numbered.update ops rfl agrees.idCounter)
  · exact ⟨agrees.live, fun _ _ => agrees.reconnecting, fun _ _ _ => agrees.waits⟩
  · have sound : SoundIn (client.core.send conn (client.ops o).ids) o _ := (routed.requests o).write holds
    exact sound.agrees agrees
  · exact fun _ => ⟨rfl, rfl⟩
  · intro entry member
    simp only [agrees.wire, Core.send, List.mem_append, List.mem_map] at member
    rcases member with before | ⟨id, own, rfl⟩
    · exact .inl before
    · exact .inr ⟨own, rfl⟩
  · apply routed.pending_of_subset agrees.pending agrees.conn
    rw [agrees.wire]
    exact List.subset_append_left _ _
  · exact fun crashed => routed.crashed (agrees.leads.crashed crashed)

theorem Routed.moved (routed : client.Routed) {o : Nat} {phase : Phase}
    (ops : after.ops = Function.update client.ops o { client.ops o with phase })
    (moved : Moved client.core after.core o (client.ops o) phase) : after.Routed := by
  have sound := routed.requests o
  cases moved with
  | accept sending selecting unlocked same => exact routed.accept sending selecting ops same
  | check checking conn alive same => exact routed.write (by rw [checking]; rfl) conn ops (by rw [same]; exact .refl _)
  | signal err signalling quiet same =>
      have written : ((client.ops o).afterSignal err).written = true := by
        cases err with
        | some err => rfl
        | none =>
            rw [RequestOp.afterSignal]
            split <;> rfl
      apply routed.update ops (routed.numbered.update ops rfl (by rw [same]))
      · rw [same]
        exact ⟨id, fun _ _ => id, fun _ _ _ => id⟩
      · rw [same]
        exact sound.signal (by rw [signalling]; rfl) err
      · exact fun _ => ⟨rfl, written⟩
      · rw [same]
        exact fun _ => .inl
      · rw [same]
        exact routed.pending
      · rw [same]
        exact routed.crashed
  | timeOut expired selecting same =>
      apply routed.update ops (routed.numbered.update ops rfl (by rw [same]; rfl))
      · rw [same]
        exact ⟨id, fun _ _ => id, fun _ _ _ waits => (List.mem_filter.mp waits).1⟩
      · rw [same]
        exact RequestOp.Sound.mono (sound.fail .context) (fun _ waits => (List.mem_filter.mp waits).1) id id
      · exact fun _ => ⟨rfl, rfl⟩
      · rw [same]
        exact fun _ => .inl
      · rw [same]
        exact routed.pending
      · rw [same]
        exact routed.crashed
  | prepare preparing ready same =>
      apply routed.agrees ops (routed.numbered.update ops rfl (by rw [same])) (by rw [same]; exact .refl _)
      · exact sound.prepare preparing ready
      · simp [preparing, Phase.written]
  | expire waiting deadline same =>
      apply routed.agrees ops (routed.numbered.update ops rfl (by rw [same])) (by rw [same]; exact .refl _)
      · exact sound.expire waiting
      · exact fun _ => ⟨rfl, rfl⟩
  | alone _ leads agrees =>
      apply routed.agrees ops (routed.numbered.update ops rfl agrees.idCounter) agrees
      · exact sound.leads leads
      · exact fun written => ⟨rfl, leads.written_of_written written⟩

theorem Routed.receive (routed : client.Routed) {o : Nat} {op : RequestOp}
    (received : RequestOp.next .receive (client.ops o) = some op)
    (ops : after.ops = Function.update client.ops o op) (core : after.core = client.core) : after.Routed := by
  have sound : SoundIn client.core o op := (routed.requests o).receive received
  obtain ⟨_, ids, _, written⟩ := receive_cases received
  apply routed.agrees ops (routed.numbered.update ops ids (by rw [core])) (by rw [core]; exact .refl _) sound
  exact fun _ => ⟨ids, written⟩

theorem Routed.sent (routed : client.Routed) {table : List (Nat × Nat)}
    (selecting : client.core.dispatch = .selecting) (fewer : ∀ entry ∈ table, entry ∈ client.core.respWait)
    (ops : after.ops = client.ops)
    (core : Core.Agrees
      { client.core with respWait := table, reqSent := none, locked := false, lastOp := none } after.core) :
    after.Routed := by
  have same : after.ops = Function.update client.ops 0 (client.ops 0) := by rw [ops, Function.update_eq_self]
  have calm : ∀ other, ¬after.core.Reconnecting other := by
    intro other flight
    exact not_reconnecting_of_selecting selecting other ⟨(core.reconnecting flight).1, by
      simpa using (core.reconnecting flight).2⟩
  have waits : ∀ o id, after.core.Waits o id → client.core.Waits o id := fun o id waiting =>
    fewer _ (core.waits waiting)
  apply routed.update same (routed.numbered.congr (fun o => by rw [ops]) core.idCounter)
  · exact ⟨core.live, fun other _ flight => absurd flight (calm other), fun other _ => waits other⟩
  · exact (routed.requests 0).mono core.live (fun flight => absurd flight (calm 0)) (waits 0)
  · exact fun written => ⟨rfl, written⟩
  · rw [core.wire]
    exact fun _ => .inl
  · exact routed.pending_of_subset core.pending core.conn (by simp [core.wire])
  · exact fun crashed => routed.crashed (core.leads.crashed crashed)

/-- The request in flight is the only one that is registered and not written yet. -/
theorem Routed.written_of_waits (routed : client.Routed) (exclusive : client.writeLock.Exclusive) {o id : Nat}
    (waits : client.core.Waits o id) (other : client.core.lastOp ≠ some o) : (client.ops o).phase.written = true := by
  by_contra unwritten
  rw [Bool.not_eq_true] at unwritten
  have sent := ((routed.requests o).registered id waits).2.1
  exact other (exclusive.inside_owner o (Phase.holds_of_written_eq_false sent unwritten)).1

/-- What closing a connection leaves: all requests are cancelled, apart from the one in flight unless the client
quits. -/
theorem Routed.cancelled (routed : client.Routed) (exclusive : client.writeLock.Exclusive) (live : client.core.Live)
    {err : RpcError} {spared : List Nat} {dispatch : Dispatch}
    (cancelled : Cancelled err client.core.respWait spared client.ops after.ops)
    (agrees : Core.Agrees { client.core with respWait := [], dispatch } after.core)
    (pending : dispatch.pending = []) (sound : dispatch ≠ .crashed)
    (spare : (∀ o, client.core.lastOp = some o → o ∈ spared) ∨ ¬after.core.Live)
    (flight : ∀ o, after.core.Reconnecting o → o ∈ spared ∧ (client.ops o).phase.unsent = false ∧
      (client.ops o).phase.idle = false ∧ ((client.ops o).got = [] ∧ (client.ops o).resp = []) ∧
      (client.ops o).closed = false) : after.Routed := by
  have unregistered : ∀ o id, ¬after.core.Waits o id := by
    intro o id waits
    simpa [Core.Waits] using agrees.waits waits
  have same_op : ∀ o, (after.ops o).ids = (client.ops o).ids ∧ (after.ops o).phase = (client.ops o).phase := by
    intro o
    rcases cancelled o with ⟨_, _, same⟩ | ⟨_, same⟩ <;> simp [same]
  constructor
  · exact routed.numbered.congr (fun o => (same_op o).1) agrees.idCounter
  · intro o
    rcases cancelled o with ⟨⟨registered, unspared⟩, not_closed, same⟩ | ⟨_, same⟩
    · rw [same]
      obtain ⟨entry, member, rfl⟩ := List.mem_map.mp registered
      apply RequestOp.Sound.close (routed.requests entry.2)
      · rcases spare with spare | dead
        · exact .inl (routed.written_of_waits exclusive member fun owner => unspared (spare _ owner))
        · exact .inr dead
      · exact fun reconnecting => unspared (flight _ reconnecting).1
      · exact unregistered entry.2
      · rintro ⟨⟩
    · rw [same]
      by_cases reconnecting : after.core.Reconnecting o
      · obtain ⟨_, sent, busy, unanswered, not_closed⟩ := flight o reconnecting
        have flying : (client.ops o).Sound (after.core.Waits o) client.core.Live (after.core.Reconnecting o) :=
          RequestOp.Sound.fly (routed.requests o) sent busy unanswered not_closed
            fun id waits => absurd waits (unregistered o id)
        exact RequestOp.Sound.mono flying (fun _ => id) (fun _ => live) id
      · exact (routed.requests o).mono (fun _ => live) (fun flight => absurd flight reconnecting)
          fun id waits => absurd waits (unregistered o id)
  · intro entry member
    rw [agrees.wire] at member
    obtain ⟨o, own, written⟩ := routed.wire entry member
    exact ⟨o, (same_op o).1 ▸ own, (same_op o).2 ▸ written⟩
  · apply routed.pending_of_subset _ agrees.conn (by simp [agrees.wire])
    intro msg member
    have before := agrees.pending msg member
    simp only [Core.pending, pending, List.append_nil] at before
    exact List.mem_append_left _ before
  · exact fun crashed => sound (agrees.leads.crashed crashed)

/-- A new connection, where the request in flight is registered again. -/
theorem Routed.connect (routed : client.Routed) (live : client.core.Live) {owner conn : Nat}
    (sent : (client.ops owner).phase.unsent = false)
    (early : (client.ops owner).phase.written = false ∨ client.core.Reconnecting owner)
    (ops : after.ops = client.ops)
    (agrees : Core.Agrees (Core.addRequestOp { client.core with
      respWait := [], conn, reading := true, reader := .reading, dispatch := .selecting }
      owner (client.ops owner).ids) after.core) :
    after.Routed := by
  have waits : ∀ o id, after.core.Waits o id → id ∈ (client.ops owner).ids ∧ o = owner := by
    intro o id waiting
    rcases Core.waits_addRequestOp.mp (agrees.waits waiting) with own | ⟨_, before⟩
    · exact own
    · simp [Core.Waits] at before
  have calm : ∀ o, ¬after.core.Reconnecting o := fun o flight => (agrees.reconnecting flight).1.elim fun _ => id
  have same : after.ops = Function.update client.ops owner (client.ops owner) := by rw [ops, Function.update_eq_self]
  apply routed.update same (routed.numbered.congr (fun o => by rw [ops]) agrees.idCounter)
  · exact ⟨fun _ => live, fun o _ flight => absurd flight (calm o),
      fun o apart id waiting => absurd (waits o id waiting).2 apart⟩
  · have registered := RequestOp.Sound.register (routed.requests owner) live sent early
      fun id waiting => (waits owner id waiting).1
    exact RequestOp.Sound.mono registered (fun _ => id) (fun _ => live) fun flight => absurd flight (calm owner)
  · exact fun written => ⟨rfl, written⟩
  · rw [agrees.wire]
    exact fun _ => .inl
  · intro msg member
    exact absurd (agrees.pending msg member)
      (by simp [Core.pending, Core.addRequestOp, Reader.pending, Dispatch.pending])
  · rintro crashed
    cases agrees.leads.crashed crashed

theorem Routed.answer (routed : client.Routed) {key o : Nat} {msg : Message} {msgs : List (Option Message)}
    {calls : List Message} {op : RequestOp} (handling : client.core.dispatch = .handling (some msg :: msgs) calls)
    (response : msg.isResponse = true) (keyed : msg.key = some key)
    (registered : client.core.respWait.lookup key = some o)
    (answered : (client.ops o).purpose.sub = none ∧ RequestOp.next (.deliver msg) (client.ops o) = some op ∨
      (client.ops o).purpose.sub ≠ none ∧ ∃ err, RequestOp.next (.close err) (client.ops o) = some op)
    (ops : after.ops = Function.update client.ops o op)
    (agrees : Core.Agrees
      { client.core with respWait := client.core.respWait.filter fun entry => entry.1 ≠ key } after.core) :
    after.Routed := by
  have waiting : client.core.Waits o key := ListLookup.mem_of_lookup registered
  obtain ⟨own, sent, not_closed, _⟩ := (routed.requests o).registered key waiting
  have written : (client.ops o).phase.written = true := by
    have solicited := routed.pending (some msg) (by simp [Core.pending, Dispatch.pending, handling])
    simp only [answersRequest, response, keyed, Bool.not_true, Bool.false_or, decide_eq_true_eq] at solicited
    obtain ⟨other, other_own, other_written⟩ := routed.wire _ solicited
    rwa [routed.numbered.apart o other key own other_own]
  have waits : ∀ other id, after.core.Waits other id → client.core.Waits other id ∧ id ≠ key := by
    intro other id later
    simpa [Core.Waits] using agrees.waits later
  have calm : ∀ other, ¬client.core.Reconnecting other := by
    rintro other ⟨⟨conn, reconnects⟩, _⟩
    rw [handling] at reconnects
    exact reconnects
  have flight : ∀ other, after.core.Reconnecting other → client.core.Reconnecting other := fun _ =>
    agrees.reconnecting
  have sound : op.ids = (client.ops o).ids ∧ op.phase = (client.ops o).phase ∧ SoundIn after.core o op := by
    rcases answered with ⟨_, delivered⟩ | ⟨subscribes, err, closed⟩
    · obtain ⟨_, rfl⟩ := Option.when_eq_some.mp delivered
      refine ⟨rfl, rfl, ?_⟩
      have delivered := RequestOp.Sound.deliver (routed.requests o) keyed waiting written (calm o) (waits o)
      exact RequestOp.Sound.mono delivered (fun _ => id) agrees.live (flight o)
    · obtain ⟨_, rfl⟩ := Option.when_eq_some.mp closed
      refine ⟨rfl, rfl, ?_⟩
      apply RequestOp.Sound.close (routed.requests o) (.inl written)
      · exact fun later => calm o (flight o later)
      · intro id later
        obtain ⟨before, apart⟩ := waits o id later
        exact apart ((routed.requests o).only subscribes waiting before)
      · exact fun _ => subscribes
  apply routed.update ops (routed.numbered.update ops sound.1 agrees.idCounter)
  · exact ⟨agrees.live, fun other _ => flight other, fun other _ id later => (waits other id later).1⟩
  · exact sound.2.2
  · exact fun _ => ⟨sound.1, by rw [sound.2.1, written]⟩
  · rw [agrees.wire]
    exact fun _ => .inl
  · exact routed.pending_of_subset agrees.pending agrees.conn (by simp [agrees.wire])
  · exact fun crashed => routed.crashed (agrees.leads.crashed crashed)

/-- None of the dispatcher's failures is possible. -/
theorem Routed.no_defect (routed : client.Routed) (exclusive : client.writeLock.Exclusive)
    (keeps_owner : client.KeepsOwner) : ¬client.Defect := by
  rintro (pending | ⟨entry, member, closed⟩ | ⟨missing, needed⟩)
  · exact absurd (routed.pending none pending) (by simp [answersRequest])
  · have not_closed := ((routed.requests entry.2).registered entry.1 member).2.2.1
    simp [not_closed] at closed
  · rcases needed with signalled | ⟨conn, reconnects⟩ | ⟨o, conn, dialled⟩
    · exact exclusive.signal_owner (by simpa [writeLock, Option.isSome_iff_ne_none] using signalled) missing
    · exact keeps_owner conn reconnects missing
    · have owner := (exclusive.inside_owner o (by simp [writeLock, dialled, Phase.holds])).1
      rw [show client.core.lastOp = some o from owner] at missing
      cases missing

/-- The state between the two halves of a new connection: the request in flight is at `Write`. -/
def written (client : Client Value) (o conn : Nat) : Client Value :=
  { client with
    ops := Function.update client.ops o { client.ops o with phase := .writing }
    core := client.core.send conn (client.ops o).ids }

theorem Routed.reconnect (routed : client.Routed) (exclusive : client.writeLock.Exclusive) {o conn : Nat}
    (dialled : (client.ops o).phase = .dialled conn) (selecting : client.core.dispatch = .selecting)
    (ops : Cancelled .clientReconnected client.core.respWait client.core.lastOp.toList
      (Function.update client.ops o { client.ops o with phase := .writing }) after.ops)
    (agrees : Core.Agrees { client.core.send conn (client.ops o).ids with
      respWait := [], dispatch := .draining (.reconnect conn) } after.core) : after.Routed := by
  have holds : (client.ops o).phase.holds = true := by rw [dialled]; rfl
  have owner : client.core.lastOp = some o := (exclusive.inside_owner o holds).1
  have live := live_of_selecting selecting
  have routed_written : (client.written o conn).Routed := routed.write holds conn rfl (.refl _)
  have still_exclusive : (client.written o conn).writeLock.Exclusive := by
    have same : (client.written o conn).writeLock = client.writeLock :=
      writeLock_congr (holds_update (by rw [holds]; rfl)) rfl rfl rfl
    rw [same]
    exact exclusive
  apply routed_written.cancelled still_exclusive live ops agrees rfl (by rintro ⟨⟩)
  · left
    intro other other_owner
    have owned : client.core.lastOp = some other := other_owner
    simp [owned]
  · intro other flight
    have other_owner : client.core.lastOp = some other := (agrees.reconnecting flight).2
    obtain rfl : other = o := by simpa [owner] using other_owner.symm
    have unwritten : (client.ops other).phase.written = false := by rw [dialled]; rfl
    refine ⟨by simp [owner], ?_⟩
    simp only [written, Function.update_self]
    exact ⟨rfl, rfl, (routed.requests other).unanswered (.inl unwritten),
      (routed.requests other).opened (.inl ⟨unwritten, live⟩)⟩

theorem Routed.reconnectAtOnce (routed : client.Routed) (exclusive : client.writeLock.Exclusive) {o conn owner : Nat}
    (dialled : (client.ops o).phase = .dialled conn) (selecting : client.core.dispatch = .selecting)
    (owned : client.core.lastOp = some owner)
    (ops : after.ops = Function.update client.ops o { client.ops o with phase := .writing })
    (agrees : Core.Agrees (Core.addRequestOp { client.core.send conn (client.ops o).ids with
      respWait := [], conn, reading := true, reader := .reading } owner (client.ops owner).ids) after.core) :
    after.Routed := by
  have holds : (client.ops o).phase.holds = true := by rw [dialled]; rfl
  obtain rfl : owner = o := by
    have owner_eq : client.core.lastOp = some o := (exclusive.inside_owner o holds).1
    simpa [owner_eq] using owned.symm
  let core := Core.addRequestOp { client.core with
    respWait := [], conn, reading := true, reader := .reading, dispatch := .selecting } owner (client.ops owner).ids
  have connected : ({ client with core } : Client Value).Routed :=
    routed.connect (live_of_selecting selecting) (by rw [dialled]; rfl) (.inl (by rw [dialled]; rfl)) rfl (.refl _)
  apply connected.write holds conn ops
  convert agrees using 1
  simp only [core, Core.addRequestOp, Core.send, selecting]

theorem Routed.read (routed : client.Routed) {msgs : List (Option Message)} {batch : Bool}
    (answers : ∀ msg ∈ msgs, answersRequest client.core msg = true) (ops : after.ops = client.ops)
    (core : after.core = { client.core with reader := .offering msgs batch }) : after.Routed := by
  have same : after.ops = Function.update client.ops 0 (client.ops 0) := by rw [ops, Function.update_eq_self]
  apply routed.update same (routed.numbered.congr (fun o => by rw [ops]) (by rw [core]))
  · rw [core]
    exact ⟨id, fun _ _ => id, fun _ _ _ => id⟩
  · rw [core]
    exact routed.requests 0
  · exact fun written => ⟨rfl, written⟩
  · rw [core]
    exact fun _ => .inl
  · intro msg member
    rw [core] at member ⊢
    rcases List.mem_append.mp member with offered | handled
    · exact answers msg offered
    · exact routed.pending msg (List.mem_append_right _ handled)
  · rw [core]
    exact routed.crashed

theorem keeps_routed (etype : Nat → ElementType Value) :
    ((next etype).restrict behaves).KeepsGiven
      (fun client => client.writeLock.Exclusive ∧ client.KeepsOwner) Routed := by
  intro action client after stepped ⟨exclusive, keeps_owner⟩ routed
  obtain ⟨behaved, stepped⟩ := System.restrict_eq_some.mp stepped
  cases effect_of_next stepped with
  | newOp purpose unborn ops core => exact routed.newOp unborn ops core
  | nextID o taken preparing ops core =>
      subst taken
      exact routed.nextID preparing (by simpa [behaves] using behaved) ops core
  | move o phase ops moved => exact routed.moved ops moved
  | receive o op received ops core => exact routed.receive received ops core
  | sent err table signalled selecting kept ops core =>
      apply routed.sent selecting _ ops core
      rcases kept with ⟨rfl, _⟩ | ⟨o, _, _, rfl⟩
      · exact fun _ => id
      · exact fun entry member => (List.mem_filter.mp member).1
  | close err goal spared selecting cause ops core =>
      have calm : ∀ o, ¬after.core.Reconnecting o := by
        intro o flight
        obtain ⟨conn, reconnects⟩ := (core.reconnecting flight).1
        rcases cause with ⟨_, rfl, _⟩ | ⟨_, rfl, _⟩
        · exact reconnects
        · exact reconnects
      apply routed.cancelled exclusive (live_of_selecting selecting) ops core rfl (by rintro ⟨⟩)
      · rcases cause with ⟨_, _, rfl⟩ | ⟨_, rfl, _⟩
        · left
          intro o owner
          simp [owner]
        · right
          intro live
          simpa [Core.Live, Dispatch.quits] using core.live live
      · exact fun o flight => absurd flight (calm o)
  | reconnect o conn dialled selecting reading ops core => exact routed.reconnect exclusive dialled selecting ops core
  | reconnectAtOnce o conn owner dialled selecting stopped owned ops core =>
      exact routed.reconnectAtOnce exclusive dialled selecting owned ops core
  | connect conn owner reconnects owned ops core =>
      have flight : client.core.Reconnecting owner := ⟨⟨conn, reconnects⟩, owned⟩
      have live : client.core.Live := by
        by_contra dead
        rw [Core.Live, Bool.not_eq_false] at dead
        exact Dispatch.not_reconnects_of_quits dead conn reconnects
      exact routed.connect live ((routed.requests owner).in_flight flight) (.inr flight) ops core
  | answer key o msg msgs calls op handling response keyed registered not_closed answered ops core =>
      exact routed.answer handling response keyed registered answered ops core
  | read msgs batch taken ops core =>
      subst taken
      exact routed.read (by simpa [behaves] using behaved) ops core
  | stop stops ops core => exact routed.stop stops ops core
  | quiet ops core => exact routed.quiet ops core
  | crash defect crashed ops respWait lastOp locked reqSent =>
      exact absurd defect (routed.no_defect exclusive keeps_owner)

theorem routed_initClient (canReconnect : Bool) : (initClient canReconnect : Client Value).Routed := by
  constructor
  · constructor <;> simp [initClient]
  · intro o
    apply RequestOp.sound_of_unsent rfl ⟨rfl, rfl⟩ (fun _ => rfl)
    · simp [initClient]
    · exact fun _ => .inr rfl
    · simp [initClient, Core.Waits]
    · rintro ⟨⟨conn, reconnects⟩, _⟩
      exact reconnects
  · simp [initClient]
  · simp [initClient, Core.pending, Reader.pending, Dispatch.pending]
  · simp [initClient]

/-- The invariant in every state that a client comes to with a server that behaves. -/
theorem routed_of_reaches {etype : Nat → ElementType Value} {canReconnect : Bool}
    (reached : ((next etype).restrict behaves).Reaches (initClient canReconnect) client) :
    client.writeLock.Exclusive ∧ client.Routed := by
  have locks := ((keeps_exclusive etype).and (keeps_keepsOwner etype)).restrict behaves
  have holds := (locks.and (keeps_routed etype)).reaches reached
    ⟨⟨exclusive_initClient canReconnect, fun _ => False.elim⟩, routed_initClient canReconnect⟩
  exact ⟨holds.1.1, holds.2⟩

/-- With such a server, the dispatcher never closes a channel twice, sends on a closed one or uses a nil pointer, and
no caller uses a nil response. -/
theorem never_crashes (etype : Nat → ElementType Value) (canReconnect : Bool)
    (client : Client Value)
    (reached : ((next etype).restrict behaves).Reaches (initClient canReconnect) client) :
    client.core.dispatch ≠ .crashed ∧ ∀ o, (client.ops o).phase ≠ .crashed := by
  obtain ⟨_, routed⟩ := routed_of_reaches reached
  exact ⟨routed.crashed, fun o => (routed.requests o).running⟩

/-- A response to the request with the identifier. -/
def responseTo (id : Nat) : Message := { id := some (.number (Nat.toDigits 10 id)), result := some (.string []) }

/-- A batch of two that is answered in the other order. -/
def batchOfTwo : List Action :=
  [.begin .batch, .nextID 0, .nextID 0, .move 0 .prepare, .move 0 .accept, .move 0 .check, .move 0 .write,
    .move 0 .signal, .acceptSent, .read [some (responseTo 2), some (responseTo 1)] true, .acceptRead, .handle, .handle,
    .handle, .receive 0, .receive 0]

theorem never_crashes_batch_of_two :
    ∃ client : Client Json,
      ((next fun _ => rawMessage).restrict behaves).run batchOfTwo (initClient true) = some client ∧
      client.core.dispatch ≠ .crashed ∧ ∀ o, (client.ops o).phase ≠ .crashed :=
  ⟨_, rfl, never_crashes (fun _ => rawMessage) true _ ⟨batchOfTwo, rfl⟩⟩

/-- With such a server, every response that comes to a request carries one of its own identifiers, which no other
request has, and no identifier is answered twice; a `Call` or `BatchCall` that returns without an error has exactly
one response for each identifier. -/
theorem responses_find_requests (etype : Nat → ElementType Value) (canReconnect : Bool)
    (client : Client Value)
    (reached : ((next etype).restrict behaves).Reaches (initClient canReconnect) client) (o : Nat) :
    (∀ msg ∈ (client.ops o).answers, ∃ id ∈ (client.ops o).ids, msg.key = some id ∧
        ∀ other, id ∈ (client.ops other).ids → other = o) ∧
      ((client.ops o).answers.map Message.key).Nodup ∧
      ((client.ops o).phase = .returned none → (client.ops o).purpose.sub = none →
        ((client.ops o).got.map Message.key).Perm ((client.ops o).ids.map some)) := by
  obtain ⟨_, routed⟩ := routed_of_reaches reached
  have sound := routed.requests o
  refine ⟨?_, sound.once, ?_⟩
  · intro msg member
    obtain ⟨id, own, keyed⟩ := sound.own msg member
    exact ⟨id, own, keyed, fun other others => routed.numbered.apart other o id others own⟩
  · intro returned unsubscribed
    have nodup : ((client.ops o).got.map Message.key).Nodup := by
      have all := sound.once
      rw [RequestOp.answers, List.map_append] at all
      exact all.of_append_left
    have among : (client.ops o).got.map Message.key ⊆ (client.ops o).ids.map some := by
      intro key member
      obtain ⟨msg, got, rfl⟩ := List.mem_map.mp member
      obtain ⟨id, own, keyed⟩ := sound.own msg (List.mem_append_left _ got)
      rw [keyed]
      exact List.mem_map_of_mem own
    apply (List.subperm_of_subset nodup among).perm_of_length_le
    rw [List.length_map, List.length_map, sound.complete returned unsubscribed]

theorem responses_find_requests_batch_of_two :
    ∃ client : Client Json,
      ((next fun _ => rawMessage).restrict behaves).run batchOfTwo (initClient true) = some client ∧
      (client.ops 0).ids = [1, 2] ∧ ((client.ops 0).got.map Message.key).Perm [some 1, some 2] :=
  ⟨_, rfl, rfl, (responses_find_requests (fun _ => rawMessage) true _ ⟨batchOfTwo, rfl⟩ 0).2.2 rfl rfl⟩

/-- A request that is registered has fewer responses than identifiers. -/
theorem Routed.answers_lt (routed : client.Routed) {id o : Nat} (registered : (id, o) ∈ client.core.respWait) :
    (client.ops o).answers.length < (client.ops o).ids.length := by
  have sound := routed.requests o
  obtain ⟨own, _, _, fresh⟩ := sound.registered id registered
  have nodup : (some id :: (client.ops o).answers.map Message.key).Nodup := List.nodup_cons.mpr ⟨fresh, sound.once⟩
  have among : some id :: (client.ops o).answers.map Message.key ⊆ (client.ops o).ids.map some := by
    intro key member
    rcases List.mem_cons.mp member with rfl | answered
    · exact List.mem_map_of_mem own
    · obtain ⟨msg, came, rfl⟩ := List.mem_map.mp answered
      obtain ⟨other, other_own, keyed⟩ := sound.own msg came
      rw [keyed]
      exact List.mem_map_of_mem other_own
  simpa using (List.subperm_of_subset nodup among).length_le

/-- `respWait` has one request for an identifier. -/
theorem Routed.lookup (routed : client.Routed) {id o : Nat} (registered : (id, o) ∈ client.core.respWait) :
    client.core.respWait.lookup id = some o := by
  obtain ⟨other, found⟩ := (ListLookup.exists_lookup_iff id client.core.respWait).mpr
    (List.mem_map_of_mem registered)
  have own := ((routed.requests o).registered id registered).1
  have others := ((routed.requests other).registered id (ListLookup.mem_of_lookup found)).1
  rw [found, routed.numbered.apart o other id own others]

/-- The answer to `Subscribe` closes its channel, and does not make the dispatcher wait. -/
theorem answerSubscribe_total (etype : Nat → ElementType Value) (client : Client Value) (o sub : Nat) (msg : Message)
    (not_closed : (client.ops o).closed = false) (idle : (client.subs sub).Idle) :
    ∃ after err, client.answerSubscribe etype o sub msg = some after ∧
      after.ops = Function.update client.ops o { client.ops o with err, closed := true } ∧
      after.core.respWait = client.core.respWait ∧ after.core.dispatch = client.core.dispatch := by
  have closes : ∀ err, RequestOp.next (.close err) (client.ops o) = some { client.ops o with err, closed := true } :=
    fun err => Option.when_eq_some.mpr ⟨not_closed, rfl⟩
  rw [answerSubscribe]
  split
  · rw [closes]
    exact ⟨_, _, rfl, rfl, rfl, rfl⟩
  · rw [closes]
    exact ⟨_, _, rfl, rfl, rfl, rfl⟩
  · rw [closes]
    simp only [ClientSubscription.next, idle.forwarder]
    exact ⟨_, _, rfl, rfl, rfl, rfl⟩

/-- With such a server, the response to a request that is registered makes the dispatcher neither wait nor fail.  The
channel of the request is open.  It has room for the response, or belongs to `Subscribe`: then it has no room at all,
nothing was sent on it, and the response closes it, with no further one to come. -/
theorem room_for_response (etype : Nat → ElementType Value) (canReconnect : Bool)
    (client : Client Value)
    (reached : ((next etype).restrict behaves).Reaches (initClient canReconnect) client) (id o : Nat)
    (registered : (id, o) ∈ client.core.respWait) :
    (client.ops o).closed = false ∧
      ((client.ops o).purpose.sub = none → (client.ops o).answers.length < (client.ops o).capacity) ∧
      ((client.ops o).purpose.sub ≠ none → (client.ops o).answers = [] ∧ (client.ops o).capacity = 0) ∧
      ∀ msg, msg.key = some id → ∃ after, client.handleResponse etype msg = some after ∧
        after.core.dispatch = client.core.dispatch ∧
        ((client.ops o).purpose.sub = none →
          after.ops o = { client.ops o with resp := (client.ops o).resp ++ [msg] }) ∧
        ((client.ops o).purpose.sub ≠ none → ∃ err,
          after.ops o = { client.ops o with err, closed := true } ∧ ∀ other, (other, o) ∉ after.core.respWait) := by
  obtain ⟨_, routed⟩ := routed_of_reaches reached
  have unstarted := ((keeps_unstarted etype).restrict behaves).reaches reached (unstarted_initClient canReconnect)
  have sound := routed.requests o
  have not_closed := (sound.registered id registered).2.2.1
  have fewer := routed.answers_lt registered
  refine ⟨not_closed, fun plain => ?_, fun subscribes => ⟨?_, ?_⟩, fun msg keyed => ?_⟩
  · rwa [RequestOp.capacity, plain]
  · rcases sound.single subscribes with one | ⟨_, unregistered, _⟩
    · exact List.length_eq_zero_iff.mp (by omega)
    · exact absurd registered (unregistered id)
  · obtain ⟨sub, own⟩ := Option.ne_none_iff_exists'.mp subscribes
    rw [RequestOp.capacity, own]
  · rw [handleResponse, keyed, Option.bind_eq_bind, Option.bind_some, routed.lookup registered]
    simp only [answer]
    rw [if_neg (by simp [not_closed])]
    cases own : (client.ops o).purpose.sub with
    | none =>
        have room : (client.ops o).resp.length < (client.ops o).capacity := by
          rw [RequestOp.answers, List.length_append] at fewer
          rw [RequestOp.capacity, own]
          simp only
          omega
        have delivered : RequestOp.next (.deliver msg) (client.ops o) =
            some { client.ops o with resp := (client.ops o).resp ++ [msg] } :=
          Option.when_eq_some.mpr ⟨⟨not_closed, room⟩, rfl⟩
        rw [delivered]
        exact ⟨_, rfl, rfl, fun _ => Function.update_self _ _ _, fun subscribes => absurd rfl subscribes⟩
    | some sub =>
        have subscribes : (client.ops o).purpose.sub ≠ none := by simp [own]
        obtain ⟨after, err, answered, ops, respWait, dispatch⟩ := answerSubscribe_total etype
          { client with core := { client.core with
              respWait := client.core.respWait.filter fun entry => some entry.1 ≠ some id } }
          o sub msg not_closed (unstarted.idle o sub own not_closed)
        refine ⟨after, answered, dispatch, by simp, fun _ => ⟨err, by simp [ops], fun other waits => ?_⟩⟩
        rw [respWait, List.mem_filter] at waits
        exact absurd (sound.only subscribes registered waits.1) (by simpa using waits.2)

/-- `Subscribe` has sent its request. -/
def subscribeSent : List Action :=
  [.begin (.subscribe 0), .nextID 0, .move 0 .prepare, .move 0 .accept, .move 0 .check, .move 0 .write,
    .move 0 .signal, .acceptSent]

theorem room_for_response_registered :
    (∃ client : Client Json,
        ((next fun _ => rawMessage).restrict behaves).run (batchOfTwo.take 12) (initClient true) = some client ∧
        (client.ops 0).answers.length = 1 ∧ (client.ops 0).closed = false ∧
        (client.ops 0).answers.length < (client.ops 0).capacity ∧
        ∃ after, client.handleResponse (fun _ => rawMessage) (responseTo 1) = some after) ∧
      ∃ client : Client Json,
        ((next fun _ => rawMessage).restrict behaves).run subscribeSent (initClient true) = some client ∧
        (client.ops 0).purpose = .subscribe 0 ∧ (client.ops 0).closed = false ∧ (client.ops 0).capacity = 0 ∧
        ∃ after, client.handleResponse (fun _ => rawMessage) (responseTo 1) = some after := by
  have keyed : (responseTo 1).key = some 1 := by decide
  constructor
  · refine ⟨_, rfl, rfl, ?_⟩
    have room := room_for_response (fun _ => rawMessage) true _ ⟨batchOfTwo.take 12, rfl⟩ 1 0
      (by exact List.mem_cons_self)
    exact ⟨room.1, room.2.1 rfl, Exists.imp (fun _ handled => And.left handled) (room.2.2.2 (responseTo 1) keyed)⟩
  · refine ⟨_, rfl, rfl, ?_⟩
    have room := room_for_response (fun _ => rawMessage) true _ ⟨subscribeSent, rfl⟩ 1 0 (by exact List.mem_cons_self)
    exact ⟨room.1, (room.2.2.1 (by rintro ⟨⟩)).2,
      Exists.imp (fun _ handled => And.left handled) (room.2.2.2 (responseTo 1) keyed)⟩

end Client

end SubstrateClient.Rpc
