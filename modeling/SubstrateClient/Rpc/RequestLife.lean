import SubstrateClient.Rpc.WriteLock

/-!
# The life of a request

What holds of a request depends on the dispatcher in three ways only: which identifiers it waits for, whether the
dispatcher is still alive, and whether it is about to be connected again.  Each lemma below is about one request and
one thing that happens to it.
-/

namespace SubstrateClient.Rpc

open Interleaving

namespace Phase

/-- The request has not come to `reqInit` yet. -/
def unsent : Phase → Bool
  | unborn | preparing | sending => true
  | _ => false

/-- The goroutine is not in `send` or `wait`. -/
def idle : Phase → Bool
  | unborn | preparing | returned _ => true
  | _ => false

/-- Between `reqInit` and the first byte, a request has the write lock. -/
theorem holds_of_written_eq_false {phase : Phase} (sent : phase.unsent = false) (unwritten : phase.written = false) :
    phase.holds = true := by
  cases phase <;> simp_all [unsent, written, holds]

theorem written_eq_false_of_unsent {phase : Phase} (unsent : phase.unsent = true) : phase.written = false := by
  cases phase <;> simp_all [Phase.unsent, written]

theorem idle_eq_false_of_holds {phase : Phase} (holds : phase.holds = true) : phase.idle = false := by
  cases phase <;> first | rfl | cases holds

theorem Leads.written {before phase : Phase} (leads : before.Leads phase) (unwritten : phase.written = false) :
    before.written = false := by
  cases leads <;> first | rfl | cases unwritten

theorem Leads.written_of_written {before phase : Phase} (leads : before.Leads phase) (written : before.written = true) :
    phase.written = true := by
  cases leads <;> first | rfl | cases written

theorem Leads.unsent {before phase : Phase} (leads : before.Leads phase) (sent : before.unsent = false) :
    phase.unsent = false := by
  cases leads <;> rfl

theorem Leads.idle {before phase : Phase} (leads : before.Leads phase) (idle : before.idle = true) :
    phase.idle = true := by
  cases leads <;> first | rfl | cases idle

theorem Leads.ne_crashed {before phase : Phase} (leads : before.Leads phase) :
    phase ≠ .crashed ∧ phase ≠ .returned none := by
  cases leads <;> simp

end Phase

namespace RequestOp

/-- The responses that came in for a request. -/
def answers (op : RequestOp) : List Message := op.got ++ op.resp

/-- What holds of a request at any time, where `waits` are the identifiers it is registered with. -/
structure Sound (op : RequestOp) (waits : Nat → Prop) (live reconnecting : Prop) : Prop where
  unanswered : op.phase.written = false ∨ reconnecting → op.got = [] ∧ op.resp = []
  opened : op.phase.written = false ∧ live ∨ reconnecting → op.closed = false
  in_flight : reconnecting → op.phase.unsent = false
  holding : op.phase.holds = true → op.got = []
  own : ∀ msg ∈ op.answers, ∃ id ∈ op.ids, msg.key = some id
  once : (op.answers.map Message.key).Nodup
  registered : ∀ id, waits id →
    id ∈ op.ids ∧ op.phase.unsent = false ∧ op.closed = false ∧ some id ∉ op.answers.map Message.key
  single : op.purpose.sub ≠ none →
    op.ids.length = 1 ∨ op.phase.idle = true ∧ (∀ id, ¬waits id) ∧ ¬reconnecting
  silent : op.closed = true → op.err = none → op.purpose.sub ≠ none
  running : op.phase ≠ .crashed
  complete : op.phase = .returned none → op.purpose.sub = none → op.got.length = op.ids.length

variable {op : RequestOp} {waits waits' : Nat → Prop} {live live' reconnecting reconnecting' : Prop}

/-- A request without answers that waits for nothing. -/
theorem sound_of_unsent (unsent : op.phase.unsent = true) (unanswered : op.got = [] ∧ op.resp = [])
    (opened : live → op.closed = false) (silent : op.closed = true → op.err = none → op.purpose.sub ≠ none)
    (single : op.purpose.sub ≠ none → op.ids.length = 1 ∨ op.phase.idle = true)
    (unregistered : ∀ id, ¬waits id) (calm : ¬reconnecting) : op.Sound waits live reconnecting where
  unanswered := fun _ => unanswered
  opened := fun early => early.elim (fun early => opened early.2) fun flight => absurd flight calm
  in_flight := fun flight => absurd flight calm
  holding := fun _ => unanswered.1
  own := by simp [answers, unanswered]
  once := by simp [answers, unanswered]
  registered := fun id waiting => absurd waiting (unregistered id)
  single := fun subscribes => (single subscribes).imp_right fun idle => ⟨idle, unregistered, calm⟩
  silent := silent
  running := by
    intro crashed
    simp [crashed, Phase.unsent] at unsent
  complete := by
    intro returned
    simp [returned, Phase.unsent] at unsent

/-- A request that nothing happens to. -/
theorem Sound.mono (sound : op.Sound waits live reconnecting) (fewer : ∀ id, waits' id → waits id)
    (alive : live' → live) (reconnects : reconnecting' → reconnecting) : op.Sound waits' live' reconnecting' where
  unanswered := fun unwritten => sound.unanswered (unwritten.imp_right reconnects)
  opened := fun early => sound.opened (early.imp (And.imp_right alive) reconnects)
  in_flight := fun flight => sound.in_flight (reconnects flight)
  holding := sound.holding
  own := sound.own
  once := sound.once
  registered := fun id waiting => sound.registered id (fewer id waiting)
  single := fun subscribes => (sound.single subscribes).imp_right fun ⟨idle, unregistered, calm⟩ =>
    ⟨idle, fun id waiting => unregistered id (fewer id waiting), fun flight => calm (reconnects flight)⟩
  silent := sound.silent
  running := sound.running
  complete := sound.complete

/-- A request that has not come to `reqInit` waits for nothing. -/
theorem Sound.unregistered (sound : op.Sound waits live reconnecting) (unsent : op.phase.unsent = true) (id : Nat) :
    ¬waits id := by
  intro waiting
  simp [(sound.registered id waiting).2.1] at unsent

theorem Sound.not_reconnecting (sound : op.Sound waits live reconnecting) (unsent : op.phase.unsent = true) :
    ¬reconnecting := by
  intro flight
  simp [sound.in_flight flight] at unsent

/-- `Subscribe` waits for one response. -/
theorem Sound.only (sound : op.Sound waits live reconnecting) (subscribes : op.purpose.sub ≠ none) {id other : Nat}
    (waiting : waits id) (other_waiting : waits other) : other = id := by
  rcases sound.single subscribes with one | ⟨_, unregistered, _⟩
  · obtain ⟨only, ids⟩ := List.length_eq_one_iff.mp one
    have member := (sound.registered id waiting).1
    have other_member := (sound.registered other other_waiting).1
    rw [ids, List.mem_singleton] at member other_member
    rw [member, other_member]
  · exact absurd waiting (unregistered id)

/-! ## What the goroutine of the request does -/

theorem Sound.begin (sound : op.Sound waits live reconnecting) (unborn : op.phase = .unborn) (purpose : Purpose) :
    Sound { purpose, phase := .preparing } waits live reconnecting := by
  have unsent : op.phase.unsent = true := by rw [unborn]; rfl
  exact sound_of_unsent rfl ⟨rfl, rfl⟩ (fun _ => rfl) (by rintro ⟨⟩) (fun _ => .inr rfl) (sound.unregistered unsent)
    (sound.not_reconnecting unsent)

theorem Sound.prepare (sound : op.Sound waits live reconnecting) (preparing : op.phase = .preparing)
    (ready : op.purpose = .batch ∨ op.purpose = .notify ∨ op.ids.length = 1) :
    { op with phase := .sending }.Sound waits live reconnecting := by
  have unsent : op.phase.unsent = true := by rw [preparing]; rfl
  have unwritten := Phase.written_eq_false_of_unsent unsent
  have single : op.purpose.sub ≠ none → op.ids.length = 1 := by
    intro subscribes
    rcases ready with batch | notify | one
    · simp [batch, Purpose.sub] at subscribes
    · simp [notify, Purpose.sub] at subscribes
    · exact one
  exact sound_of_unsent rfl (sound.unanswered (.inl unwritten)) (fun alive => sound.opened (.inl ⟨unwritten, alive⟩))
    sound.silent (fun subscribes => .inl (single subscribes)) (sound.unregistered unsent)
    (sound.not_reconnecting unsent)

theorem Sound.number (sound : op.Sound waits live reconnecting) (preparing : op.phase = .preparing) (ids : List Nat) :
    { op with ids }.Sound waits live reconnecting := by
  have unsent : op.phase.unsent = true := by rw [preparing]; rfl
  have unwritten := Phase.written_eq_false_of_unsent unsent
  exact sound_of_unsent unsent (sound.unanswered (.inl unwritten)) (fun alive => sound.opened (.inl ⟨unwritten, alive⟩))
    sound.silent (fun _ => .inr (by simp [preparing, Phase.idle])) (sound.unregistered unsent)
    (sound.not_reconnecting unsent)

/-- A request goes on to a phase that is not earlier, apart from those that it only enters with a result. -/
theorem Sound.advance (sound : op.Sound waits live reconnecting) {phase : Phase}
    (written : phase.written = false → op.phase.written = false)
    (unsent : op.phase.unsent = false → phase.unsent = false)
    (holding : phase.holds = true → op.got = []) (idle : op.phase.idle = true → phase.idle = true)
    (running : phase ≠ .crashed)
    (complete : phase = .returned none → op.purpose.sub = none → op.got.length = op.ids.length) :
    { op with phase }.Sound waits live reconnecting where
  unanswered := fun early => sound.unanswered (early.imp_left written)
  opened := fun early => sound.opened (early.imp_left (And.imp_left written))
  in_flight := fun flight => unsent (sound.in_flight flight)
  holding := holding
  own := sound.own
  once := sound.once
  registered := by
    intro id waiting
    obtain ⟨member, sent, not_closed, fresh⟩ := sound.registered id waiting
    exact ⟨member, unsent sent, not_closed, fresh⟩
  single := fun subscribes => (sound.single subscribes).imp_right fun ⟨still, alone⟩ => ⟨idle still, alone⟩
  silent := sound.silent
  running := running
  complete := complete

theorem Sound.leads (sound : op.Sound waits live reconnecting) {phase : Phase} (leads : op.phase.Leads phase) :
    { op with phase }.Sound waits live reconnecting := by
  apply sound.advance leads.written leads.unsent
  · intro held
    rw [leads.holds] at held
    exact sound.holding held
  · exact leads.idle
  · exact leads.ne_crashed.1
  · exact fun returned => absurd returned leads.ne_crashed.2

theorem Sound.write (sound : op.Sound waits live reconnecting) (holds : op.phase.holds = true) :
    { op with phase := .writing }.Sound waits live reconnecting := by
  refine sound.advance (by rintro ⟨⟩) (fun _ => rfl) (fun _ => sound.holding holds) ?_ (by rintro ⟨⟩) (by rintro ⟨⟩)
  simp [Phase.idle_eq_false_of_holds holds]

theorem Sound.expire (sound : op.Sound waits live reconnecting) (waiting : op.phase = .waiting) :
    { op with phase := .expired }.Sound waits live reconnecting := by
  refine sound.advance (by rintro ⟨⟩) (fun _ => rfl) (by rintro ⟨⟩) ?_ (by rintro ⟨⟩) (by rintro ⟨⟩)
  simp [waiting, Phase.idle]

/-- The request returns with an error. -/
theorem Sound.fail (sound : op.Sound waits live reconnecting) (err : RpcError) :
    { op with phase := .returned (some err) }.Sound waits live reconnecting :=
  sound.advance (by rintro ⟨⟩) (fun _ => rfl) (by rintro ⟨⟩) (fun _ => rfl) (by rintro ⟨⟩) (by rintro ⟨⟩)

theorem Sound.signal (sound : op.Sound waits live reconnecting) (holds : op.phase.holds = true)
    (err : Option RpcError) : { op with phase := op.afterSignal err }.Sound waits live reconnecting := by
  have unanswered := sound.holding holds
  cases err with
  | some err => exact sound.fail err
  | none =>
      rw [afterSignal]
      split
      · rename_i empty
        exact sound.advance (by rintro ⟨⟩) (fun _ => rfl) (by rintro ⟨⟩) (fun _ => rfl) (by rintro ⟨⟩)
          fun _ _ => by simp [unanswered, empty]
      · refine sound.advance (by rintro ⟨⟩) (fun _ => rfl) (by rintro ⟨⟩) ?_ (by rintro ⟨⟩) (by rintro ⟨⟩)
        simp [Phase.idle_eq_false_of_holds holds]

/-- The request waits for all its identifiers. -/
theorem Sound.register (sound : op.Sound waits live reconnecting) (alive : live) (sent : op.phase.unsent = false)
    (early : op.phase.written = false ∨ reconnecting) (more : ∀ id, waits' id → id ∈ op.ids) :
    op.Sound waits' live reconnecting := by
  have single : op.purpose.sub ≠ none → op.ids.length = 1 := by
    intro subscribes
    rcases sound.single subscribes with one | ⟨idle, _, calm⟩
    · exact one
    · rcases early with unwritten | flight
      · simp [Phase.idle_eq_false_of_holds (Phase.holds_of_written_eq_false sent unwritten)] at idle
      · exact absurd flight calm
  obtain ⟨no_got, no_resp⟩ := sound.unanswered early
  have not_closed := sound.opened (early.imp_left fun unwritten => ⟨unwritten, alive⟩)
  refine ⟨sound.unanswered, sound.opened, sound.in_flight, sound.holding, sound.own, sound.once, ?_,
    fun subscribes => .inl (single subscribes), sound.silent, sound.running, sound.complete⟩
  intro id waiting
  exact ⟨more id waiting, sent, not_closed, by simp [answers, no_got, no_resp]⟩

/-- `reqInit`. -/
theorem Sound.accept (sound : op.Sound waits live reconnecting) (sending : op.phase = .sending) (alive : live)
    (more : ∀ id, waits' id → id ∈ op.ids) : { op with phase := .checking }.Sound waits' live reconnecting := by
  have unwritten : op.phase.written = false := by rw [sending]; rfl
  have unanswered := sound.unanswered (.inl unwritten)
  have checking : { op with phase := .checking }.Sound waits live reconnecting := by
    refine sound.advance (fun _ => unwritten) (fun _ => rfl) (fun _ => unanswered.1) ?_ (by rintro ⟨⟩) (by rintro ⟨⟩)
    simp [sending, Phase.idle]
  exact checking.register alive rfl (.inl rfl) more

/-- The dispatcher is about to connect the request again. -/
theorem Sound.fly (sound : op.Sound waits live reconnecting) (sent : op.phase.unsent = false)
    (single : op.phase.idle = false) (unanswered : op.got = [] ∧ op.resp = []) (not_closed : op.closed = false)
    (fewer : ∀ id, waits' id → waits id) : op.Sound waits' live reconnecting' where
  unanswered := fun _ => unanswered
  opened := fun _ => not_closed
  in_flight := fun _ => sent
  holding := sound.holding
  own := sound.own
  once := sound.once
  registered := fun id waiting => sound.registered id (fewer id waiting)
  single := fun subscribes => (sound.single subscribes).imp_right fun ⟨idle, _⟩ => by simp [single] at idle
  silent := sound.silent
  running := sound.running
  complete := sound.complete

/-! ## Responses -/

theorem Sound.deliver (sound : op.Sound waits live reconnecting) {id : Nat} {msg : Message} (keyed : msg.key = some id)
    (waiting : waits id) (written : op.phase.written = true) (calm : ¬reconnecting)
    (fewer : ∀ other, waits' other → waits other ∧ other ≠ id) :
    { op with resp := op.resp ++ [msg] }.Sound waits' live reconnecting := by
  obtain ⟨member, sent, not_closed, fresh⟩ := sound.registered id waiting
  have answers_eq : ({ op with resp := op.resp ++ [msg] } : RequestOp).answers = op.answers ++ [msg] := by
    simp [answers]
  constructor
  · rintro (unwritten | flight)
    · simp [written] at unwritten
    · exact absurd flight calm
  · exact sound.opened
  · exact sound.in_flight
  · exact sound.holding
  · intro other among
    rw [answers_eq, List.mem_append, List.mem_singleton] at among
    rcases among with among | rfl
    · exact sound.own other among
    · exact ⟨id, member, keyed⟩
  · rw [answers_eq, List.map_append, List.map_singleton, keyed]
    exact List.nodup_append.mpr ⟨sound.once, by simp, by
      intro key among other same
      rw [List.mem_singleton] at same
      rintro rfl
      exact fresh (same ▸ among)⟩
  · intro other later
    obtain ⟨before, apart⟩ := fewer other later
    obtain ⟨other_member, _, _, other_fresh⟩ := sound.registered other before
    refine ⟨other_member, sent, not_closed, ?_⟩
    rw [answers_eq, List.map_append, List.mem_append, List.map_singleton, List.mem_singleton, keyed]
    simp [other_fresh, apart]
  · exact fun subscribes => (sound.single subscribes).imp_right fun ⟨idle, unregistered, calm⟩ =>
      ⟨idle, fun other later => unregistered other (fewer other later).1, calm⟩
  · exact sound.silent
  · exact sound.running
  · exact sound.complete

/-- A closed channel: the request waits for nothing any more. -/
theorem Sound.close (sound : op.Sound waits live reconnecting) {err : Option RpcError}
    (late : op.phase.written = true ∨ ¬live') (calm : ¬reconnecting') (unregistered : ∀ id, ¬waits' id)
    (silent : err = none → op.purpose.sub ≠ none) :
    { op with err, closed := true }.Sound waits' live' reconnecting' where
  unanswered := by
    rintro (unwritten | flight)
    · exact sound.unanswered (.inl unwritten)
    · exact absurd flight calm
  opened := by
    rintro (⟨unwritten, alive⟩ | flight)
    · rcases late with written | dead
      · simp [written] at unwritten
      · exact absurd alive dead
    · exact absurd flight calm
  in_flight := fun flight => absurd flight calm
  holding := sound.holding
  own := sound.own
  once := sound.once
  registered := fun id waiting => absurd waiting (unregistered id)
  single := fun subscribes => (sound.single subscribes).imp_right fun ⟨idle, _⟩ => ⟨idle, unregistered, calm⟩
  silent := fun _ => silent
  running := sound.running
  complete := sound.complete

/-- `wait` returns with a response, or drops it because of `op.err`. -/
theorem Sound.take (sound : op.Sound waits live reconnecting) (waiting : op.phase = .waiting) {msg : Message}
    {later got : List Message} {phase : Phase} (resp : op.resp = msg :: later)
    (kept : (got ++ later).Sublist op.answers)
    (sent : phase.written = true ∧ phase.unsent = false ∧ phase.holds = false) (running : phase ≠ .crashed)
    (complete : phase = .returned none → got.length = op.ids.length) :
    { op with resp := later, got, phase }.Sound waits live reconnecting := by
  have calm : ¬reconnecting := by
    intro flight
    simpa [resp] using (sound.unanswered (.inr flight)).2
  constructor
  · rintro (unwritten | flight)
    · simp [sent] at unwritten
    · exact absurd flight calm
  · rintro (⟨unwritten, _⟩ | flight)
    · simp [sent] at unwritten
    · exact absurd flight calm
  · exact fun flight => absurd flight calm
  · intro holds
    simp [sent] at holds
  · intro other among
    exact sound.own other (kept.subset among)
  · exact (kept.map Message.key).nodup sound.once
  · intro id registered
    obtain ⟨member, _, not_closed, fresh⟩ := sound.registered id registered
    exact ⟨member, sent.2.1, not_closed, fun among => fresh ((kept.map Message.key).subset among)⟩
  · intro subscribes
    rcases sound.single subscribes with one | ⟨idle, _⟩
    · exact .inl one
    · simp [waiting, Phase.idle] at idle
  · exact sound.silent
  · exact running
  · exact fun returned _ => complete returned

theorem Sound.receive (sound : op.Sound waits live reconnecting) {received : RequestOp}
    (next : RequestOp.next .receive op = some received) : received.Sound waits live reconnecting := by
  simp only [RequestOp.next] at next
  split at next
  · rename_i msg later waiting resp
    cases next
    rw [afterMessage]
    split
    · refine sound.take waiting resp ?_ ⟨rfl, rfl, rfl⟩ (by rintro ⟨⟩) (by rintro ⟨⟩)
      rw [answers, resp]
      exact (List.sublist_cons_self msg later).append_left op.got
    · have kept : ((op.got ++ [msg]) ++ later).Sublist op.answers := by simp [answers, resp]
      split
      · rename_i last
        refine sound.take waiting resp kept ⟨rfl, rfl, rfl⟩ (by rintro ⟨⟩) fun _ => ?_
        rw [List.length_append, List.length_singleton, last]
      · exact sound.take waiting resp kept ⟨rfl, rfl, rfl⟩ (by rintro ⟨⟩) (by rintro ⟨⟩)
  · obtain ⟨closed, rfl⟩ := Option.when_eq_some.mp next
    rw [afterClose]
    split
    · exact sound.fail _
    · rename_i sub subscribes
      refine sound.advance (by rintro ⟨⟩) (fun _ => rfl) (by rintro ⟨⟩) (fun _ => rfl) (by rintro ⟨⟩)
        fun _ unsubscribed => ?_
      simp [unsubscribed] at subscribes
    · rename_i no_err no_sub
      exact absurd no_sub (sound.silent closed no_err)
  · cases next

end RequestOp

end SubstrateClient.Rpc
