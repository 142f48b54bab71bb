import SubstrateClient.Rpc.ClientSteps

/-!
# The connection that requests are written to

`writeConn` belongs to the goroutine with the write lock and the connection that is read from to the dispatcher.  The
two are the same, apart from the time when the dispatcher takes over a new one.
-/

namespace SubstrateClient.Rpc

open JsonText Interleaving

/-- The connection for writing is the one that is read from, or the one that the dispatcher is about to read from; a
connection that is not read from any more is closed. -/
structure Core.Linked (core : Core) : Prop where
  coming : ∀ conn, core.dispatch.Reconnects conn → core.writeConn = none ∨ core.writeConn = some conn
  target : (∀ conn, ¬core.dispatch.Reconnects conn) →
    core.writeConn = none ∨ core.writeConn = some core.conn ∨ core.dispatch = .crashed
  dead : core.reading = false → core.conn ∈ core.closedConns ∧ ∀ conn, ¬core.dispatch.Reconnects conn

namespace Core

variable {core after : Core}

/-- The dispatcher stays where it is. -/
theorem Linked.congr (linked : core.Linked) (writeConn : after.writeConn = core.writeConn ∨ after.writeConn = none)
    (conn : after.conn = core.conn) (closedConns : core.closedConns ⊆ after.closedConns)
    (reading : after.reading = core.reading) (dispatch : after.dispatch = core.dispatch) : after.Linked := by
  constructor
  · rcases writeConn with same | gone
    · rw [same, dispatch]
      exact linked.coming
    · exact fun _ _ => .inl gone
  · rcases writeConn with same | gone
    · rw [same, conn, dispatch]
      exact linked.target
    · exact fun _ => .inl gone
  · rw [reading, conn, dispatch]
    exact fun stopped => ⟨closedConns (linked.dead stopped).1, (linked.dead stopped).2⟩

/-- What an action leaves of the connection. -/
structure KeepsLink (core after : Core) : Prop where
  writeConn : after.writeConn = core.writeConn
  conn : after.conn = core.conn
  closedConns : core.closedConns ⊆ after.closedConns
  reading : after.reading = core.reading

/-- The dispatcher leaves a place where it does not connect for another one. -/
theorem Linked.leave (linked : core.Linked) (keeps : KeepsLink core after) {dispatch : Dispatch}
    (at_dispatch : core.dispatch = dispatch) (calm : ∀ conn, ¬dispatch.Reconnects conn)
    (calm_after : ∀ conn, ¬after.dispatch.Reconnects conn) (sound : dispatch ≠ .crashed) : after.Linked := by
  subst at_dispatch
  constructor
  · exact fun conn reconnects => absurd reconnects (calm_after conn)
  · intro _
    rcases linked.target calm with none | same | crashed
    · exact .inl (keeps.writeConn.trans none)
    · exact .inr (.inl (by rw [keeps.writeConn, same, keeps.conn]))
    · exact absurd crashed sound
  · rw [keeps.reading, keeps.conn]
    exact fun stopped => ⟨keeps.closedConns (linked.dead stopped).1, calm_after⟩

/-- The dispatcher goes on with the same goal. -/
theorem Linked.go_on (linked : core.Linked) (keeps : KeepsLink core after) {dispatch : Dispatch}
    (at_dispatch : core.dispatch = dispatch)
    (same : ∀ conn, after.dispatch.Reconnects conn ↔ dispatch.Reconnects conn) (sound : dispatch ≠ .crashed) :
    after.Linked := by
  subst at_dispatch
  constructor
  · intro conn reconnects
    rw [keeps.writeConn]
    exact linked.coming conn ((same conn).mp reconnects)
  · intro calm
    rw [keeps.writeConn, keeps.conn]
    rcases linked.target fun conn reconnects => calm conn ((same conn).mpr reconnects) with none | target | crashed
    · exact .inl none
    · exact .inr (.inl target)
    · exact absurd crashed sound
  · rw [keeps.reading, keeps.conn]
    intro stopped
    obtain ⟨closed, calm⟩ := linked.dead stopped
    exact ⟨keeps.closedConns closed, fun conn reconnects => calm conn ((same conn).mp reconnects)⟩

/-- The dispatcher stays where it is. -/
theorem Linked.stay (linked : core.Linked) (keeps : KeepsLink core after)
    (dispatch : after.dispatch = core.dispatch) : after.Linked :=
  linked.congr (.inl keeps.writeConn) keeps.conn keeps.closedConns keeps.reading dispatch

theorem Linked.move (linked : core.Linked) {o : Nat} {op : RequestOp} {move : Move}
    (moved : core.move o op move = some after) : after.Linked := by
  cases move with
  | abandon err | prepare | giveUp | write | expire =>
      cases moved
      exact linked
  | writeFail err =>
      cases moved
      exact linked.congr (.inr rfl) rfl (List.Subset.refl _) rfl rfl
  | refuse | timeOutClosing | endCheck | redialFail err =>
      obtain ⟨_, rfl⟩ := Option.when_eq_some.mp moved
      exact linked
  | accept | redial conn | timeOut =>
      obtain ⟨_, rfl⟩ := Option.when_eq_some.mp moved
      exact linked.congr (.inl rfl) rfl (List.Subset.refl _) rfl rfl
  | check | signal =>
      simp only [Core.move] at moved
      split at moved
      · obtain ⟨_, rfl⟩ := Option.when_eq_some.mp moved
        exact linked.congr (.inl rfl) rfl (List.Subset.refl _) rfl rfl
      · cases moved
  | redialRefuse =>
      simp only [Core.move] at moved
      split at moved
      · obtain ⟨_, rfl⟩ := Option.when_eq_some.mp moved
        exact linked.congr (.inl rfl) rfl (List.subset_cons_self _ _) rfl rfl
      · cases moved
  | reconnect => cases moved

end Core

namespace Client

variable {Value : Type} {client after : Client Value}

theorem keepsLink_handle {etype : Nat → ElementType Value}
    (stepped : next etype .handle client = some after) :
    client.core.KeepsLink after.core ∧ (∀ conn, ¬after.core.dispatch.Reconnects conn) ∧
      ∃ msgs calls, client.core.dispatch = .handling msgs calls := by
  simp only [next] at stepped
  split at stepped <;> (try rename_i handling)
  · cases stepped
    exact ⟨⟨rfl, rfl, List.Subset.refl _, rfl⟩, fun _ => id, _, _, handling⟩
  · cases stepped
    exact ⟨⟨rfl, rfl, List.Subset.refl _, rfl⟩, fun _ => id, _, _, handling⟩
  · rw [handleImmediate] at stepped
    split at stepped
    · split at stepped
      · cases stepped
        exact ⟨⟨rfl, rfl, List.Subset.refl _, rfl⟩, fun _ => id, _, _, handling⟩
      · split at stepped <;> cases stepped
        · exact ⟨⟨rfl, rfl, List.Subset.refl _, rfl⟩, fun _ => id, _, _, handling⟩
        · exact ⟨⟨rfl, rfl, List.Subset.refl _, rfl⟩, fun _ => id, _, _, handling⟩
    · split at stepped
      · rw [handleResponse] at stepped
        split at stepped
        · cases stepped
          exact ⟨⟨rfl, rfl, List.Subset.refl _, rfl⟩, fun _ => id, _, _, handling⟩
        · rcases answer_cases stepped with ⟨_, rfl⟩ | ⟨_, op, clientSubs, _, _, core⟩
          · exact ⟨⟨rfl, rfl, List.Subset.refl _, rfl⟩, fun _ => id, _, _, handling⟩
          · rw [core]
            exact ⟨⟨rfl, rfl, List.Subset.refl _, rfl⟩, fun _ => id, _, _, handling⟩
      · cases stepped
        exact ⟨⟨rfl, rfl, List.Subset.refl _, rfl⟩, fun _ => id, _, _, handling⟩
  · cases stepped

/-- Closing the connection to read from, for whatever reason but a new one. -/
theorem linked_close {err : RpcError} {spared : Option Nat} {goal : Goal} (linked : client.core.Linked)
    (selecting : client.core.dispatch = .selecting) (no_conn : ∀ conn, goal ≠ .reconnect conn) :
    (client.close err spared goal).core.Linked := by
  rcases close_cases rfl with ⟨_, same⟩ | ⟨_, _, core⟩
  · rw [same]
    exact linked.leave ⟨rfl, rfl, List.Subset.refl _, rfl⟩ selecting (fun _ => id) (fun _ => id) (by rintro ⟨⟩)
  · rw [core]
    refine linked.leave ⟨rfl, rfl, List.Subset.refl _, rfl⟩ selecting (fun _ => id) ?_ (by rintro ⟨⟩)
    intro conn reconnects
    cases goal with
    | reconnect other => exact no_conn other rfl
    | stopReading | quit => exact reconnects

/-- A new connection is the one for writing. -/
theorem linked_connect {conn : Nat} (target : client.core.writeConn = none ∨ client.core.writeConn = some conn)
    (dead : client.core.reading = false → client.core.conn ∈ client.core.closedConns) :
    (client.connect conn).core.Linked := by
  rw [connect]
  split
  · exact ⟨fun _ => False.elim, fun _ => .inr (.inr rfl), fun stopped => ⟨dead stopped, fun _ => id⟩⟩
  · refine ⟨fun _ => False.elim, fun _ => ?_, (by rintro ⟨⟩)⟩
    rcases target with none | same
    · exact .inl none
    · exact .inr (.inl same)

theorem linked_acceptReconnect {etype : Nat → ElementType Value} {o : Nat}
    (stepped : next etype (.acceptReconnect o) client = some after) (linked : client.core.Linked) :
    after.core.Linked := by
  simp only [next] at stepped
  split at stepped
  · rename_i conn selecting _
    obtain ⟨op, _, same⟩ := Option.bind_eq_some_iff.mp stepped
    split at same <;> cases same
    -- The old connection is closed first, unless nothing is read from it any more.
    · rename_i reading
      rcases close_cases rfl with ⟨_, crashed⟩ | ⟨_, _, core⟩
      · rw [crashed]
        exact ⟨fun _ => False.elim, fun _ => .inr (.inr rfl), fun stopped => by simp [goto, reading] at stopped⟩
      · rw [core]
        refine ⟨fun other reconnects => .inr ?_, fun calm => absurd rfl (calm conn), fun stopped => ?_⟩
        · cases reconnects
          rfl
        · simp [reading] at stopped
    · exact linked_connect (.inr rfl) fun stopped => (linked.dead stopped).1
  · cases stepped

theorem linked_closeConn {etype : Nat → ElementType Value}
    (stepped : next etype .closeConn client = some after) (linked : client.core.Linked) : after.core.Linked := by
  simp only [next] at stepped
  split at stepped
  · rename_i err goal cancelling
    obtain ⟨_, same⟩ := Option.when_eq_some.mp stepped
    split at same <;> subst same
    · have target := linked.target (by rw [cancelling]; exact fun _ => id)
      refine ⟨fun _ => False.elim, fun _ => ?_, fun _ => ⟨List.mem_cons_self, fun _ => id⟩⟩
      rw [cancelling] at target
      exact target.imp_right (Or.imp_right (by rintro ⟨⟩))
    · refine linked.go_on ⟨rfl, rfl, List.subset_cons_self _ _, rfl⟩ cancelling (fun conn => ?_) (by rintro ⟨⟩)
      cases goal with
      | stopReading | reconnect | quit => exact Iff.rfl
  · cases stepped

theorem linked_drained {etype : Nat → ElementType Value}
    (stepped : next etype .drained client = some after) (linked : client.core.Linked) : after.core.Linked := by
  simp only [next] at stepped
  split at stepped
  · rename_i goal _ draining _
    split at stepped <;> cases stepped
    · exact linked.leave ⟨rfl, rfl, List.Subset.refl _, rfl⟩ draining (fun _ => id) (fun _ => id) (by rintro ⟨⟩)
    · rename_i conn
      apply linked_connect
      · exact linked.coming conn (by rw [draining]; rfl)
      · exact fun stopped => (linked.dead stopped).1
    · exact linked.leave ⟨rfl, rfl, List.Subset.refl _, rfl⟩ draining (fun _ => id) (fun _ => id) (by rintro ⟨⟩)
  · cases stepped

theorem keeps_linked (etype : Nat → ElementType Value) :
    (next etype).Keeps fun client => client.core.Linked := by
  intro action client after stepped linked
  cases action with
  | begin purpose =>
      cases purpose with
      | call | batch | notify =>
          obtain ⟨_, _, core, _⟩ := newOp_cases stepped
          rw [core]
          exact linked.stay ⟨rfl, rfl, List.Subset.refl _, rfl⟩ rfl
      | subscribe sub =>
          simp only [next, Option.bind_eq_bind, Option.bind_eq_some_iff, Option.when_eq_some] at stepped
          obtain ⟨made, created, _, rfl⟩ := stepped
          obtain ⟨_, _, core, _⟩ := newOp_cases created
          rw [core]
          exact linked.stay ⟨rfl, rfl, List.Subset.refl _, rfl⟩ rfl
      | unsubscribe sub => cases stepped
  | nextID o =>
      obtain ⟨op, _, same⟩ := Option.bind_eq_some_iff.mp stepped
      cases same
      exact linked.stay ⟨rfl, rfl, List.Subset.refl _, rfl⟩ rfl
  | move o move =>
      simp only [next, Option.bind_eq_bind, Option.bind_eq_some_iff] at stepped
      obtain ⟨op, _, core, moved, same⟩ := stepped
      cases same
      exact linked.move moved
  | acceptReconnect o => exact linked_acceptReconnect stepped linked
  | receive o =>
      simp only [next, Option.bind_eq_bind, Option.bind_eq_some_iff] at stepped
      obtain ⟨op, _, same⟩ := stepped
      split at same
      · obtain ⟨returned, _, same⟩ := Option.bind_eq_some_iff.mp same
        cases same
        exact linked
      · cases same
        exact linked
  | acceptSent =>
      simp only [next] at stepped
      split at stepped
      · rename_i selecting _
        split at stepped <;> cases stepped
        · exact linked.leave ⟨rfl, rfl, List.Subset.refl _, rfl⟩ selecting (fun _ => id) (fun _ => id) (by rintro ⟨⟩)
        · exact linked.stay ⟨rfl, rfl, List.Subset.refl _, rfl⟩ rfl
        · exact linked.stay ⟨rfl, rfl, List.Subset.refl _, rfl⟩ rfl
      · cases stepped
  | acceptRead =>
      simp only [next] at stepped
      split at stepped
      · rename_i selecting _
        split at stepped
        · split at stepped <;> cases stepped
          · exact linked.stay ⟨rfl, rfl, List.Subset.refl _, rfl⟩ rfl
          · exact linked.leave ⟨rfl, rfl, List.Subset.refl _, rfl⟩ selecting (fun _ => id) (fun _ => id) (by rintro ⟨⟩)
        · cases stepped
          exact linked.leave ⟨rfl, rfl, List.Subset.refl _, rfl⟩ selecting (fun _ => id) (fun _ => id) (by rintro ⟨⟩)
      · cases stepped
  | acceptReadErr =>
      simp only [next] at stepped
      split at stepped
      · rename_i selecting _
        cases stepped
        exact linked_close (linked.stay ⟨rfl, rfl, List.Subset.refl _, rfl⟩ rfl) selecting (by simp)
      · cases stepped
  | acceptClose =>
      simp only [next] at stepped
      split at stepped
      · rename_i selecting
        split at stepped <;> cases stepped
        · exact linked_close (linked.stay ⟨rfl, rfl, List.Subset.refl _, rfl⟩ rfl) selecting (by simp)
        · exact linked.leave ⟨rfl, rfl, List.Subset.refl _, rfl⟩ selecting (fun _ => id) (fun _ => id) (by rintro ⟨⟩)
      · cases stepped
  | handle =>
      obtain ⟨keeps, calm, msgs, calls, handling⟩ := keepsLink_handle stepped
      exact linked.leave keeps handling (fun _ => id) calm (by rintro ⟨⟩)
  | deliver =>
      simp only [next] at stepped
      split at stepped
      · rename_i delivering
        obtain ⟨taken, _, same⟩ := Option.bind_eq_some_iff.mp stepped
        cases same
        exact linked.leave ⟨rfl, rfl, List.Subset.refl _, rfl⟩ delivering (fun _ => id) (fun _ => id) (by rintro ⟨⟩)
      · cases stepped
  | drop =>
      simp only [next] at stepped
      split at stepped
      · rename_i delivering
        obtain ⟨_, rfl⟩ := Option.when_eq_some.mp stepped
        exact linked.leave ⟨rfl, rfl, List.Subset.refl _, rfl⟩ delivering (fun _ => id) (fun _ => id) (by rintro ⟨⟩)
      · cases stepped
  | cancelSub sub =>
      simp only [next] at stepped
      split at stepped
      · rename_i subs err goal cancelling
        obtain ⟨cancelled, _, kept⟩ := Option.bind_eq_some_iff.mp stepped
        obtain ⟨_, rfl⟩ := Option.when_eq_some.mp kept
        refine linked.go_on ⟨rfl, rfl, List.Subset.refl _, rfl⟩ cancelling (fun conn => ?_) (by rintro ⟨⟩)
        cases goal with
        | stopReading | reconnect | quit => exact Iff.rfl
      · cases stepped
  | closeConn => exact linked_closeConn stepped linked
  | drain =>
      simp only [next] at stepped
      split at stepped
      · cases stepped
        exact linked.stay ⟨rfl, rfl, List.Subset.refl _, rfl⟩ rfl
      · cases stepped
  | drained => exact linked_drained stepped linked
  | read msgs batch | readFail err =>
      simp only [next] at stepped
      split at stepped <;> cases stepped
      exact linked.stay ⟨rfl, rfl, List.Subset.refl _, rfl⟩ rfl
  | serve proc =>
      obtain ⟨_, rfl⟩ := Option.when_eq_some.mp stepped
      exact linked.stay ⟨rfl, rfl, List.Subset.refl _, rfl⟩ rfl
  | subscription sub action =>
      obtain ⟨moved, _, _, _, rfl | made⟩ := subscription_cases stepped
      · exact linked
      · obtain ⟨_, _, core, _⟩ := newOp_cases made
        rw [core]
        exact linked.stay ⟨rfl, rfl, List.Subset.refl _, rfl⟩ rfl

end Client

end SubstrateClient.Rpc
