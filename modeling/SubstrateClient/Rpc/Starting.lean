import SubstrateClient.Rpc.WriteLock

/-!
# Subscriptions that have not started

`Subscribe` makes a request and a subscription together.  Until the request is answered nobody starts the goroutine of
the subscription, and the answer starts it at most once.
-/

namespace SubstrateClient.Rpc

open JsonText Interleaving

variable {Value : Type}

namespace ClientSubscription

/-- The goroutine of the subscription was not started. -/
structure Idle (sub : ClientSubscription Value) : Prop where
  forwarder : sub.forwarder = .idle
  once : ∀ err call, sub.quitOnce ≠ .running err true call

theorem idle_fresh : Idle ({} : ClientSubscription Value) := ⟨rfl, by simp⟩

theorem idle_of_next {etype : ElementType Value} {action : SubscriptionAction} {sub after : ClientSubscription Value}
    (stepped : next etype action sub = some after) (no_start : ∀ subid, action ≠ .start subid) (idle : sub.Idle) :
    after.Idle := by
  obtain ⟨forwarder, once⟩ := idle
  cases action with
  | start subid => exact absurd rfl (no_start subid)
  | handOut =>
      cases stepped
      exact ⟨forwarder, once⟩
  | take result | send | notice | quit call => simp [next, forwarder] at stepped
  | cancel err =>
      simp only [next] at stepped
      split at stepped <;> cases stepped
      · exact ⟨forwarder, by simp⟩
      · exact ⟨forwarder, once⟩
  | unsubscribe call =>
      simp only [next] at stepped
      split at stepped <;> cases stepped
      · exact ⟨forwarder, by simp⟩
      · exact ⟨forwarder, once⟩
  | finish =>
      simp only [next] at stepped
      split at stepped
      · rename_i err byForwarder call running
        cases stepped
        cases byForwarder with
        | true => exact absurd running (once err call)
        | false => exact ⟨forwarder, by simp⟩
      · cases stepped
  | closeErr =>
      simp only [next] at stepped
      split at stepped <;> cases stepped
      exact ⟨forwarder, once⟩
  | closeChannel =>
      obtain ⟨_, rfl⟩ := Option.when_eq_some.mp stepped
      exact ⟨forwarder, once⟩

end ClientSubscription

/-- A request stays what it is and its channel stays closed, or it is not one of `Subscribe`. -/
def RequestOp.Stays (op after : RequestOp) : Prop :=
  after.purpose.sub = none ∨ after.purpose = op.purpose ∧ (op.closed = true → after.closed = true)

theorem RequestOp.Stays.refl (op : RequestOp) : op.Stays op := .inr ⟨rfl, id⟩

theorem RequestOp.stays_of_next {action : OpAction} {op after : RequestOp} (stepped : next action op = some after)
    (old : ∀ purpose, action ≠ .begin purpose) : op.Stays after := by
  cases action with
  | begin purpose => exact absurd rfl (old purpose)
  | nextID id =>
      simp only [next] at stepped
      split at stepped <;> cases stepped
      exact .refl _
  | move move =>
      obtain ⟨phase, _, rfl⟩ := Option.map_eq_some_iff.mp stepped
      exact .refl _
  | deliver msg =>
      obtain ⟨_, rfl⟩ := Option.when_eq_some.mp stepped
      exact .refl _
  | close err =>
      obtain ⟨_, rfl⟩ := Option.when_eq_some.mp stepped
      exact .inr ⟨rfl, fun _ => rfl⟩
  | receive =>
      simp only [next] at stepped
      split at stepped
      · cases stepped
        rw [afterMessage]
        split <;> exact .refl _
      · obtain ⟨_, rfl⟩ := Option.when_eq_some.mp stepped
        exact .refl _
      · cases stepped

namespace Client

/-- Every request of `Subscribe` has a subscription of its own, which is not started before the request is answered. -/
structure Unstarted (client : Client Value) : Prop where
  counted : ∀ o sub, (client.ops o).purpose.sub = some sub → sub < client.core.subCount
  apart : ∀ o other sub, (client.ops o).purpose.sub = some sub → (client.ops other).purpose.sub = some sub → other = o
  fresh : ∀ sub, client.core.subCount ≤ sub → (client.subs sub).Idle
  idle : ∀ o sub, (client.ops o).purpose.sub = some sub → (client.ops o).closed = false → (client.subs sub).Idle

theorem unstarted_initClient (canReconnect : Bool) : (initClient canReconnect : Client Value).Unstarted := by
  constructor
  · simp [initClient, Purpose.sub]
  · simp [initClient, Purpose.sub]
  · exact fun _ _ => ClientSubscription.idle_fresh
  · exact fun _ _ _ _ => ClientSubscription.idle_fresh

/-- An action that starts no subscription and makes none. -/
structure Stays (client after : Client Value) : Prop where
  subCount : after.core.subCount = client.core.subCount
  ops : ∀ o, (client.ops o).Stays (after.ops o)
  subs : ∀ sub, (client.subs sub).Idle → (after.subs sub).Idle

variable {etype : Nat → ElementType Value} {client after : Client Value}

theorem Unstarted.stays (unstarted : client.Unstarted) (stays : Stays client after) : after.Unstarted := by
  have same : ∀ o sub, (after.ops o).purpose.sub = some sub → (client.ops o).purpose.sub = some sub ∧
      ((client.ops o).closed = true → (after.ops o).closed = true) := by
    intro o sub subscribes
    rcases stays.ops o with other | ⟨purpose, closed⟩
    · simp [other] at subscribes
    · rw [← purpose]
      exact ⟨subscribes, closed⟩
  constructor
  · intro o sub subscribes
    rw [stays.subCount]
    exact unstarted.counted o sub (same o sub subscribes).1
  · intro o other sub subscribes others
    exact unstarted.apart o other sub (same o sub subscribes).1 (same other sub others).1
  · intro sub beyond
    rw [stays.subCount] at beyond
    exact stays.subs sub (unstarted.fresh sub beyond)
  · intro o sub subscribes opened
    obtain ⟨before, closed⟩ := same o sub subscribes
    apply stays.subs sub (unstarted.idle o sub before _)
    by_contra already
    rw [Bool.not_eq_false] at already
    simp [closed already] at opened

/-- An action of one request. -/
theorem stays_update {ops : Nat → RequestOp} {o : Nat} {op : RequestOp} (stays : (ops o).Stays op) (other : Nat) :
    (ops other).Stays (Function.update ops o op other) := by
  by_cases same : other = o
  · subst same
    simpa using stays
  · rw [Function.update_of_ne same]
    exact .refl _

/-- An action that concerns the connection only. -/
theorem Unstarted.of_core (unstarted : client.Unstarted) {core : Core}
    (subCount : core.subCount = client.core.subCount) : Unstarted { client with core } :=
  unstarted.stays ⟨subCount, fun _ => .refl _, fun _ => id⟩

theorem Unstarted.of_op (unstarted : client.Unstarted) {core : Core} {o : Nat} {op : RequestOp} {action : OpAction}
    (subCount : core.subCount = client.core.subCount) (advanced : RequestOp.next action (client.ops o) = some op)
    (old : ∀ purpose, action ≠ .begin purpose) :
    Unstarted { client with core, ops := Function.update client.ops o op } :=
  unstarted.stays ⟨subCount, stays_update (RequestOp.stays_of_next advanced old), fun _ => id⟩

theorem stays_cancelled {err : RpcError} {table : List (Nat × Nat)} {spared : List Nat} {ops after : Nat → RequestOp}
    (cancelled : Cancelled err table spared ops after) (o : Nat) : (ops o).Stays (after o) := by
  rcases cancelled o with ⟨_, _, same⟩ | ⟨_, same⟩
  · rw [same]
    exact .inr ⟨rfl, fun _ => rfl⟩
  · rw [same]
    exact .refl _

/-- An action of one subscription. -/
theorem idle_update {sub : Nat} {action : SubscriptionAction} {moved : ClientSubscription Value}
    (step : ClientSubscription.next (etype sub) action (client.subs sub) = some moved)
    (no_start : ∀ subid, action ≠ .start subid) (other : Nat) (idle : (client.subs other).Idle) :
    (Function.update client.subs sub moved other).Idle := by
  by_cases same : other = sub
  · subst same
    simpa using ClientSubscription.idle_of_next step no_start idle
  · rwa [Function.update_of_ne same]

theorem stays_newOp {purpose : Purpose} (made : client.newOp purpose = some after) (plain : purpose.sub = none) :
    Stays client after := by
  obtain ⟨_, ops, core, subs⟩ := newOp_cases made
  refine ⟨by rw [core], fun o => ?_, fun sub => by rw [subs]; exact id⟩
  rw [ops]
  exact stays_update (.inl plain) o

theorem stays_close {err : RpcError} {spared : Option Nat} {goal : Goal} :
    Stays client (client.close err spared goal) := by
  rcases close_cases rfl with ⟨_, same⟩ | ⟨ops, subs, core⟩
  · rw [same]
    exact ⟨rfl, fun _ => .refl _, fun _ => id⟩
  · exact ⟨by rw [core], stays_cancelled ops, fun sub => by rw [subs]; exact id⟩

theorem stays_connect {conn : Nat} : Stays client (client.connect conn) := by
  rw [connect]
  split <;> exact ⟨rfl, fun _ => .refl _, fun _ => id⟩

/-- The subscription of an answered request is started. -/
theorem Unstarted.start (unstarted : client.Unstarted) {o sub : Nat}
    (subscribes : (client.ops o).purpose.sub = some sub) (closed : (client.ops o).closed = true)
    (subCount : after.core.subCount = client.core.subCount) (ops : after.ops = client.ops)
    (subs : ∀ other ≠ sub, after.subs other = client.subs other) : after.Unstarted := by
  constructor
  · rw [ops, subCount]
    exact unstarted.counted
  · rw [ops]
    exact unstarted.apart
  · intro other beyond
    rw [subCount] at beyond
    have below := unstarted.counted o sub subscribes
    rw [subs other (by omega)]
    exact unstarted.fresh other beyond
  · intro other own other_subscribes opened
    rw [ops] at other_subscribes opened
    have different : own ≠ sub := by
      rintro rfl
      rw [unstarted.apart o other own subscribes other_subscribes, closed] at opened
      cases opened
    rw [subs own different]
    exact unstarted.idle other own other_subscribes opened

/-- The answer to a request starts its own subscription only, and closes the channel of the request. -/
theorem Unstarted.answer (unstarted : client.Unstarted) {o : Nat} {msg : Message}
    (answered : client.answer etype o msg = some after) : after.Unstarted := by
  rw [Client.answer] at answered
  split at answered
  · cases answered
    exact unstarted.of_core rfl
  · split at answered
    · obtain ⟨op, delivered, rfl⟩ := Option.map_eq_some_iff.mp answered
      exact unstarted.of_op rfl delivered (by simp)
    · rename_i sub subscribes
      rw [answerSubscribe] at answered
      split at answered
      · obtain ⟨op, closes, rfl⟩ := Option.map_eq_some_iff.mp answered
        exact unstarted.of_op rfl closes (by simp)
      · obtain ⟨op, closes, rfl⟩ := Option.map_eq_some_iff.mp answered
        exact unstarted.of_op rfl closes (by simp)
      · simp only [Option.bind_eq_bind, Option.bind_eq_some_iff] at answered
        obtain ⟨op, closes, started, _, same⟩ := answered
        cases same
        have answered : (client.setOp o op).Unstarted :=
          unstarted.of_op rfl closes (by simp)
        obtain ⟨_, same⟩ := Option.when_eq_some.mp closes
        have own : ((client.setOp o op).ops o).purpose.sub = some sub := by
          simpa [setOp, ← same] using subscribes
        have closed : ((client.setOp o op).ops o).closed = true := by simp [setOp, ← same]
        exact answered.start own closed rfl rfl fun _ different => Function.update_of_ne different _ _

theorem unstarted_handle (stepped : next etype .handle client = some after) (unstarted : client.Unstarted) :
    after.Unstarted := by
  have moved : ∀ dispatch notified, Unstarted { client with core := { client.core with dispatch, notified } } :=
    fun dispatch notified => unstarted.of_core rfl
  simp only [next] at stepped
  split at stepped
  · cases stepped
    exact unstarted.of_core rfl
  · cases stepped
    exact moved _ _
  · rw [handleImmediate] at stepped
    split at stepped
    · split at stepped
      · cases stepped
        exact moved _ _
      · split at stepped <;> cases stepped <;> exact moved _ _
    · split at stepped
      · rw [handleResponse] at stepped
        split at stepped
        · cases stepped
          exact moved _ _
        · apply Unstarted.answer _ stepped
          exact unstarted.of_core rfl
      · cases stepped
        exact moved _ _
  · cases stepped

/-- `Subscribe` makes a new subscription. -/
theorem unstarted_subscribe {sub : Nat} (stepped : next etype (.begin (.subscribe sub)) client = some after)
    (unstarted : client.Unstarted) : after.Unstarted := by
  simp only [next, Option.bind_eq_bind, Option.bind_eq_some_iff, Option.when_eq_some] at stepped
  obtain ⟨made, created, count, rfl⟩ := stepped
  obtain ⟨_, ops, core, subs⟩ := newOp_cases created
  rw [core] at count
  simp only at count
  subst count
  -- A request is the new one, with the next subscription, or an old one, with an earlier subscription.
  have cases : ∀ o sub, (made.ops o).purpose.sub = some sub →
      o = client.core.opCount ∧ sub = client.core.subCount ∨
        made.ops o = client.ops o ∧ o ≠ client.core.opCount ∧ sub < client.core.subCount := by
    intro o sub subscribes
    rw [ops] at subscribes ⊢
    by_cases new : o = client.core.opCount
    · subst new
      rw [Function.update_self] at subscribes
      exact .inl ⟨rfl, (Option.some.inj subscribes).symm⟩
    · rw [Function.update_of_ne new] at subscribes ⊢
      exact .inr ⟨rfl, new, unstarted.counted o sub subscribes⟩
  constructor
  · intro o sub subscribes
    rcases cases o sub subscribes with ⟨_, rfl⟩ | ⟨_, _, below⟩
    · exact Nat.lt_succ_self _
    · exact Nat.lt_succ_of_lt below
  · intro o other sub subscribes others
    rcases cases o sub subscribes with ⟨rfl, rfl⟩ | ⟨same, _, below⟩ <;>
      rcases cases other _ others with ⟨rfl, new⟩ | ⟨other_same, _, other_below⟩
    · rfl
    · omega
    · omega
    · rw [same] at subscribes
      rw [other_same] at others
      exact unstarted.apart o other sub subscribes others
  · intro sub beyond
    rw [subs]
    exact unstarted.fresh sub (by simp only at beyond; omega)
  · intro o sub subscribes opened
    rw [subs]
    rcases cases o sub subscribes with ⟨rfl, rfl⟩ | ⟨same, _, _⟩
    · exact unstarted.fresh _ le_rfl
    · rw [same] at subscribes opened
      exact unstarted.idle o sub subscribes opened

theorem subCount_of_move {core after : Core} {o : Nat} {op : RequestOp} {move : Move}
    (moved : core.move o op move = some after) : after.subCount = core.subCount := by
  cases move with
  | abandon err | prepare | giveUp | write | expire | writeFail err =>
      cases moved
      rfl
  | refuse | timeOutClosing | accept | endCheck | redialFail err | redial conn | timeOut =>
      obtain ⟨_, rfl⟩ := Option.when_eq_some.mp moved
      rfl
  | check | redialRefuse | signal =>
      simp only [Core.move] at moved
      split at moved
      · obtain ⟨_, rfl⟩ := Option.when_eq_some.mp moved
        rfl
      · cases moved
  | reconnect => cases moved

theorem keeps_unstarted (etype : Nat → ElementType Value) : (next etype).Keeps Unstarted := by
  intro action client after stepped unstarted
  cases action with
  | begin purpose =>
      cases purpose with
      | call | batch | notify => exact unstarted.stays (stays_newOp stepped rfl)
      | subscribe sub => exact unstarted_subscribe stepped unstarted
      | unsubscribe sub => cases stepped
  | nextID o =>
      obtain ⟨op, numbered, same⟩ := Option.bind_eq_some_iff.mp stepped
      cases same
      exact unstarted.of_op rfl numbered (by simp)
  | move o move =>
      simp only [next, Option.bind_eq_bind, Option.bind_eq_some_iff] at stepped
      obtain ⟨op, advanced, core, moved, same⟩ := stepped
      cases same
      exact unstarted.of_op (subCount_of_move moved) advanced (by simp)
  | acceptReconnect o =>
      simp only [next] at stepped
      split at stepped
      · obtain ⟨op, advanced, same⟩ := Option.bind_eq_some_iff.mp stepped
        split at same <;> cases same
        · apply Unstarted.stays _ stays_close
          exact unstarted.of_op rfl advanced (by simp)
        · apply Unstarted.stays _ stays_connect
          exact unstarted.of_op rfl advanced (by simp)
      · cases stepped
  | receive o =>
      simp only [next, Option.bind_eq_bind, Option.bind_eq_some_iff] at stepped
      obtain ⟨op, received, same⟩ := stepped
      split at same
      · obtain ⟨returned, handed, same⟩ := Option.bind_eq_some_iff.mp same
        cases same
        have moved := stays_update (RequestOp.stays_of_next received (by simp))
        exact unstarted.stays ⟨rfl, moved, idle_update handed (by simp)⟩
      · cases same
        exact unstarted.of_op rfl received (by simp)
  | acceptSent =>
      simp only [next] at stepped
      split at stepped
      · split at stepped <;> cases stepped <;> exact unstarted.of_core rfl
      · cases stepped
  | acceptRead =>
      simp only [next] at stepped
      split at stepped
      · split at stepped
        · split at stepped <;> cases stepped <;> exact unstarted.of_core rfl
        · cases stepped
          exact unstarted.of_core rfl
      · cases stepped
  | acceptReadErr =>
      simp only [next] at stepped
      split at stepped <;> cases stepped
      apply Unstarted.stays _ stays_close
      exact unstarted.of_core rfl
  | acceptClose =>
      simp only [next] at stepped
      split at stepped
      · split at stepped <;> cases stepped
        · apply Unstarted.stays _ stays_close
          exact unstarted.of_core rfl
        · exact unstarted.of_core rfl
      · cases stepped
  | handle => exact unstarted_handle stepped unstarted
  | deliver =>
      simp only [next] at stepped
      split at stepped
      · obtain ⟨taken, step, same⟩ := Option.bind_eq_some_iff.mp stepped
        cases same
        exact unstarted.stays ⟨rfl, fun _ => .refl _, idle_update step (by simp)⟩
      · cases stepped
  | drop =>
      simp only [next] at stepped
      split at stepped
      · obtain ⟨_, rfl⟩ := Option.when_eq_some.mp stepped
        exact unstarted.of_core rfl
      · cases stepped
  | cancelSub sub =>
      simp only [next] at stepped
      split at stepped
      · obtain ⟨cancelled, step, kept⟩ := Option.bind_eq_some_iff.mp stepped
        obtain ⟨_, rfl⟩ := Option.when_eq_some.mp kept
        exact unstarted.stays ⟨rfl, fun _ => .refl _, idle_update step (by simp)⟩
      · cases stepped
  | closeConn =>
      simp only [next] at stepped
      split at stepped
      · obtain ⟨_, same⟩ := Option.when_eq_some.mp stepped
        split at same <;> subst same <;> exact unstarted.of_core rfl
      · cases stepped
  | drain | read msgs batch | readFail err =>
      simp only [next] at stepped
      split at stepped <;> cases stepped
      exact unstarted.of_core rfl
  | drained =>
      simp only [next] at stepped
      split at stepped
      · split at stepped <;> cases stepped
        · exact unstarted.of_core rfl
        · apply Unstarted.stays _ stays_connect
          exact unstarted.of_core rfl
        · exact unstarted.of_core rfl
      · cases stepped
  | serve proc =>
      obtain ⟨_, rfl⟩ := Option.when_eq_some.mp stepped
      exact unstarted.of_core rfl
  | subscription sub action =>
      have no_start : ∀ subid, action ≠ .start subid := by
        rintro subid rfl
        cases stepped
      obtain ⟨moved, step, _, _, same⟩ := subscription_cases stepped
      have stays : Stays client (client.setSub sub moved) := ⟨rfl, fun _ => .refl _, idle_update step no_start⟩
      rcases same with rfl | made
      · exact unstarted.stays stays
      · exact (unstarted.stays stays).stays (stays_newOp made rfl)

end Client

end SubstrateClient.Rpc
