import SubstrateClient.Rpc.WriteLock

/-!
# Notifications on their way to the user

The dispatcher finds the subscription of a notification and offers the result to `forward`, which decodes it, keeps it
in its buffer and sends it to the user's channel.  A subscription together with what was handled for it is a small
system of its own; a client is seen as that system for each of its subscriptions.
-/

namespace SubstrateClient.Rpc

open JsonText Interleaving

/-- A subscription and the dispatcher's dealings with it. -/
structure Delivery (Value : Type) where
  sub : ClientSubscription Value
  /-- The results of the notifications, as they were handled. -/
  notified : List (Option Json)
  /-- What `deliver` waits with. -/
  offered : Option (Option Json)

inductive DeliveryAction where
  | notify (result : Option Json)
  | take
  | drop
  /-- Anything else that happens to the subscription. -/
  | other (action : SubscriptionAction)

namespace Delivery

variable {Value : Type}

def next (etype : ElementType Value) : System (Delivery Value) DeliveryAction
  | .notify result, delivery =>
      match delivery.offered with
      | none => some { delivery with notified := delivery.notified ++ [result], offered := some result }
      | some _ => none
  | .take, delivery =>
      match delivery.offered with
      | none => none
      | some result =>
          (ClientSubscription.next etype (.take result) delivery.sub).map fun sub =>
            { delivery with sub, offered := none }
  | .drop, delivery =>
      match delivery.offered with
      | none => none
      | some _ => Option.when (delivery.sub.quit = true) { delivery with offered := none }
  | .other action, delivery =>
      match action with
      | .take _ => none
      | _ => (ClientSubscription.next etype action delivery.sub).map fun sub => { delivery with sub }

/-- Nothing is lost before the subscription quits, and nothing comes twice or out of order at any time. -/
structure Ordered (delivery : Delivery Value) : Prop where
  sublist : (delivery.sub.taken ++ delivery.offered.toList).Sublist delivery.notified
  all : delivery.sub.quit = false → delivery.sub.taken ++ delivery.offered.toList = delivery.notified

/-- Apart from receiving on `in`, an action takes nothing and does not undo `quit`. -/
theorem taken_of_next {etype : ElementType Value} {action : SubscriptionAction}
    {sub after : ClientSubscription Value} (stepped : ClientSubscription.next etype action sub = some after) :
    (sub.quit = true → after.quit = true) ∧
      ((∀ result, action ≠ .take result) → after.taken = sub.taken) ∧
      ∀ result, action = .take result → after.taken = sub.taken ++ [result] ∧ after.quit = sub.quit := by
  cases action with
  | start subid =>
      simp only [ClientSubscription.next] at stepped
      split at stepped <;> cases stepped
      simp
  | take result | notice =>
      simp only [ClientSubscription.next] at stepped
      split at stepped
      · obtain ⟨_, rfl⟩ := Option.when_eq_some.mp stepped
        simp
      · cases stepped
  | handOut =>
      cases stepped
      simp
  | send =>
      simp only [ClientSubscription.next] at stepped
      split at stepped
      · split at stepped <;> cases stepped <;> simp
      · cases stepped
  | quit call | cancel err | unsubscribe call | finish | closeErr =>
      simp only [ClientSubscription.next] at stepped
      split at stepped <;> cases stepped <;> simp [ClientSubscription.sendErr]
  | closeChannel =>
      obtain ⟨_, rfl⟩ := Option.when_eq_some.mp stepped
      simp

theorem keeps_ordered (etype : ElementType Value) :
    (next etype).Keeps (@Ordered Value) := by
  intro action delivery after stepped ordered
  cases action with
  | notify result =>
      simp only [next] at stepped
      split at stepped <;> rename_i idle <;> cases stepped
      constructor
      · have before := ordered.sublist
        simp only [idle, Option.toList_none, List.append_nil] at before
        simpa using before.append_right [result]
      · intro running
        have before := ordered.all running
        simp only [idle, Option.toList_none, List.append_nil] at before
        simp [before]
  | take =>
      simp only [next] at stepped
      split at stepped
      · cases stepped
      · rename_i result offered
        obtain ⟨sub, took, rfl⟩ := Option.map_eq_some_iff.mp stepped
        obtain ⟨taken, quit⟩ := (taken_of_next took).2.2 result rfl
        constructor
        · simpa [taken, offered] using ordered.sublist
        · intro running
          simpa [taken, offered] using ordered.all (quit ▸ running)
  | drop =>
      simp only [next] at stepped
      split at stepped
      · cases stepped
      · obtain ⟨quit, rfl⟩ := Option.when_eq_some.mp stepped
        constructor
        · apply List.Sublist.trans _ ordered.sublist
          simp
        · simp [quit]
  | other action =>
      simp only [next] at stepped
      split at stepped
      · cases stepped
      · rename_i no_take
        obtain ⟨sub, moved, rfl⟩ := Option.map_eq_some_iff.mp stepped
        obtain ⟨quits, same, _⟩ := taken_of_next moved
        have taken := same no_take
        constructor
        · simpa [taken] using ordered.sublist
        · intro running
          have before : delivery.sub.quit = false := by
            by_contra quit
            rw [Bool.not_eq_false] at quit
            simp [quits quit] at running
          simpa [taken] using ordered.all before

/-- A delivery is seen as its subscription. -/
theorem simulates_sub (etype : ElementType Value) :
    (next etype).Simulates (ClientSubscription.next etype) Delivery.sub := by
  intro action delivery after stepped
  cases action with
  | notify result =>
      simp only [next] at stepped
      split at stepped <;> cases stepped
      exact .inl rfl
  | take =>
      simp only [next] at stepped
      split at stepped
      · cases stepped
      · obtain ⟨sub, took, rfl⟩ := Option.map_eq_some_iff.mp stepped
        exact .inr ⟨_, took⟩
  | drop =>
      simp only [next] at stepped
      split at stepped
      · cases stepped
      · obtain ⟨_, rfl⟩ := Option.when_eq_some.mp stepped
        exact .inl rfl
  | other action =>
      simp only [next] at stepped
      split at stepped
      · cases stepped
      · obtain ⟨sub, moved, rfl⟩ := Option.map_eq_some_iff.mp stepped
        exact .inr ⟨action, moved⟩

end Delivery

/-! ## The subscriptions of a client -/

/-- What `deliver` waits with, for the subscription. -/
def Dispatch.offered (sub : Nat) : Dispatch → Option (Option Json)
  | delivering other result _ _ => if other = sub then some result else none
  | _ => none

namespace Client

variable {Value : Type}

def delivery (client : Client Value) (sub : Nat) : Delivery Value where
  sub := client.subs sub
  notified := client.core.notified sub
  offered := client.core.dispatch.offered sub

/-- An action that leaves the subscriptions alone. -/
def Undelivered (client after : Client Value) : Prop :=
  after.subs = client.subs ∧ after.core.notified = client.core.notified ∧
    ∀ sub, after.core.dispatch.offered sub = client.core.dispatch.offered sub

theorem Undelivered.delivery {client after : Client Value} (undelivered : Undelivered client after) (sub : Nat) :
    after.delivery sub = client.delivery sub := by
  obtain ⟨subs, notified, offered⟩ := undelivered
  rw [Client.delivery, Client.delivery, subs, notified, offered sub]

/-- What a move of a request leaves of the dispatcher. -/
theorem same_of_move {core after : Core} {o : Nat} {op : RequestOp} {move : Move}
    (moved : core.move o op move = some after) :
    after.dispatch = core.dispatch ∧ after.notified = core.notified ∧ after.closing = core.closing := by
  cases move with
  | abandon err | prepare | giveUp | write | expire | writeFail err =>
      cases moved
      exact ⟨rfl, rfl, rfl⟩
  | refuse | timeOutClosing | accept | endCheck | redialFail err | redial conn | timeOut =>
      obtain ⟨_, rfl⟩ := Option.when_eq_some.mp moved
      exact ⟨rfl, rfl, rfl⟩
  | check | redialRefuse | signal =>
      simp only [Core.move] at moved
      split at moved
      · obtain ⟨_, rfl⟩ := Option.when_eq_some.mp moved
        exact ⟨rfl, rfl, rfl⟩
      · cases moved
  | reconnect => cases moved

theorem undelivered_close {client : Client Value} {err : RpcError} {spared : Option Nat} {goal : Goal}
    (selecting : client.core.dispatch = .selecting) : Undelivered client (client.close err spared goal) := by
  rcases close_cases rfl with ⟨_, same⟩ | ⟨_, subs, core⟩
  · rw [same]
    exact ⟨rfl, rfl, fun sub => by simp [goto, Dispatch.offered, selecting]⟩
  · refine ⟨subs, ?_, fun sub => ?_⟩
    · rw [core]
    · rw [core]
      simp [Dispatch.offered, selecting]

theorem undelivered_connect {client : Client Value} {conn : Nat}
    (idle : ∀ sub, client.core.dispatch.offered sub = none) : Undelivered client (client.connect conn) := by
  rw [connect]
  split
  · exact ⟨rfl, rfl, fun sub => by rw [idle]; rfl⟩
  · exact ⟨rfl, rfl, fun sub => by rw [idle]; rfl⟩

/-- Seen from a subscription, an action is one of the delivery or nothing. -/
def Delivers (etype : Nat → ElementType Value) (client after : Client Value) : Prop :=
  ∀ sub, after.delivery sub = client.delivery sub ∨
    ∃ seen, Delivery.next (etype sub) seen (client.delivery sub) = some (after.delivery sub)

variable {etype : Nat → ElementType Value} {client after : Client Value}

theorem Undelivered.delivers (undelivered : Undelivered client after) : Delivers etype client after :=
  fun sub => .inl (undelivered.delivery sub)

/-- An action of one subscription. -/
theorem delivers_of_sub {sub : Nat} {action : SubscriptionAction} {moved : ClientSubscription Value}
    (step : ClientSubscription.next (etype sub) action (client.subs sub) = some moved)
    (no_take : ∀ result, action ≠ .take result) (subs : after.subs = Function.update client.subs sub moved)
    (notified : after.core.notified = client.core.notified)
    (offered : ∀ other, after.core.dispatch.offered other = client.core.dispatch.offered other) :
    Delivers etype client after := by
  intro other
  by_cases same : other = sub
  · subst same
    refine .inr ⟨.other action, ?_⟩
    have stepped : Delivery.next (etype other) (.other action) (client.delivery other) =
        (ClientSubscription.next (etype other) action (client.subs other)).map
          fun value => { client.delivery other with sub := value } := by
      cases action with
      | take result => exact absurd rfl (no_take result)
      | start | handOut | send | notice | quit | cancel | unsubscribe | finish | closeErr | closeChannel => rfl
    rw [stepped, step]
    simp [delivery, subs, notified, offered]
  · left
    simp [delivery, subs, notified, offered, Function.update_of_ne same]

theorem delivers_answer {o : Nat} {msg : Message} (calm : ∀ sub, client.core.dispatch.offered sub = none)
    (answered : client.answer etype o msg = some after) : Delivers etype client after := by
  rw [answer] at answered
  split at answered
  · cases answered
    exact Undelivered.delivers ⟨rfl, rfl, fun sub => by rw [calm]; rfl⟩
  · split at answered
    · obtain ⟨op, _, rfl⟩ := Option.map_eq_some_iff.mp answered
      exact Undelivered.delivers ⟨rfl, rfl, fun _ => rfl⟩
    · rw [answerSubscribe] at answered
      split at answered
      · obtain ⟨op, _, rfl⟩ := Option.map_eq_some_iff.mp answered
        exact Undelivered.delivers ⟨rfl, rfl, fun _ => rfl⟩
      · obtain ⟨op, _, rfl⟩ := Option.map_eq_some_iff.mp answered
        exact Undelivered.delivers ⟨rfl, rfl, fun _ => rfl⟩
      · simp only [Option.bind_eq_bind, Option.bind_eq_some_iff] at answered
        obtain ⟨op, _, started, step, same⟩ := answered
        cases same
        exact delivers_of_sub step (by simp) rfl rfl fun _ => rfl

theorem delivers_handle (stepped : next etype .handle client = some after) :
    Delivers etype client after := by
  simp only [next] at stepped
  split at stepped
  · rename_i handling
    cases stepped
    exact Undelivered.delivers ⟨rfl, rfl, fun sub => by rw [handling]; rfl⟩
  · rename_i handling
    cases stepped
    exact Undelivered.delivers ⟨rfl, rfl, fun sub => by rw [handling]; rfl⟩
  · rename_i msg msgs calls handling
    rw [handleImmediate] at stepped
    split at stepped
    · split at stepped
      · cases stepped
        exact Undelivered.delivers ⟨rfl, rfl, fun sub => by rw [handling]; rfl⟩
      · split at stepped
        · cases stepped
          exact Undelivered.delivers ⟨rfl, rfl, fun sub => by rw [handling]; rfl⟩
        · rename_i result _ _ sub _
          cases stepped
          intro other
          by_cases same : other = sub
          · subst same
            refine .inr ⟨.notify result, ?_⟩
            simp [Delivery.next, delivery, handling, Dispatch.offered]
          · left
            simp [delivery, handling, Dispatch.offered, Function.update_of_ne same, Ne.symm same]
    · split at stepped
      · have moved : Undelivered client (client.goto (.handling msgs calls)) :=
          ⟨rfl, rfl, fun sub => by rw [handling]; rfl⟩
        have same := fun sub => moved.delivery sub
        intro sub
        rw [← same sub]
        rw [handleResponse] at stepped
        split at stepped
        · cases stepped
          exact .inl rfl
        · exact delivers_answer (fun _ => rfl) stepped sub
      · cases stepped
        exact Undelivered.delivers ⟨rfl, rfl, fun sub => by rw [handling]; rfl⟩
  · cases stepped

theorem delivers_subscription {sub : Nat} {action : SubscriptionAction}
    (stepped : next etype (.subscription sub action) client = some after) :
    Delivers etype client after := by
  obtain ⟨moved, step, no_take, _, rfl | made⟩ := subscription_cases stepped
  · exact delivers_of_sub step no_take rfl rfl fun _ => rfl
  · obtain ⟨_, _, core, subs⟩ := newOp_cases made
    apply delivers_of_sub step no_take subs
    · rw [core]
      rfl
    · rw [core]
      exact fun _ => rfl

/-- The dispatcher takes part in no delivery before or after. -/
theorem undelivered_of_idle (subs : after.subs = client.subs) (notified : after.core.notified = client.core.notified)
    (idle : ∀ sub, client.core.dispatch.offered sub = none)
    (idle_after : ∀ sub, after.core.dispatch.offered sub = none) : Undelivered client after :=
  ⟨subs, notified, fun sub => by rw [idle, idle_after]⟩

theorem offered_of_selecting {dispatch : Dispatch} (selecting : dispatch = .selecting) (sub : Nat) :
    dispatch.offered sub = none := by
  rw [selecting]
  rfl

/-- The actions of the dispatcher and the reader that have to do with the connection. -/
theorem undelivered_of_connection {action : Action} (stepped : next etype action client = some after)
    (connection : action = .acceptSent ∨ action = .acceptRead ∨ action = .acceptReadErr ∨ action = .acceptClose ∨
      action = .closeConn ∨ action = .drain ∨ action = .drained) : Undelivered client after := by
  rcases connection with rfl | rfl | rfl | rfl | rfl | rfl | rfl <;> simp only [next] at stepped
  · split at stepped
    · split at stepped <;> cases stepped
      · exact undelivered_of_idle rfl rfl (offered_of_selecting (by assumption)) fun _ => rfl
      · exact ⟨rfl, rfl, fun _ => rfl⟩
      · exact ⟨rfl, rfl, fun _ => rfl⟩
    · cases stepped
  · split at stepped
    · rename_i selecting _
      have idle := offered_of_selecting selecting
      split at stepped
      · split at stepped <;> cases stepped
        · exact ⟨rfl, rfl, fun _ => rfl⟩
        · exact undelivered_of_idle rfl rfl idle fun _ => rfl
      · cases stepped
        exact undelivered_of_idle rfl rfl idle fun _ => rfl
    · cases stepped
  · split at stepped
    · rename_i selecting _
      cases stepped
      exact undelivered_close selecting
    · cases stepped
  · split at stepped
    · rename_i selecting
      split at stepped <;> cases stepped
      · exact undelivered_close selecting
      · exact undelivered_of_idle rfl rfl (offered_of_selecting selecting) fun _ => rfl
    · cases stepped
  · split at stepped
    · rename_i goal cancelling
      obtain ⟨_, same⟩ := Option.when_eq_some.mp stepped
      have idle : ∀ sub, client.core.dispatch.offered sub = none := fun sub => by rw [cancelling]; rfl
      split at same <;> subst same
      · exact undelivered_of_idle rfl rfl idle fun _ => rfl
      · exact undelivered_of_idle rfl rfl idle fun _ => rfl
    · cases stepped
  · split at stepped
    · cases stepped
      exact ⟨rfl, rfl, fun _ => rfl⟩
    · cases stepped
  · split at stepped
    · rename_i goal _ draining _
      have idle : ∀ sub, client.core.dispatch.offered sub = none := fun sub => by rw [draining]; rfl
      split at stepped <;> cases stepped
      · exact undelivered_of_idle rfl rfl idle fun _ => rfl
      · exact undelivered_connect idle
      · exact undelivered_of_idle rfl rfl idle fun _ => rfl
    · cases stepped

theorem delivers_of_next {action : Action} (stepped : next etype action client = some after) :
    Delivers etype client after := by
  cases action with
  | begin purpose =>
      cases purpose with
      | call | batch | notify =>
          obtain ⟨_, _, core, subs⟩ := newOp_cases stepped
          exact Undelivered.delivers ⟨subs, by rw [core], fun _ => by rw [core]⟩
      | subscribe sub =>
          simp only [next, Option.bind_eq_bind, Option.bind_eq_some_iff, Option.when_eq_some] at stepped
          obtain ⟨made, created, _, rfl⟩ := stepped
          obtain ⟨_, _, core, subs⟩ := newOp_cases created
          exact Undelivered.delivers ⟨subs, by rw [core], fun _ => by rw [core]⟩
      | unsubscribe sub => cases stepped
  | nextID o =>
      obtain ⟨op, _, same⟩ := Option.bind_eq_some_iff.mp stepped
      cases same
      exact Undelivered.delivers ⟨rfl, rfl, fun _ => rfl⟩
  | move o move =>
      simp only [next, Option.bind_eq_bind, Option.bind_eq_some_iff] at stepped
      obtain ⟨op, _, core, moved, same⟩ := stepped
      cases same
      obtain ⟨dispatch, notified, _⟩ := same_of_move moved
      exact Undelivered.delivers ⟨rfl, notified, fun _ => by rw [dispatch]⟩
  | acceptReconnect o =>
      simp only [next] at stepped
      split at stepped
      · rename_i selecting _
        obtain ⟨op, _, same⟩ := Option.bind_eq_some_iff.mp stepped
        split at same <;> cases same
        · apply Undelivered.delivers
          exact undelivered_close selecting
        · apply Undelivered.delivers
          exact undelivered_connect (offered_of_selecting selecting)
      · cases stepped
  | receive o =>
      simp only [next, Option.bind_eq_bind, Option.bind_eq_some_iff] at stepped
      obtain ⟨op, _, same⟩ := stepped
      split at same
      · obtain ⟨returned, handed, same⟩ := Option.bind_eq_some_iff.mp same
        cases same
        exact delivers_of_sub handed (by simp) rfl rfl fun _ => rfl
      · cases same
        exact Undelivered.delivers ⟨rfl, rfl, fun _ => rfl⟩
  | acceptSent | acceptRead | acceptReadErr | acceptClose | closeConn | drain | drained =>
      exact (undelivered_of_connection stepped (by simp)).delivers
  | handle => exact delivers_handle stepped
  | deliver =>
      simp only [next] at stepped
      split at stepped
      · rename_i sub result msgs calls delivering
        obtain ⟨taken, step, same⟩ := Option.bind_eq_some_iff.mp stepped
        cases same
        intro other
        by_cases same : other = sub
        · subst same
          refine .inr ⟨.take, ?_⟩
          simp [Delivery.next, delivery, delivering, Dispatch.offered, step, goto, setSub]
        · left
          simp [delivery, delivering, Dispatch.offered, goto, setSub, Function.update_of_ne same, Ne.symm same]
      · cases stepped
  | drop =>
      simp only [next] at stepped
      split at stepped
      · rename_i sub result msgs calls delivering
        obtain ⟨quit, rfl⟩ := Option.when_eq_some.mp stepped
        intro other
        by_cases same : other = sub
        · subst same
          refine .inr ⟨.drop, ?_⟩
          simp [Delivery.next, delivery, delivering, Dispatch.offered, quit, goto]
        · left
          simp [delivery, delivering, Dispatch.offered, goto, Ne.symm same]
      · cases stepped
  | cancelSub sub =>
      simp only [next] at stepped
      split at stepped
      · rename_i subs err goal cancelling
        obtain ⟨cancelled, step, kept⟩ := Option.bind_eq_some_iff.mp stepped
        obtain ⟨_, rfl⟩ := Option.when_eq_some.mp kept
        exact delivers_of_sub step (by simp) rfl rfl fun _ => by rw [cancelling]; rfl
      · cases stepped
  | read msgs batch | readFail err =>
      simp only [next] at stepped
      split at stepped <;> cases stepped
      exact Undelivered.delivers ⟨rfl, rfl, fun _ => rfl⟩
  | serve proc =>
      obtain ⟨_, rfl⟩ := Option.when_eq_some.mp stepped
      exact Undelivered.delivers ⟨rfl, rfl, fun _ => rfl⟩
  | subscription sub action => exact delivers_subscription stepped

theorem simulates_delivery (etype : Nat → ElementType Value) (sub : Nat) :
    (next etype).Simulates (Delivery.next (etype sub)) fun client => client.delivery sub :=
  fun _ _ _ stepped => delivers_of_next stepped sub

/-- What the subscription keeps, a client keeps of each of its subscriptions. -/
theorem sub_of_reaches {canReconnect : Bool} (sub : Nat) {invariant : ClientSubscription Value → Prop}
    (reached : (next etype).Reaches (initClient canReconnect) client)
    (keeps : (ClientSubscription.next (etype sub)).Keeps invariant) (holds : invariant {}) :
    invariant (client.subs sub) :=
  ((simulates_delivery etype sub).keeps ((Delivery.simulates_sub (etype sub)).keeps keeps)).reaches reached
    holds

theorem ordered_of_reaches {canReconnect : Bool} (sub : Nat)
    (reached : (next etype).Reaches (initClient canReconnect) client) : (client.delivery sub).Ordered :=
  ((simulates_delivery etype sub).keeps (Delivery.keeps_ordered (etype sub))).reaches reached
    ⟨by simp [delivery, initClient, Dispatch.offered], by simp [delivery, initClient, Dispatch.offered]⟩

/-- What a running subscription has handed out is the front of what it was notified of. -/
theorem sent_prefix_of_reaches {canReconnect : Bool} (sub : Nat)
    (reached : (next etype).Reaches (initClient canReconnect) client) (running : (client.subs sub).quit = false) :
    (client.subs sub).sent.map .ok <+: (client.core.notified sub).map (etype sub).unmarshal := by
  have forwards := sub_of_reaches sub reached (ClientSubscription.keeps_forwards _)
    (ClientSubscription.forwards_fresh _)
  have all : (client.subs sub).taken ++ (client.core.dispatch.offered sub).toList = client.core.notified sub :=
    (ordered_of_reaches sub reached).all running
  apply forwards.sent.trans
  rw [← all, List.map_append]
  exact List.prefix_append _ _

/-- Whatever the server and the callers do, the values on the channel of a subscription are what notifications for it
decode to, in the order of the notifications and none of them twice.  Until the subscription quits none is left out
either: each is on the channel, in the buffer of `forward`, which has bounded length, or with the dispatcher. -/
theorem notifications_in_order (etype : Nat → ElementType Value) (canReconnect : Bool)
    (client : Client Value) (reached : (next etype).Reaches (initClient canReconnect) client) (sub : Nat) :
    ((client.subs sub).sent.map .ok).Sublist ((client.core.notified sub).map (etype sub).unmarshal) ∧
      ∀ buffer, (client.subs sub).forwarder = .forwarding buffer → buffer.length ≤ maxClientSubscriptionBuffer ∧
        ((client.subs sub).quit = false →
          ((client.subs sub).sent ++ buffer).map .ok ++
              (client.core.dispatch.offered sub).toList.map (etype sub).unmarshal =
            (client.core.notified sub).map (etype sub).unmarshal) := by
  have ordered := ordered_of_reaches sub reached
  have forwards := sub_of_reaches sub reached (ClientSubscription.keeps_forwards _)
    (ClientSubscription.forwards_fresh _)
  constructor
  · apply forwards.sent.sublist.trans
    have taken : (client.subs sub).taken.Sublist (client.core.notified sub) :=
      (List.sublist_append_left _ _).trans ordered.sublist
    exact taken.map _
  · intro buffer forwarding
    rw [ClientSubscription.Forwards, forwarding] at forwards
    refine ⟨forwards.2, fun running => ?_⟩
    rw [← forwards.1, ← List.map_append]
    exact congrArg (List.map (etype sub).unmarshal) (ordered.all running)

/-- A notification for the subscription `s`. -/
def notification (result : Json) : Message :=
  { method := ['n'], params := some (.object
      [(['s', 'u', 'b', 's', 'c', 'r', 'i', 'p', 't', 'i', 'o', 'n'], .string ['s']),
        (['r', 'e', 's', 'u', 'l', 't'], result)]) }

/-- A subscription with two notifications, the first of them sent on, and a lost connection. -/
def subscribed : List Action :=
  [.begin (.subscribe 0), .nextID 0, .move 0 .prepare, .move 0 .accept, .move 0 .check, .move 0 .write,
    .move 0 .signal, .acceptSent, .read [some { id := some (.number ['1']), result := some (.string ['s']) }] false,
    .acceptRead, .handle, .handle, .receive 0,
    .read [some (notification .null), some (notification (.bool true))] true, .acceptRead, .handle, .deliver, .handle,
    .deliver, .handle, .subscription 0 .send, .readFail .dead, .acceptReadErr, .cancelSub 0]

theorem notifications_in_order_subscribed :
    let etype : Nat → ElementType Json := fun _ => rawMessage
    ∃ client : Client Json, (next etype).run subscribed (initClient true) = some client ∧
      (client.subs 0).sent = [.null] ∧
      ((client.subs 0).sent.map .ok).Sublist ((client.core.notified 0).map (etype 0).unmarshal) :=
  ⟨_, rfl, rfl, (notifications_in_order (fun _ => rawMessage) true _ ⟨subscribed, rfl⟩ 0).1⟩

/-- The first notification alone, which a channel of interfaces has nothing to send for. -/
def nilNotified : List Action := subscribed.take 17 ++ [.subscription 0 .send]

end Client

end SubstrateClient.Rpc
