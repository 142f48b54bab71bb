import SubstrateClient.Interleaving
import SubstrateClient.Rpc.Message

/-!
# Subscriptions of a client

A subscription is shared by the goroutine that forwards notifications to a channel, by the dispatcher that delivers
or cancels, and by the callers of `Unsubscribe`.  Each action below is what one of them does between two points where
it may have to wait.  What has gone through a channel is kept as a list.
-/

namespace SubstrateClient.Rpc

open JsonText Interleaving

/-- `maxClientSubscriptionBuffer`. -/
def maxClientSubscriptionBuffer : Nat := 20000

/-- `etype` of a subscription: how `unmarshal` makes a value for the channel, and which values `reflect.ValueOf` finds
nothing in.  A channel has such values only where its element type is an interface. -/
structure ElementType (Value : Type) where
  unmarshal : Option Json → Except RpcError Value
  isNil : Value → Bool

/-- `json.RawMessage`, which takes any result as it is. -/
def rawMessage : ElementType Json where
  unmarshal
    | some result => .ok result
    | none => .error (.failure "unexpected end of JSON input")
  isNil _ := false

/-- `interface{}`, where `null` is the nil interface. -/
def emptyInterface : ElementType Json :=
  { rawMessage with
    isNil
      | .null => true
      | _ => false }

/-- `quitOnce`, around the body of `quitWithError`. -/
inductive Once where
  | fresh
  /-- The body waits for the call that tells the server; then it sends the error. -/
  | running (err : Option RpcError) (byForwarder : Bool) (call : Nat)
  | done

/-- The goroutine that `start` runs in. -/
inductive Forwarder (Value : Type) where
  | idle
  /-- In the loop of `forward`. -/
  | forwarding (buffer : List Value)
  /-- On the way to `quitWithError`, with what `forward` returned. -/
  | quitting (err : Option RpcError) (unsubscribeServer : Bool)
  | exited

/-- `ClientSubscription`. -/
structure ClientSubscription (Value : Type) where
  subid : List Char := []
  quitOnce : Once := .fresh
  /-- `quit` is closed. -/
  quit : Bool := false
  /-- What was sent on `err`. -/
  err : List (Option RpcError) := []
  errClosed : Bool := false
  /-- `Subscribe` has returned the subscription. -/
  returned : Bool := false
  /-- `Unsubscribe` was called. -/
  unsubscribed : Bool := false
  forwarder : Forwarder Value := .idle
  /-- What was received on `in`. -/
  taken : List (Option Json) := []
  /-- What was sent on `channel`. -/
  sent : List Value := []
  /-- The user, or a wrapper of the subscription, has closed `channel`. -/
  channelClosed : Bool := false
  /-- A goroutine has sent on a closed channel, or had nothing to send. -/
  crashed : Bool := false

/-- What a party does with a subscription. -/
inductive SubscriptionAction where
  /-- `handleResponse` sets the identifier and starts the goroutine. -/
  | start (subid : List Char)
  /-- `Subscribe` returns. -/
  | handOut
  /-- `forward` receives on `in`. -/
  | take (result : Option Json)
  /-- `forward` sends on `channel`. -/
  | send
  /-- `forward` receives on `quit`. -/
  | notice
  /-- `start` calls `quitWithError`; the call to the server would have this number. -/
  | quit (call : Nat)
  /-- `cancelAllRequests` calls `quitWithError`. -/
  | cancel (err : RpcError)
  /-- A user calls `Unsubscribe`; the call to the server would have this number. -/
  | unsubscribe (call : Nat)
  /-- The body of `quitOnce` ends. -/
  | finish
  /-- `Unsubscribe` closes `err`. -/
  | closeErr
  /-- The user closes `channel`, or a wrapper's own `Unsubscribe` does. -/
  | closeChannel

namespace ClientSubscription

variable {Value : Type}

/-- What `quitWithError` sends on `err`. -/
def report : Option RpcError → List (Option RpcError)
  | none => []
  | some .clientQuit => [none]
  | some err => [some err]

/-- The end of `quitWithError`: send on `err`, which fails where this is closed. -/
def sendErr (sub : ClientSubscription Value) (err : Option RpcError) : ClientSubscription Value :=
  { sub with
    err := if sub.errClosed then sub.err else sub.err ++ report err
    crashed := sub.crashed || sub.errClosed && !(report err).isEmpty }

/-- One turn of the loop in `forward` that receives on `in`. -/
def afterTake (etype : ElementType Value) (buffer : List Value) (result : Option Json) :
    Forwarder Value :=
  match etype.unmarshal result with
  | .error err => .quitting (some err) true
  | .ok val =>
      if buffer.length = maxClientSubscriptionBuffer then .quitting (some .subscriptionQueueOverflow) true
      else .forwarding (buffer ++ [val])

/-- `reflect.Select` fails before it waits for anything: the value to send is not valid. -/
def stalls (etype : ElementType Value) : List Value → Bool
  | [] => false
  | val :: _ => etype.isNil val

/-- The system of one subscription. -/
def next (etype : ElementType Value) : System (ClientSubscription Value) SubscriptionAction
  | .start subid, sub =>
      match sub.forwarder with
      | .idle => some { sub with subid, forwarder := .forwarding [] }
      | _ => none
  | .handOut, sub => some { sub with returned := true }
  | .take result, sub =>
      match sub.forwarder with
      | .forwarding buffer =>
          Option.when (stalls etype buffer = false)
            { sub with taken := sub.taken ++ [result], forwarder := afterTake etype buffer result }
      | _ => none
  | .send, sub =>
      match sub.forwarder with
      | .forwarding (val :: buffer) =>
          if etype.isNil val || sub.channelClosed then some { sub with crashed := true }
          else some { sub with sent := sub.sent ++ [val], forwarder := .forwarding buffer }
      | _ => none
  | .notice, sub =>
      match sub.forwarder with
      | .forwarding buffer =>
          Option.when (sub.quit = true ∧ stalls etype buffer = false) { sub with forwarder := .quitting none false }
      | _ => none
  | .quit call, sub =>
      match sub.forwarder, sub.quitOnce with
      | .quitting err true, .fresh => some { sub with quit := true, quitOnce := .running err true call }
      | .quitting err false, .fresh =>
          some { sendErr { sub with quit := true } err with quitOnce := .done, forwarder := .exited }
      | .quitting _ _, .done => some { sub with forwarder := .exited }
      | _, _ => none
  | .cancel err, sub =>
      match sub.quitOnce with
      | .fresh => some { sendErr { sub with quit := true } (some err) with quitOnce := .done }
      | .done => some sub
      | .running _ _ _ => none
  | .unsubscribe call, sub =>
      match sub.returned, sub.quitOnce with
      | true, .fresh =>
          some { sub with unsubscribed := true, quit := true, quitOnce := .running none false call }
      | true, _ => some { sub with unsubscribed := true }
      | false, _ => none
  | .finish, sub =>
      match sub.quitOnce with
      | .running err byForwarder _ =>
          some
            { sendErr sub err with
              quitOnce := .done
              forwarder := if byForwarder then .exited else sub.forwarder }
      | _ => none
  | .closeErr, sub =>
      match sub.unsubscribed, sub.quitOnce, sub.errClosed with
      | true, .done, false => some { sub with errClosed := true }
      | _, _, _ => none
  | .closeChannel, sub =>
      Option.when (sub.channelClosed = false) { sub with channelClosed := true }

/-! ## The two channels of the user -/

/-- What holds of `quit` and `err` at any time. -/
structure Quits (sub : ClientSubscription Value) : Prop where
  quit_iff : sub.quit = true ↔ sub.quitOnce ≠ .fresh
  err_length : sub.err.length ≤ 1
  err_last : sub.err ≠ [] → sub.quitOnce = .done
  errClosed_last : sub.errClosed = true → sub.quitOnce = .done

/-- What went through the channel, and what waits to do so, is what the notifications decode to, in their order. -/
def Forwards (etype : ElementType Value) (sub : ClientSubscription Value) : Prop :=
  match sub.forwarder with
  | .idle => sub.taken = [] ∧ sub.sent = []
  | .forwarding buffer =>
      sub.taken.map etype.unmarshal = (sub.sent ++ buffer).map .ok ∧ buffer.length ≤ maxClientSubscriptionBuffer
  | .quitting _ _ | .exited => sub.sent.map .ok <+: sub.taken.map etype.unmarshal

theorem quits_fresh : Quits ({} : ClientSubscription Value) := by
  constructor <;> simp

theorem length_report (err : Option RpcError) : (report err).length ≤ 1 := by
  rcases err with _ | err
  · simp [report]
  · cases err <;> simp [report]

theorem Quits.unfinished {sub : ClientSubscription Value} (holds : sub.Quits) (unfinished : sub.quitOnce ≠ .done) :
    sub.err = [] ∧ sub.errClosed = false := by
  constructor
  · by_contra sent
    exact unfinished (holds.err_last sent)
  · by_contra closed
    exact unfinished (holds.errClosed_last (by simpa using closed))

/-- The body of `quitOnce` ends with its only message on `err`. -/
theorem quits_finish (sub : ClientSubscription Value) (quit : sub.quit = true)
    (unused : sub.err = [] ∧ sub.errClosed = false) (err : Option RpcError) (forwarder : Forwarder Value) :
    Quits { sendErr sub err with quitOnce := .done, forwarder } := by
  obtain ⟨no_err, open_err⟩ := unused
  constructor
  · simp [sendErr, quit]
  · simpa [sendErr, open_err, no_err] using length_report err
  · simp
  · simp

theorem keeps_quits (etype : ElementType Value) : (next etype).Keeps (@Quits Value) := by
  intro action sub after stepped holds
  have ⟨quit_iff, err_length, err_last, errClosed_last⟩ := holds
  cases action with
  | start subid =>
      simp only [next] at stepped
      split at stepped <;> cases stepped
      exact ⟨quit_iff, err_length, err_last, errClosed_last⟩
  | handOut =>
      cases stepped
      exact ⟨quit_iff, err_length, err_last, errClosed_last⟩
  | take result | notice =>
      simp only [next] at stepped
      split at stepped
      · obtain ⟨_, rfl⟩ := Option.when_eq_some.mp stepped
        exact ⟨quit_iff, err_length, err_last, errClosed_last⟩
      · cases stepped
  | send =>
      simp only [next] at stepped
      split at stepped
      · split at stepped <;> cases stepped <;> exact ⟨quit_iff, err_length, err_last, errClosed_last⟩
      · cases stepped
  | quit call =>
      simp only [next] at stepped
      split at stepped <;> rename_i once <;> cases stepped
      · constructor <;> simp_all
      · exact quits_finish { sub with quit := true } rfl (holds.unfinished (by simp [once])) _ _
      · exact ⟨quit_iff, err_length, err_last, errClosed_last⟩
  | cancel err =>
      simp only [next] at stepped
      split at stepped <;> rename_i once <;> cases stepped
      · exact quits_finish { sub with quit := true } rfl (holds.unfinished (by simp [once])) _ _
      · exact holds
  | unsubscribe call =>
      simp only [next] at stepped
      split at stepped <;> cases stepped
      · constructor <;> simp_all
      · exact ⟨quit_iff, err_length, err_last, errClosed_last⟩
  | finish =>
      simp only [next] at stepped
      split at stepped <;> rename_i once <;> cases stepped
      have already : sub.quit = true := quit_iff.mpr (by simp [once])
      exact quits_finish sub already (holds.unfinished (by simp [once])) _ _
  | closeErr =>
      simp only [next] at stepped
      split at stepped <;> cases stepped
      constructor <;> simp_all
  | closeChannel =>
      obtain ⟨_, rfl⟩ := Option.when_eq_some.mp stepped
      exact ⟨quit_iff, err_length, err_last, errClosed_last⟩

theorem forwards_fresh (etype : ElementType Value) :
    Forwards etype ({} : ClientSubscription Value) := ⟨rfl, rfl⟩

/-- What was sent is always what the first notifications decode to. -/
theorem Forwards.sent {etype : ElementType Value} {sub : ClientSubscription Value}
    (holds : Forwards etype sub) : sub.sent.map .ok <+: sub.taken.map etype.unmarshal := by
  rw [Forwards] at holds
  split at holds
  · simp [holds]
  · rw [holds.1, List.map_append]
    exact List.prefix_append _ _
  · exact holds
  · exact holds

theorem forwards_afterTake {etype : ElementType Value} {sub : ClientSubscription Value}
    {buffer : List Value}
    (holds : sub.taken.map etype.unmarshal = (sub.sent ++ buffer).map .ok ∧ buffer.length ≤ maxClientSubscriptionBuffer)
    (result : Option Json) :
    Forwards etype
      { sub with taken := sub.taken ++ [result], forwarder := afterTake etype buffer result } := by
  obtain ⟨queue, bounded⟩ := holds
  have sent : sub.sent.map .ok <+: (sub.taken ++ [result]).map etype.unmarshal := by
    rw [List.map_append, queue, List.map_append, List.append_assoc]
    exact List.prefix_append _ _
  rw [Forwards, afterTake]
  cases decoded : etype.unmarshal result with
  | error err => exact sent
  | ok val =>
      by_cases full : buffer.length = maxClientSubscriptionBuffer
      · simpa [full] using sent
      · simp only [full, if_false]
        constructor
        · simp [queue, decoded]
        · rw [List.length_append, List.length_singleton]
          omega

theorem keeps_forwards (etype : ElementType Value) :
    (next etype).Keeps (Forwards etype) := by
  intro action sub after stepped holds
  cases action with
  | start subid =>
      simp only [next] at stepped
      split at stepped <;> rename_i idle <;> cases stepped
      simp only [Forwards, idle] at holds
      simp [Forwards, holds]
  | handOut =>
      cases stepped
      exact holds
  | take result =>
      simp only [next] at stepped
      split at stepped
      · rename_i forwarding
        obtain ⟨_, rfl⟩ := Option.when_eq_some.mp stepped
        simp only [Forwards, forwarding] at holds
        exact forwards_afterTake holds result
      · cases stepped
  | send =>
      simp only [next] at stepped
      split at stepped
      · rename_i val buffer forwarding
        split at stepped <;> cases stepped
        · exact holds
        · simp only [Forwards, forwarding] at holds
          obtain ⟨queue, bounded⟩ := holds
          constructor
          · rw [queue, List.append_assoc, List.singleton_append]
          · rw [List.length_cons] at bounded
            omega
      · cases stepped
  | notice =>
      simp only [next] at stepped
      split at stepped
      · obtain ⟨_, rfl⟩ := Option.when_eq_some.mp stepped
        exact holds.sent
      · cases stepped
  | quit call =>
      simp only [next] at stepped
      split at stepped <;> rename_i quitting once <;> cases stepped
      · exact holds
      · exact holds.sent
      · exact holds.sent
  | cancel err =>
      simp only [next] at stepped
      split at stepped <;> cases stepped <;> exact holds
  | unsubscribe call =>
      simp only [next] at stepped
      split at stepped <;> cases stepped <;> exact holds
  | finish =>
      simp only [next] at stepped
      split at stepped <;> rename_i once <;> cases stepped
      rename_i err byForwarder call
      cases byForwarder with
      | true => exact holds.sent
      | false => exact holds
  | closeErr =>
      simp only [next] at stepped
      split at stepped <;> cases stepped
      exact holds
  | closeChannel =>
      obtain ⟨_, rfl⟩ := Option.when_eq_some.mp stepped
      exact holds

/-- A failed goroutine has met a closed channel of the user or the nil value of an interface. -/
def Excused (etype : ElementType Value) (sub : ClientSubscription Value) : Prop :=
  sub.crashed = true →
    sub.channelClosed = true ∨
      ∃ result ∈ sub.taken, ∃ val, etype.unmarshal result = .ok val ∧ etype.isNil val = true

/-- What waits for the channel was taken before. -/
theorem Forwards.taken_of_mem {etype : ElementType Value} {sub : ClientSubscription Value} {buffer : List Value}
    (holds : Forwards etype sub) (forwarding : sub.forwarder = .forwarding buffer) {val : Value}
    (waiting : val ∈ buffer) : ∃ result ∈ sub.taken, etype.unmarshal result = .ok val := by
  simp only [Forwards, forwarding] at holds
  have decoded : Except.ok val ∈ sub.taken.map etype.unmarshal := by
    rw [holds.1]
    exact List.mem_map_of_mem (List.mem_append_right _ waiting)
  exact List.mem_map.mp decoded

theorem Excused.congr {etype : ElementType Value} {sub after : ClientSubscription Value} (excused : Excused etype sub)
    (crashed : after.crashed = true → sub.crashed = true)
    (channel : sub.channelClosed = true → after.channelClosed = true) (taken : sub.taken ⊆ after.taken) :
    Excused etype after := by
  intro fails
  rcases excused (crashed fails) with closed | ⟨result, member, nil⟩
  · exact .inl (channel closed)
  · exact .inr ⟨result, taken member, nil⟩

/-- `quitWithError` does not send on a closed `err`. -/
theorem crashed_sendErr {sub : ClientSubscription Value} {err : Option RpcError} (open_err : sub.errClosed = false)
    (crashed : (sendErr sub err).crashed = true) : sub.crashed = true := by
  simpa [sendErr, open_err] using crashed

theorem keeps_excused (etype : ElementType Value) :
    (next etype).KeepsGiven (fun sub => sub.Quits ∧ Forwards etype sub) (Excused etype) := by
  intro action sub after stepped given excused
  obtain ⟨quits, forwards⟩ := given
  cases action with
  | start subid =>
      simp only [next] at stepped
      split at stepped <;> cases stepped
      exact excused
  | handOut =>
      cases stepped
      exact excused
  | take result =>
      simp only [next] at stepped
      split at stepped
      · obtain ⟨_, rfl⟩ := Option.when_eq_some.mp stepped
        exact excused.congr id id (List.subset_append_left _ _)
      · cases stepped
  | send =>
      simp only [next] at stepped
      split at stepped
      · rename_i val buffer forwarding
        split at stepped <;> rename_i fails <;> cases stepped
        · intro _
          rcases Bool.or_eq_true _ _ ▸ fails with nil | closed
          · obtain ⟨result, member, decoded⟩ := forwards.taken_of_mem forwarding List.mem_cons_self
            exact .inr ⟨result, member, val, decoded, nil⟩
          · exact .inl closed
        · exact excused
      · cases stepped
  | notice =>
      simp only [next] at stepped
      split at stepped
      · obtain ⟨_, rfl⟩ := Option.when_eq_some.mp stepped
        exact excused
      · cases stepped
  | quit call =>
      simp only [next] at stepped
      split at stepped <;> rename_i once <;> cases stepped
      · exact excused
      · have open_err := (quits.unfinished (by simp [once])).2
        exact excused.congr (crashed_sendErr open_err) id (List.Subset.refl _)
      · exact excused
  | cancel err =>
      simp only [next] at stepped
      split at stepped <;> rename_i once <;> cases stepped
      · have open_err := (quits.unfinished (by simp [once])).2
        exact excused.congr (crashed_sendErr open_err) id (List.Subset.refl _)
      · exact excused
  | unsubscribe call | closeErr =>
      simp only [next] at stepped
      split at stepped <;> cases stepped <;> exact excused
  | finish =>
      simp only [next] at stepped
      split at stepped <;> rename_i once <;> cases stepped
      have open_err := (quits.unfinished (by simp [once])).2
      exact excused.congr (crashed_sendErr open_err) id (List.Subset.refl _)
  | closeChannel =>
      obtain ⟨_, rfl⟩ := Option.when_eq_some.mp stepped
      exact excused.congr id (fun _ => rfl) (List.Subset.refl _)

/-- What holds of a subscription at any time. -/
theorem keeps_account (etype : ElementType Value) :
    (next etype).Keeps fun sub => (sub.Quits ∧ Forwards etype sub) ∧ Excused etype sub := by
  have both : (next etype).Keeps fun sub => sub.Quits ∧ Forwards etype sub := by
    intro action sub after stepped holds
    exact ⟨keeps_quits etype action sub after stepped holds.1, keeps_forwards etype action sub after stepped holds.2⟩
  exact both.and (keeps_excused etype)

end ClientSubscription

end SubstrateClient.Rpc
