import SubstrateClient.Rpc.RequestOp
import SubstrateClient.Rpc.Subscription

/-!
# The client of a connection

The goroutines of a client meet at channels: the callers of `Call`, `BatchCall`, `Notify` and `Subscribe`, the
dispatcher, the goroutine that reads the connection and those that forward notifications.  An action below is what one
of them does, or two of them together, between two points where it may have to wait.  Contexts may end and the
connection may deliver anything at any time.
-/

namespace SubstrateClient.Rpc

open JsonText Interleaving

/-! ## The dispatcher -/

/-- What the dispatcher goes on with after it has closed the connection. -/
inductive Goal where
  /-- `readErr`. -/
  | stopReading
  /-- `reconnected`, with the new connection. -/
  | reconnect (conn : Nat)
  /-- `close`. -/
  | quit

/-- Where the dispatcher is. -/
inductive Dispatch where
  /-- At the `select` of the loop. -/
  | selecting
  /-- In `handleMsg` or `handleBatch`, with the messages that are left and the calls found so far. -/
  | handling (msgs : List (Option Message)) (calls : List Message)
  /-- In `deliver`. -/
  | delivering (sub : Nat) (result : Option Json) (msgs : List (Option Message)) (calls : List Message)
  /-- In `cancelAllRequests`, with the subscriptions that are left. -/
  | cancelling (subs : List Nat) (err : RpcError) (goal : Goal)
  /-- In `drainRead`. -/
  | draining (goal : Goal)
  | exited
  /-- A nil pointer was used, or a channel closed twice. -/
  | crashed

def Dispatch.isSelecting : Dispatch → Bool
  | selecting => true
  | _ => false

/-- The goroutine in `read`. -/
inductive Reader where
  | reading
  /-- Before `readOp`. -/
  | offering (msgs : List (Option Message)) (batch : Bool)
  /-- Before `readErr`. -/
  | failed (err : RpcError)
  | stopped

/-- The dispatcher, its connection and its tables. -/
structure Core where
  opCount : Nat := 0
  subCount : Nat := 0
  /-- How often `nextID` was called. -/
  idCounter : Nat := 0
  /-- `handler.respWait`. -/
  respWait : List (Nat × Nat) := []
  /-- `handler.clientSubs`. -/
  clientSubs : List (List Char × Nat) := []
  /-- The goroutines of `startCallProc`, with the calls they serve. -/
  callProcs : List (List Message) := []
  dispatch : Dispatch := .selecting
  lastOp : Option Nat := none
  /-- `reqInitLock` is nil. -/
  locked : Bool := false
  reading : Bool := true
  reader : Reader := .reading
  /-- The connection that the dispatcher reads from. -/
  conn : Nat := 0
  connCount : Nat := 1
  closedConns : List Nat := []
  writeConn : Option Nat := some 0
  reqSent : Option (Option RpcError) := none
  closing : Bool := false
  didClose : Bool := false
  /-- `reconnectFunc` is not nil. -/
  canReconnect : Bool := true
  /-- The identifiers that may have reached the other side, each with its connection. -/
  wire : List (Nat × Nat) := []
  /-- The results of the notifications for each subscription, as they were handled. -/
  notified : Nat → List (Option Json) := fun _ => []

namespace Core

/-- `addRequestOp`. -/
def addRequestOp (core : Core) (o : Nat) (ids : List Nat) : Core :=
  { core with respWait := ids.foldl (fun table id => (id, o) :: table.filter fun entry => entry.1 ≠ id) core.respWait }

/-- `removeRequestOp`. -/
def removeRequestOp (core : Core) (ids : List Nat) : Core :=
  { core with respWait := core.respWait.filter fun entry => entry.1 ∉ ids }

/-- Messages go out on a connection. -/
def send (core : Core) (conn : Nat) (ids : List Nat) : Core :=
  { core with wire := core.wire ++ ids.map (conn, ·) }

/-- `writeConn` is nil or closed. -/
def disconnected (core : Core) : Bool :=
  match core.writeConn with
  | none => true
  | some conn => conn ∈ core.closedConns

/-- What a move of the request with these identifiers needs of the dispatcher, and what it does to it.  After
`reconnected` the dispatcher closes the old connection first, if it still reads from it. -/
def move (core : Core) (o : Nat) (op : RequestOp) : Move → Option Core
  | .abandon _ | .prepare | .giveUp | .write | .expire => some core
  | .refuse | .timeOutClosing => Option.when (core.closing = true) core
  | .accept =>
      Option.when (core.dispatch.isSelecting = true ∧ core.locked = false)
        { core.addRequestOp o op.ids with locked := true, lastOp := some o }
  | .check =>
      match core.writeConn with
      | some conn => Option.when (conn ∉ core.closedConns) (core.send conn op.ids)
      | none => none
  | .endCheck => Option.when (core.writeConn ≠ none) core
  | .redialFail _ => Option.when (core.disconnected = true) core
  | .redial conn =>
      Option.when (core.disconnected = true ∧ core.canReconnect = true ∧ conn = core.connCount)
        { core with connCount := core.connCount + 1 }
  | .redialRefuse =>
      match op.phase with
      | .dialled conn => Option.when (core.didClose = true) { core with closedConns := conn :: core.closedConns }
      | _ => none
  | .writeFail _ => some { core with writeConn := none }
  | .signal =>
      match op.phase with
      | .signalling err => Option.when (core.reqSent = none) { core with reqSent := some err }
      | _ => none
  | .timeOut => Option.when (core.dispatch.isSelecting = true) (core.removeRequestOp op.ids)
  | .reconnect => none

end Core

/-! ## Notifications and identifiers of subscriptions -/

/-- The fields of `subscriptionResult`. -/
inductive ResultField where
  | id | result
  deriving DecidableEq

def resultFields : List (List Char × ResultField) :=
  [(['s', 'u', 'b', 's', 'c', 'r', 'i', 'p', 't', 'i', 'o', 'n'], .id), (['r', 'e', 's', 'u', 'l', 't'], .result)]

/-- One member of an object, read into `subscriptionResult`; an identifier that is no string is an error. -/
def resultMember (target : Option (List Char × Option Json)) (entry : List Char × Json) :
    Option (List Char × Option Json) :=
  match target, fieldNamed resultFields entry.1, entry.2 with
  | some (_, result), some .id, .string id => some (id, result)
  | some target, some .id, .null => some target
  | some _, some .id, _ => none
  | some (id, _), some .result, value => some (id, some value)
  | target, _, _ => target

/-- `json.Unmarshal` into `subscriptionResult`. -/
def subscriptionResult : Option Json → Option (List Char × Option Json)
  | some (.object members) => members.foldl resultMember (some ([], none))
  | some .null => some ([], none)
  | _ => none

/-- `json.Unmarshal` of the result of a subscription into a string. -/
def subscriptionID : Option Json → Except RpcError (List Char)
  | some (.string subid) => .ok subid
  | some .null => .ok []
  | _ => .error (.failure "json: cannot unmarshal into string")

/-! ## The client -/

/-- A client with its requests and subscriptions. -/
structure Client (Value : Type) where
  ops : Nat → RequestOp := fun _ => {}
  subs : Nat → ClientSubscription Value := fun _ => {}
  core : Core := {}

/-- What happens next. -/
inductive Action where
  /-- A user makes a request; `Subscribe` makes a subscription as well. -/
  | begin (purpose : Purpose)
  | nextID (o : Nat)
  | move (o : Nat) (move : Move)
  /-- `dispatch` receives on `reconnected`. -/
  | acceptReconnect (o : Nat)
  /-- `wait` receives on `resp`. -/
  | receive (o : Nat)
  | acceptSent
  | acceptRead
  | acceptReadErr
  | acceptClose
  /-- The next message of a batch, or the end of it. -/
  | handle
  /-- `deliver` meets `forward`. -/
  | deliver
  /-- `deliver` sees that `quit` is closed. -/
  | drop
  /-- `cancelAllRequests` comes to the subscription. -/
  | cancelSub (sub : Nat)
  /-- The end of `clientConn.close`. -/
  | closeConn
  | drain
  | drained
  | read (msgs : List (Option Message)) (batch : Bool)
  | readFail (err : RpcError)
  /-- A goroutine of `startCallProc` ends. -/
  | serve (proc : Nat)
  /-- The goroutine of a subscription, or a user with it, moves on its own. -/
  | subscription (sub : Nat) (action : SubscriptionAction)

namespace Client

variable {Value : Type}

def setOp (client : Client Value) (o : Nat) (op : RequestOp) : Client Value :=
  { client with ops := Function.update client.ops o op }

def setSub (client : Client Value) (sub : Nat) (value : ClientSubscription Value) : Client Value :=
  { client with subs := Function.update client.subs sub value }

/-- The dispatcher goes on somewhere else. -/
def goto (client : Client Value) (dispatch : Dispatch) : Client Value :=
  { client with core := { client.core with dispatch } }

/-- A new request. -/
def newOp (client : Client Value) (purpose : Purpose) : Option (Client Value) := do
  let op ← RequestOp.next (.begin purpose) (client.ops client.core.opCount)
  some
    { client.setOp client.core.opCount op with
      core := { client.core with opCount := client.core.opCount + 1 } }

/-- The first loop of `cancelAllRequests`; nothing is left if a channel was closed already. -/
def cancelRequests (err : RpcError) :
    List (Nat × Nat) → (didClose : List Nat) → (Nat → RequestOp) → Option (Nat → RequestOp)
  | [], _, ops => some ops
  | (_, o) :: table, didClose, ops =>
      if o ∈ didClose then cancelRequests err table didClose ops
      else do
        let op ← RequestOp.next (.close (some err)) (ops o)
        cancelRequests err table (o :: didClose) (Function.update ops o op)

/-- `clientConn.close`, up to the subscriptions. -/
def close (client : Client Value) (err : RpcError) (inflightReq : Option Nat) (goal : Goal) : Client Value :=
  match cancelRequests err client.core.respWait inflightReq.toList client.ops with
  | none => client.goto .crashed
  | some ops =>
      { client with
        ops
        core := { client.core with
          respWait := []
          clientSubs := []
          dispatch := .cancelling (client.core.clientSubs.map Prod.snd) err goal } }

/-- A new connection for the dispatcher, with the request in flight. -/
def connect (client : Client Value) (conn : Nat) : Client Value :=
  match client.core.lastOp with
  | none => client.goto .crashed
  | some o =>
      let core :=
        { client.core with
          conn
          reading := true
          reader := .reading
          respWait := []
          clientSubs := []
          callProcs := []
          dispatch := .selecting }
      { client with core := core.addRequestOp o (client.ops o).ids }

/-- The answer to `Subscribe`: its channel is closed in any case, and the subscription started if the server has made
one. -/
def answerSubscribe (etype : Nat → ElementType Value) (client : Client Value) (o sub : Nat)
    (msg : Message) : Option (Client Value) :=
  match msg.error, subscriptionID msg.result with
  | some error, _ => (RequestOp.next (.close (some (.response error))) (client.ops o)).map (client.setOp o)
  | none, .error err => (RequestOp.next (.close (some err)) (client.ops o)).map (client.setOp o)
  | none, .ok subid => do
      let op ← RequestOp.next (.close none) (client.ops o)
      let started ← ClientSubscription.next (etype sub) (.start subid) (client.subs sub)
      let clientSubs := (subid, sub) :: client.core.clientSubs.filter fun entry => entry.1 ≠ subid
      some ({ client with core := { client.core with clientSubs } }.setOp o op |>.setSub sub started)

/-- The answer to a request, where the dispatcher may have to wait for room in the channel. -/
def answer (etype : Nat → ElementType Value) (client : Client Value) (o : Nat)
    (msg : Message) : Option (Client Value) :=
  if (client.ops o).closed then
    some (client.goto .crashed)
  else
    match (client.ops o).purpose.sub with
    | none => (RequestOp.next (.deliver msg) (client.ops o)).map (client.setOp o)
    | some sub => client.answerSubscribe etype o sub msg

/-- `handleResponse`. -/
def handleResponse (etype : Nat → ElementType Value) (client : Client Value) (msg : Message) :
    Option (Client Value) :=
  match msg.key >>= fun id => client.core.respWait.lookup id with
  | none => some client
  | some o =>
      let respWait := client.core.respWait.filter fun entry => some entry.1 ≠ msg.key
      { client with core := { client.core with respWait } }.answer etype o msg

/-- `handleImmediate` for the next message. -/
def handleImmediate (etype : Nat → ElementType Value) (client : Client Value)
    (msgs : List (Option Message)) (calls : List Message) (msg : Message) : Option (Client Value) :=
  if msg.isNotification then
    match subscriptionResult msg.params with
    | none => some (client.goto (.handling msgs calls))
    | some (subid, result) =>
        match client.core.clientSubs.lookup subid with
        | none => some (client.goto (.handling msgs calls))
        | some sub =>
            some
              { client with core := { client.core with
                  notified := Function.update client.core.notified sub (client.core.notified sub ++ [result])
                  dispatch := .delivering sub result msgs calls } }
  else if msg.isResponse then
    handleResponse etype (client.goto (.handling msgs calls)) msg
  else
    some (client.goto (.handling msgs (calls ++ [msg])))

/-- The system of a client. -/
def next (etype : Nat → ElementType Value) : System (Client Value) Action
  | .begin purpose, client =>
      match purpose with
      | .call | .batch | .notify => client.newOp purpose
      | .subscribe sub => do
          let client ← client.newOp purpose
          Option.when (sub = client.core.subCount)
            { client with core := { client.core with subCount := sub + 1 } }
      | .unsubscribe _ => none
  | .nextID o, client => do
      let op ← RequestOp.next (.nextID ((client.core.idCounter + 1) % 2 ^ 32)) (client.ops o)
      some { client.setOp o op with core := { client.core with idCounter := client.core.idCounter + 1 } }
  | .move o move, client => do
      let op ← RequestOp.next (.move move) (client.ops o)
      let core ← client.core.move o (client.ops o) move
      some { client.setOp o op with core }
  | .acceptReconnect o, client =>
      match client.core.dispatch, (client.ops o).phase with
      | .selecting, .dialled conn => do
          let op ← RequestOp.next (.move .reconnect) (client.ops o)
          let client :=
            { client.setOp o op with core := { client.core.send conn op.ids with writeConn := some conn } }
          if client.core.reading then
            some (client.close .clientReconnected client.core.lastOp (.reconnect conn))
          else
            some (client.connect conn)
      | _, _ => none
  | .receive o, client => do
      let op ← RequestOp.next .receive (client.ops o)
      match op.phase, op.purpose with
      | .returned none, .subscribe sub => do
          let returned ← ClientSubscription.next (etype sub) .handOut (client.subs sub)
          some (client.setOp o op |>.setSub sub returned)
      | _, _ => some (client.setOp o op)
  | .acceptSent, client =>
      match client.core.dispatch, client.core.reqSent with
      | .selecting, some err =>
          match client.core.lastOp, err with
          | none, some _ => some (client.goto .crashed)
          | some o, some _ =>
              some
                { client with core :=
                    { client.core.removeRequestOp (client.ops o).ids with
                      reqSent := none, locked := false, lastOp := none } }
          | _, none =>
              some { client with core := { client.core with reqSent := none, locked := false, lastOp := none } }
      | _, _ => none
  | .acceptRead, client =>
      match client.core.dispatch, client.core.reader with
      | .selecting, .offering msgs batch =>
          let client := { client with core := { client.core with reader := .reading } }
          if batch then
            if msgs.isEmpty then
              some { client with core := { client.core with callProcs := client.core.callProcs ++ [[]] } }
            else
              some (client.goto (.handling msgs []))
          else
            some (client.goto (.handling (msgs.take 1) []))
      | _, _ => none
  | .acceptReadErr, client =>
      match client.core.dispatch, client.core.reader with
      | .selecting, .failed err =>
          some
            ({ client with core := { client.core with reader := .stopped } }.close err client.core.lastOp .stopReading)
      | _, _ => none
  | .acceptClose, client =>
      match client.core.dispatch with
      | .selecting =>
          let client := { client with core := { client.core with closing := true } }
          if client.core.reading then
            some (client.close .clientQuit none .quit)
          else
            some ({ client with core := { client.core with didClose := true } }.goto .exited)
      | _ => none
  | .handle, client =>
      match client.core.dispatch with
      | .handling [] calls =>
          let callProcs := if calls.isEmpty then client.core.callProcs else client.core.callProcs ++ [calls]
          some ({ client with core := { client.core with callProcs } }.goto .selecting)
      | .handling (none :: _) _ => some (client.goto .crashed)
      | .handling (some msg :: msgs) calls => client.handleImmediate etype msgs calls msg
      | _ => none
  | .deliver, client =>
      match client.core.dispatch with
      | .delivering sub result msgs calls => do
          let taken ← ClientSubscription.next (etype sub) (.take result) (client.subs sub)
          some (client.setSub sub taken |>.goto (.handling msgs calls))
      | _ => none
  | .drop, client =>
      match client.core.dispatch with
      | .delivering sub _ msgs calls =>
          Option.when ((client.subs sub).quit = true) (client.goto (.handling msgs calls))
      | _ => none
  | .cancelSub sub, client =>
      match client.core.dispatch with
      | .cancelling subs err goal => do
          let cancelled ← ClientSubscription.next (etype sub) (.cancel err) (client.subs sub)
          Option.when (sub ∈ subs) (client.setSub sub cancelled |>.goto (.cancelling (subs.erase sub) err goal))
      | _ => none
  | .closeConn, client =>
      match client.core.dispatch with
      | .cancelling [] _ goal =>
          let closedConns := client.core.conn :: client.core.closedConns
          Option.when (client.core.callProcs = []) <|
            match goal with
            | .stopReading =>
                { client with core := { client.core with closedConns, reading := false, dispatch := .selecting } }
            | goal => { client with core := { client.core with closedConns, dispatch := .draining goal } }
      | _ => none
  | .drain, client =>
      match client.core.dispatch, client.core.reader with
      | .draining _, .offering _ _ => some { client with core := { client.core with reader := .reading } }
      | _, _ => none
  | .drained, client =>
      match client.core.dispatch, client.core.reader with
      | .draining goal, .failed _ =>
          let client := { client with core := { client.core with reader := .stopped } }
          match goal with
          | .stopReading => some (client.goto .selecting)
          | .reconnect conn => some (client.connect conn)
          | .quit => some ({ client with core := { client.core with didClose := true } }.goto .exited)
      | _, _ => none
  | .read msgs batch, client =>
      match client.core.reader with
      | .reading => some { client with core := { client.core with reader := .offering msgs batch } }
      | _ => none
  | .readFail err, client =>
      match client.core.reader with
      | .reading => some { client with core := { client.core with reader := .failed err } }
      | _ => none
  | .serve proc, client =>
      Option.when (proc < client.core.callProcs.length)
        { client with core := { client.core with callProcs := client.core.callProcs.eraseIdx proc } }
  | .subscription sub action, client =>
      match action with
      | .send | .notice | .closeErr | .closeChannel =>
          (ClientSubscription.next (etype sub) action (client.subs sub)).map (client.setSub sub)
      | .finish =>
          match (client.subs sub).quitOnce with
          | .running _ _ call =>
              match (client.ops call).phase with
              | .returned _ =>
                  (ClientSubscription.next (etype sub) .finish (client.subs sub)).map (client.setSub sub)
              | _ => none
          | _ => none
      | .quit call | .unsubscribe call => do
          let quit ← ClientSubscription.next (etype sub) action (client.subs sub)
          let client' := client.setSub sub quit
          match (client.subs sub).quitOnce, quit.quitOnce with
          | .fresh, .running _ _ _ =>
              if call = client.core.opCount then client'.newOp (.unsubscribe sub) else none
          | _, _ => some client'
      | _ => none

/-- What the goroutine of a subscription or a user with it does is an action of the subscription, and makes a request
at most.  The body of `quitOnce` ends after its call has returned. -/
theorem subscription_cases {etype : Nat → ElementType Value} {sub : Nat}
    {action : SubscriptionAction} {client after : Client Value}
    (stepped : next etype (.subscription sub action) client = some after) :
    ∃ moved, ClientSubscription.next (etype sub) action (client.subs sub) = some moved ∧
      (∀ result, action ≠ .take result) ∧
      (action = .finish → ∃ err byForwarder call result,
        (client.subs sub).quitOnce = .running err byForwarder call ∧ (client.ops call).phase = .returned result) ∧
      (after = client.setSub sub moved ∨ (client.setSub sub moved).newOp (.unsubscribe sub) = some after) := by
  have alone : (ClientSubscription.next (etype sub) action (client.subs sub)).map (client.setSub sub) = some after →
      ∃ moved, ClientSubscription.next (etype sub) action (client.subs sub) = some moved ∧
        after = client.setSub sub moved := by
    intro mapped
    obtain ⟨moved, step, rfl⟩ := Option.map_eq_some_iff.mp mapped
    exact ⟨moved, step, rfl⟩
  cases action with
  | send | notice | closeErr | closeChannel =>
      obtain ⟨moved, step, same⟩ := alone stepped
      exact ⟨moved, step, by simp, by simp, .inl same⟩
  | finish =>
      simp only [next] at stepped
      split at stepped
      · rename_i running
        split at stepped
        · rename_i returned
          obtain ⟨moved, step, same⟩ := alone stepped
          exact ⟨moved, step, by simp, fun _ => ⟨_, _, _, _, running, returned⟩, .inl same⟩
        · cases stepped
      · cases stepped
  | quit call | unsubscribe call =>
      obtain ⟨moved, step, made⟩ := Option.bind_eq_some_iff.mp stepped
      refine ⟨moved, step, by simp, by simp, ?_⟩
      split at made
      · split at made
        · exact .inr made
        · cases made
      · cases made
        exact .inl rfl
  | start subid | handOut | take result | cancel err => cases stepped

end Client

end SubstrateClient.Rpc
