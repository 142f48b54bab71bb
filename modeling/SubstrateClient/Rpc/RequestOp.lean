import SubstrateClient.Interleaving
import SubstrateClient.Rpc.Message

/-!
# Requests of a client

A request is made, sent and waited for by one goroutine, answered by the dispatcher and cancelled by it.  The phase
says where the goroutine is; it never goes back.
-/

namespace SubstrateClient.Rpc

open Interleaving

/-- What a request is made for. -/
inductive Purpose where
  /-- `CallContext`. -/
  | call
  /-- `BatchCallContext`. -/
  | batch
  /-- `Notify`. -/
  | notify
  /-- `Subscribe`, with the subscription in `op.sub`. -/
  | subscribe (sub : Nat)
  /-- `requestUnsubscribe`, whose call has no deadline. -/
  | unsubscribe (sub : Nat)
  deriving DecidableEq, Repr

/-- `op.sub`. -/
def Purpose.sub : Purpose → Option Nat
  | subscribe sub => some sub
  | _ => none

/-- The context of the request can end. -/
def Purpose.hasDeadline : Purpose → Bool
  | unsubscribe _ => false
  | _ => true

/-- Where the goroutine of a request is. -/
inductive Phase where
  | unborn
  /-- Making the messages. -/
  | preparing
  /-- In `send`, before `reqInit`. -/
  | sending
  /-- In `checkWriteConn`, with the write lock. -/
  | checking
  /-- In `reconnect`, with a new connection. -/
  | dialled (conn : Nat)
  /-- In `Write`. -/
  | writing
  /-- Before `reqSent`. -/
  | signalling (err : Option RpcError)
  /-- In `wait`. -/
  | waiting
  /-- In `wait`, after the context has ended. -/
  | expired
  | returned (err : Option RpcError)
  /-- A nil response was used. -/
  | crashed

namespace Phase

/-- The goroutine has taken the write lock and has not signalled yet. -/
def holds : Phase → Bool
  | checking | dialled _ | writing | signalling _ => true
  | _ => false

/-- The messages may be on the wire. -/
def written : Phase → Bool
  | unborn | preparing | sending | checking | dialled _ => false
  | _ => true

end Phase

/-- `requestOp`, with the goroutine that made it.  `resp` is what waits in the channel and `got` what was received
from it. -/
structure RequestOp where
  purpose : Purpose := .call
  ids : List Nat := []
  err : Option RpcError := none
  resp : List Message := []
  /-- `resp` is closed. -/
  closed : Bool := false
  phase : Phase := .unborn
  got : List Message := []

/-- A move of the goroutine from one phase to the next. -/
inductive Move where
  /-- The parameters could not be marshalled. -/
  | abandon (err : RpcError)
  | prepare
  /-- The context ends before `reqInit`. -/
  | giveUp
  /-- The client is closing. -/
  | refuse
  /-- `dispatch` receives on `reqInit`. -/
  | accept
  /-- The connection is fine. -/
  | check
  /-- The context ends in `checkWriteConn`. -/
  | endCheck
  /-- There is no connection and no new one either. -/
  | redialFail (err : RpcError)
  | redial (conn : Nat)
  /-- `dispatch` receives on `reconnected`. -/
  | reconnect
  /-- The client was closed in the meantime. -/
  | redialRefuse
  | write
  | writeFail (err : RpcError)
  /-- Send on `reqSent`. -/
  | signal
  /-- The context ends in `wait`. -/
  | expire
  /-- `dispatch` receives on `reqTimeout`. -/
  | timeOut
  /-- The client is closing, so that `reqTimeout` is left out. -/
  | timeOutClosing

/-- What a party does with a request. -/
inductive OpAction where
  | begin (purpose : Purpose)
  | nextID (id : Nat)
  | move (move : Move)
  /-- `dispatch` sends on `resp`. -/
  | deliver (msg : Message)
  /-- `dispatch` closes `resp`. -/
  | close (err : Option RpcError)
  /-- `wait` receives on `resp`. -/
  | receive

namespace RequestOp

/-- What `resp` has room for: one response to every identifier, and none where `Subscribe` waits for the channel to be
closed. -/
def capacity (op : RequestOp) : Nat :=
  match op.purpose.sub with
  | none => op.ids.length
  | some _ => 0

/-- After `reqSent`: an error is returned, and what expects no response does not wait. -/
def afterSignal (op : RequestOp) : Option RpcError → Phase
  | some err => .returned (some err)
  | none => if op.ids = [] then .returned none else .waiting

/-- The phase that a move leads to. -/
def advance (op : RequestOp) (move : Move) : Option Phase :=
  match move, op.phase with
  | .abandon err, .preparing => some (.returned (some err))
  | .prepare, .preparing =>
      Option.when (op.purpose = .batch ∨ op.purpose = .notify ∨ op.ids.length = 1) .sending
  | .giveUp, .sending => Option.when (op.purpose.hasDeadline = true) (.returned (some .context))
  | .refuse, .sending => some (.returned (some .clientQuit))
  | .accept, .sending => some .checking
  | .check, .checking => some .writing
  | .endCheck, .checking => Option.when (op.purpose.hasDeadline = true) (.signalling (some .context))
  | .redialFail err, .checking => some (.signalling (some err))
  | .redial conn, .checking => some (.dialled conn)
  | .reconnect, .dialled _ => some .writing
  | .redialRefuse, .dialled _ => some (.signalling (some .clientQuit))
  | .write, .writing => some (.signalling none)
  | .writeFail err, .writing => some (.signalling (some err))
  | .signal, .signalling err => some (op.afterSignal err)
  | .expire, .waiting => Option.when (op.purpose.hasDeadline = true) .expired
  | .timeOut, .expired => some (.returned (some .context))
  | .timeOutClosing, .expired => some (.returned (some .context))
  | _, _ => none

/-- A message from `resp`: `wait` returns it together with `op.err`. -/
def afterMessage (op : RequestOp) (msg : Message) (later : List Message) : RequestOp :=
  match op.err with
  | some err => { op with resp := later, phase := .returned (some err) }
  | none =>
      { op with
        resp := later
        got := op.got ++ [msg]
        phase := if op.got.length + 1 = op.ids.length then .returned none else .waiting }

/-- A closed `resp`: only `Subscribe` can do without a message. -/
def afterClose (op : RequestOp) : Phase :=
  match op.err, op.purpose.sub with
  | some err, _ => .returned (some err)
  | none, some _ => .returned none
  | none, none => .crashed

/-- The system of one request. -/
def next : System RequestOp OpAction
  | .begin purpose, op =>
      match op.phase with
      | .unborn => some { purpose, phase := .preparing }
      | _ => none
  | .nextID id, op =>
      match op.phase with
      | .preparing => some { op with ids := if op.purpose = .notify then [] else op.ids ++ [id] }
      | _ => none
  | .move move, op => (op.advance move).map fun phase => { op with phase }
  | .deliver msg, op =>
      Option.when (op.closed = false ∧ op.resp.length < op.capacity) { op with resp := op.resp ++ [msg] }
  | .close err, op => Option.when (op.closed = false) { op with err, closed := true }
  | .receive, op =>
      match op.phase, op.resp with
      | .waiting, msg :: later => some (op.afterMessage msg later)
      | .waiting, [] => Option.when (op.closed = true) { op with phase := op.afterClose }
      | _, _ => none

end RequestOp

end SubstrateClient.Rpc
