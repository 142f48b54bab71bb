import Mathlib.Data.List.Forall2
import SubstrateClient.ListLookup
import SubstrateClient.Rpc.Http

/-!
# Serving requests

The other side of a connection: services are registered under names, a call is looked up, its arguments are read and
the method is run.  A batch is answered as a whole, after its calls were run one after the other.
-/

namespace SubstrateClient.Rpc

open JsonText

/-! ## Errors of the server -/

/-- `defaultErrorCode`. -/
def defaultErrorCode : Int := -32000

/-- An error, with the code of those that have one. -/
structure Fault where
  code : Int := defaultErrorCode
  message : List Char
  /-- The code is an `int`. -/
  fits : -2 ^ 63 ≤ code ∧ code < 2 ^ 63 := by decide

def methodNotFoundError (method : List Char) : Fault :=
  { code := -32601, message := "the method ".toList ++ method ++ " does not exist/is not available".toList }

def invalidRequestError (message : String) : Fault := { code := -32600, message := message.toList }

def invalidParamsError (message : List Char) : Fault := { code := -32602, message }

/-- `errorMessage`. -/
def errorMessage (fault : Fault) : Message :=
  { version := vsn, id := some .null, error := some { code := fault.code, message := fault.message } }

/-- `errorResponse`. -/
def Message.errorResponse (msg : Message) (fault : Fault) : Message := { errorMessage fault with id := msg.id }

/-- `response`, with what `json.Marshal` makes of the result. -/
def Message.response (msg : Message) : Except (List Char) Json → Message
  | .ok enc => { version := vsn, id := msg.id, result := some enc }
  | .error message => msg.errorResponse { message }

/-! ## Methods -/

/-- The type of an argument: whether it is a pointer, its zero value and how it is read. -/
structure ArgType (Arg : Type) where
  pointer : Bool
  zero : Arg
  unmarshal : Json → Except (List Char) Arg

/-- How a method ends. -/
inductive CallResult where
  /-- A result, with what `json.Marshal` makes of it. -/
  | value (enc : Except (List Char) Json)
  | error (fault : Fault)
  | panic

/-- `callback`.  A method may use and change the world around the server, and returns. -/
structure Callback (World Arg : Type) where
  argTypes : List (ArgType Arg)
  isSubscribe : Bool
  fn : List Arg → World → CallResult × World

variable {World Arg : Type}

/-- `parseArgumentArray`, from the argument with the index on. -/
def parseArgumentArray : (index : Nat) → List Json → List (ArgType Arg) → Except (List Char) (List Arg)
  | _, [], _ => .ok []
  | index, _ :: _, [] => .error ("too many arguments, want at most ".toList ++ Nat.toDigits 10 index)
  | index, item :: items, type :: types =>
      match type.unmarshal item with
      | .error err => .error ("invalid argument ".toList ++ Nat.toDigits 10 index ++ ": ".toList ++ err)
      | .ok arg => (parseArgumentArray (index + 1) items types).map (arg :: ·)

/-- The arguments that are missing, from the one with the index on: pointers are nil. -/
def missingArguments : (index : Nat) → List (ArgType Arg) → Except (List Char) (List Arg)
  | _, [] => .ok []
  | index, type :: types =>
      if type.pointer then (missingArguments (index + 1) types).map (type.zero :: ·)
      else .error ("missing value for required argument ".toList ++ Nat.toDigits 10 index)

/-- `parsePositionalArguments`. -/
def parsePositionalArguments (rawArgs : Option Json) (types : List (ArgType Arg)) : Except (List Char) (List Arg) := do
  let args ← match rawArgs with
    | none | some .null => .ok []
    | some (.array items) => parseArgumentArray 0 items types
    | some _ => .error "non-array args".toList
  let missing ← missingArguments args.length (types.drop args.length)
  pure (args ++ missing)

/-! ## Services -/

/-- `service`, with the newest callbacks first. -/
structure Service (World Arg : Type) where
  callbacks : List (List Char × Callback World Arg) := []
  subscriptions : List (List Char × Callback World Arg) := []

/-- `serviceRegistry`, with the newest services first. -/
structure ServiceRegistry (World Arg : Type) where
  services : List (List Char × Service World Arg) := []

/-- An exported method of a receiver, with what `newCallback` makes of it. -/
structure Method (World Arg : Type) where
  name : List Char
  callback : Option (Callback World Arg)

/-- `formatName`, with `unicode.ToLower`. -/
def formatName (toLower : Char → Char) : List Char → List Char
  | [] => []
  | first :: later => toLower first :: later

/-- One turn of the loop in `suitableCallbacks`: of two methods with one formatted name, the map keeps the later. -/
def addSuitable (toLower : Char → Char) (callbacks : List (List Char × Callback World Arg))
    (method : Method World Arg) : List (List Char × Callback World Arg) :=
  match method.callback with
  | none => callbacks
  | some cb =>
      let name := formatName toLower method.name
      callbacks.filter (fun entry => entry.1 ≠ name) ++ [(name, cb)]

/-- `suitableCallbacks`, a map by formatted name. -/
def suitableCallbacks (toLower : Char → Char) (methods : List (Method World Arg)) :
    List (List Char × Callback World Arg) :=
  methods.foldl (addSuitable toLower) []

namespace ServiceRegistry

/-- One callback of a service. -/
def addCallback (svc : Service World Arg) (entry : List Char × Callback World Arg) : Service World Arg :=
  if entry.2.isSubscribe then { svc with subscriptions := entry :: svc.subscriptions }
  else { svc with callbacks := entry :: svc.callbacks }

/-- `registerName`, without the texts of its errors.  The names of its callbacks differ, so that the order in which the
map is gone through does not matter. -/
def registerName (toLower : Char → Char) (registry : ServiceRegistry World Arg) (name : List Char)
    (methods : List (Method World Arg)) : Option (ServiceRegistry World Arg) :=
  let callbacks := suitableCallbacks toLower methods
  if name = [] ∨ callbacks = [] then none
  else
    let svc := (registry.services.lookup name).getD {}
    some { services := (name, callbacks.foldl addCallback svc) :: registry.services }

/-- `callback`: `SplitN` cuts the name at the first separator. -/
def callback (registry : ServiceRegistry World Arg) (method : List Char) : Option (Callback World Arg) :=
  match method.span (· ≠ '_') with
  | (_, []) => none
  | (service, _ :: name) => registry.services.lookup service >>= fun svc => svc.callbacks.lookup name

end ServiceRegistry

/-- A server with a method that ends at once. -/
def pingRegistry : ServiceRegistry Unit Json :=
  { services := [(['a'], { callbacks := [(['p', 'i', 'n', 'g'],
      ⟨[], false, fun _ world => (.value (.ok .null), world)⟩)] })] }

/-! ## Calls -/

/-- `runMethod`. -/
def runMethod (msg : Message) (callb : Callback World Arg) (args : List Arg) (world : World) : Message × World :=
  match callb.fn args world with
  | (.value enc, world) => (msg.response enc, world)
  | (.error fault, world) => (msg.errorResponse fault, world)
  | (.panic, world) => (msg.errorResponse { message := "method handler crashed".toList }, world)

/-- `handleCall`. -/
def handleCall (registry : ServiceRegistry World Arg) (msg : Message) (world : World) : Message × World :=
  match registry.callback msg.method with
  | none => (msg.errorResponse (methodNotFoundError msg.method), world)
  | some callb =>
      match parsePositionalArguments msg.params callb.argTypes with
      | .error err => (msg.errorResponse (invalidParamsError err), world)
      | .ok args => runMethod msg callb args world

/-- `handleCallMsg`. -/
def handleCallMsg (registry : ServiceRegistry World Arg) (msg : Message) (world : World) : Option Message × World :=
  if msg.isNotification then
    (none, (handleCall registry msg world).2)
  else if msg.isCall then
    let (resp, world) := handleCall registry msg world
    (some resp, world)
  else if msg.hasValidID then
    (some (msg.errorResponse (invalidRequestError "invalid request")), world)
  else
    (some (errorMessage (invalidRequestError "invalid request")), world)

/-- The loop over the calls of a batch. -/
def handleCalls (registry : ServiceRegistry World Arg) : List Message → World → List Message × World
  | [], world => ([], world)
  | msg :: later, world =>
      let (answer, world) := handleCallMsg registry msg world
      let (answers, world) := handleCalls registry later world
      (answer.toList ++ answers, world)

/-- What is written on the connection. -/
inductive Reply where
  | nothing
  | single (msg : Message)
  | batch (msgs : List Message)

/-- The messages that `handleImmediate` leaves over.  Here nobody waits for responses or notifications, so that the
others have no effect; a nil message is used. -/
def remaining : List (Option Message) → Option (List Message)
  | [] => some []
  | none :: _ => none
  | some msg :: later =>
      (remaining later).map fun calls => if msg.isNotification || msg.isResponse then calls else msg :: calls

/-- `handleBatch`. -/
def handleBatch (registry : ServiceRegistry World Arg) (msgs : List (Option Message)) (world : World) :
    Option (Reply × World) :=
  if msgs = [] then some (.single (errorMessage (invalidRequestError "empty batch")), world)
  else
    (remaining msgs).map fun calls =>
      let (answers, world) := handleCalls registry calls world
      (if answers = [] then .nothing else .batch answers, world)

/-- `handleMsg`. -/
def handleMsg (registry : ServiceRegistry World Arg) (msg : Option Message) (world : World) :
    Option (Reply × World) :=
  (remaining [msg]).map fun calls =>
    let (answers, world) := handleCalls registry calls world
    (match answers with
      | [] => .nothing
      | answer :: _ => .single answer, world)

/-- `serveSingleRequest`, after the value was read: `isBatch` says whether it is an array. -/
def serveSingleRequest (registry : ServiceRegistry World Arg) (value : Json) (world : World) : Option (Reply × World) :=
  match value with
  | .array items => handleBatch registry (items.map unmarshalMessage) world
  | _ => handleMsg registry (unmarshalMessage value) world

/-! ## Writing messages -/

/-- An integer, as `encoding/json` writes it. -/
def intDigits : Int → List Char
  | .ofNat number => Nat.toDigits 10 number
  | .negSucc number => '-' :: Nat.toDigits 10 (number + 1)

/-- `json.Marshal` of `jsonError`. -/
def marshalError (error : JsonError) : Json :=
  .object ([(['c', 'o', 'd', 'e'], .number (intDigits error.code)),
    (['m', 'e', 's', 's', 'a', 'g', 'e'], .string error.message)] ++
    error.data.toList.map fun data => (['d', 'a', 't', 'a'], data))

/-- `json.Marshal` of `jsonrpcMessage`, where every field has `omitempty`. -/
def marshalMessage (msg : Message) : Json :=
  .object ((if msg.version = [] then [] else [(['j', 's', 'o', 'n', 'r', 'p', 'c'], .string msg.version)]) ++
    (msg.id.toList.map fun id => (['i', 'd'], id)) ++
    (if msg.method = [] then [] else [(['m', 'e', 't', 'h', 'o', 'd'], .string msg.method)]) ++
    (msg.params.toList.map fun params => (['p', 'a', 'r', 'a', 'm', 's'], params)) ++
    (msg.error.toList.map fun error => (['e', 'r', 'r', 'o', 'r'], marshalError error)) ++
    (msg.result.toList.map fun result => (['r', 'e', 's', 'u', 'l', 't'], result)))

/-- `newMessage`, with the parameters that were given. -/
def newMessage (id : Nat) (method : List Char) (paramsIn : Option (List Json)) : Message :=
  { version := vsn, id := some (.number (Nat.toDigits 10 id)), method, params := paramsIn.map .array }

/-- The body of an HTTP response, if there is one. -/
def Reply.body : Reply → Option Json
  | nothing => none
  | single msg => some (marshalMessage msg)
  | batch msgs => some (.array (msgs.map marshalMessage))

/-- `maxRequestContentLength`. -/
def maxRequestContentLength : Nat := 1024 * 1024 * 5

/-- `ServeHTTP` for what the client of this package sends: `validateRequest` looks at the length of the body, and a
server that was stopped writes nothing. -/
def serveHTTP (running : Bool) (registry : ServiceRegistry World Arg) (contentLength : Nat) (value : Json)
    (world : World) : Option (HttpReply × World) :=
  if maxRequestContentLength < contentLength then some (.failed (.failure "413 Request Entity Too Large"), world)
  else if running then
    (serveSingleRequest registry value world).map fun (reply, world) => (.body reply.body, world)
  else some (.body none, world)

/-! ## Every call is answered -/

/-- The answer to a call: a response to it, or to nobody if the call has no identifier. -/
structure Answers (call answer : Message) : Prop where
  version : answer.version = vsn
  id : answer.id = if call.hasValidID then call.id else some .null
  method : answer.method = []
  params : answer.params = none
  /-- There is an error or a result, and not both. -/
  outcome : answer.error.isSome = !answer.result.isSome
  error : ∀ error ∈ answer.error, error.data = none ∧ -2 ^ 63 ≤ error.code ∧ error.code < 2 ^ 63

theorem Answers.isResponse {call answer : Message} (answers : Answers call answer) : answer.isResponse = true := by
  have valid : answer.hasValidID = true := by
    rw [Message.hasValidID, answers.id]
    by_cases call_valid : call.hasValidID = true
    · rw [if_pos call_valid]
      exact call_valid
    · rw [if_neg call_valid]
  have outcome := answers.outcome
  cases result : answer.result <;>
    simp_all [Message.isResponse, answers.method, answers.params]

theorem answers_errorResponse {msg : Message} (valid : msg.hasValidID = true) (fault : Fault) :
    Answers msg (msg.errorResponse fault) := by
  refine ⟨rfl, ?_, rfl, rfl, rfl, ?_⟩
  · rw [if_pos valid, Message.errorResponse]
  · rintro error ⟨⟩
    exact ⟨rfl, fault.fits⟩

theorem answers_response {msg : Message} (valid : msg.hasValidID = true) (enc : Except (List Char) Json) :
    Answers msg (msg.response enc) := by
  cases enc with
  | error message => exact answers_errorResponse valid _
  | ok enc =>
      refine ⟨rfl, ?_, rfl, rfl, rfl, ?_⟩
      · rw [if_pos valid, Message.response]
      · rintro error ⟨⟩

theorem answers_handleCall (registry : ServiceRegistry World Arg) {msg : Message} (valid : msg.hasValidID = true)
    (world : World) : Answers msg (handleCall registry msg world).1 := by
  rw [handleCall]
  split
  · exact answers_errorResponse valid _
  · split
    · exact answers_errorResponse valid _
    · rw [runMethod]
      split
      · exact answers_response valid _
      · exact answers_errorResponse valid _
      · exact answers_errorResponse valid _

/-- What is no notification is answered. -/
theorem answers_handleCallMsg (registry : ServiceRegistry World Arg) {msg : Message}
    (call : msg.isNotification = false) (world : World) :
    ∃ answer after, handleCallMsg registry msg world = (some answer, after) ∧ Answers msg answer := by
  rw [handleCallMsg, if_neg (by simp [call])]
  split
  · rename_i is_call
    have valid : msg.hasValidID = true := by
      rw [Message.isCall, Bool.and_eq_true] at is_call
      exact is_call.1
    exact ⟨_, _, rfl, answers_handleCall registry valid world⟩
  · split
    · rename_i valid
      exact ⟨_, _, rfl, answers_errorResponse valid _⟩
    · rename_i invalid
      refine ⟨_, _, rfl, rfl, ?_, rfl, rfl, rfl, ?_⟩
      · rw [if_neg invalid, errorMessage]
      · rintro error ⟨⟩
        exact ⟨rfl, (invalidRequestError "invalid request").fits⟩

theorem answers_handleCalls (registry : ServiceRegistry World Arg) {calls : List Message}
    (each : ∀ call ∈ calls, call.isNotification = false) (world : World) :
    List.Forall₂ Answers calls (handleCalls registry calls world).1 := by
  induction calls generalizing world with
  | nil => exact .nil
  | cons call later ih =>
      obtain ⟨answer, after, handled, answers⟩ := answers_handleCallMsg registry (each call List.mem_cons_self) world
      rw [handleCalls, handled]
      exact .cons answers (ih (fun other member => each other (List.mem_cons_of_mem _ member)) after)

/-- The messages that need a reply. -/
def requiresReply (msg : Message) : Bool := !msg.isNotification && !msg.isResponse

theorem remaining_map_some (msgs : List Message) : remaining (msgs.map some) = some (msgs.filter requiresReply) := by
  induction msgs with
  | nil => rfl
  | cons msg msgs ih =>
      rw [List.map_cons, remaining, ih, Option.map_some, List.filter_cons, requiresReply]
      cases msg.isNotification <;> cases msg.isResponse <;> rfl

theorem remaining_eq_none {items : List (Option Message)} (null : none ∈ items) : remaining items = none := by
  induction items with
  | nil => cases null
  | cons item items ih =>
      cases item with
      | none => rfl
      | some msg =>
          have later : none ∈ items := by simpa using null
          rw [remaining, ih later, Option.map_none]

/-- A call of `a_ping` and an invalid request. -/
def pingBatch : List Message := [newMessage 1 ['a', '_', 'p', 'i', 'n', 'g'] none, newMessage 2 [] none]

theorem foldl_digits_cast (digits : List Char) (start : Nat) :
    digits.foldl (fun (sum : Int) digit => 10 * sum + (digit.toNat - '0'.toNat : Nat)) start =
      (digits.foldl (fun sum digit => 10 * sum + (digit.toNat - '0'.toNat)) start : Nat) := by
  induction digits generalizing start with
  | nil => rfl
  | cons digit digits ih =>
      rw [List.foldl_cons, List.foldl_cons, ← ih]
      push_cast
      rfl

theorem foldl_toDigits (number : Nat) :
    (Nat.toDigits 10 number).foldl (fun sum digit => 10 * sum + (digit.toNat - '0'.toNat)) 0 = number :=
  Nat.ofDigitChars_ten_toDigits

theorem isDigit_toDigits (number : Nat) : (Nat.toDigits 10 number).all Char.isDigit = true := by
  rw [List.all_eq_true]
  intro digit member
  exact Nat.isDigit_of_mem_toDigits (by decide) (by decide) member

/-- A number is written with the digits that its reader expects. -/
theorem parseInt64_intDigits {value : Int} (fits : -2 ^ 63 ≤ value ∧ value < 2 ^ 63) :
    parseInt64 (intDigits value) = some value := by
  have readable : ∀ number, Nat.toDigits 10 number ≠ [] ∧ (Nat.toDigits 10 number).all Char.isDigit = true :=
    fun number => ⟨Nat.toDigits_ne_nil, isDigit_toDigits number⟩
  have absolute : ∀ number : Nat, (Nat.toDigits 10 number).foldl
      (fun (sum : Int) digit => 10 * sum + (digit.toNat - '0'.toNat : Nat)) 0 = number := by
    intro number
    rw [← Nat.cast_zero, foldl_digits_cast, foldl_toDigits]
  cases value with
  | ofNat number =>
      have no_sign : ∀ later, Nat.toDigits 10 number = '-' :: later → False := by
        intro later same
        have digits := isDigit_toDigits number
        rw [same, List.all_cons, Bool.and_eq_true] at digits
        exact absurd digits.1 (by decide)
      rw [intDigits, parseInt64, if_pos (readable number)]
      · simp only [absolute]
        exact if_pos fits
      · exact no_sign
  | negSucc number =>
      rw [intDigits, parseInt64, if_pos (readable (number + 1))]
      simp only [absolute]
      exact if_pos fits

theorem key_newMessage (id : Nat) (method : List Char) (paramsIn : Option (List Json)) :
    (newMessage id method paramsIn).key = some id := by
  simp only [Message.key, newMessage, foldl_toDigits, if_true]

theorem errorInto_marshalError {error : JsonError} (plain : error.data = none)
    (fits : -2 ^ 63 ≤ error.code ∧ error.code < 2 ^ 63) :
    errorInto none (marshalError error) = some error ∧
      messageMemberFits (['e', 'r', 'r', 'o', 'r'], marshalError error) = true := by
  obtain ⟨code, message, data⟩ := error
  cases plain
  have code_read := parseInt64_intDigits fits
  constructor
  · change some ({ code := (parseInt64 (intDigits code)).getD 0, message } : JsonError) = _
    rw [code_read]
    rfl
  · change ((parseInt64 (intDigits code)).isSome && (true && true)) = true
    rw [code_read]
    rfl

/-- A message is read from what is written for it. -/
theorem decodeMessage_marshalMessage {msg : Message}
    (plain : ∀ error ∈ msg.error, error.data = none ∧ -2 ^ 63 ≤ error.code ∧ error.code < 2 ^ 63) :
    decodeMessage (marshalMessage msg) = some msg ∧ unmarshalMessage (marshalMessage msg) = some msg := by
  obtain ⟨version, id, method, params, error, result⟩ := msg
  have error_read : ∀ fault ∈ error, errorInto none (marshalError fault) = some fault ∧
      messageMemberFits (['e', 'r', 'r', 'o', 'r'], marshalError fault) = true := by
    intro fault here
    obtain ⟨no_data, fits⟩ := plain fault here
    exact errorInto_marshalError no_data fits
  -- The members are read one after the other, each into its own field.
  have with_version : List.foldl messageMember {}
      (if version = [] then [] else [(['j', 's', 'o', 'n', 'r', 'p', 'c'], .string version)]) = { version } := by
    split
    · rename_i empty
      rw [empty]
      rfl
    · rfl
  have with_id : List.foldl messageMember { version } (id.toList.map fun id => (['i', 'd'], id)) = { version, id } := by
    cases id <;> rfl
  have with_method : List.foldl messageMember { version, id }
      (if method = [] then [] else [(['m', 'e', 't', 'h', 'o', 'd'], .string method)]) = { version, id, method } := by
    split
    · rename_i empty
      rw [empty]
      rfl
    · rfl
  have with_params : List.foldl messageMember { version, id, method }
      (params.toList.map fun params => (['p', 'a', 'r', 'a', 'm', 's'], params)) = { version, id, method, params } := by
    cases params <;> rfl
  have with_error : List.foldl messageMember { version, id, method, params }
      (error.toList.map fun error => (['e', 'r', 'r', 'o', 'r'], marshalError error)) =
        { version, id, method, params, error } := by
    cases error with
    | none => rfl
    | some fault =>
        change ({ version, id, method, params, error := errorInto none (marshalError fault) } : Message) = _
        rw [(error_read fault rfl).1]
  have with_result : List.foldl messageMember { version, id, method, params, error }
      (result.toList.map fun result => (['r', 'e', 's', 'u', 'l', 't'], result)) =
        { version, id, method, params, error, result } := by
    cases result <;> rfl
  constructor
  · rw [marshalMessage, decodeMessage, if_pos]
    · simp only [List.foldl_append, with_version, with_id, with_method, with_params, with_error, with_result]
    · simp only [List.all_append, Bool.and_eq_true]
      refine ⟨⟨⟨⟨⟨?_, ?_⟩, ?_⟩, ?_⟩, ?_⟩, ?_⟩
      · split <;> rfl
      · cases id <;> rfl
      · split <;> rfl
      · cases params <;> rfl
      · cases error with
        | none => rfl
        | some fault => simpa using (error_read fault rfl).2
      · cases result <;> rfl
  · rw [marshalMessage, unmarshalMessage]
    simp only [List.foldl_append, with_version, with_id, with_method, with_params, with_error, with_result]

/-! ## A batch over HTTP, from end to end -/

theorem requiresReply_newMessage (id : Nat) (method : List Char) (paramsIn : Option (List Json)) :
    requiresReply (newMessage id method paramsIn) = true := by
  simp [requiresReply, Message.isNotification, Message.isResponse, newMessage]

/-- The answer to a request belongs to the element of the request. -/
theorem Answers.key {call answer : Message} (answers : Answers call answer) (valid : call.hasValidID = true) :
    answer.key = call.key := by
  rw [Message.key, Message.key, answers.id, if_pos valid]

/-- The answers to requests are read as they were written, and carry the identifiers of the requests. -/
theorem received_of_answers {calls answers : List Message} (answered : List.Forall₂ Answers calls answers)
    (valid : ∀ call ∈ calls, call.hasValidID = true) :
    decodeMessages (.array (answers.map marshalMessage)) = some answers ∧
      answers.map Message.key = calls.map Message.key := by
  induction answered with
  | nil => exact ⟨rfl, rfl⟩
  | @cons call answer calls answers first later ih =>
      obtain ⟨later_read, later_keys⟩ := ih fun other member => valid other (List.mem_cons_of_mem _ member)
      have first_read := (decodeMessage_marshalMessage first.error).1
      constructor
      · rw [decodeMessages] at later_read ⊢
        rw [List.map_cons, List.mapM_cons, first_read, later_read]
        rfl
      · rw [List.map_cons, List.map_cons, later_keys, first.key (valid call List.mem_cons_self)]

/-- The messages of a batch of calls, with their identifiers, methods and parameters. -/
def newMessages (batch : List (Nat × List Char × Option (List Json))) : List Message :=
  batch.map fun elem => newMessage elem.1 elem.2.1 elem.2.2

theorem key_newMessages (batch : List (Nat × List Char × Option (List Json))) :
    (newMessages batch).map Message.key = (batch.map Prod.fst).map some := by
  rw [newMessages, List.map_map, List.map_map]
  apply List.map_congr_left
  intro elem _
  exact key_newMessage _ _ _

/-- The server answers every call of the batch. -/
theorem serves_newMessages (registry : ServiceRegistry World Arg) (world : World)
    {batch : List (Nat × List Char × Option (List Json))} (nonempty : batch ≠ []) :
    ∃ answers after, List.Forall₂ Answers (newMessages batch) answers ∧
      serveSingleRequest registry (.array ((newMessages batch).map marshalMessage)) world =
        some (.batch answers, after) := by
  have received : ((newMessages batch).map marshalMessage).map unmarshalMessage = (newMessages batch).map some := by
    rw [List.map_map]
    apply List.map_congr_left
    intro request member
    obtain ⟨elem, _, rfl⟩ := List.mem_map.mp member
    exact (decodeMessage_marshalMessage (by rintro error ⟨⟩)).2
  have each : ∀ request ∈ newMessages batch, requiresReply request = true ∧ request.isNotification = false := by
    intro request member
    obtain ⟨elem, _, rfl⟩ := List.mem_map.mp member
    exact ⟨requiresReply_newMessage _ _ _, by simp [Message.isNotification, newMessage]⟩
  have all_calls : (newMessages batch).filter requiresReply = newMessages batch :=
    List.filter_eq_self.mpr fun request member => (each request member).1
  have answered := answers_handleCalls registry (fun request member => (each request member).2) world
  refine ⟨_, (handleCalls registry (newMessages batch) world).2, answered, ?_⟩
  have some_answer : (handleCalls registry (newMessages batch) world).1 ≠ [] := by
    intro empty
    have length := answered.length_eq
    rw [empty, newMessages, List.length_map] at length
    exact nonempty (List.length_eq_zero_iff.mp length)
  rw [serveSingleRequest, received, handleBatch, if_neg (by simpa [newMessages] using nonempty), remaining_map_some,
    all_calls, Option.map_some]
  exact congrArg (fun reply => some (reply, _)) (if_neg some_answer)

/-- A reply to a batch that is no batch: to an empty one, to one that is too long or from a server that was stopped. -/
theorem unread_of_refused (running : Bool) (registry : ServiceRegistry World Arg) (contentLength : Nat) (world : World)
    {batch : List (Nat × List Char × Option (List Json))}
    (refused : ¬(running = true ∧ contentLength ≤ maxRequestContentLength ∧ batch ≠ [])) :
    ∃ reply after, serveHTTP running registry contentLength (.array ((newMessages batch).map marshalMessage)) world =
        some (reply, after) ∧ reply.messages = none := by
  rw [serveHTTP]
  split_ifs with long stopped
  · exact ⟨_, _, rfl, rfl⟩
  · have empty : batch = [] := by
      by_contra nonempty
      exact refused ⟨stopped, not_lt.mp long, nonempty⟩
    subst empty
    exact ⟨_, _, rfl, rfl⟩
  · exact ⟨_, _, rfl, rfl⟩

/-- A call over HTTP gives what the method gives. -/
theorem callHTTP_served {Value : Type} (unmarshal : Json → Except RpcError Value)
    (registry : ServiceRegistry World Arg) {world after : World} {id : Nat} {method : List Char}
    {paramsIn : Option (List Json)} {callb : Callback World Arg} {args : List Arg} {enc : Json}
    (found : registry.callback method = some callb) (named : method ≠ [])
    (parsed : parsePositionalArguments (paramsIn.map .array) callb.argTypes = .ok args)
    (ran : callb.fn args world = (.value (.ok enc), after)) {contentLength : Nat}
    (short : contentLength ≤ maxRequestContentLength) :
    ∃ reply, serveHTTP true registry contentLength (marshalMessage (newMessage id method paramsIn)) world =
        some (reply, after) ∧
      callHTTP unmarshal reply =
        match unmarshal enc with
        | .ok value => .returned none (some value)
        | .error err => .returned (some err) none := by
  have request_read : unmarshalMessage (marshalMessage (newMessage id method paramsIn)) =
      some (newMessage id method paramsIn) := (decodeMessage_marshalMessage (by rintro error ⟨⟩)).2
  have is_call : (newMessage id method paramsIn).isNotification = false ∧
      (newMessage id method paramsIn).isCall = true := by
    simp [Message.isNotification, Message.isCall, Message.hasValidID, newMessage, named]
  have handled : handleCallMsg registry (newMessage id method paramsIn) world =
      (some ((newMessage id method paramsIn).response (.ok enc)), after) := by
    have called : handleCall registry (newMessage id method paramsIn) world =
        ((newMessage id method paramsIn).response (.ok enc), after) := by
      simp only [handleCall, newMessage, found, parsed, runMethod, ran]
    simp only [handleCallMsg, is_call.1, is_call.2, Bool.false_eq_true, if_false, if_true, called]
  have remains : remaining [some (newMessage id method paramsIn)] = some [newMessage id method paramsIn] := by
    have filtered := remaining_map_some [newMessage id method paramsIn]
    rwa [List.filter_cons_of_pos (requiresReply_newMessage id method paramsIn), List.filter_nil] at filtered
  have served : serveSingleRequest registry (marshalMessage (newMessage id method paramsIn)) world =
      some (.single ((newMessage id method paramsIn).response (.ok enc)), after) := by
    change handleMsg registry (unmarshalMessage (marshalMessage (newMessage id method paramsIn))) world = _
    rw [request_read, handleMsg, remains, Option.map_some, handleCalls, handled]
    rfl
  refine ⟨.body (some (marshalMessage ((newMessage id method paramsIn).response (.ok enc)))), ?_, ?_⟩
  · rw [serveHTTP, if_neg (not_lt.mpr short), if_pos rfl, served]
    rfl
  · have response_read : decodeMessage (marshalMessage ((newMessage id method paramsIn).response (.ok enc))) =
        some ((newMessage id method paramsIn).response (.ok enc)) :=
      (decodeMessage_marshalMessage (by rintro error ⟨⟩)).1
    rw [callHTTP, sendHTTP, Option.bind_eq_bind, Option.bind_some, response_read]
    rfl

/-! ## What is registered is found -/

namespace ServiceRegistry

variable (toLower : Char → Char)

/-- Registrations one after the other; one that fails changes nothing. -/
def registerAll (registry : ServiceRegistry World Arg) (registrations : List (List Char × List (Method World Arg))) :
    ServiceRegistry World Arg :=
  registrations.foldl (fun registry entry => (registry.registerName toLower entry.1 entry.2).getD registry) registry

/-- The callbacks that were offered under the name of a service, in the order of the registrations. -/
def offered (registrations : List (List Char × List (Method World Arg))) (service : List Char) :
    List (List Char × Callback World Arg) :=
  if service = [] then []
  else (registrations.filter fun entry => entry.1 = service).flatMap fun entry =>
    (suitableCallbacks toLower entry.2).filter fun callback => !callback.2.isSubscribe

/-- The callbacks of a service, the newest first. -/
def callbacksOf (registry : ServiceRegistry World Arg) (service : List Char) : List (List Char × Callback World Arg) :=
  ((registry.services.lookup service).getD {}).callbacks

theorem callbacks_foldl_addCallback (entries : List (List Char × Callback World Arg)) (svc : Service World Arg) :
    (entries.foldl addCallback svc).callbacks =
      (entries.filter fun entry => !entry.2.isSubscribe).reverse ++ svc.callbacks := by
  induction entries generalizing svc with
  | nil => rfl
  | cons entry entries ih =>
      rw [List.foldl_cons, ih, addCallback, List.filter_cons]
      cases entry.2.isSubscribe <;> simp

variable {toLower}

/-- One registration adds its callbacks to its own service. -/
theorem callbacksOf_registerName (registry : ServiceRegistry World Arg) (entry : List Char × List (Method World Arg))
    (service : List Char) :
    ((registry.registerName toLower entry.1 entry.2).getD registry).callbacksOf service =
      (offered toLower [entry] service).reverse ++ registry.callbacksOf service := by
  rw [registerName]
  split_ifs with refused
  · have nothing : offered toLower [entry] service = [] := by
      rw [offered]
      split_ifs with unnamed
      · rfl
      · by_cases own : entry.1 = service
        · rcases refused with no_name | no_callbacks
          · exact absurd (own.symm.trans no_name) unnamed
          · simp [no_callbacks]
        · simp [own]
    simp [nothing]
  · push Not at refused
    rw [Option.getD_some, callbacksOf, List.lookup_cons, offered]
    by_cases own : service = entry.1
    · subst own
      simp [callbacks_foldl_addCallback, callbacksOf, refused.1]
    · have other : (service == entry.1) = false := by simpa using own
      simp [other, Ne.symm own, callbacksOf]

theorem callbacksOf_registerAll (registrations : List (List Char × List (Method World Arg)))
    (registry : ServiceRegistry World Arg) (service : List Char) :
    (registry.registerAll toLower registrations).callbacksOf service =
      (offered toLower registrations service).reverse ++ registry.callbacksOf service := by
  induction registrations generalizing registry with
  | nil => simp [registerAll, offered]
  | cons entry registrations ih =>
      have first : ((registry.registerName toLower entry.1 entry.2).getD registry).callbacksOf service = _ :=
        callbacksOf_registerName registry entry service
      have split : offered toLower (entry :: registrations) service =
          offered toLower [entry] service ++ offered toLower registrations service := by
        rw [offered, offered, offered]
        split_ifs
        · rfl
        · rw [← List.flatMap_append, ← List.filter_append]
          rfl
      rw [split, List.reverse_append, List.append_assoc, ← first, ← ih]
      rfl

theorem ne_separator_of_not_mem {text : List Char} (whole : '_' ∉ text) :
    ∀ char ∈ text, decide (char ≠ '_') = true := by
  intro char member
  apply decide_eq_true
  intro same
  exact whole (same ▸ member)

/-- A name without a separator is not found. -/
theorem callback_of_not_mem (registry : ServiceRegistry World Arg) {method : List Char} (whole : '_' ∉ method) :
    registry.callback method = none := by
  have ordinary := ne_separator_of_not_mem whole
  have all : method.span (· ≠ '_') = (method, []) := by
    rw [List.span_eq_takeWhile_dropWhile, List.takeWhile_eq_self_iff.mpr ordinary,
      List.dropWhile_eq_nil_iff.mpr ordinary]
  rw [callback, all]

/-- A name is cut at its first separator. -/
theorem callback_append (registry : ServiceRegistry World Arg) {service : List Char} (single : '_' ∉ service)
    (method : List Char) :
    registry.callback (service ++ '_' :: method) = (registry.callbacksOf service).lookup method := by
  have front := ne_separator_of_not_mem single
  have cut : (service ++ '_' :: method).span (· ≠ '_') = (service, '_' :: method) := by
    rw [List.span_eq_takeWhile_dropWhile, List.takeWhile_append_of_pos front, List.dropWhile_append_of_pos front]
    simp
  rw [callback, cut, callbacksOf]
  change (registry.services.lookup service >>= fun svc => svc.callbacks.lookup method) = _
  cases registry.services.lookup service <;> rfl

/-- After any registrations, in any order: the first separator of a method's name ends the name of its service, and
the rest names the callback of the service that was registered last under it.  So a service whose own name has a
separator is never found, and neither is one without a name. -/
theorem callback_registered (toLower : Char → Char) (registrations : List (List Char × List (Method World Arg))) :
    (∀ service method, '_' ∉ service →
        (registerAll toLower {} registrations).callback (service ++ '_' :: method) =
          (offered toLower registrations service).reverse.lookup method) ∧
      ∀ text found, (registerAll toLower {} registrations).callback text = some found →
        ∃ service method, text = service ++ '_' :: method ∧ '_' ∉ service ∧ service ≠ [] ∧
          (method, found) ∈ offered toLower registrations service := by
  have looked_up : ∀ service method, '_' ∉ service →
      (registerAll toLower {} registrations).callback (service ++ '_' :: method) =
        (offered toLower registrations service).reverse.lookup method := by
    intro service method single
    rw [callback_append _ single, callbacksOf_registerAll]
    simp [callbacksOf]
  refine ⟨looked_up, ?_⟩
  intro text found is_found
  by_cases whole : '_' ∈ text
  · obtain ⟨service, method, rfl, single⟩ := List.eq_append_cons_of_mem whole
    rw [looked_up service method single] at is_found
    have offers := List.mem_reverse.mp (ListLookup.mem_of_lookup is_found)
    refine ⟨service, method, rfl, single, ?_, offers⟩
    rintro rfl
    rw [offered, if_pos rfl] at offers
    cases offers
  · rw [callback_of_not_mem _ whole] at is_found
    cases is_found

/-- A method that ends at once. -/
def idle : Method Unit Json := ⟨['P', 'i', 'n', 'g'], some ⟨[], false, fun _ world => (.value (.ok .null), world)⟩⟩

example : (registerAll Char.toLower {} [(['a', '_', 'b'], [idle]), (['a'], [idle])]).callback
    ['a', '_', 'b', '_', 'p', 'i', 'n', 'g'] = none := rfl

end ServiceRegistry

end SubstrateClient.Rpc
