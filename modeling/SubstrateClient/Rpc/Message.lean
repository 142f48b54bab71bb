import SubstrateClient.Types.ExtrinsicStatusJson

/-!
# JSON-RPC messages

A connection delivers JSON values.  `parseMessage` turns each into a message or, for a batch, into one message for
every item; what does not fit a field leaves the field as it was.  Raw parts of a message are kept as values.
-/

namespace SubstrateClient.Rpc

open JsonText

/-- `jsonError`. -/
structure JsonError where
  code : Int := 0
  message : List Char := []
  data : Option Json := none

/-- `jsonrpcMessage`, where a part that is absent is a nil slice or a nil pointer. -/
structure Message where
  version : List Char := []
  id : Option Json := none
  method : List Char := []
  params : Option Json := none
  error : Option JsonError := none
  result : Option Json := none

/-- `vsn`. -/
def vsn : List Char := ['2', '.', '0']

namespace Message

/-! ## Kinds of messages -/

/-- `hasValidID`: the raw text is there and begins with neither brace nor bracket. -/
def hasValidID (msg : Message) : Bool :=
  match msg.id with
  | none => false
  | some (.object _) | some (.array _) => false
  | some _ => true

/-- `isNotification`. -/
def isNotification (msg : Message) : Bool := msg.id.isNone && !msg.method.isEmpty

/-- `isCall`. -/
def isCall (msg : Message) : Bool := msg.hasValidID && !msg.method.isEmpty

/-- `isResponse`. -/
def isResponse (msg : Message) : Bool :=
  msg.hasValidID && msg.method.isEmpty && msg.params.isNone && (msg.result.isSome || msg.error.isSome)

/-- The request that a message belongs to: the number whose decimal digits the raw identifier consists of. -/
def key (msg : Message) : Option Nat :=
  match msg.id with
  | some (.number digits) =>
      let value := digits.foldl (fun sum digit => 10 * sum + (digit.toNat - '0'.toNat)) 0
      if Nat.toDigits 10 value = digits then some value else none
  | _ => none

end Message

/-! ## Reading messages -/

/-- The field that a name stands for: an exact one first, else one that differs in case only. -/
def fieldNamed {F : Type} (fields : List (List Char × F)) (name : List Char) : Option F :=
  ((fields.find? fun field => field.1 = name) <|>
    fields.find? fun field => field.1.map Types.foldRune = name.map Types.foldRune).map Prod.snd

/-- A string into a field; anything else leaves the field. -/
def stringInto (old : List Char) : Json → List Char
  | .string text => text
  | _ => old

/-- `strconv.ParseInt` with base ten and 64 bits, on a number of JSON. -/
def parseInt64 (digits : List Char) : Option Int :=
  let (negative, digits) := match digits with
    | '-' :: digits => (true, digits)
    | digits => (false, digits)
  if digits ≠ [] ∧ digits.all Char.isDigit = true then
    let value : Int := digits.foldl (fun sum digit => 10 * sum + (digit.toNat - '0'.toNat : Nat)) 0
    let value := if negative then -value else value
    if -2 ^ 63 ≤ value ∧ value < 2 ^ 63 then some value else none
  else
    none

/-- The fields of `jsonError`. -/
inductive ErrorField where
  | code | message | data
  deriving DecidableEq

def errorFields : List (List Char × ErrorField) :=
  [(['c', 'o', 'd', 'e'], .code), (['m', 'e', 's', 's', 'a', 'g', 'e'], .message), (['d', 'a', 't', 'a'], .data)]

/-- One member of an object, read into `jsonError`. -/
def errorMember (target : JsonError) (entry : List Char × Json) : JsonError :=
  match fieldNamed errorFields entry.1, entry.2 with
  | some .code, .number digits => { target with code := (parseInt64 digits).getD target.code }
  | some .message, value => { target with message := stringInto target.message value }
  | some .data, .null => { target with data := none }
  | some .data, value => { target with data := some value }
  | _, _ => target

/-- A value into the pointer `Error`: `null` clears it, anything else makes it point to something. -/
def errorInto (old : Option JsonError) : Json → Option JsonError
  | .null => none
  | .object members => some (members.foldl errorMember (old.getD {}))
  | _ => some (old.getD {})

/-- The fields of `jsonrpcMessage`. -/
inductive MessageField where
  | version | id | method | params | error | result
  deriving DecidableEq

def messageFields : List (List Char × MessageField) :=
  [(['j', 's', 'o', 'n', 'r', 'p', 'c'], .version), (['i', 'd'], .id),
    (['m', 'e', 't', 'h', 'o', 'd'], .method), (['p', 'a', 'r', 'a', 'm', 's'], .params),
    (['e', 'r', 'r', 'o', 'r'], .error), (['r', 'e', 's', 'u', 'l', 't'], .result)]

/-- One member of an object, read into `jsonrpcMessage`.  A raw field takes every value, `null` as well. -/
def messageMember (target : Message) (entry : List Char × Json) : Message :=
  match fieldNamed messageFields entry.1 with
  | some .version => { target with version := stringInto target.version entry.2 }
  | some .id => { target with id := some entry.2 }
  | some .method => { target with method := stringInto target.method entry.2 }
  | some .params => { target with params := some entry.2 }
  | some .error => { target with error := errorInto target.error entry.2 }
  | some .result => { target with result := some entry.2 }
  | none => target

/-- `json.Unmarshal` into a pointer to a fresh message, whose error `parseMessage` drops: `null` sets the pointer to
nil, and what is no object leaves the message as it was. -/
def unmarshalMessage : Json → Option Message
  | .null => none
  | .object members => some (members.foldl messageMember {})
  | _ => some {}

/-- `isBatch`: the first character that is no blank is a bracket. -/
def isBatch : List Char → Bool
  | [] => false
  | char :: later => if isBlank char then isBatch later else char = '['

/-- `parseMessage`, after the value was read from the text. -/
def parseMessage (raw : List Char) (value : Json) : List (Option Message) × Bool :=
  if isBatch raw then
    match value with
    | .array items => (items.map unmarshalMessage, true)
    | _ => ([], true)
  else
    ([unmarshalMessage value], false)

/-- `jsonCodec.Read`, where the decoder has cut the text of the next value off the stream. -/
def read (raw : List Char) : Option (List (Option Message) × Bool) := (parse raw).map (parseMessage raw)

/-! ## Errors -/

/-- The errors of the client. -/
inductive RpcError where
  /-- `ErrClientQuit`. -/
  | clientQuit
  /-- `ErrNoResult`. -/
  | noResult
  /-- `ErrSubscriptionQueueOverflow`. -/
  | subscriptionQueueOverflow
  /-- `errClientReconnected`. -/
  | clientReconnected
  /-- `errDead`. -/
  | dead
  /-- `ctx.Err()`. -/
  | context
  /-- An error of the connection, of dialling or of `encoding/json`. -/
  | failure (reason : String)
  /-- The error that a response carries. -/
  | response (error : JsonError)

end SubstrateClient.Rpc
