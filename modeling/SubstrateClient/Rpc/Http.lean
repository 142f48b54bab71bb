import Mathlib.Data.List.Perm.Subperm
import SubstrateClient.Rpc.Message

/-!
# Batches over HTTP

Over HTTP there is no dispatcher: the caller of `BatchCallContext` reads the responses itself, puts them into the
channel of its request and takes them out again.  Nothing looks at the identifiers before the responses are matched
with the elements of the batch.
-/

namespace SubstrateClient.Rpc

open JsonText

/-! ## Reading the body -/

/-- A value that fits a string field. -/
def fitsString : Json → Bool
  | .string _ | .null => true
  | _ => false

/-- A member that fits its field of `jsonError`. -/
def errorMemberFits (entry : List Char × Json) : Bool :=
  match fieldNamed errorFields entry.1, entry.2 with
  | some .code, .null => true
  | some .code, .number digits => (parseInt64 digits).isSome
  | some .code, _ => false
  | some .message, value => fitsString value
  | some .data, _ | none, _ => true

/-- A member that fits its field of `jsonrpcMessage`. -/
def messageMemberFits (entry : List Char × Json) : Bool :=
  match fieldNamed messageFields entry.1, entry.2 with
  | some .version, value | some .method, value => fitsString value
  | some .error, .null => true
  | some .error, .object members => members.all errorMemberFits
  | some .error, _ => false
  | _, _ => true

/-- `Decode` into a message that is no pointer: `null` leaves it as it was, and what does not fit is an error. -/
def decodeMessage : Json → Option Message
  | .null => some {}
  | .object members => if members.all messageMemberFits then some (members.foldl messageMember {}) else none
  | _ => none

/-- `Decode` into a slice of messages. -/
def decodeMessages : Json → Option (List Message)
  | .null => some []
  | .array items => items.mapM decodeMessage
  | _ => none

/-! ## The call -/

/-- `BatchElem`, with the identifier of its message. -/
structure BatchElem (Value : Type) where
  id : Nat
  /-- What `Result` points to, if it was set. -/
  value : Option Value := none
  error : Option RpcError := none

/-- What `doRequest` returns. -/
inductive HttpReply where
  /-- An error of the connection, or a status that is no success. -/
  | failed (err : RpcError)
  /-- The first value of the body, if it is JSON. -/
  | body (value : Option Json)

/-- How a call comes to an end. -/
inductive Ending (State : Type) where
  | returned (err : Option RpcError) (state : State)
  /-- The caller waits at a channel for ever. -/
  | stuck
  /-- A nil pointer was used. -/
  | crashed

/-- The responses in a reply to a batch, if it is one. -/
def HttpReply.messages : HttpReply → Option (List Message)
  | failed _ => none
  | body value => value >>= decodeMessages

namespace Batch

variable {Value : Type} (unmarshal : Nat → Json → Except RpcError Value)

/-- What a response does to its element. -/
def settleElem (msg : Message) (elem : BatchElem Value) : BatchElem Value :=
  match msg.error, msg.result with
  | some error, _ => { elem with error := some (.response error) }
  | none, none => { elem with error := some .noResult }
  | none, some result =>
      match unmarshal elem.id result with
      | .ok value => { elem with value := some value, error := none }
      | .error err => { elem with error := some err }

/-- The element that a response belongs to is looked for and settled; without one the pointer stays nil. -/
def settle (msg : Message) : List (BatchElem Value) → Option (List (BatchElem Value))
  | [] => none
  | elem :: later =>
      if msg.key = some elem.id then some (settleElem unmarshal msg elem :: later)
      else (settle msg later).map (elem :: ·)

/-- The loop of `BatchCallContext`, with the number of responses that are still waited for.  The context ends after
as many responses as `patience` says, if ever. -/
def collect : (left : Nat) → (patience : Option Nat) → List Message → List (BatchElem Value) →
    Ending (List (BatchElem Value))
  | 0, _, _, elems => .returned none elems
  | _ + 1, some 0, _, elems => .returned (some .context) elems
  | _ + 1, some _, [], elems => .returned (some .context) elems
  | _ + 1, none, [], _ => .stuck
  | left + 1, patience, msg :: later, elems =>
      match settle unmarshal msg elems with
      | none => .crashed
      | some settled => collect left (patience.map Nat.pred) later settled

/-- `BatchCallContext` over HTTP, for a batch whose messages have these identifiers.  `sendBatchHTTP` puts every
response into a channel that has room for one response to each identifier, and nobody receives meanwhile. -/
def batchCallHTTP (ids : List Nat) (reply : HttpReply) (patience : Option Nat) : Ending (List (BatchElem Value)) :=
  let elems : List (BatchElem Value) := ids.map fun id => { id }
  match reply with
  | .failed err => .returned (some err) elems
  | .body value =>
      match value >>= decodeMessages with
      | none => .returned (some (.failure "invalid response")) elems
      | some msgs =>
          if ids.length < msgs.length then .stuck
          else collect unmarshal ids.length patience msgs elems

/-! ## What the elements get -/

variable {unmarshal}

/-- Something was reported for the element. -/
def settled (elem : BatchElem Value) : Bool := elem.value.isSome || elem.error.isSome

variable (unmarshal) in
/-- A response that belongs to the element or to another one. -/
def respond (elem : BatchElem Value) (msg : Message) : BatchElem Value :=
  if msg.key = some elem.id then settleElem unmarshal msg elem else elem

@[simp]
theorem settleElem_id (msg : Message) (elem : BatchElem Value) : (settleElem unmarshal msg elem).id = elem.id := by
  rw [settleElem]
  split
  · rfl
  · rfl
  · split <;> rfl

theorem settled_settleElem (msg : Message) (elem : BatchElem Value) :
    settled (settleElem unmarshal msg elem) = true := by
  rw [settleElem]
  split
  · simp [settled]
  · simp [settled]
  · split <;> simp [settled]

@[simp]
theorem respond_id (elem : BatchElem Value) (msg : Message) : (respond unmarshal elem msg).id = elem.id := by
  rw [respond]
  split
  · exact settleElem_id msg elem
  · rfl

theorem nodup_map_respond {elems : List (BatchElem Value)} (distinct : (elems.map BatchElem.id).Nodup)
    (msg : Message) : ((elems.map (respond unmarshal · msg)).map BatchElem.id).Nodup := by
  simpa [Function.comp_def] using distinct

/-- An element is settled by the responses exactly if one of them belongs to it. -/
theorem settled_foldl_respond (msgs : List Message) (elem : BatchElem Value) :
    settled (msgs.foldl (respond unmarshal) elem) = true ↔
      settled elem = true ∨ some elem.id ∈ msgs.map Message.key := by
  induction msgs generalizing elem with
  | nil => simp
  | cons msg msgs ih =>
      rw [List.foldl_cons, ih, respond_id, List.map_cons, List.mem_cons, respond]
      split
      · rename_i own
        simp [settled_settleElem, own]
      · rename_i foreign
        simp [Ne.symm foreign]

/-- A response that belongs to no element leaves the pointer nil. -/
theorem settle_eq_none {msg : Message} {elems : List (BatchElem Value)} :
    settle unmarshal msg elems = none ↔ ∀ elem ∈ elems, msg.key ≠ some elem.id := by
  induction elems with
  | nil => simp [settle]
  | cons elem later ih =>
      rw [settle]
      split
      · rename_i own
        simp [own]
      · rename_i foreign
        simp [ih, foreign]

/-- A response changes the element that it belongs to. -/
theorem settle_eq_some {msg : Message} {elems : List (BatchElem Value)} (distinct : (elems.map BatchElem.id).Nodup)
    (known : ∃ elem ∈ elems, msg.key = some elem.id) :
    settle unmarshal msg elems = some (elems.map (respond unmarshal · msg)) := by
  induction elems with
  | nil => simp at known
  | cons elem later ih =>
      rw [List.map_cons, List.nodup_cons] at distinct
      rw [settle, List.map_cons]
      split
      · rename_i own
        have others : ∀ other ∈ later, respond unmarshal other msg = id other := by
          intro other member
          rw [respond, if_neg, id]
          intro same
          have same_id : elem.id = other.id := Option.some.inj (own.symm.trans same)
          exact distinct.1 (same_id ▸ List.mem_map_of_mem member)
        rw [List.map_congr_left others, List.map_id, respond, if_pos own]
      · rename_i foreign
        have later_known : ∃ other ∈ later, msg.key = some other.id := by
          obtain ⟨other, member, own⟩ := known
          rcases List.mem_cons.mp member with rfl | member
          · exact absurd own foreign
          · exact ⟨other, member, own⟩
        rw [ih distinct.2 later_known, respond, if_neg foreign, Option.map_some]

/-- The responses that are received before the context ends. -/
def taken : (patience : Option Nat) → List Message → List Message
  | none, msgs => msgs
  | some responses, msgs => msgs.take responses

theorem length_taken_le (patience : Option Nat) (msgs : List Message) : (taken patience msgs).length ≤ msgs.length := by
  cases patience with
  | none => exact le_rfl
  | some responses => exact List.length_take_le' _ _

/-- The context outlasts the responses that are all taken. -/
theorem taken_eq_of_length {patience : Option Nat} {msgs : List Message}
    (all : (taken patience msgs).length = msgs.length) : taken patience msgs = msgs := by
  cases patience with
  | none => rfl
  | some responses => exact (List.take_prefix _ _).eq_of_length all

/-- A caller with no response to wait for any more: it waits for ever, or until its context ends. -/
def waitsOn (patience : Option Nat) (elems : List (BatchElem Value)) : Ending (List (BatchElem Value)) :=
  match patience with
  | none => .stuck
  | some _ => .returned (some .context) elems

/-- Every response belongs to some element. -/
abbrev Known (msgs : List Message) (elems : List (BatchElem Value)) : Prop :=
  ∀ msg ∈ msgs, ∃ elem ∈ elems, msg.key = some elem.id

theorem known_map_respond {msgs : List Message} {elems : List (BatchElem Value)} (msg : Message) :
    Known msgs (elems.map (respond unmarshal · msg)) ↔ Known msgs elems := by
  simp [Known]

/-- The context lasts for one response more. -/
theorem taken_cons {patience : Option Nat} (lasts : patience ≠ some 0) (msg : Message) (msgs : List Message) :
    taken patience (msg :: msgs) = msg :: taken (patience.map Nat.pred) msgs := by
  rcases patience with _ | _ | responses
  · rfl
  · exact absurd rfl lasts
  · rfl

theorem waitsOn_pred (patience : Option Nat) (elems : List (BatchElem Value)) :
    waitsOn (patience.map Nat.pred) elems = waitsOn patience elems := by
  cases patience <;> rfl

theorem collect_cons {patience : Option Nat} (lasts : patience ≠ some 0) (left : Nat) (msg : Message)
    (msgs : List Message) (elems : List (BatchElem Value)) :
    collect unmarshal (left + 1) patience (msg :: msgs) elems =
      match settle unmarshal msg elems with
      | none => .crashed
      | some settled => collect unmarshal left (patience.map Nat.pred) msgs settled := by
  rcases patience with _ | _ | responses
  · simp only [collect]
  · exact absurd rfl lasts
  · simp only [collect]

/-- The loop settles the elements of the responses that it receives, one after the other.  A response to an unknown
request crashes the caller. -/
theorem collect_eq {msgs : List Message} {elems : List (BatchElem Value)} (distinct : (elems.map BatchElem.id).Nodup)
    (patience : Option Nat) {left : Nat} (enough : msgs.length ≤ left) :
    collect unmarshal left patience msgs elems =
      if Known (taken patience msgs) elems then
        if (taken patience msgs).length = left then
          .returned none (elems.map ((taken patience msgs).foldl (respond unmarshal)))
        else waitsOn patience (elems.map ((taken patience msgs).foldl (respond unmarshal)))
      else .crashed := by
  induction msgs generalizing left elems patience with
  | nil =>
      have nothing : taken patience [] = [] := by cases patience <;> simp [taken]
      rw [nothing]
      cases left with
      | zero => simp [collect]
      | succ left => rcases patience with _ | _ | responses <;> simp [collect, waitsOn]
  | cons msg msgs ih =>
      cases left with
      | zero => simp at enough
      | succ left =>
          by_cases ended : patience = some 0
          · subst ended
            simp [collect, taken, waitsOn]
          · rw [collect_cons ended, taken_cons ended]
            by_cases known : ∃ elem ∈ elems, msg.key = some elem.id
            · have settles : settle unmarshal msg elems = _ := settle_eq_some distinct known
              have still : ((elems.map (respond unmarshal · msg)).map BatchElem.id).Nodup :=
                nodup_map_respond distinct msg
              have known_iff : Known (msg :: taken (patience.map Nat.pred) msgs) elems ↔
                  Known (taken (patience.map Nat.pred) msgs) (elems.map (respond unmarshal · msg)) := by
                rw [known_map_respond, Known, List.forall_mem_cons]
                exact and_iff_right known
              rw [settles]
              simp only [ih still (patience.map Nat.pred) (Nat.le_of_succ_le_succ enough), known_iff, waitsOn_pred,
                List.length_cons, Nat.add_right_cancel_iff, List.map_map]
              rfl
            · have nowhere : settle unmarshal msg elems = none := by
                apply settle_eq_none.mpr
                intro elem here own
                exact known ⟨elem, here, own⟩
              have unknown : ¬Known (msg :: taken (patience.map Nat.pred) msgs) elems :=
                fun all => known (all msg List.mem_cons_self)
              rw [nowhere, if_neg unknown]

/-! ## How the call ends -/

/-- How the call ends with a reply that can be read. -/
theorem batchCallHTTP_eq {ids : List Nat} (distinct : ids.Nodup) {reply : HttpReply} {msgs : List Message}
    (decoded : reply.messages = some msgs) (patience : Option Nat) :
    batchCallHTTP unmarshal ids reply patience =
      if ids.length < msgs.length then .stuck
      else if ∀ msg ∈ taken patience msgs, ∃ id ∈ ids, msg.key = some id then
        if (taken patience msgs).length = ids.length then
          .returned none (ids.map fun id => (taken patience msgs).foldl (respond unmarshal) { id })
        else waitsOn patience (ids.map fun id => (taken patience msgs).foldl (respond unmarshal) { id })
      else .crashed := by
  have own_ids : (ids.map fun id => ({ id } : BatchElem Value)).map BatchElem.id = ids := by
    simp [Function.comp_def]
  have distinct_elems : ((ids.map fun id => ({ id } : BatchElem Value)).map BatchElem.id).Nodup := by
    rw [own_ids]
    exact distinct
  have known_iff : Known (taken patience msgs) (ids.map fun id => ({ id } : BatchElem Value)) ↔
      ∀ msg ∈ taken patience msgs, ∃ id ∈ ids, msg.key = some id := by
    simp [Known]
  cases reply with
  | failed err => cases decoded
  | body value =>
      rw [HttpReply.messages] at decoded
      simp only [batchCallHTTP, decoded]
      by_cases many : ids.length < msgs.length
      · rw [if_pos many, if_pos many]
      · rw [if_neg many, if_neg many, collect_eq distinct_elems patience (not_lt.mp many)]
        simp only [known_iff, List.map_map]
        rfl

variable (unmarshal) in
/-- As many responses as elements, all of them to elements: each element is settled exactly if none is left out. -/
theorem perm_iff_settled {ids : List Nat} (distinct : ids.Nodup) {msgs : List Message}
    (full : msgs.length = ids.length) :
    (msgs.map Message.key).Perm (ids.map some) ↔
      ∀ id ∈ ids, settled (msgs.foldl (respond unmarshal) { id }) = true := by
  have settled_iff : ∀ id, settled (msgs.foldl (respond unmarshal) { id }) = true ↔ some id ∈ msgs.map Message.key := by
    intro id
    rw [settled_foldl_respond]
    simp [settled]
  simp only [settled_iff]
  constructor
  · intro perm id member
    exact perm.mem_iff.mpr (List.mem_map_of_mem member)
  · intro answered
    have nodup : (ids.map some).Nodup := distinct.map (Option.some_injective _)
    have among : ids.map some ⊆ msgs.map Message.key := by
      intro key member
      obtain ⟨id, own, rfl⟩ := List.mem_map.mp member
      exact answered id own
    have subperm := List.subperm_of_subset nodup among
    exact (subperm.perm_of_length_le (by simp [full])).symm

/-- Responses that belong to the elements one by one. -/
theorem known_of_perm {ids : List Nat} {msgs : List Message} (perm : (msgs.map Message.key).Perm (ids.map some)) :
    msgs.length = ids.length ∧ ∀ msg ∈ msgs, ∃ id ∈ ids, msg.key = some id := by
  refine ⟨by simpa using perm.length_eq, ?_⟩
  intro msg member
  have own := perm.mem_iff.mp (List.mem_map_of_mem member)
  obtain ⟨id, own_id, same⟩ := List.mem_map.mp own
  exact ⟨id, own_id, same.symm⟩

/-- How the call ends with a reply that cannot be read. -/
theorem batchCallHTTP_of_unread (unmarshal : Nat → Json → Except RpcError Value) (ids : List Nat) {reply : HttpReply}
    (unread : reply.messages = none)
    (patience : Option Nat) :
    ∃ err, batchCallHTTP unmarshal ids reply patience = .returned (some err) (ids.map fun id => { id }) := by
  cases reply with
  | failed err => exact ⟨err, rfl⟩
  | body value =>
      rw [HttpReply.messages] at unread
      simp only [batchCallHTTP, unread]
      exact ⟨_, rfl⟩

/-- One response for each element: the call returns, and every element is settled. -/
theorem batchCallHTTP_of_perm (unmarshal : Nat → Json → Except RpcError Value) {ids : List Nat} (distinct : ids.Nodup)
    {reply : HttpReply} {msgs : List Message} (decoded : reply.messages = some msgs)
    (perm : (msgs.map Message.key).Perm (ids.map some)) {patience : Option Nat} (lasts : taken patience msgs = msgs) :
    ∃ elems, batchCallHTTP unmarshal ids reply patience = .returned none elems ∧
      ∀ elem ∈ elems, settled elem = true := by
  obtain ⟨full, known⟩ := known_of_perm perm
  have all_settled := (perm_iff_settled unmarshal distinct full).mp perm
  refine ⟨ids.map fun id => msgs.foldl (respond unmarshal) { id }, ?_, by simpa using all_settled⟩
  rw [batchCallHTTP_eq distinct decoded, if_neg (by omega), lasts, if_pos known, if_pos full]

/-- The call returns without an error exactly if there are as many responses as elements, all belong to elements and
the context lasts until the last of them. -/
theorem batchCallHTTP_eq_returned_iff {ids : List Nat} (distinct : ids.Nodup) {reply : HttpReply} {msgs : List Message}
    (decoded : reply.messages = some msgs) {patience : Option Nat} {elems : List (BatchElem Value)} :
    batchCallHTTP unmarshal ids reply patience = .returned none elems ↔
      (msgs.length = ids.length ∧ taken patience msgs = msgs ∧ ∀ msg ∈ msgs, ∃ id ∈ ids, msg.key = some id) ∧
        elems = ids.map fun id => msgs.foldl (respond unmarshal) { id } := by
  have fewer := length_taken_le patience msgs
  rw [batchCallHTTP_eq distinct decoded]
  split_ifs with many known full
  · refine iff_of_false (by rintro ⟨⟩) ?_
    rintro ⟨⟨full, _⟩, _⟩
    omega
  · have lasts : taken patience msgs = msgs := taken_eq_of_length (by omega)
    rw [lasts] at known full ⊢
    constructor
    · rintro ⟨⟩
      exact ⟨⟨full, rfl, known⟩, rfl⟩
    · rintro ⟨_, rfl⟩
      rfl
  · refine iff_of_false ?_ ?_
    · cases patience <;> rintro ⟨⟩
    · rintro ⟨⟨length, lasts, _⟩, _⟩
      exact full (by rw [lasts, length])
  · refine iff_of_false (by rintro ⟨⟩) ?_
    rintro ⟨⟨_, lasts, all⟩, _⟩
    exact known (by rwa [lasts])

theorem batchCallHTTP_eq_crashed_iff {ids : List Nat} (distinct : ids.Nodup) {reply : HttpReply} {msgs : List Message}
    (decoded : reply.messages = some msgs) {patience : Option Nat} :
    batchCallHTTP unmarshal ids reply patience = .crashed ↔
      msgs.length ≤ ids.length ∧ ∃ msg ∈ taken patience msgs, ∀ id ∈ ids, msg.key ≠ some id := by
  have unknown_iff : (∃ msg ∈ taken patience msgs, ∀ id ∈ ids, msg.key ≠ some id) ↔
      ¬∀ msg ∈ taken patience msgs, ∃ id ∈ ids, msg.key = some id := by
    push Not
    rfl
  rw [batchCallHTTP_eq distinct decoded, unknown_iff]
  split_ifs with many known full
  · exact iff_of_false (by rintro ⟨⟩) fun holds => absurd holds.1 (not_le.mpr many)
  · exact iff_of_false (by rintro ⟨⟩) fun holds => holds.2 known
  · refine iff_of_false ?_ fun holds => holds.2 known
    cases patience <;> rintro ⟨⟩
  · exact iff_of_true rfl ⟨not_lt.mp many, known⟩

theorem batchCallHTTP_eq_stuck_iff {ids : List Nat} (distinct : ids.Nodup) {reply : HttpReply} {msgs : List Message}
    (decoded : reply.messages = some msgs) {patience : Option Nat} :
    batchCallHTTP unmarshal ids reply patience = .stuck ↔ ids.length < msgs.length ∨
      patience = none ∧ msgs.length < ids.length ∧ ∀ msg ∈ msgs, ∃ id ∈ ids, msg.key = some id := by
  rw [batchCallHTTP_eq distinct decoded]
  cases patience with
  | some responses =>
      split_ifs with many
      · exact iff_of_true rfl (.inl many)
      all_goals exact iff_of_false (by rintro ⟨⟩) (by simp [many])
  | none =>
      by_cases many : ids.length < msgs.length
      · rw [if_pos many]
        exact iff_of_true rfl (.inl many)
      · rw [if_neg many]
        by_cases known : ∀ msg ∈ taken none msgs, ∃ id ∈ ids, msg.key = some id
        · rw [if_pos known]
          by_cases full : (taken none msgs).length = ids.length
          · rw [if_pos full]
            rw [taken] at full
            exact iff_of_false (by rintro ⟨⟩) (by omega)
          · rw [if_neg full]
            rw [taken] at full
            exact iff_of_true rfl (.inr ⟨rfl, by omega, known⟩)
        · rw [if_neg known]
          refine iff_of_false (by rintro ⟨⟩) ?_
          rintro (more | ⟨_, _, all⟩)
          · exact many more
          · exact known all

/-- A response to the request with the identifier, as the server writes it. -/
def responseText (digits : List Char) : Json :=
  .object [(['i', 'd'], .number digits), (['r', 'e', 's', 'u', 'l', 't'], .string [])]

end Batch

/-! ## Single requests over HTTP -/

/-- `sendHTTP`.  The response goes into the channel of the request: into its buffer, or into a nil channel, at which
the caller waits for ever. -/
def sendHTTP (hasChannel : Bool) : HttpReply → Ending (Option Message)
  | .failed err => .returned (some err) none
  | .body value =>
      match value >>= decodeMessage with
      | none => .returned (some (.failure "invalid response")) none
      | some msg => if hasChannel then .returned none (some msg) else .stuck

/-- `CallContext` over HTTP: whatever its identifier is, the response is taken for that of the request. -/
def callHTTP {Value : Type} (unmarshal : Json → Except RpcError Value) (reply : HttpReply) :
    Ending (Option Value) :=
  match sendHTTP true reply with
  | .returned none (some msg) =>
      match msg.error, msg.result with
      | some error, _ => .returned (some (.response error)) none
      | none, none => .returned (some .noResult) none
      | none, some result =>
          match unmarshal result with
          | .ok value => .returned none (some value)
          | .error err => .returned (some err) none
  | .returned err _ => .returned err none
  | .stuck => .stuck
  | .crashed => .crashed

/-- `Notify` over HTTP, whose request has no channel. -/
def notifyHTTP (reply : HttpReply) : Ending (Option Message) := sendHTTP false reply

/-- A notification over HTTP never returns without an error: when the server accepts it, the caller waits for ever. -/
theorem notifyHTTP_ne_returned (reply : HttpReply) (msg : Option Message) : notifyHTTP reply ≠ .returned none msg := by
  cases reply with
  | failed err => simp [notifyHTTP, sendHTTP]
  | body value =>
      simp only [notifyHTTP, sendHTTP]
      split <;> simp

end SubstrateClient.Rpc
