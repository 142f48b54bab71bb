import Mathlib.Data.List.Infix
import SubstrateClient.Utf8Text

/-!
# Identity of errors

An error of the registry is a text.  Wrapping an error and adding a message append to the text, and whether an
error is one of the declared ones is decided by looking for the text of that one.
-/

namespace SubstrateClient.Registry

open Utf8Text

/-! ## `libErr.Error` -/

/-- `libErr.Error`, a string. -/
abbrev ErrorText : Type := List UInt8

namespace ErrorText

/-- `Error.Is`, given the text of the other error. -/
def is (error other : ErrorText) : Bool := decide (other <:+: error)

/-- `fmt.Sprintf` and `fmt.Errorf` with a colon and a blank between two texts. -/
def joined (front back : ErrorText) : ErrorText := front ++ 58 :: 32 :: back

/-- `Error.Wrap`, given the text of the wrapped error. -/
def wrap (error inner : ErrorText) : ErrorText := joined error inner

/-- `Error.WithMsg`, given the formatted message. -/
def withMsg (error message : ErrorText) : ErrorText := joined error message

end ErrorText

/-- The errors that the registry declares. -/
inductive DeclaredError where
  | recursiveDecodersResolving | errorsTypeNotFound | errorsTypeNotVariant | errorFieldsRetrieval
  | callsTypeNotFound | callsTypeNotVariant | callFieldsRetrieval | eventsTypeNotFound
  | eventsTypeNotVariant | eventFieldsRetrieval | fieldDecoderForRecursiveFieldNotFound
  | recursiveFieldResolving | fieldTypeNotFound | fieldDecoderRetrieval | compactFieldTypeNotFound
  | compositeTypeFieldsRetrieval | arrayFieldTypeNotFound | vectorFieldTypeNotFound
  | fieldTypeDefinitionNotSupported | variantTypeFieldsRetrieval | compactTupleItemTypeNotFound
  | compactTupleItemFieldDecoderRetrieval | compactCompositeFieldTypeNotFound
  | compactCompositeFieldDecoderRetrieval | arrayItemFieldDecoderRetrieval
  | sliceItemFieldDecoderRetrieval | tupleItemTypeNotFound | tupleItemFieldDecoderRetrieval
  | bitStoreTypeNotFound | bitStoreTypeNotSupported | bitOrderTypeNotFound | bitOrderCreation
  | primitiveTypeNotSupported | typeFieldDecoding | variantByteDecoding | variantFieldDecoderNotFound
  | arrayItemDecoderNotFound | arrayItemDecoding | sliceItemDecoderNotFound | sliceLengthDecoding
  | sliceItemDecoding | compositeFieldDecoding | valueDecoding | recursiveFieldDecoderNotFound
  | bitVecDecoding | nilTypeDecoder | nilField | nilFieldDecoder | fieldEncode | decodeToTarget
  | decodedFieldNotFound | decodedFieldValueTypeMismatch | decodedFieldValueProcessingError
  | decodedFieldValueNotAGenericSlice
  deriving DecidableEq

/-- The text of a declared error. -/
def DeclaredError.string : DeclaredError → String
  | .recursiveDecodersResolving => "recursive decoders resolving"
  | .errorsTypeNotFound => "errors type not found"
  | .errorsTypeNotVariant => "errors type not a variant"
  | .errorFieldsRetrieval => "error fields retrieval"
  | .callsTypeNotFound => "calls type not found"
  | .callsTypeNotVariant => "calls type not a variant"
  | .callFieldsRetrieval => "call fields retrieval"
  | .eventsTypeNotFound => "events type not found"
  | .eventsTypeNotVariant => "events type not a variant"
  | .eventFieldsRetrieval => "event fields retrieval"
  | .fieldDecoderForRecursiveFieldNotFound => "field decoder for recursive field not found"
  | .recursiveFieldResolving => "recursive field resolving"
  | .fieldTypeNotFound => "field type not found"
  | .fieldDecoderRetrieval => "field decoder retrieval"
  | .compactFieldTypeNotFound => "compact field type not found"
  | .compositeTypeFieldsRetrieval => "composite type fields retrieval"
  | .arrayFieldTypeNotFound => "array field type not found"
  | .vectorFieldTypeNotFound => "vector field type not found"
  | .fieldTypeDefinitionNotSupported => "field type definition not supported"
  | .variantTypeFieldsRetrieval => "variant type fields decoding"
  | .compactTupleItemTypeNotFound => "compact tuple item type not found"
  | .compactTupleItemFieldDecoderRetrieval => "compact tuple item field decoder retrieval"
  | .compactCompositeFieldTypeNotFound => "compact composite field type not found"
  | .compactCompositeFieldDecoderRetrieval => "compact composite field decoder retrieval"
  | .arrayItemFieldDecoderRetrieval => "array item field decoder retrieval"
  | .sliceItemFieldDecoderRetrieval => "slice item field decoder retrieval"
  | .tupleItemTypeNotFound => "tuple item type not found"
  | .tupleItemFieldDecoderRetrieval => "tuple item field decoder retrieval"
  | .bitStoreTypeNotFound => "bit store type not found"
  | .bitStoreTypeNotSupported => "bit store type not supported"
  | .bitOrderTypeNotFound => "bit order type not found"
  | .bitOrderCreation => "bit order creation"
  | .primitiveTypeNotSupported => "primitive type not supported"
  | .typeFieldDecoding => "type field decoding"
  | .variantByteDecoding => "variant byte decoding"
  | .variantFieldDecoderNotFound => "variant field decoder not found"
  | .arrayItemDecoderNotFound => "array item decoder not found"
  | .arrayItemDecoding => "array item decoding"
  | .sliceItemDecoderNotFound => "slice item decoder not found"
  | .sliceLengthDecoding => "slice length decoding"
  | .sliceItemDecoding => "slice item decoding"
  | .compositeFieldDecoding => "composite field decoding"
  | .valueDecoding => "value decoding"
  | .recursiveFieldDecoderNotFound => "recursive field decoder not found"
  | .bitVecDecoding => "bit vec decoding"
  | .nilTypeDecoder => "nil type decoder"
  | .nilField => "nil field"
  | .nilFieldDecoder => "nil field decoder"
  | .fieldEncode => "field encoding"
  | .decodeToTarget => "decode to target"
  | .decodedFieldNotFound => "decoded field not found"
  | .decodedFieldValueTypeMismatch => "decoded field value type mismatch"
  | .decodedFieldValueProcessingError => "decoded field value processing error"
  | .decodedFieldValueNotAGenericSlice => "decoded field value is not a generic slice"

/-- The declared constant. -/
def DeclaredError.text (constant : DeclaredError) : ErrorText := bytes constant.string

/-! ## Chains -/

/-- How an error was built from declared ones. -/
inductive ErrorChain where
  | declared (constant : DeclaredError)
  | wrap (outer inner : ErrorChain)
  /-- An error of other code was wrapped. -/
  | wrapForeign (outer : ErrorChain) (inner : ErrorText)
  | withMsg (outer : ErrorChain) (message : ErrorText)

namespace ErrorChain

/-- The error that was built. -/
def text : ErrorChain → ErrorText
  | declared constant => constant.text
  | wrap outer inner => outer.text.wrap inner.text
  | wrapForeign outer inner => outer.text.wrap inner
  | withMsg outer message => outer.text.withMsg message

/-- The constants in the chain. -/
def constants : ErrorChain → List DeclaredError
  | declared constant => [constant]
  | wrap outer inner => outer.constants ++ inner.constants
  | wrapForeign outer _ => outer.constants
  | withMsg outer _ => outer.constants

/-- The messages and the texts of other code in the chain. -/
def messages : ErrorChain → List ErrorText
  | declared _ => []
  | wrap outer inner => outer.messages ++ inner.messages
  | wrapForeign outer inner => outer.messages ++ [inner]
  | withMsg outer message => outer.messages ++ [message]

/-- No message contains the text of a declared error. -/
def Plain (chain : ErrorChain) : Prop :=
  ∀ message ∈ chain.messages, ∀ constant : DeclaredError, ¬ constant.text <:+: message

end ErrorChain

namespace DeclaredError

/-- Every declared text has a first letter and no colon. -/
theorem text_shape (constant : DeclaredError) :
    constant.text ≠ [] ∧ (58 : UInt8) ∉ constant.text ∧ constant.text.head? ≠ some 32 := by
  cases constant <;> decide +kernel

theorem infix_joined_iff (constant : DeclaredError) (front back : ErrorText) :
    constant.text <:+: ErrorText.joined front back ↔ constant.text <:+: front ∨ constant.text <:+: back := by
  obtain ⟨nonempty, unmarked, no_blank⟩ := constant.text_shape
  exact infix_separated_iff nonempty unmarked no_blank front back

end DeclaredError

namespace ErrorChain

/-- A declared text is found in a chain exactly when a constant or a message of the chain contains it. -/
theorem infix_text_iff (chain : ErrorChain) (target : DeclaredError) :
    target.text <:+: chain.text ↔
      (∃ constant ∈ chain.constants, target.text <:+: constant.text) ∨
        ∃ message ∈ chain.messages, target.text <:+: message := by
  induction chain with
  | declared constant => simp [text, constants, messages]
  | wrap outer inner outer_ih inner_ih =>
      simp only [text, ErrorText.wrap, target.infix_joined_iff, outer_ih, inner_ih, constants, messages,
        List.mem_append, or_and_right, exists_or]
      exact or_or_or_comm
  | wrapForeign outer inner ih | withMsg outer inner ih =>
      simp only [text, ErrorText.wrap, ErrorText.withMsg, target.infix_joined_iff, ih, constants, messages,
        List.mem_append, List.mem_singleton, or_and_right, exists_or, exists_eq_left, or_assoc]

/-- A declared error is recognised in a plain chain exactly if its text is part of the text of a constant. -/
theorem is_text_iff {chain : ErrorChain} (plain : chain.Plain) (target : DeclaredError) :
    chain.text.is target.text = true ↔ ∃ constant ∈ chain.constants, target.text <:+: constant.text := by
  rw [ErrorText.is, decide_eq_true_eq, infix_text_iff, or_iff_left]
  rintro ⟨message, member, inside⟩
  exact plain message member target inside

/-- Identity of errors is exact for a declared error exactly if it is in the chain, or no constant of the chain
has a text that contains its own. -/
theorem is_exact_iff {chain : ErrorChain} (plain : chain.Plain) (target : DeclaredError) :
    (chain.text.is target.text = true ↔ target ∈ chain.constants) ↔
      (target ∈ chain.constants ∨ ∀ constant ∈ chain.constants, ¬ target.text <:+: constant.text) := by
  rw [is_text_iff plain]
  constructor
  · intro exact_identity
    by_cases member : target ∈ chain.constants
    · exact .inl member
    · refine .inr fun constant in_chain inside => member (exact_identity.mp ⟨constant, in_chain, inside⟩)
  · rintro (member | apart)
    · exact iff_of_true ⟨target, member, List.infix_rfl⟩ member
    · refine iff_of_false ?_ fun member => apart target member List.infix_rfl
      rintro ⟨constant, in_chain, inside⟩
      exact apart constant in_chain inside

/-- The error of a compact field whose type is missing, with the field's name. -/
def sampleChain : ErrorChain := .withMsg (.declared .compactFieldTypeNotFound) (bytes "id")

theorem sampleChain_plain : sampleChain.Plain := by
  intro message member constant
  rw [show message = bytes "id" by simpa [sampleChain, messages] using member]
  cases constant <;> decide +kernel

theorem is_exact_sampleChain :
    (sampleChain.text.is DeclaredError.compactFieldTypeNotFound.text = true ↔
        DeclaredError.compactFieldTypeNotFound ∈ sampleChain.constants) ∧
      ¬ (sampleChain.text.is DeclaredError.fieldTypeNotFound.text = true ↔
        DeclaredError.fieldTypeNotFound ∈ sampleChain.constants) := by
  refine ⟨(is_exact_iff sampleChain_plain _).mpr (.inl (by decide)), ?_⟩
  exact mt (is_exact_iff sampleChain_plain _).mp (by decide +kernel)

/-- The error of a compact field is taken for that of a field, which is not in the chain. -/
theorem compact_field_is_field :
    (ErrorChain.declared .compactFieldTypeNotFound).text.is DeclaredError.fieldTypeNotFound.text = true ∧
      ¬ ∀ (chain : ErrorChain) (target : DeclaredError), chain.Plain →
        (chain.text.is target.text = true ↔ target ∈ chain.constants) := by
  have found :
      (ErrorChain.declared .compactFieldTypeNotFound).text.is DeclaredError.fieldTypeNotFound.text = true := by
    decide +kernel
  refine ⟨found, fun all => ?_⟩
  have plain : (ErrorChain.declared .compactFieldTypeNotFound).Plain := by
    intro message member
    cases member
  have member := (all _ .fieldTypeNotFound plain).mp found
  simp [constants] at member

end ErrorChain

end SubstrateClient.Registry
