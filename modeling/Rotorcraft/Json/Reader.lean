import Rotorcraft.Json.Token

/-! # Reading JSON values

The structure of a text is read by a machine that takes one token at a time and keeps the open
containers on a stack. A text is the value that the machine holds when the tokens end.
-/

namespace Rotorcraft.Json

/-- A container that is still open, with what it holds so far, last first. -/
inductive OpenContainer where
  | array (items : List Json)
  | object (members : List (Option String × Json))
  /-- An object in which the value of `name` is being read. -/
  | member (members : List (Option String × Json)) (name : Option String)

/-- What a reader waits for. -/
inductive Awaiting where
  | value
  /-- The first item of an array, or its end. -/
  | firstItem
  /-- The first name of an object, or its end. -/
  | firstName
  | name
  | colon
  /-- What follows a complete value: a separator, the end of a container, or the end of the text. -/
  | next (complete : Json)

/-- A reader between two tokens. -/
structure ReaderState where
  awaiting : Awaiting := .value
  nesting : List OpenContainer := []

namespace ReaderState

/-- Starts the value that a token begins. -/
def beginValue (nesting : List OpenContainer) : Token → Option ReaderState
  | .null => some ⟨.next .null, nesting⟩
  | .bool value => some ⟨.next (.bool value), nesting⟩
  | .number value => some ⟨.next (.number value), nesting⟩
  | .string text => some ⟨.next (.string text), nesting⟩
  | .beginArray => some ⟨.firstItem, .array [] :: nesting⟩
  | .beginObject => some ⟨.firstName, .object [] :: nesting⟩
  | _ => none

def takeName (nesting : List OpenContainer) (name : Option String) : Option ReaderState :=
  match nesting with
  | .object members :: outer => some ⟨.colon, .member members name :: outer⟩
  | _ => none

def takeNext (complete : Json) (nesting : List OpenContainer) (token : Token) :
    Option ReaderState :=
  match token, nesting with
  | .comma, .array items :: outer => some ⟨.value, .array (complete :: items) :: outer⟩
  | .comma, .member members name :: outer =>
    some ⟨.name, .object ((name, complete) :: members) :: outer⟩
  | .endArray, .array items :: outer => some ⟨.next (.array (complete :: items).reverse), outer⟩
  | .endObject, .member members name :: outer =>
    some ⟨.next (.object ((name, complete) :: members).reverse), outer⟩
  | _, _ => none

def step (state : ReaderState) (token : Token) : Option ReaderState :=
  match state.awaiting, token with
  | .firstItem, .endArray => some ⟨.next (.array []), state.nesting.drop 1⟩
  | .firstName, .endObject => some ⟨.next (.object []), state.nesting.drop 1⟩
  | .value, _ => beginValue state.nesting token
  | .firstItem, _ => beginValue state.nesting token
  | .firstName, .string name => takeName state.nesting name
  | .name, .string name => takeName state.nesting name
  | .colon, .colon => some ⟨.value, state.nesting⟩
  | .next complete, _ => takeNext complete state.nesting token
  | _, _ => none

/-- The value of a text that ends here. -/
def finish? (state : ReaderState) : Option Json :=
  match state.awaiting, state.nesting with
  | .next complete, [] => some complete
  | _, _ => none

end ReaderState

def ofTokens? (tokens : List Token) : Option Json :=
  (tokens.foldlM ReaderState.step {}).bind ReaderState.finish?

/-- The value that a text denotes, if it is one JSON value and nothing else. -/
def parse? (text : String) : Option Json :=
  (tokens? text.toList).bind ofTokens?

end Rotorcraft.Json
