import DramScheduler.Json.Token

/-!
# From tokens to a value

`Value.ofTokens?` builds the value that a sequence of tokens stands for. It reads each token
once and keeps the arrays and objects that are still open on a stack, so documents may be
nested to any depth. `Value.parse?` is the whole way from the characters of a document.
-/

namespace DramScheduler.Json

/-- An array or object that is still open; its parts are held last first. -/
inductive Frame where
  /-- An array, with the items that are complete. -/
  | array (items : List Value)
  /-- An object, with the members that are complete and the key of the next one. -/
  | object (members : List (Text × Value)) (key : Text)
  deriving Inhabited

/-- What the parser waits for. It reads one token after another and never goes back. -/
inductive Expecting where
  /-- A value, with nothing else allowed in its place. -/
  | value
  /-- The first item of an array, or its end. -/
  | firstItem
  /-- The first key of an object, or its end. -/
  | firstKey
  /-- A further key of an object. -/
  | nextKey (members : List (Text × Value))
  /-- The colon after a key. -/
  | colon (members : List (Text × Value)) (key : Text)
  /-- What follows a complete value inside an array or object. -/
  | separator
  /-- Nothing: the document is complete. -/
  | done (value : Value)
  deriving Inhabited

/-- State of the parser: what may come next and what is open around it, innermost first. In
the state `separator` the innermost frame already holds the value that was completed. -/
structure Parse where
  /-- What may come next. -/
  expecting : Expecting := .value
  /-- The arrays and objects that are open, innermost first. -/
  frames : List Frame := []
  deriving Inhabited

namespace Parse

/-- The state after a complete value. -/
def complete (frames : List Frame) (v : Value) : Parse :=
  match frames with
  | [] => ⟨.done v, []⟩
  | .array items :: outer => ⟨.separator, .array (v :: items) :: outer⟩
  | .object members key :: outer => ⟨.separator, .object ((key, v) :: members) key :: outer⟩

/-- The state after the first token of a value. -/
def begin (frames : List Frame) : Token → Option Parse
  | .atom v => some (complete frames v)
  | .string text => some (complete frames (.string text))
  | .openArray => some ⟨.firstItem, .array [] :: frames⟩
  | .openObject => some ⟨.firstKey, frames⟩
  | _ => none

/-- The state after a token, unless the token may not come there. A token is judged by what is
expected and by the innermost open part alone. -/
def step (p : Parse) (t : Token) : Option Parse :=
  match p.expecting, t, p.frames with
  | .value, t, frames => begin frames t
  | .firstItem, .closeArray, .array items :: outer => some (complete outer (.array items.reverse))
  | .firstItem, t, frames => begin frames t
  | .firstKey, .closeObject, frames => some (complete frames (.object []))
  | .firstKey, .string key, frames => some ⟨.colon [] key, frames⟩
  | .nextKey members, .string key, frames => some ⟨.colon members key, frames⟩
  | .colon members key, .colon, frames => some ⟨.value, .object members key :: frames⟩
  | .separator, .comma, .array items :: outer => some ⟨.value, .array items :: outer⟩
  | .separator, .comma, .object members _ :: outer => some ⟨.nextKey members, outer⟩
  | .separator, .closeArray, .array items :: outer => some (complete outer (.array items.reverse))
  | .separator, .closeObject, .object members _ :: outer =>
    some (complete outer (.object members.reverse))
  | _, _, _ => none

/-- The value of a complete document. -/
def result? (p : Parse) : Option Value :=
  match p.expecting with
  | .done v => some v
  | _ => none

end Parse

/-- The value that tokens stand for. -/
def Value.ofTokens? (tokens : List Token) : Option Value :=
  (tokens.foldlM Parse.step {}).bind Parse.result?

/-- The value of a document, unless it is not well formed. -/
def Value.parse? (document : String) : Option Value :=
  (Token.scan document.toList).bind Value.ofTokens?

end DramScheduler.Json
