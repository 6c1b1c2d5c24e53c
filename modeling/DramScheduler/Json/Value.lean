/-!
# JSON values

The tree a document stands for, as far as configurations need it. Three things are kept that
a plain tree would lose:

* an object keeps its members in order and with repetitions, since a repeated field is an
  error;
* a number is kept with its value only if it is written as a natural number, without sign,
  fraction, exponent or leading zero, and in no more digits than a number of 64 bits can have,
  since nothing else is accepted in a field;
* a text whose escapes leave a surrogate without its partner is no text of characters. It may
  stand in a part of the document that nobody reads, so it is kept as `none`.
-/

namespace DramScheduler.Json

/-- The characters of a string of a document, if its escapes make up characters. -/
abbrev Text := Option String

/-- The tree that a document stands for. Only natural numbers keep their value, as no field takes
any other. -/
inductive Value where
  /-- The word `null`. -/
  | null
  /-- One of the words `true` and `false`. -/
  | bool (value : Bool)
  /-- A number, with its value if it is written as a natural number of moderate length. -/
  | number (natural : Option Nat)
  /-- A string. -/
  | string (text : Text)
  /-- An array, its items in order. -/
  | array (items : List Value)
  /-- An object, its members in order. -/
  | object (members : List (Text × Value))
  deriving Inhabited

namespace Value

/-- Whether a value is the word `null`. -/
def isNull : Value → Bool
  | null => true
  | _ => false

/-- The value of a word `true` or `false`. -/
def bool? : Value → Option Bool
  | bool b => some b
  | _ => none

/-- The value of a number written as a natural number and not above `top`. -/
def nat? (top : Nat) : Value → Option Nat
  | number (some n) => if n ≤ top then some n else none
  | _ => none

/-- The characters of a string, if it has any reading as characters. -/
def string? : Value → Option String
  | string text => text
  | _ => none

/-- The items of an array. -/
def array? : Value → Option (List Value)
  | array items => some items
  | _ => none

end Value

end DramScheduler.Json
