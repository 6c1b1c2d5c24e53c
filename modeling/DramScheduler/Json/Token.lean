import DramScheduler.Json.Value

/-!
# Tokens of a JSON document

`Token.scan` cuts the characters of a document into tokens, or fails if some part of it is no
token. It is one pass over the characters by a machine with a small state (`Scan`), so it
needs no look-ahead: numbers and words end where a character comes that cannot continue them,
and are only judged then.

A string keeps the characters its escapes stand for. An escape `\u` gives sixteen bits; two of
them make up one character if they are a high and a low surrogate in this order, and any other
surrogate leaves the string without characters (`Piece.chars?`).
-/

namespace DramScheduler.Json

/-- The tokens of a document: its punctuation, and what it stands for otherwise. Blanks are between
them and not among them. -/
inductive Token where
  | openArray
  | closeArray
  | openObject
  | closeObject
  | comma
  | colon
  /-- A word or a number. -/
  | atom (value : Value)
  /-- A string, which may also stand as the key of a member. -/
  | string (text : Text)
  deriving Inhabited

/-! ### Numbers and words -/

/-- The rest of a text after its leading digits, if it starts with one. -/
def dropDigits? : List Char → Option (List Char)
  | [] => none
  | c :: rest => if c.isDigit then some (rest.dropWhile Char.isDigit) else none

/-- The rest of a number after its sign, if it has one. -/
def dropSign : List Char → List Char
  | '-' :: rest => rest
  | cs => cs

/-- The rest of a number after its whole part, which has no leading zero. -/
def dropWhole? : List Char → Option (List Char)
  | '0' :: rest => some rest
  | cs => dropDigits? cs

/-- The rest of a number after its fraction, if it has one. -/
def dropFraction? : List Char → Option (List Char)
  | '.' :: rest => dropDigits? rest
  | cs => some cs

/-- The rest of a number after its exponent, if it has one. -/
def dropExponent? : List Char → Option (List Char)
  | 'e' :: rest | 'E' :: rest =>
    match rest with
    | '+' :: digits | '-' :: digits => dropDigits? digits
    | digits => dropDigits? digits
  | cs => some cs

/-- Whether characters are a number as documents write them: sign, whole part, fraction and
exponent, all but the whole part optional. -/
def isNumber (cs : List Char) : Bool :=
  (((dropWhole? (dropSign cs)).bind dropFraction?).bind dropExponent?).any List.isEmpty

/-- The natural number that digits stand for. -/
def naturalOfDigits (cs : List Char) : Nat :=
  cs.foldl (fun n c => 10 * n + (c.toNat - '0'.toNat)) 0

/-- The most digits of a number whose value is known. No number of 64 bits has more. -/
def maxDigits : Nat := 20

/-- The natural number that characters stand for, if they are digits and not too many. -/
def natural? (cs : List Char) : Option Nat :=
  if cs.length ≤ maxDigits && cs.all Char.isDigit then some (naturalOfDigits cs) else none

/-- The value of a number. One that is no natural number of moderate length is kept without its
value. -/
def number? (cs : List Char) : Option Value :=
  if isNumber cs then some (.number (natural? cs)) else none

/-- The value of one of the three words that a document may contain. -/
def word? : List Char → Option Value
  | ['n', 'u', 'l', 'l'] => some .null
  | ['t', 'r', 'u', 'e'] => some (.bool true)
  | ['f', 'a', 'l', 's', 'e'] => some (.bool false)
  | _ => none

/-! ### Strings -/

/-- A part of a string before its surrogates are put together. -/
inductive Piece where
  /-- A character that stands for itself or is escaped by a letter. -/
  | char (c : Char)
  /-- Sixteen bits given by their number. -/
  | bits (n : Nat)
  deriving DecidableEq, Repr, Inhabited

namespace Piece

/-- Whether sixteen bits are a high surrogate. -/
def isHigh (n : Nat) : Bool := 0xD800 ≤ n && n ≤ 0xDBFF

/-- Whether sixteen bits are a low surrogate. -/
def isLow (n : Nat) : Bool := 0xDC00 ≤ n && n ≤ 0xDFFF

/-- The character of a high and a low surrogate. -/
def paired (high low : Nat) : Char :=
  Char.ofNat (0x10000 + (high - 0xD800) * 0x400 + (low - 0xDC00))

/-- The characters that pieces stand for, unless some surrogate has no partner. -/
def chars? : List Piece → Option (List Char)
  | [] => some []
  | char c :: rest => (chars? rest).map (c :: ·)
  | bits high :: rest =>
    if isHigh high then
      match rest with
      | bits low :: rest' =>
        if isLow low then (chars? rest').map (paired high low :: ·) else none
      | _ => none
    else if isLow high then none
    else (chars? rest).map (Char.ofNat high :: ·)

/-- The text that pieces stand for. -/
def text (pieces : List Piece) : Text :=
  (chars? pieces).map String.ofList

end Piece

/-- The character an escape letter stands for. -/
def escaped? : Char → Option Char
  | '"' => some '"'
  | '\\' => some '\\'
  | '/' => some '/'
  | 'b' => some '\x08'
  | 'f' => some '\x0c'
  | 'n' => some '\n'
  | 'r' => some '\r'
  | 't' => some '\t'
  | _ => none

/-- The value of a hexadecimal digit, in either case. -/
def hexDigit? (c : Char) : Option Nat :=
  if c.isDigit then some (c.toNat - '0'.toNat)
  else if 'a' ≤ c && c ≤ 'f' then some (c.toNat - 'a'.toNat + 10)
  else if 'A' ≤ c && c ≤ 'F' then some (c.toNat - 'A'.toNat + 10)
  else none

/-! ### Scanning -/

/-- What the scanner is in the middle of. Pieces are held last first. -/
inductive Pending where
  /-- Nothing: between two tokens. -/
  | nothing
  /-- A number, with its characters so far. -/
  | number (chars : List Char)
  /-- A word, with its letters so far. -/
  | word (chars : List Char)
  /-- A string, with its pieces so far. -/
  | string (pieces : List Piece)
  /-- A string, just after a backslash. -/
  | escape (pieces : List Piece)
  /-- A string, with some of the four digits of an escape to come. -/
  | hex (pieces : List Piece) (missing : Nat) (value : Nat)
  deriving Inhabited

/-- State of the scanner. Tokens are held last first. -/
structure Scan where
  /-- The tokens that are complete. -/
  tokens : List Token := []
  /-- The token that is not. -/
  current : Pending := .nothing
  deriving Inhabited

namespace Scan

/-- Adds a token and goes on between tokens. -/
def emit (s : Scan) (t : Token) : Scan :=
  ⟨t :: s.tokens, .nothing⟩

/-- Goes on inside a token. -/
def inside (s : Scan) (p : Pending) : Scan :=
  { s with current := p }

/-- Whether a character separates tokens without meaning anything. -/
def isBlank (c : Char) : Bool :=
  c == ' ' || c == '\t' || c == '\n' || c == '\r'

/-- Whether a character may stand in a number. -/
def continuesNumber (c : Char) : Bool :=
  c.isDigit || c == '-' || c == '+' || c == '.' || c == 'e' || c == 'E'

/-- The state after a character that is no part of an open token. -/
def start (s : Scan) (c : Char) : Option Scan :=
  if isBlank c then some s
  else if c.isDigit || c == '-' then some (s.inside (.number [c]))
  else if c.isAlpha then some (s.inside (.word [c]))
  else if c == '"' then some (s.inside (.string []))
  else if c == '[' then some (s.emit .openArray)
  else if c == ']' then some (s.emit .closeArray)
  else if c == '\x7b' then some (s.emit .openObject)
  else if c == '\x7d' then some (s.emit .closeObject)
  else if c == ',' then some (s.emit .comma)
  else if c == ':' then some (s.emit .colon)
  else none

/-- The state once an open number or word is over. An open string is never over by itself. -/
def close (s : Scan) : Option Scan :=
  match s.current with
  | .nothing => some s
  | .number chars => (number? chars.reverse).map fun v => s.emit (.atom v)
  | .word chars => (word? chars.reverse).map fun v => s.emit (.atom v)
  | _ => none

/-- The state after a character. One that cannot continue a number or a word ends it and is then
looked at anew. -/
def step (s : Scan) (c : Char) : Option Scan :=
  match s.current with
  | .nothing => s.start c
  | .number chars =>
    if continuesNumber c then some (s.inside (.number (c :: chars)))
    else s.close.bind (start · c)
  | .word chars =>
    if c.isAlpha then some (s.inside (.word (c :: chars)))
    else s.close.bind (start · c)
  | .string pieces =>
    if c == '"' then some (s.emit (.string (Piece.text pieces.reverse)))
    else if c == '\\' then some (s.inside (.escape pieces))
    else if c.toNat < 0x20 then none
    else some (s.inside (.string (.char c :: pieces)))
  | .escape pieces =>
    if c == 'u' then some (s.inside (.hex pieces 4 0))
    else (escaped? c).map fun e => s.inside (.string (.char e :: pieces))
  | .hex pieces missing value =>
    (hexDigit? c).map fun digit =>
      let value := 16 * value + digit
      if missing ≤ 1 then s.inside (.string (.bits value :: pieces))
      else s.inside (.hex pieces (missing - 1) value)

end Scan

/-- The tokens of a document, unless some part of it is no token. -/
def Token.scan (cs : List Char) : Option (List Token) :=
  ((cs.foldlM Scan.step {}).bind Scan.close).map fun s => s.tokens.reverse

end DramScheduler.Json
