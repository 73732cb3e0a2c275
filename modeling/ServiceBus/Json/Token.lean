import ServiceBus.Json.Numeral

set_option autoImplicit false

/-! # Tokens of JSON text

A text is cut into marks, words, numerals and strings in one pass, a character at a time. The
characters of a string are kept as numbers, because an escape may stand for one half of a pair
that only together makes a character (`Token.text`). -/

namespace ServiceBus.Json

/-- A unit of JSON text. -/
inductive Token where
  | openArray
  | closeArray
  | openObject
  | closeObject
  | comma
  | colon
  | null
  | bool (b : Bool)
  | number (n : Numeral)
  /-- A string, each character or half of a pair as its number. -/
  | text (units : List Nat)
  deriving DecidableEq

namespace Token

/-- What a text breaks off in the middle of; what has been read is kept in reverse. -/
inductive Pending where
  | nothing
  /-- A word or a numeral. -/
  | run (chars : List Char)
  | text (units : List Nat)
  /-- A string with a backslash at its end. -/
  | escape (units : List Nat)
  /-- A string with a number at its end that lacks some hexadecimal digits. -/
  | number (units : List Nat) (missing : Nat) (n : Nat)

/-- The tokens read, the latest first, and what has been begun. -/
structure Reading where
  tokens : List Token := []
  pending : Pending := .nothing

/-- Blanks between tokens. -/
def isSpace (c : Char) : Bool := c = ' ' || c = '\t' || c = '\n' || c = '\r'

/-- The characters of words and numerals. -/
def isRun (c : Char) : Bool := c.isAlphanum || c = '-' || c = '+' || c = '.'

/-- A mark of its own. -/
def mark? (c : Char) : Option Token :=
  if c = '[' then some .openArray
  else if c = ']' then some .closeArray
  else if c.toNat = 0x7B then some .openObject
  else if c.toNat = 0x7D then some .closeObject
  else if c = ',' then some .comma
  else if c = ':' then some .colon
  else none

/-- The word or the numeral with the given characters. -/
def ofRun? (s : List Char) : Option Token :=
  if s = "null".toList then some .null
  else if s = "true".toList then some (.bool true)
  else if s = "false".toList then some (.bool false)
  else (Numeral.ofChars? s).map .number

/-- The character that a backslash and `c` stand for, except a number. -/
def escaped? (c : Char) : Option Nat :=
  match c with
  | '"' => some 0x22
  | '\\' => some 0x5C
  | '/' => some 0x2F
  | 'b' => some 8
  | 'f' => some 12
  | 'n' => some 10
  | 'r' => some 13
  | 't' => some 9
  | _ => none

/-- Begin a token with the character `c`, or skip it. -/
def start (tokens : List Token) (c : Char) : Option Reading :=
  if isSpace c then some ⟨tokens, .nothing⟩
  else if c = '"' then some ⟨tokens, .text []⟩
  else if isRun c then some ⟨tokens, .run [c]⟩
  else (mark? c).map fun t => ⟨t :: tokens, .nothing⟩

/-- Read the character `c`. -/
def read (r : Reading) (c : Char) : Option Reading :=
  match r.pending with
  | .nothing => start r.tokens c
  | .run chars =>
      if isRun c then some { r with pending := .run (c :: chars) }
      else (ofRun? chars.reverse).bind fun t => start (t :: r.tokens) c
  | .text units =>
      if c = '"' then some ⟨.text units.reverse :: r.tokens, .nothing⟩
      else if c = '\\' then some { r with pending := .escape units }
      else if c.toNat < 0x20 then none
      else some { r with pending := .text (c.toNat :: units) }
  | .escape units =>
      if c = 'u' then some { r with pending := .number units 4 0 }
      else (escaped? c).map fun u => { r with pending := .text (u :: units) }
  | .number units missing n =>
      (Text.digit? c).map fun d =>
        if missing ≤ 1 then { r with pending := .text ((16 * n + d) :: units) }
        else { r with pending := .number units (missing - 1) (16 * n + d) }

/-- All the tokens, when nothing is left unfinished. -/
def finish (r : Reading) : Option (List Token) :=
  match r.pending with
  | .nothing => some r.tokens.reverse
  | .run chars => (ofRun? chars.reverse).map fun t => (t :: r.tokens).reverse
  | _ => none

/-- The tokens of a text. -/
def ofChars? (s : List Char) : Option (List Token) := (s.foldlM read {}).bind finish

end Token

end ServiceBus.Json
