set_option autoImplicit false

/-! # Places in a YAML text

A place is what is left to read of a text, with the number of bytes, lines and columns that have
been read. Lines end with a line feed, a carriage return, both, or one of the three line
separators of Unicode; all but two of them count as a line feed in the content. -/

namespace ServiceBus.Yaml

/-- A character that ends a line. -/
def isBreak (c : Char) : Bool :=
  c = '\n' || c = '\r' || c.toNat = 0x85 || c.toNat = 0x2028 || c.toNat = 0x2029

/-- A space or a tab. -/
def isSpace (c : Char) : Bool := c = ' ' || c = '\t'

/-- A blank or the end of a line. -/
def isGap (c : Char) : Bool := isSpace c || isBreak c

/-- Whether a word ends here: at a blank, or at the end of the line or of the text. -/
def endsWord : List Char → Bool
  | [] => true
  | c :: _ => isGap c

/-- Letters, digits, the hyphen and the underscore. -/
def isWordChar (c : Char) : Bool := c.isAlphanum || c = '-' || c = '_'

/-- The characters that may stand in a text. -/
def isAllowed (c : Char) : Bool :=
  let n := c.toNat
  n = 9 || n = 10 || n = 13 || (0x20 ≤ n && n ≤ 0x7E) || n = 0x85 || (0xA0 ≤ n && n ≤ 0xD7FF) ||
  (0xE000 ≤ n && n ≤ 0xFFFD) || 0x10000 ≤ n

/-- How much of a text has been read. -/
structure Position where
  /-- The number of bytes. -/
  index : Nat := 0
  line : Nat := 0
  /-- The number of characters of the line. -/
  column : Nat := 0
  deriving DecidableEq

namespace Position

/-- Past a character within a line. -/
def next (p : Position) (c : Char) : Position :=
  { p with index := p.index + c.utf8Size, column := p.column + 1 }

/-- Past some characters within a line. -/
def skip (p : Position) (s : List Char) : Position := s.foldl next p

/-- Past the end of a line that takes `n` bytes. -/
def nextLine (p : Position) (n : Nat) : Position := ⟨p.index + n, p.line + 1, 0⟩

end Position

/-- What is left of a text, and how much of it has been read. -/
structure Place where
  rest : List Char
  position : Position := {}

namespace Place

/-- Past `n` characters within a line. -/
def skip (p : Place) (n : Nat) : Place := ⟨p.rest.drop n, p.position.skip (p.rest.take n)⟩

/-- Past the characters of the line that satisfy `f`. -/
def skipWhile (p : Place) (f : Char → Bool) : Place :=
  p.skip (p.rest.takeWhile fun c => f c && !isBreak c).length

/-- Past blanks. -/
def skipSpaces (p : Place) : Place := p.skipWhile isSpace

/-- Past the end of the line, if it is here. -/
def skipBreak (p : Place) : Place :=
  match p.rest with
  | '\r' :: '\n' :: r => ⟨r, p.position.nextLine 2⟩
  | c :: r => if isBreak c then ⟨r, p.position.nextLine c.utf8Size⟩ else p
  | [] => p

/-- Past blanks, a comment, and the end of the line; nothing else may be left on the line. -/
def skipLineEnd? (p : Place) : Option Place :=
  let p := p.skipSpaces
  let p := if p.rest.head? = some '#' then p.skipWhile fun _ => true else p
  match p.rest with
  | [] => some p
  | c :: _ => if isBreak c then some p.skipBreak else none

/-- Whether a line begins here with one of the two marks between documents. -/
def atDocumentMark (p : Place) : Bool :=
  p.position.column = 0 &&
    (match p.rest with
    | '-' :: '-' :: '-' :: r => endsWord r
    | '.' :: '.' :: '.' :: r => endsWord r
    | _ => false)

end Place

/-- The character that the end of a line counts as in the content. -/
def breakText (c : Char) : Char :=
  if c.toNat = 0x2028 || c.toNat = 0x2029 then c else '\n'

end ServiceBus.Yaml
