import ServiceBus.Yaml.Scalar.Block
import ServiceBus.Yaml.Scalar.Plain
import ServiceBus.Yaml.Scalar.Quoted
import ServiceBus.Yaml.Token.Names

set_option autoImplicit false

/-! # Reading tokens

Tokens are read from left to right. Blocks that are only indented are opened and closed by
comparing columns. That something is a key is known only when the colon behind it is found; so
its place is remembered (`Candidate`), and the key is put in there later. A key has to be within
a line and not too long. -/

namespace ServiceBus.Yaml.Token

/-- Something that may turn out to be a key. -/
structure Candidate where
  /-- How many tokens there were in front of it. -/
  number : Nat
  position : Position
  /-- Whether it can be nothing else. -/
  required : Bool

/-- Whether a candidate can still be a key at a position. -/
def Candidate.isOpen (c : Candidate) (p : Position) : Bool :=
  c.position.line = p.line && p.index ≤ c.position.index + 1024

/-- A text that has been read in part. -/
structure Reading where
  place : Place
  /-- The tokens, the latest first, and their number. -/
  tokens : List Token := []
  count : Nat := 0
  /-- The columns of the blocks that are open, the innermost first. -/
  blocks : List Nat := []
  /-- The candidates outside and inside of each open bracket, the innermost first. -/
  candidates : List (Option Candidate) := [none]
  /-- Whether a key may begin here. -/
  keyAllowed : Bool := true
  ended : Bool := false

namespace Reading

/-- Whether a bracket is open. -/
def flow (r : Reading) : Bool := 1 < r.candidates.length

/-- The column. -/
def column (r : Reading) : Nat := r.place.position.column

/-- The least column of what stands in the innermost block. -/
def inner (r : Reading) : Nat := (r.blocks.head?.map (· + 1)).getD 0

/-- Append a token. -/
def push (r : Reading) (t : Token) : Reading :=
  { r with tokens := t :: r.tokens, count := r.count + 1 }

/-- Put in a token behind the first `number` tokens. -/
def insert (r : Reading) (number : Nat) (t : Token) : Reading :=
  let later := r.count - number
  { r with tokens := r.tokens.take later ++ t :: r.tokens.drop later, count := r.count + 1 }

/-! ## Blocks -/

/-- Close the blocks right of a column, or all of them. -/
def closeBlocks (r : Reading) (column : Option Nat) : Reading :=
  if r.flow then r
  else
    let closed := r.blocks.takeWhile fun b => column.all fun c => c < b
    { closed.foldl (fun r _ => r.push .blockEnd) r with blocks := r.blocks.drop closed.length }

/-- Open a block at a column, behind the first `number` tokens, unless the column belongs to the
innermost block. -/
def openBlock (r : Reading) (column number : Nat) (t : Token) : Reading :=
  if r.flow || r.blocks.head?.any fun b => column ≤ b then r
  else { r.insert number t with blocks := column :: r.blocks }

/-! ## Keys -/

/-- Give up the innermost candidate. -/
def dropCandidate (r : Reading) : Option Reading :=
  match r.candidates with
  | some c :: rest => if c.required then none else some { r with candidates := none :: rest }
  | _ => some r

/-- Remember that a key may begin here. -/
def markCandidate (r : Reading) : Option Reading :=
  if r.keyAllowed then
    (dropCandidate r).map fun r =>
      let c : Candidate :=
        { number := r.count
          position := r.place.position
          required := !r.flow && r.blocks.head? = some r.column }
      { r with candidates := some c :: r.candidates.tail }
  else some r

/-- Give up the candidates that can no longer be keys. -/
def dropStale (r : Reading) : Option Reading :=
  let stale (c : Option Candidate) : Bool := c.any fun c => !c.isOpen r.place.position
  if r.candidates.any fun c => stale c && c.any (·.required) then none
  else some { r with candidates := r.candidates.map fun c => if stale c then none else c }

/-! ## Between tokens -/

/-- Skip blanks, comments and ends of lines. A tab is no blank where a key may begin, and a byte
order mark is one at the start of a line. -/
def skipFrom (flow allowed comment : Bool) (p : Position) : List Char → Bool × Place
  | [] => (allowed, ⟨[], p⟩)
  | '\r' :: '\n' :: r => skipFrom flow (allowed || !flow) false (p.nextLine 2) r
  | c :: r =>
      if isBreak c then skipFrom flow (allowed || !flow) false (p.nextLine c.utf8Size) r
      else if comment || c = ' ' || (c = '\t' && (flow || !allowed)) ||
          (c.toNat = 0xFEFF && p.column = 0) then
        skipFrom flow allowed comment (p.next c) r
      else if c = '#' then skipFrom flow allowed true (p.next c) r
      else (allowed, ⟨c :: r, p⟩)

/-- Go to the next token. -/
def skip (r : Reading) : Reading :=
  let (allowed, place) := skipFrom r.flow r.keyAllowed false r.place.position r.place.rest
  { r with keyAllowed := allowed, place := place }

/-! ## Single tokens -/

/-- A mark of `n` characters, after which a key may begin or not. -/
def mark (r : Reading) (t : Token) (n : Nat) (keyAllowed : Bool) : Reading :=
  { r.push t with place := r.place.skip n, keyAllowed := keyAllowed }

/-- The end of the text, which closes all blocks. -/
def finish (r : Reading) : Option Reading :=
  (dropCandidate (r.closeBlocks none)).map fun r => { r with keyAllowed := false, ended := true }

/-- A directive. -/
def directive (fuel : Nat) (r : Reading) : Option Reading :=
  (dropCandidate (r.closeBlocks none)).bind fun r =>
    (readDirective fuel r.place).map fun d =>
      { r.push d.1 with place := d.2, keyAllowed := false }

/-- A mark between documents. -/
def documentMark (r : Reading) (t : Token) : Option Reading :=
  (dropCandidate (r.closeBlocks none)).map fun r => r.mark t 3 false

/-- How many brackets may be open at once. Values are nested less deeply anyway. -/
def maxOpen : Nat := 1000

/-- An opening bracket. -/
def openBracket (r : Reading) (t : Token) : Option Reading :=
  if maxOpen < r.candidates.length then none
  else
    (markCandidate r).map fun r =>
      { r.mark t 1 true with candidates := none :: r.candidates }

/-- A closing bracket. -/
def closeBracket (r : Reading) (t : Token) : Option Reading :=
  (dropCandidate r).map fun r =>
    { r.mark t 1 false with
      candidates := if r.flow then r.candidates.tail else r.candidates }

/-- A comma between brackets. -/
def comma (r : Reading) : Option Reading :=
  (dropCandidate r).map fun r => r.mark .comma 1 true

/-- The mark of an entry of a sequence. -/
def entry (r : Reading) : Option Reading :=
  if !r.flow && !r.keyAllowed then none
  else
    (dropCandidate (r.openBlock r.column r.count .blockSequence)).map fun r =>
      r.mark .entry 1 true

/-- The mark of a key. -/
def key (r : Reading) : Option Reading :=
  if !r.flow && !r.keyAllowed then none
  else
    (dropCandidate (r.openBlock r.column r.count .blockMapping)).map fun r =>
      r.mark .key 1 (!r.flow)

/-- The mark of a value. A candidate in front of it is a key. -/
def value (r : Reading) : Option Reading :=
  match r.candidates with
  | some c :: rest =>
      let r := r.insert c.number .key
      let r := r.openBlock c.position.column c.number .blockMapping
      some { r.mark .value 1 false with candidates := none :: rest }
  | _ =>
      if r.flow then some (r.mark .value 1 false)
      else if r.keyAllowed then
        some ((r.openBlock r.column r.count .blockMapping).mark .value 1 true)
      else none

/-- An alias or an anchor. -/
def name (r : Reading) (t : String → Token) : Option Reading :=
  (markCandidate r).bind fun r =>
    (readName r.place).map fun n => { r.push (t n.1) with place := n.2, keyAllowed := false }

/-- A tag. -/
def tag (fuel : Nat) (r : Reading) : Option Reading :=
  (markCandidate r).bind fun r =>
    (readTag r.flow fuel r.place).map fun t => { r.push t.1 with place := t.2, keyAllowed := false }

/-- A scalar that has been read. -/
def scalar (r : Reading) (plain : Bool) (s : Scalar) : Reading :=
  { r.push (.scalar plain (String.ofList s.text)) with place := s.place, keyAllowed := s.broken }

/-- A block scalar. -/
def block (fuel : Nat) (r : Reading) : Option Reading :=
  (dropCandidate r).bind fun r => (Block.read r.blocks.head? fuel r.place).map (r.scalar false)

/-- A quoted scalar. -/
def quoted (fuel : Nat) (r : Reading) : Option Reading :=
  (markCandidate r).bind fun r => (Quoted.read fuel r.place).map (r.scalar false)

/-- A plain scalar. -/
def plain (fuel : Nat) (r : Reading) : Option Reading :=
  (markCandidate r).bind fun r =>
    (Plain.read r.flow r.inner fuel r.place).map (r.scalar true)

/-! ## The whole text -/

/-- The marks that no plain scalar begins with. -/
def isIndicator (c : Char) : Bool :=
  isFlowMark c || ['-', '?', ':', '#', '&', '*', '!', '|', '>', '\'', '"', '%', '@',
    Char.ofNat 0x60].contains c

/-- Whether a plain scalar begins with `c` in front of a text. -/
def beginsPlain (flow : Bool) (c : Char) (r : List Char) : Bool :=
  !(isGap c || isIndicator c) || (c = '-' && !r.head?.any isSpace) ||
    (!flow && (c = '?' || c = ':') && !endsWord r)

/-- Read the token that begins with `c`, in front of a text. -/
def token (fuel : Nat) (r : Reading) (c : Char) (s : List Char) : Option Reading :=
  if r.column = 0 && c = '%' then r.directive fuel
  else if r.place.atDocumentMark then
    r.documentMark (if c = '-' then .documentStart else .documentEnd)
  else if c = '[' then r.openBracket .openSequence
  else if c.toNat = 0x7B then r.openBracket .openMapping
  else if c = ']' then r.closeBracket .closeSequence
  else if c.toNat = 0x7D then r.closeBracket .closeMapping
  else if c = ',' then r.comma
  else if c = '-' && endsWord s then r.entry
  else if c = '?' && (r.flow || endsWord s) then r.key
  else if c = ':' && (r.flow || endsWord s) then r.value
  else if c = '*' then r.name .alias
  else if c = '&' then r.name .anchor
  else if c = '!' then r.tag fuel
  else if (c = '|' || c = '>') && !r.flow then r.block fuel
  else if c = '\'' || c = '"' then r.quoted fuel
  else if beginsPlain r.flow c s then r.plain fuel
  else none

/-- Read the next token. -/
def step (fuel : Nat) (r : Reading) : Option Reading :=
  match r.skip.dropStale with
  | none => none
  | some r =>
      let r := r.closeBlocks (some r.column)
      match r.place.rest with
      | [] => r.finish
      | c :: s => r.token fuel c s

/-- Read all tokens; `steps` of them are read at most, and none takes more than `fuel`. -/
def run (fuel : Nat) : Nat → Reading → Option Reading
  | 0, _ => none
  | steps + 1, r => if r.ended then some r else (r.step fuel).bind (run fuel steps)

end Reading

/-- The tokens of a text. -/
def ofText? (s : String) : Option (List Token) :=
  let cs := s.toList
  if cs.all isAllowed then
    let size := cs.length + 3
    ((Reading.run size size { place := ⟨cs, {}⟩ }).map fun r => r.tokens.reverse)
  else none

end ServiceBus.Yaml.Token
