import ServiceBus.Yaml.Place

set_option autoImplicit false

/-! # Gaps in scalars

A plain or quoted scalar may go over several lines. Blanks around the end of a line are dropped;
a single end of a line becomes a space, and of several the first is dropped (`Gap.text`). -/

namespace ServiceBus.Yaml

/-- A scalar, where it ends, and whether the last thing read is the end of a line. -/
structure Scalar where
  text : List Char
  place : Place
  broken : Bool := false

/-- A run of blanks and ends of lines. -/
structure Gap where
  /-- The blanks of a gap within a line. -/
  spaces : List Char
  /-- The ends of lines. -/
  breaks : List Char
  /-- Where the gap ends. -/
  place : Place

namespace Gap

/-- What a gap counts as. -/
def text (g : Gap) : List Char :=
  match g.breaks with
  | [] => g.spaces
  | '\n' :: [] => [' ']
  | '\n' :: rest => rest
  | breaks => breaks

/-- Whether the gap goes over the end of a line. -/
def broken (g : Gap) : Bool := !g.breaks.isEmpty

/-- Read a gap, of which `spaces` and `breaks` have been read, in reverse. Once a line has ended,
tabs may not stand left of the column `indent`. -/
def readFrom (indent : Nat) (broken : Bool) (spaces breaks : List Char) (p : Position) :
    List Char → Option Gap
  | [] => some ⟨spaces.reverse, breaks.reverse, ⟨[], p⟩⟩
  | '\r' :: '\n' :: r => readFrom indent true [] ('\n' :: breaks) (p.nextLine 2) r
  | c :: r =>
      if isBreak c then readFrom indent true [] (breakText c :: breaks) (p.nextLine c.utf8Size) r
      else if isSpace c then
        if broken then
          if c = '\t' && p.column < indent then none
          else readFrom indent broken spaces breaks (p.next c) r
        else readFrom indent broken (c :: spaces) breaks (p.next c) r
      else some ⟨spaces.reverse, breaks.reverse, ⟨c :: r, p⟩⟩

/-- Read a gap. -/
def read (indent : Nat) (p : Place) : Option Gap := readFrom indent false [] [] p.position p.rest

end Gap

end ServiceBus.Yaml
