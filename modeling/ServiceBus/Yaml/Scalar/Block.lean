import ServiceBus.Yaml.Scalar.Gap

set_option autoImplicit false

/-! # Block scalars

The lines of a block scalar are those indented as far as its first line, or as far as its head
says. A literal scalar keeps the ends of lines; a folded one turns a single end of a line between
two lines without further indentation into a space. What is at the end is kept, reduced to one
end of a line, or taken away, as the head says. -/

namespace ServiceBus.Yaml.Block

/-- What becomes of the ends of lines at the end. -/
inductive Chomping where
  | clip
  | strip
  | keep
  deriving DecidableEq

/-- The first line of a block scalar. -/
structure Head where
  chomping : Chomping := .clip
  /-- How far the scalar is indented against what it stands in. -/
  increment : Option Nat := none

/-- The chomping that a character indicates. -/
def chomping? (c : Char) : Option Chomping :=
  if c = '+' then some .keep else if c = '-' then some .strip else none

/-- The increment that a character indicates. -/
def increment? (c : Char) : Option Nat :=
  if '1' ≤ c && c ≤ '9' then some (c.toNat - 48) else none

/-- Read the indicators of a head, which may come in either order. -/
def readHead (p : Place) : Option (Head × Place) :=
  match p.rest with
  | [] => some ({}, p)
  | c :: r =>
      match chomping? c with
      | some chomping =>
          match r.head? with
          | none => some ({ chomping := chomping }, p.skip 1)
          | some d =>
              if d = '0' then none
              else
                match increment? d with
                | some n => some (⟨chomping, some n⟩, p.skip 2)
                | none => some ({ chomping := chomping }, p.skip 1)
      | none =>
          if c = '0' then none
          else
            match increment? c with
            | none => some ({}, p)
            | some n =>
                match r.head?.bind chomping? with
                | some chomping => some (⟨chomping, some n⟩, p.skip 2)
                | none => some (⟨.clip, some n⟩, p.skip 1)

/-- Empty lines, the largest indentation found among them and in front of what follows, and
where that is. -/
structure Blanks where
  breaks : List Char
  most : Nat
  place : Place

/-- Read empty lines; `breaks` have been read, in reverse. Lines are empty up to the indentation,
or altogether while it is not known. -/
def readBlanks (indent : Option Nat) (most : Nat) (breaks : List Char) (p : Position) :
    List Char → Option Blanks
  | [] => some ⟨breaks.reverse, max most p.column, ⟨[], p⟩⟩
  | '\r' :: '\n' :: r => readBlanks indent (max most p.column) ('\n' :: breaks) (p.nextLine 2) r
  | c :: r =>
      let inside := indent.all fun n => p.column < n
      if c = ' ' && inside then readBlanks indent most breaks (p.next c) r
      else if c = '\t' && inside then none
      else if isBreak c then
        readBlanks indent (max most p.column) (breakText c :: breaks) (p.nextLine c.utf8Size) r
      else some ⟨breaks.reverse, max most p.column, ⟨c :: r, p⟩⟩

/-- What has been read of a scalar: the text in reverse, the end of the last line, the empty
lines after it, and whether that line began with a blank. -/
structure Progress where
  done : List Char := []
  lastBreak : List Char := []
  blanks : List Char
  indented : Bool := false
  place : Place

/-- Whether the end of the last line is folded, given whether the next line begins with a
blank. -/
def Progress.folds (s : Progress) (literal indented : Bool) : Bool :=
  !literal && s.lastBreak = ['\n'] && !s.indented && !indented

/-- The text up to the next line. -/
def Progress.joined (s : Progress) (literal indented : Bool) : List Char :=
  if s.folds literal indented then
    if s.blanks.isEmpty then ' ' :: s.done else s.blanks.reverse ++ s.done
  else s.blanks.reverse ++ s.lastBreak ++ s.done

/-- Read the lines that are indented by `indent`; `fuel` lines are read at most. -/
def readLines (literal : Bool) (indent : Nat) : Nat → Progress → Option Progress
  | 0, _ => none
  | fuel + 1, s =>
      match s.place.rest with
      | [] => some s
      | c :: _ =>
          if s.place.position.column ≠ indent then some s
          else
            let line := s.place.rest.takeWhile fun c => !isBreak c
            let q := s.place.skip line.length
            let lastBreak := (q.rest.head?.map breakText).toList
            match readBlanks (some indent) 0 [] q.skipBreak.position q.skipBreak.rest with
            | none => none
            | some b =>
                readLines literal indent fuel
                  { done := line.reverse ++ s.joined literal (isSpace c)
                    lastBreak := lastBreak
                    blanks := b.breaks
                    indented := isSpace c
                    place := b.place }

/-- The text of a scalar whose lines have been read. -/
def Progress.finish (s : Progress) (chomping : Chomping) : List Char :=
  match chomping with
  | .strip => s.done.reverse
  | .clip => (s.lastBreak ++ s.done).reverse
  | .keep => (s.lastBreak ++ s.done).reverse ++ s.blanks

/-- Read a block scalar from its indicator, where `outer` is the column of the block it stands
in. -/
def read (outer : Option Nat) (fuel : Nat) (p : Place) : Option Scalar :=
  let literal := p.rest.head? = some '|'
  match readHead (p.skip 1) with
  | none => none
  | some (head, q) =>
      match q.skipLineEnd? with
      | none => none
      | some q =>
          let least := max 1 ((outer.map (· + 1)).getD 0)
          let given := head.increment.map fun n => outer.getD 0 + n
          match readBlanks given 0 [] q.position q.rest with
          | none => none
          | some b =>
              let indent := given.getD (max b.most least)
              (readLines literal indent fuel { blanks := b.breaks, place := b.place }).map fun s =>
                ⟨s.finish head.chomping, s.place, true⟩

end ServiceBus.Yaml.Block
