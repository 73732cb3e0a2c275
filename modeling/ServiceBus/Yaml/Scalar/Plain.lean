import ServiceBus.Yaml.Scalar.Gap

set_option autoImplicit false

/-! # Plain scalars

A plain scalar ends at a colon before a blank, at a comment, at a mark between documents, or on
a line that is not indented; inside brackets also at a bracket or a comma. -/

namespace ServiceBus.Yaml

/-- The marks of collections written in brackets. -/
def isFlowMark (c : Char) : Bool :=
  c = ',' || c = '[' || c = ']' || c.toNat = 0x7B || c.toNat = 0x7D

namespace Plain

/-- Read a word, in reverse in front of `done`. -/
def readWord (flow : Bool) (done : List Char) (p : Position) :
    List Char → Option (List Char × Place)
  | [] => some (done, ⟨[], p⟩)
  | c :: r =>
      if isGap c then some (done, ⟨c :: r, p⟩)
      else if flow && c = ':' && (r.head?.any fun d => isFlowMark d || d = '?') then none
      else if (c = ':' && endsWord r) || (flow && isFlowMark c) then some (done, ⟨c :: r, p⟩)
      else readWord flow (c :: done) (p.next c) r

/-- Read on behind `done`, which is in reverse, and `gap`; `fuel` words are read at most. -/
def readFrom (flow : Bool) (indent : Nat) :
    Nat → List Char → List Char → Bool → Place → Option Scalar
  | 0, _, _, _, _ => none
  | fuel + 1, done, gap, broken, p =>
      if p.atDocumentMark || p.rest.head? = some '#' then some ⟨done.reverse, p, broken⟩
      else
        match readWord flow [] p.position p.rest with
        | none => none
        | some (word, q) =>
            let done := if word.isEmpty then done else word ++ gap.reverse ++ done
            if q.rest.head?.any isGap then
              match Gap.read indent q with
              | none => none
              | some g =>
                  if !flow && g.place.position.column < indent then
                    some ⟨done.reverse, g.place, g.broken⟩
                  else readFrom flow indent fuel done g.text g.broken g.place
            else some ⟨done.reverse, q, broken && word.isEmpty⟩

/-- Read a plain scalar; further lines are indented by at least `indent`. -/
def read (flow : Bool) (indent fuel : Nat) (p : Place) : Option Scalar :=
  readFrom flow indent fuel [] [] false p

end Plain

end ServiceBus.Yaml
