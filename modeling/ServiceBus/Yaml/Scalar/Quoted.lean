import ServiceBus.Text.Numeral
import ServiceBus.Yaml.Scalar.Gap

set_option autoImplicit false

/-! # Quoted scalars

Between single quotes, a quote is written twice. Between double quotes, a backslash begins an
escape, and joins lines without a space when it ends one. -/

namespace ServiceBus.Yaml.Quoted

/-- The character that a backslash and `c` stand for between double quotes. -/
def escaped? (c : Char) : Option Char :=
  match c with
  | '0' => some (Char.ofNat 0)
  | 'a' => some (Char.ofNat 7)
  | 'b' => some (Char.ofNat 8)
  | 't' => some '\t'
  | '\t' => some '\t'
  | 'n' => some '\n'
  | 'v' => some (Char.ofNat 0x0B)
  | 'f' => some (Char.ofNat 0x0C)
  | 'r' => some '\r'
  | 'e' => some (Char.ofNat 0x1B)
  | ' ' => some ' '
  | '"' => some '"'
  | '/' => some '/'
  | '\\' => some '\\'
  | 'N' => some (Char.ofNat 0x85)
  | '_' => some (Char.ofNat 0xA0)
  | 'L' => some (Char.ofNat 0x2028)
  | 'P' => some (Char.ofNat 0x2029)
  | _ => none

/-- How many hexadecimal digits follow a backslash and `c`. -/
def escapeWidth? (c : Char) : Option Nat :=
  match c with
  | 'x' => some 2
  | 'u' => some 4
  | 'U' => some 8
  | _ => none

/-- The character with the number that the hexadecimal digits make. -/
def numbered? (ds : List Char) : Option Char :=
  match Text.number? 16 ds with
  | none => none
  | some n => if n.isValidChar then some (Char.ofNat n) else none

/-- The character of an escape behind its backslash, and how many characters it takes. -/
def escape? : List Char → Option (Char × Nat)
  | [] => none
  | c :: r =>
      match escapeWidth? c with
      | some width =>
          if (r.take width).length < width then none
          else (numbered? (r.take width)).map fun d => (d, width + 1)
      | none => (escaped? c).map fun d => (d, 1)

/-- Read on behind `done`, which is in reverse; `fuel` steps are taken at most. -/
def readFrom (single : Bool) : Nat → List Char → Place → Option Scalar
  | 0, _, _ => none
  | fuel + 1, done, p =>
      if p.atDocumentMark then none
      else
        match p.rest with
        | [] => none
        | c :: r =>
            if isGap c then
              match Gap.read 0 p with
              | none => none
              | some g => readFrom single fuel (g.text.reverse ++ done) g.place
            else if single && c = '\'' then
              if r.head? = some '\'' then readFrom single fuel ('\'' :: done) (p.skip 2)
              else some ⟨done.reverse, p.skip 1, false⟩
            else if !single && c = '"' then some ⟨done.reverse, p.skip 1, false⟩
            else if !single && c = '\\' then
              if r.head?.any isBreak then
                let q := (p.skip 1).skipBreak
                match Gap.readFrom 0 true [] [] q.position q.rest with
                | none => none
                | some g => readFrom single fuel (g.breaks.reverse ++ done) g.place
              else
                match escape? r with
                | none => none
                | some (d, width) => readFrom single fuel (d :: done) (p.skip (width + 1))
            else readFrom single fuel (c :: done) (p.skip 1)

/-- Read a quoted scalar from its opening quote. -/
def read (fuel : Nat) (p : Place) : Option Scalar :=
  readFrom (p.rest.head? = some '\'') fuel [] (p.skip 1)

end ServiceBus.Yaml.Quoted
