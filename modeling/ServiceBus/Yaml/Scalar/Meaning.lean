import ServiceBus.Decimal.Parts
import ServiceBus.Yaml
import ServiceBus.Yaml.Tag

set_option autoImplicit false

/-! # What scalars stand for

A plain scalar stands for nothing, a truth value, a whole number or a floating-point number if
it is written like one, and for its text otherwise; a quoted scalar stands for its text. A tag
that is a name is kept (`Yaml.tagged`). Of the other tags, those of the core types ask for a
scalar that is written like the type, and all others for the text. -/

namespace ServiceBus.Yaml.Scalar

open ServiceBus.Text ServiceBus.Decimal

/-! ## Nothing and truth values -/

/-- Whether a text is one of the ways to write nothing. -/
def isNothing (s : String) : Bool := ["~", "null", "Null", "NULL"].contains s

/-- The truth value that a text is written like. -/
def flag? (s : String) : Option Bool :=
  if ["true", "True", "TRUE"].contains s then some true
  else if ["false", "False", "FALSE"].contains s then some false
  else none

/-! ## Whole numbers -/

/-- The number with some digits, at least one. -/
def numeral? (b : Nat) (ds : List Char) : Option Nat := if ds.isEmpty then none else number? b ds

/-- The number that a text without a sign is written like. A decimal number does not begin with
a zero, unless it is zero. -/
def natural? : List Char → Option Nat
  | '0' :: 'x' :: ds => numeral? 16 ds
  | '0' :: 'o' :: ds => numeral? 8 ds
  | '0' :: 'b' :: ds => numeral? 2 ds
  | '0' :: _ :: _ => none
  | ds => numeral? 10 ds

/-- The whole number that a text is written like. -/
def whole? (s : List Char) : Option Int :=
  let (negative, s) := splitSign s
  (natural? s).map fun n => if negative then -(n : Int) else n

/-- Whether 64 bits can hold a number. -/
def fits (n : Int) : Bool := -Int.pow 2 63 ≤ n && n < Int.pow 2 64

/-- Whether 128 bits can hold a number. -/
def fitsTwice (n : Int) : Bool := -Int.pow 2 127 ≤ n && n < Int.pow 2 128

/-! ## Floating-point numbers -/

/-- The floating-point number nearest to `n · 10 ^ e`, if it is finite. -/
def nearest? (n : Nat) (e : Int) : Option Float :=
  let size := (Nat.toDigits 10 n).length + e
  if n = 0 || size < -400 then some 0
  else if 400 < size then none
  else
    let x := Float.ofScientific n (e < 0) e.natAbs
    if x.isInf then none else some x

/-- The finite number that a text without a sign is written like. -/
def finite? (s : List Char) : Option Float :=
  let (whole, s) := leadingDigits s
  let (fraction, s) :=
    match s with
    | '.' :: s => leadingDigits s
    | s => ([], s)
  if whole.isEmpty && fraction.isEmpty then none
  else
    match exponent? s with
    | none => none
    | some exponent =>
        let e : Int :=
          match exponent with
          | none => 0
          | some (negative, ds) => if negative then -(value 10 ds : Int) else value 10 ds
        nearest? (value 10 (whole ++ fraction)) (e - fraction.length)

/-- The floating-point number that a text is written like. -/
def real? (s : List Char) : Option Float :=
  if [".nan", ".NaN", ".NAN"].contains (String.ofList s) then some (0 / 0)
  else
    let (negative, s) := splitSign s
    let x :=
      if [".inf", ".Inf", ".INF"].contains (String.ofList s) then some (1 / 0) else finite? s
    x.map fun x => if negative then -x else x

/-- Whether a text consists of digits, and yet is no number because of the zero in front. -/
def isPadded (s : List Char) : Bool :=
  let (_, s) := splitSign s
  s.head? = some '0' && s.length ≠ 1 && s.all isDigit

/-! ## Scalars -/

/-- The value of a plain scalar. A whole number is refused if 128 bits can hold it, but not 64. -/
def ofPlain? (s : String) : Option Yaml :=
  if s.isEmpty || isNothing s then some .null
  else
    match flag? s, whole? s.toList with
    | some b, _ => some (.bool b)
    | none, some n =>
        if fits n then some (.int n)
        else if fitsTwice n then none
        else some (((real? s.toList).map fun x => .float (.ofFloat x)).getD (.string s))
    | none, none =>
        if isPadded s.toList then some (.string s)
        else some (((real? s.toList).map fun x => .float (.ofFloat x)).getD (.string s))

/-- The value of a scalar without a tag. -/
def ofText? (plain : Bool) (s : String) : Option Yaml :=
  if plain then ofPlain? s else some (.string s)

/-- The value of a scalar with the tag of a core type. -/
def ofCore? (name s : String) : Option Yaml :=
  match name with
  | "bool" => (flag? s).map .bool
  | "int" => ((whole? s.toList).filter fits).map .int
  | "float" => (real? s.toList).map fun x => .float (.ofFloat x)
  | "null" => if isNothing s then some .null else none
  | _ => some (.string s)

/-- A value with a tag, which is kept if it is a name. -/
def withTag (tag : Option Tag) (v : Yaml) : Yaml :=
  match tag.bind Tag.name? with
  | some name => .tagged name v
  | none => v

/-- The names of the core types whose tags ask for a scalar that is written like the type. -/
def coreTypes : List String := ["bool", "int", "float", "null"]

/-- The tag of a core type. -/
def coreTag (name : String) : Tag := .ofText ("tag:yaml.org,2002:" ++ name)

/-- The value of a scalar. -/
def value? (tag : Option Tag) (plain : Bool) (s : String) : Option Yaml :=
  match tag with
  | none => ofText? plain s
  | some t =>
      if t.isName then (ofText? plain s).map (withTag tag)
      else
        match coreTypes.find? fun name => t = coreTag name with
        | some name => ofCore? name s
        | none => some (.string s)

end ServiceBus.Yaml.Scalar
