import ServiceBus.Json.Reader

set_option autoImplicit false

/-! # Stock levels

The answer of an inventory, which rehearsals ask for: an article and how many pieces of it are
available, as an object with two members or as a list of the two. Other members are not looked
at. -/

namespace ServiceBus.Rehearsal

open ServiceBus.Json

/-- How many pieces of an article are available. -/
structure StockLevel where
  sku : String
  available : Nat
  deriving DecidableEq

namespace StockLevel

/-- The article. -/
def sku? : Outline → Option String
  | .text units => textOf? units
  | _ => none

/-- The number of pieces, which 32 bits can hold. -/
def available? : Outline → Option Nat
  | .number n =>
      match n.toJson? with
      | some (.int n) => if 0 ≤ n ∧ n < Int.pow 2 32 then some n.toNat else none
      | _ => none
  | _ => none

/-- The only member of an object with the name. -/
def only? (name : String) (members : List (Option String × Outline)) : Option Outline :=
  match members.filter fun m => m.1 = some name with
  | [m] => some m.2
  | _ => none

/-- Read a stock level from the outline of a JSON text. -/
def ofOutline? : Outline → Option StockLevel
  | .array [sku, available] =>
      match sku? sku, available? available with
      | some sku, some available => some ⟨sku, available⟩
      | _, _ => none
  | .object members =>
      let named := members.map fun m => (textOf? m.1, m.2)
      if named.any fun m => m.1 = none then none
      else
        match (only? "sku" named).bind sku?, (only? "available" named).bind available? with
        | some sku, some available => some ⟨sku, available⟩
        | _, _ => none
  | _ => none

/-- Read a stock level from a JSON text. -/
def ofText? (s : String) : Option StockLevel := (Outline.ofText? s).bind ofOutline?

end StockLevel

end ServiceBus.Rehearsal
