import ServiceBus.Text.Ranges
import ServiceBus.Text.Property.Cased
import ServiceBus.Text.Property.CaseIgnorable
import ServiceBus.Text.Property.SmallLetter

set_option autoImplicit false

/-! # Text in small letters

Every character is mapped by itself, with one exception: a capital sigma at the end of a word
becomes a final sigma. -/

namespace ServiceBus.Text

/-- The small letters a character is replaced by, its place in the word aside. -/
def lowerChar (c : Char) : List Char :=
  if c.toNat = 0x130 then ['i', Char.ofNat 0x307]
  else
    match smallLetterRuns.find? fun r =>
        r.first ≤ c.toNat && c.toNat ≤ r.last && (c.toNat - r.first) % r.step == 0 with
    | some r => [Char.ofNat (c.toNat + r.distance).toNat]
    | none => [c]

/-- Whether a cased character comes next, those that are skipped for case left out. -/
def casedFollows (s : List Char) : Bool :=
  match s.dropWhile (inRanges caseIgnorableRanges) with
  | [] => false
  | c :: _ => inRanges casedRanges c

/-- `lowerFrom before s` is `s` in small letters, where `before` is the text in front of it,
the nearest character first. -/
def lowerFrom : List Char → List Char → List Char
  | _, [] => []
  | before, c :: s =>
      (if c.toNat = 0x3A3 then
        [Char.ofNat (if casedFollows before && !casedFollows s then 0x3C2 else 0x3C3)]
      else lowerChar c) ++ lowerFrom (c :: before) s

/-- The text in small letters. -/
def lowerCase (s : String) : String := String.ofList (lowerFrom [] s.toList)

end ServiceBus.Text
