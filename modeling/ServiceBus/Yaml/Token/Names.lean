import ServiceBus.Text.Numeral
import ServiceBus.Yaml.Place
import ServiceBus.Yaml.Token

set_option autoImplicit false

/-! # Names, tags and directives

The tokens that are more than a mark and less than a scalar. -/

namespace ServiceBus.Yaml.Token

/-! ## Anchors -/

/-- Whether a name may end in front of a text. -/
def endsName : List Char → Bool
  | [] => true
  | c :: _ => isGap c || ['?', ':', ',', ']', Char.ofNat 0x7D, '%', '@', Char.ofNat 0x60].contains c

/-- Read the name of an anchor behind its mark. -/
def readName (p : Place) : Option (String × Place) :=
  let q := (p.skip 1).skipWhile isWordChar
  let name := (p.rest.drop 1).takeWhile isWordChar
  if name.isEmpty || !endsName q.rest then none else some (String.ofList name, q)

/-! ## Tags -/

/-- The characters of tags, apart from escapes. -/
def isTagChar (c : Char) : Bool := isWordChar c || ";/?:@&=+$.!~*'()".toList.contains c

/-- The characters of whole addresses, apart from escapes. -/
def isAddressChar (c : Char) : Bool := isTagChar c || c = ',' || c = '[' || c = ']'

/-- The byte that an escape with a percent sign stands for. -/
def escapedByte? : List Char → Option UInt8
  | '%' :: a :: b :: _ => (Text.number? 16 [a, b]).map UInt8.ofNat
  | _ => none

/-- The bytes of the escapes at the start of a text. -/
def escapedBytes : Nat → List Char → List UInt8
  | 0, _ => []
  | count + 1, s =>
      match escapedByte? s with
      | some b => b :: escapedBytes count (s.drop 3)
      | none => []

/-- How many bytes a character takes, given the first of them. -/
def widthOf (b : UInt8) : Nat :=
  if b < 0x80 then 1 else if b &&& 0xE0 = 0xC0 then 2 else if b &&& 0xF0 = 0xE0 then 3
  else if b &&& 0xF8 = 0xF0 then 4 else 0

/-- The octets of the character whose escapes are at the start of a text. That it is a character
follows from the first octet, which tells how many there are, and from the marks of the others. -/
def escapedChar? (s : List Char) : Option (List UInt8) :=
  match escapedByte? s with
  | none => none
  | some b =>
      let octets := escapedBytes (widthOf b) s
      if octets.isEmpty || octets.length < widthOf b || octets.tail.any fun c => c &&& 0xC0 ≠ 0x80 then
        none
      else some octets

/-- Read the characters of a tag that satisfy `f`, as octets, in reverse in front of `done`. -/
def readTagChars (f : Char → Bool) : Nat → List UInt8 → Place → Option (List UInt8 × Place)
  | 0, _, _ => none
  | fuel + 1, done, p =>
      match p.rest with
      | [] => some (done.reverse, p)
      | c :: _ =>
          if c = '%' then
            match escapedChar? p.rest with
            | none => none
            | some octets =>
                readTagChars f fuel (octets.reverse ++ done) (p.skip (3 * octets.length))
          else if f c then readTagChars f fuel (UInt8.ofNat c.toNat :: done) (p.skip 1)
          else some (done.reverse, p)

/-- The handle at the start of a tag: a mark, and possibly a name and another mark. -/
def handleAt (s : List Char) : List Char :=
  let name := (s.drop 1).takeWhile isWordChar
  '!' :: name ++ if (s.drop (name.length + 1)).head? = some '!' then ['!'] else []

/-- Read the handle and the suffix of a tag. -/
def readTagParts (fuel : Nat) (p : Place) : Option (String × Tag × Place) :=
  if (p.rest.drop 1).head? = some '<' then
    match readTagChars isAddressChar fuel [] (p.skip 2) with
    | some (suffix, q) =>
        if suffix.isEmpty || q.rest.head? ≠ some '>' then none
        else some ("", .ofOctets suffix, q.skip 1)
    | none => none
  else
    let handle := handleAt p.rest
    let q := p.skip handle.length
    if 2 ≤ handle.length ∧ handle.getLast? = some '!' then
      match readTagChars isTagChar fuel [] q with
      | some (suffix, q) =>
          if suffix.isEmpty then none else some (String.ofList handle, .ofOctets suffix, q)
      | none => none
    else
      let name := Tag.ofText (String.ofList (handle.drop 1))
      match readTagChars isTagChar fuel name.octets.reverse q with
      | some (suffix, q) =>
          if Tag.ofOctets suffix = ⟨[]⟩ then some ("", .ofText "!", q)
          else some ("!", .ofOctets suffix, q)
      | none => none

/-- Read a tag, which ends at a blank, or inside brackets at a comma. -/
def readTag (flow : Bool) (fuel : Nat) (p : Place) : Option (Token × Place) :=
  match readTagParts fuel p with
  | none => none
  | some (handle, suffix, q) =>
      if endsWord q.rest || (flow && q.rest.head? = some ',') then some (.tag handle suffix, q)
      else none

/-! ## Directives -/

/-- Read a number of at most nine digits. -/
def readNumber (p : Place) : Option (Nat × Place) :=
  let ds := p.rest.takeWhile Text.isDigit
  if ds.isEmpty || 9 < ds.length then none
  else (Text.number? 10 ds).map fun n => (n, p.skip ds.length)

/-- Read the version of a directive. -/
def readVersion (p : Place) : Option (Token × Place) :=
  match readNumber p.skipSpaces with
  | none => none
  | some (major, p) =>
      if p.rest.head? = some '.' then
        (readNumber (p.skip 1)).map fun q => (.version major q.1, q.2)
      else none

/-- Read the handle of a directive and what it stands for. -/
def readHandle (fuel : Nat) (p : Place) : Option (Token × Place) :=
  let p := p.skipSpaces
  let handle := handleAt p.rest
  let q := p.skip handle.length
  if p.rest.head? ≠ some '!' || handle.getLast? ≠ some '!' || !q.rest.head?.any isSpace then none
  else
    match readTagChars isAddressChar fuel [] q.skipSpaces with
    | none => none
    | some (replacement, q) =>
        if replacement.isEmpty || !endsWord q.rest then none
        else some (.shorthand (String.ofList handle) (.ofOctets replacement), q)

/-- Read a directive and the rest of its line. -/
def readDirective (fuel : Nat) (p : Place) : Option (Token × Place) :=
  let name := (p.rest.drop 1).takeWhile isWordChar
  let q := p.skip (name.length + 1)
  if !endsWord q.rest then none
  else
    let directive :=
      if name = "YAML".toList then readVersion q
      else if name = "TAG".toList then readHandle fuel q
      else none
    directive.bind fun d => d.2.skipLineEnd?.map fun q => (d.1, q)

end ServiceBus.Yaml.Token
