import ServiceBus.Yaml.Node
import ServiceBus.Yaml.Token

set_option autoImplicit false

/-! # Reading nodes

A document is read by recursive descent over its tokens. What may be left out, such as the value
of a key, counts as an empty plain scalar. Only a single document is read. -/

namespace ServiceBus.Yaml.Node

/-! ## Tags -/

/-- What the handles of tags stand for. -/
abbrev Handles := List (String × Tag)

/-- The handles that need no directive. -/
def commonHandles : Handles := [("!", .ofText "!"), ("!!", .ofText "tag:yaml.org,2002:")]

/-- The tag with a handle and a suffix. -/
def tagOf? (handles : Handles) (handle : String) (suffix : Tag) : Option Tag :=
  if handle.isEmpty then some suffix else (handles.lookup handle).map fun r => r.append suffix

/-- Read what stands in front of a node. -/
def readProperties (handles : Handles) : List Token → Option (Properties String × List Token)
  | .anchor a :: .tag h s :: ts => (tagOf? handles h s).map fun t => (⟨some a, some t⟩, ts)
  | .tag h s :: .anchor a :: ts => (tagOf? handles h s).map fun t => (⟨some a, some t⟩, ts)
  | .anchor a :: ts => some (⟨some a, none⟩, ts)
  | .tag h s :: ts => (tagOf? handles h s).map fun t => (⟨none, some t⟩, ts)
  | ts => some ({}, ts)

/-! ## Nodes -/

/-- Where a node stands. -/
inductive Site where
  /-- At the top, or in a sequence that is only indented. -/
  | block
  /-- In a mapping that is only indented. A sequence need not be indented further. -/
  | part
  /-- Between brackets. -/
  | flow
  deriving DecidableEq

/-- The tokens in front of which an entry of an indented sequence is empty. -/
def afterEntry : List Token := [.entry, .key, .value, .blockEnd]

/-- The tokens in front of which a part of an indented mapping is empty. -/
def afterPart : List Token := [.key, .value, .blockEnd]

/-- The tokens in front of which a key of a mapping in brackets is empty. -/
def afterFlowKey : List Token := [.value, .comma, .closeMapping]

/-- The tokens in front of which a value of a mapping in brackets is empty. -/
def afterFlowValue : List Token := [.comma, .closeMapping]

/-- Whether one of some tokens comes next. -/
def comesNext (stops ts : List Token) : Bool := ts.head?.any stops.contains

/-- What has been read, and what is left. -/
abbrev Reads (β : Type) := Option (β × List Token)

mutual

/-- Read a node. -/
def read (handles : Handles) : Nat → Site → List Token → Reads (Node String)
  | 0, _, _ => none
  | _ + 1, _, .alias name :: ts => some (.alias name, ts)
  | fuel + 1, site, ts =>
      match readProperties handles ts with
      | none => none
      | some (p, .scalar plain text :: ts) => some (.scalar p plain text, ts)
      | some (p, .openSequence :: ts) => readItems handles fuel p [] ts
      | some (p, .openMapping :: ts) => readPairs handles fuel p [] ts
      | some (p, ts) =>
          match site, ts with
          | .part, .entry :: _ => readEntries handles fuel true p [] ts
          | .part, .blockSequence :: ts => readEntries handles fuel false p [] ts
          | .part, .blockMapping :: ts => readParts handles fuel p [] ts
          | .block, .blockSequence :: ts => readEntries handles fuel false p [] ts
          | .block, .blockMapping :: ts => readParts handles fuel p [] ts
          | _, ts => if p.arePresent then some (.scalar p true "", ts) else none

/-- Read a node, which is empty in front of one of the tokens `stops`. -/
def readContent (handles : Handles) : Nat → Site → List Token → List Token → Reads (Node String)
  | 0, _, _, _ => none
  | fuel + 1, site, stops, ts =>
      if comesNext stops ts then some (absent, ts) else read handles fuel site ts

/-- Read a value and the mark in front of it, if it is written. -/
def readValue (handles : Handles) : Nat → Site → List Token → List Token → Reads (Node String)
  | 0, _, _, _ => none
  | fuel + 1, site, stops, .value :: ts => readContent handles fuel site stops ts
  | _ + 1, _, _, ts => some (absent, ts)

/-- Read the entries of an indented sequence behind those in `done`, which are in reverse. One
that is not indented further than its surroundings ends at the first token that is no entry. -/
def readEntries (handles : Handles) :
    Nat → Bool → Properties String → List (Node String) → List Token → Reads (Node String)
  | 0, _, _, _, _ => none
  | fuel + 1, level, p, done, ts =>
      match ts with
      | .entry :: ts =>
          match readContent handles fuel .block afterEntry ts with
          | none => none
          | some (n, ts) => readEntries handles fuel level p (n :: done) ts
      | ts =>
          if level then some (.sequence p done.reverse, ts)
          else if ts.head? = some .blockEnd then some (.sequence p done.reverse, ts.tail)
          else none

/-- Read the entries of an indented mapping behind those in `done`. -/
def readParts (handles : Handles) :
    Nat → Properties String → List (Node String × Node String) → List Token → Reads (Node String)
  | 0, _, _, _ => none
  | fuel + 1, p, done, .key :: ts =>
      match readContent handles fuel .part afterPart ts with
      | none => none
      | some (k, ts) =>
          match readValue handles fuel .part afterPart ts with
          | none => none
          | some (v, ts) => readParts handles fuel p ((k, v) :: done) ts
  | _ + 1, p, done, .blockEnd :: ts => some (.mapping p done.reverse, ts)
  | _ + 1, _, _, _ => none

/-- Read a single entry of a mapping, as an item of a sequence in brackets. Where the key is
missing, the token that follows is skipped. -/
def readSingle (handles : Handles) : Nat → List Token → Reads (Node String)
  | 0, _ => none
  | fuel + 1, ts =>
      let key : Reads (Node String) :=
        if comesNext [.value, .comma, .closeSequence] ts then some (absent, ts.tail)
        else read handles fuel .flow ts
      match key with
      | none => none
      | some (k, ts) =>
          (readValue handles fuel .flow [.comma, .closeSequence] ts).map fun v =>
            (.mapping {} [(k, v.1)], v.2)

/-- Read the items of a sequence in brackets behind those in `done`. -/
def readItems (handles : Handles) :
    Nat → Properties String → List (Node String) → List Token → Reads (Node String)
  | 0, _, _, _ => none
  | _ + 1, p, done, .closeSequence :: ts => some (.sequence p done.reverse, ts)
  | fuel + 1, p, done, ts =>
      let item : Reads (Node String) :=
        match ts with
        | .key :: ts => readSingle handles fuel ts
        | ts => read handles fuel .flow ts
      match item with
      | some (n, .comma :: ts) => readItems handles fuel p (n :: done) ts
      | some (n, .closeSequence :: ts) => some (.sequence p (n :: done).reverse, ts)
      | _ => none

/-- Read the entries of a mapping in brackets behind those in `done`. -/
def readPairs (handles : Handles) :
    Nat → Properties String → List (Node String × Node String) → List Token → Reads (Node String)
  | 0, _, _, _ => none
  | _ + 1, p, done, .closeMapping :: ts => some (.mapping p done.reverse, ts)
  | fuel + 1, p, done, ts =>
      let pair : Reads (Node String × Node String) :=
        match ts with
        | .key :: ts =>
            match readContent handles fuel .flow afterFlowKey ts with
            | none => none
            | some (k, ts) =>
                (readValue handles fuel .flow afterFlowValue ts).map fun v => ((k, v.1), v.2)
        | ts => (read handles fuel .flow ts).map fun k => ((k.1, absent), k.2)
      match pair with
      | some (e, .comma :: ts) => readPairs handles fuel p (e :: done) ts
      | some (e, .closeMapping :: ts) => some (.mapping p (e :: done).reverse, ts)
      | _ => none

end

/-! ## Documents -/

/-- Read the directives of a document; `versioned` says whether its version has been read. -/
def readDirectives (versioned : Bool) (handles : Handles) : List Token → Option (Handles × List Token)
  | .version major minor :: ts =>
      if versioned || major ≠ 1 || (minor ≠ 1 && minor ≠ 2) then none
      else readDirectives true handles ts
  | .shorthand handle replacement :: ts =>
      if (handles.lookup handle).isSome then none
      else readDirectives versioned ((handle, replacement) :: handles) ts
  | ts => some (handles ++ commonHandles, ts)

/-- Whether a token belongs to the start of a document. -/
def isHead : Token → Bool
  | .version _ _ | .shorthand _ _ | .documentStart => true
  | _ => false

/-- Whether a document that has been started is empty. -/
def isVoid (ts : List Token) : Bool :=
  ts.head?.all fun t => isHead t || t = .documentEnd

/-- Read the content of a document. -/
def readDocument (ts : List Token) : Reads (Node String) :=
  let fuel := 4 * ts.length + 4
  if ts.head?.any isHead then
    match readDirectives false [] ts with
    | some (handles, .documentStart :: ts) =>
        if isVoid ts then some (absent, ts) else read handles fuel .block ts
    | _ => none
  else read commonHandles fuel .block ts

/-- The node of a text that has these tokens. A text without any is an empty document. -/
def ofTokens? (ts : List Token) : Option (Node String) :=
  if ts.isEmpty then some absent
  else
    match readDocument ts with
    | some (n, ts) => if ts.all fun t => t = .documentEnd then some n else none
    | none => none

end ServiceBus.Yaml.Node
