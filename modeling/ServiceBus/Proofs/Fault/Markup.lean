import ServiceBus.Proofs.Fault.Entities

set_option autoImplicit false

/-! # Elements read back

Written content holds no opening bracket. An element of a document is therefore found at its own
opening tag, and its content ends at its own closing tag (`elementText?_element`); the search for
an element passes over whatever does not hold its opening tag (`elementText?_skip`). So it is with
an element that may be missing (`elementText?_optional`, `elementText?_skip_optional`). -/

namespace ServiceBus.Fault

open ServiceBus.Text

/-! ## Elements

A tag is an opening bracket and what follows it, without a further one. -/

theorem openTag_shape {name : String} (h : '<' ∉ name.toList) :
    ∃ m, openTag name = '<' :: m ∧ '<' ∉ m :=
  ⟨_, rfl, by simp [h, namespaceMark]⟩

theorem closeTag_shape {name : String} (h : '<' ∉ name.toList) :
    ∃ m, closeTag name = '<' :: m ∧ '<' ∉ m :=
  ⟨_, rfl, by simp [h, namespaceMark]⟩

theorem elementText?_element {name : String} (h : '<' ∉ name.toList) (content s : List Char) :
    elementText? name (element name content ++ s) = some content := by
  have hopen : splitOnce? (openTag name) (element name content ++ s) =
      some ([], escape content ++ (closeTag name ++ s)) := by
    rw [element, List.append_assoc, List.append_assoc]
    exact splitOnce?_append_self _ _
  have hclose : splitOnce? (closeTag name) (escape content ++ (closeTag name ++ s)) =
      some (escape content, s) := by
    obtain ⟨m, hm, hmark⟩ := closeTag_shape h
    have hfree : '<' ∉ escape content := not_mem_escape (by simp) content
    have hself := splitOnce?_append_self (closeTag name) s
    rw [hm, List.cons_append] at hself ⊢
    rw [splitOnce?_skip hmark (occursIn_eq_false_of_not_mem hfree m), hself]
    simp
  simp [elementText?, hopen, hclose, unescape_escape]

/-- There is no element in a text without its opening tag. -/
theorem elementText?_eq_none {name : String} {s : List Char}
    (h : occursIn (openTag name) s = false) : elementText? name s = none := by
  rw [occursIn_eq_isSome, Option.isSome_eq_false_iff, Option.isNone_iff_eq_none] at h
  rw [elementText?, h]
  rfl

/-- What the opening tags of all elements begin with. -/
def elementMark : List Char := '<' :: namespaceMark ++ [':']

/-- A text without this mark has no element. -/
theorem occursIn_openTag_eq_false {s : List Char} (h : ¬ elementMark <:+: s) (name : String) :
    occursIn (openTag name) s = false := by
  have hmark : elementMark <+: openTag name :=
    ⟨name.toList ++ ['>'], by simp [elementMark, openTag]⟩
  rw [Bool.eq_false_iff, Ne, occursIn_iff]
  exact fun htag => h (hmark.isInfix.trans htag)

/-- The search for an element passes over a piece without its opening tag. -/
theorem elementText?_skip {name : String} (h : '<' ∉ name.toList) {p : List Char}
    (hp : occursIn (openTag name) p = false) {s : List Char} (hs : s.head? = some '<') :
    elementText? name (p ++ s) = elementText? name s := by
  obtain ⟨t, rfl⟩ := List.head?_eq_some_iff.1 hs
  obtain ⟨m, hm, hmark⟩ := openTag_shape h
  rw [hm] at hp
  rw [elementText?, elementText?, hm, splitOnce?_skip hmark hp]
  cases splitOnce? ('<' :: m) ('<' :: t) <;> rfl

/-- A piece with an opening bracket at its start only holds a mark there or nowhere. -/
theorem occursIn_cons_eq_false {m w : List Char} (h : ¬ '<' :: m <+: '<' :: w) (hw : '<' ∉ w) :
    occursIn ('<' :: m) ('<' :: w) = false := by
  rw [occursIn, (after?_eq_none_iff _ _).2 h, occursIn_eq_false_of_not_mem hw]
  rfl

/-- Two names of elements, neither of which can be taken for the other. -/
def Apart (name other : String) : Prop :=
  '<' ∉ name.toList ∧ '<' ∉ other.toList ∧ ¬ openTag name <+: openTag other ∧
    ¬ openTag other <+: openTag name

instance (name other : String) : Decidable (Apart name other) :=
  inferInstanceAs (Decidable (_ ∧ _))

/-- The search for an element passes over an element of another name. -/
theorem elementText?_skip_element {name other : String} (h : Apart name other)
    (content : List Char) {s : List Char} (hs : s.head? = some '<') :
    elementText? name (element other content ++ s) = elementText? name s := by
  obtain ⟨h, ho, hpre, hpre'⟩ := h
  obtain ⟨m, hm, -⟩ := openTag_shape h
  have hfirst : occursIn (openTag name) (openTag other ++ escape content) = false := by
    have hn := after?_append_eq_none hpre hpre' (escape content)
    obtain ⟨w, hw, hfree⟩ := openTag_shape ho
    rw [after?_eq_none_iff] at hn
    rw [hm, hw] at hn ⊢
    refine occursIn_cons_eq_false hn ?_
    rw [List.append_eq, List.mem_append, not_or]
    exact ⟨hfree, not_mem_escape (by simp) content⟩
  have hlast : occursIn (openTag name) (closeTag other) = false := by
    have hn : ¬ openTag name <+: closeTag other := by simp [openTag, closeTag, namespaceMark]
    obtain ⟨w, hw, hfree⟩ := closeTag_shape ho
    rw [hm, hw] at hn ⊢
    exact occursIn_cons_eq_false hn hfree
  rw [element, List.append_assoc, elementText?_skip h hfirst rfl, elementText?_skip h hlast hs]

/-! ## Elements that may be missing -/

/-- An element that may be missing. -/
def optionalElement (name : String) : Option String → List Char
  | some content => element name content.toList
  | none => []

theorem head?_optionalElement (name : String) (content : Option String) {s : List Char}
    (hs : s.head? = some '<') : (optionalElement name content ++ s).head? = some '<' := by
  cases content with
  | some content => rfl
  | none => exact hs

/-- The search for an element passes over one of another name, also if that is missing. -/
theorem elementText?_skip_optional {name other : String} (h : Apart name other)
    (content : Option String) {s : List Char} (hs : s.head? = some '<') :
    elementText? name (optionalElement other content ++ s) = elementText? name s := by
  cases content with
  | some content => exact elementText?_skip_element h _ hs
  | none => rfl

/-- An element is found where it may stand, and is missing if there is none further on. -/
theorem elementText?_optional {name : String} (h : '<' ∉ name.toList) (content : Option String)
    {s : List Char} (hs : elementText? name s = none) :
    elementText? name (optionalElement name content ++ s) = content.map String.toList := by
  cases content with
  | some content => exact elementText?_element h _ _
  | none => exact hs

/-- There is no element at the end of the root, or behind it unless one follows. -/
theorem elementText?_root {name : String} (h : '<' ∉ name.toList) {s : List Char}
    (hs : ¬ elementMark <:+: s) : elementText? name (closeTag "Fault" ++ s) = none := by
  obtain ⟨m, hm, -⟩ := openTag_shape h
  obtain ⟨w, hw, hfree⟩ := closeTag_shape (by decide : '<' ∉ "Fault".toList)
  have hroot : after? (openTag name) (closeTag "Fault" ++ s) = none :=
    after?_append_eq_none (by simp [openTag, closeTag, namespaceMark])
      (by simp [openTag, closeTag, namespaceMark]) s
  have hrest := occursIn_openTag_eq_false hs name
  refine elementText?_eq_none ?_
  rw [hm] at hroot hrest ⊢
  rw [hw, List.cons_append] at hroot ⊢
  rw [occursIn, hroot, occursIn_append_of_not_mem hfree, hrest]
  rfl

end ServiceBus.Fault
