import ServiceBus.Fault.Document
import ServiceBus.Proofs.Fault.Markup

set_option autoImplicit false

/-! # Fault documents read back

A written fault document is a case of a layout (`FaultLayout`) that also older participants keep
to, who write no code or one of their own. A text in this layout is recognised as a fault document
(`isFault_append`), and its elements are found in it whatever follows it and whatever their
content is: the reason and the exception (`elementText?_reason`, `elementText?_exception`), and
the code and the detail, if no other element follows (`elementText?_code`, `elementText?_detail`).

A document is therefore read back from its own text and from any longer one with no other element
in it (`ofText?_append_render_append`). The failure that is read from the document of a failure
has the kind and the reason of the latter (`ofFault?_render`). -/

namespace ServiceBus

open ServiceBus.Text ServiceBus.Fault

theorem not_elementMark_infix_nil : ¬ elementMark <:+: [] := by decide

/-- The elements of a fault document. An older participant writes no code, or one of its own. -/
structure FaultLayout where
  code : Option String
  reason : String
  exception : String
  detail : Option String

namespace FaultLayout

/-- The characters of the written layout. -/
def chars (d : FaultLayout) : List Char :=
  FaultDocument.rootTag ++ (optionalElement "code" d.code ++
    (element "reason" d.reason.toList ++ (element "exception" d.exception.toList ++
      (optionalElement "detail" d.detail ++ closeTag "Fault"))))

/-- The written layout. -/
def render (d : FaultLayout) : String := String.ofList d.chars

variable (d : FaultLayout) {p s : List Char}

theorem chars_append (s : List Char) :
    d.chars ++ s = FaultDocument.rootTag ++ (optionalElement "code" d.code ++
      (element "reason" d.reason.toList ++ (element "exception" d.exception.toList ++
        (optionalElement "detail" d.detail ++ (closeTag "Fault" ++ s))))) := by
  simp only [chars, List.append_assoc]

/-! ## The elements of the layout -/

/-- The search for an element of the layout passes over the root's tag. -/
theorem elementText?_chars {name : String} (h : '<' ∉ name.toList)
    (hroot : occursIn (openTag name) FaultDocument.rootTag = false) (s : List Char) :
    elementText? name (d.chars ++ s) = elementText? name (optionalElement "code" d.code ++
      (element "reason" d.reason.toList ++ (element "exception" d.exception.toList ++
        (optionalElement "detail" d.detail ++ (closeTag "Fault" ++ s))))) := by
  rw [chars_append]
  exact elementText?_skip h hroot (head?_optionalElement _ _ rfl)

/-- A layout without a code shows none, unless one follows it. -/
theorem elementText?_code (hs : ¬ elementMark <:+: s) :
    elementText? "code" (d.chars ++ s) = d.code.map String.toList := by
  rw [d.elementText?_chars (by decide) (by decide)]
  refine elementText?_optional (by decide) _ ?_
  rw [elementText?_skip_element (by decide) _ rfl,
    elementText?_skip_element (by decide) _ (head?_optionalElement _ _ rfl),
    elementText?_skip_optional (by decide) _ rfl, elementText?_root (by decide) hs]

theorem elementText?_reason (s : List Char) :
    elementText? "reason" (d.chars ++ s) = some d.reason.toList := by
  rw [d.elementText?_chars (by decide) (by decide),
    elementText?_skip_optional (by decide) _ rfl, elementText?_element (by decide)]

theorem elementText?_exception (s : List Char) :
    elementText? "exception" (d.chars ++ s) = some d.exception.toList := by
  rw [d.elementText?_chars (by decide) (by decide),
    elementText?_skip_optional (by decide) _ rfl, elementText?_skip_element (by decide) _ rfl,
    elementText?_element (by decide)]

/-- A layout without a detail shows none, unless one follows it. -/
theorem elementText?_detail (hs : ¬ elementMark <:+: s) :
    elementText? "detail" (d.chars ++ s) = d.detail.map String.toList := by
  rw [d.elementText?_chars (by decide) (by decide),
    elementText?_skip_optional (by decide) _ rfl, elementText?_skip_element (by decide) _ rfl,
    elementText?_skip_element (by decide) _ (head?_optionalElement _ _ rfl)]
  exact elementText?_optional (by decide) _ (elementText?_root (by decide) hs)

/-- A text in front of the layout that has no element of its own is passed over. -/
theorem elementText?_behind {name : String} (h : '<' ∉ name.toList) (hp : ¬ elementMark <:+: p)
    (s : List Char) :
    elementText? name (p ++ (d.chars ++ s)) = elementText? name (d.chars ++ s) := by
  rw [chars_append]
  exact elementText?_skip h (occursIn_openTag_eq_false hp name) rfl

/-! ## Reading the layout -/

/-- The layout is recognised as a fault document, also between other texts. -/
theorem isFault_append (p s : List Char) :
    FaultDocument.isFault (p ++ (d.chars ++ s)) = true := by
  have hin : FaultDocument.rootTag <:+: p ++ (d.chars ++ s) := by
    rw [chars_append]
    exact (List.prefix_append _ _).isInfix.trans (List.suffix_append _ _).isInfix
  have hroot : FaultDocument.rootMark <:+: FaultDocument.rootTag := by
    rw [← occursIn_iff]
    decide
  have hspace : busNamespace <:+: FaultDocument.rootTag := by
    rw [← occursIn_iff]
    decide
  rw [FaultDocument.isFault, Bool.and_eq_true, occursIn_iff, occursIn_iff]
  exact ⟨hroot.trans hin, hspace.trans hin⟩

/-- The layout is read from a text that has no other element before it or after it. All is read
as it has been written, and the kind is told from the code, from the exception, or from the text
as a whole. -/
theorem ofChars?_chars (hp : ¬ elementMark <:+: p) (hs : ¬ elementMark <:+: s) :
    FaultDocument.ofChars? (p ++ (d.chars ++ s)) =
      some ⟨FaultDocument.kindOf (d.code.map String.toList) d.exception.toList
        (p ++ (d.chars ++ s)), d.reason, d.exception, d.detail⟩ := by
  rw [FaultDocument.ofChars?, if_pos (d.isFault_append p s), d.elementText?_behind (by decide) hp,
    d.elementText?_behind (by decide) hp, d.elementText?_behind (by decide) hp,
    d.elementText?_behind (by decide) hp, d.elementText?_code hs, d.elementText?_reason,
    d.elementText?_exception, d.elementText?_detail hs]
  simp

/-- The layout is read from its own text. -/
theorem ofText?_render :
    FaultDocument.ofText? d.render =
      some ⟨FaultDocument.kindOf (d.code.map String.toList) d.exception.toList d.chars, d.reason,
        d.exception, d.detail⟩ := by
  have hread := d.ofChars?_chars not_elementMark_infix_nil not_elementMark_infix_nil
  rw [List.nil_append, List.append_nil] at hread
  rw [FaultDocument.ofText?, render, String.toList_ofList, hread]

end FaultLayout

namespace FaultDocument

/-- The document as a layout. -/
def layout (d : FaultDocument) : FaultLayout :=
  ⟨some (word d.kind), d.reason, d.exception, d.detail⟩

theorem chars_layout (d : FaultDocument) : d.layout.chars = d.chars := by
  rw [FaultLayout.chars, layout, chars, optionalElement]
  cases d.detail <;> simp only [optionalElement, List.append_assoc]

/-! ## Reading back -/

theorem ofWord?_word (k : FaultKind) : Vocabulary.ofWord? (word k) = some k := by
  cases k <;> decide

/-- A document with a code has the kind that the code names. -/
theorem kindOf_word (k : FaultKind) (exception body : List Char) :
    kindOf (some (word k).toList) exception body = k := by
  simp [kindOf, ofWord?_word]

/-- A document is read back from a text that has no other element before it or after it. -/
theorem ofChars?_chars (d : FaultDocument) {p s : List Char} (hp : ¬ elementMark <:+: p)
    (hs : ¬ elementMark <:+: s) : ofChars? (p ++ (d.chars ++ s)) = some d := by
  rw [← chars_layout, d.layout.ofChars?_chars hp hs]
  simp [layout, kindOf_word]

/-- The kind and the reason of a document are read back from its text. -/
theorem toError_ofText?_render (d : FaultDocument) :
    (ofText? d.render).map toError = some (.remote d.kind d.reason) := by
  have hrender : d.render = d.layout.render := by rw [render, ← chars_layout, FaultLayout.render]
  have hkind : kindOf (d.layout.code.map String.toList) d.layout.exception.toList d.layout.chars =
      d.kind := kindOf_word d.kind _ _
  rw [hrender, d.layout.ofText?_render, hkind]
  rfl

/-- A document is read back from its text whatever its reason, its exception and its detail say,
and also from a longer text with no other element in it, before the document or after it. -/
theorem ofText?_append_render_append (d : FaultDocument) :
    ofText? d.render = some d ∧
    ∀ p s : String, ¬ elementMark <:+: p.toList → ¬ elementMark <:+: s.toList →
      ofText? (p ++ d.render ++ s) = some d := by
  have hread : ∀ p s : String, ¬ elementMark <:+: p.toList → ¬ elementMark <:+: s.toList →
      ofText? (p ++ d.render ++ s) = some d := by
    intro p s hp hs
    rw [ofText?, String.toList_append, String.toList_append, render, String.toList_ofList,
      List.append_assoc]
    exact ofChars?_chars d hp hs
  refine ⟨?_, hread⟩
  have hself := hread "" "" not_elementMark_infix_nil not_elementMark_infix_nil
  rwa [String.empty_append, String.append_empty] at hself

/-- A document whose detail is an element itself, and whose reason looks like an entity, in a text
that breaks off within a tag and goes on with the end of one. -/
theorem ofText?_append_render_append_nested :
    let d : FaultDocument :=
      ⟨.authorization, "&lt; 5 & <", "", some "<sbb:code>generic</sbb:code>"⟩
    ¬ elementMark <:+: "no role <sbb".toList ∧ ¬ elementMark <:+: "</sbb:detail>:".toList ∧
      ofText? ("no role <sbb" ++ d.render ++ "</sbb:detail>:") = some d := by
  intro d
  have hp : ¬ elementMark <:+: "no role <sbb".toList := by
    rw [← occursIn_iff]
    decide
  have hs : ¬ elementMark <:+: "</sbb:detail>:".toList := by
    rw [← occursIn_iff]
    decide
  exact ⟨hp, hs, (ofText?_append_render_append d).2 _ _ hp hs⟩

end FaultDocument

/-- The failure that the document of a failure reports. -/
theorem BusError.ofFault?_render (e : BusError) :
    ofFault? e.toFault.render = some (.remote e.faultKind e.reason) :=
  e.toFault.toError_ofText?_render

end ServiceBus
