import Mathlib.Logic.Function.Iterate
import ServiceBus.Proofs.Fault.Document

set_option autoImplicit false

/-! # What a fault document tells of a failure

The code of a fault document tells the kind of the failure. The document of an older participant
has none that is known; the kind is then the one whose legacy name is found in the exception, and
found first if there are several (`FirstNamed`). No other text of the document has a say in it
(`told_by_exception`).

Whoever passes a failure on reads it from the text that has come, and writes it into a document of
its own (`BusError.forward`). The reason of that document may be the whole text that has come, and
its detail holds the reason once more, as diagnostics write it. Still the kind and the reason are
read from it again, on the way over any number of parties (`kept_forward`). -/

namespace ServiceBus

open ServiceBus.Text ServiceBus.Fault

/-! ## Legacy names -/

/-- Of the legacy names that occur in the text, the one of this kind comes first. -/
def FirstNamed (text : String) (kind : FaultKind) : Prop :=
  kind.legacyName.toList <:+: text.toList ∧
    ∃ before after,
      [.authentication, .authorization, .messaging, .generic] = before ++ kind :: after ∧
      ∀ other ∈ before, ¬ other.legacyName.toList <:+: text.toList

namespace FaultDocument

theorem legacyKind?_eq_some_iff {text : String} {kind : FaultKind} :
    legacyKind? text.toList = some kind ↔ FirstNamed text kind := by
  rw [legacyKind?, List.find?_eq_some_iff_append]
  simp only [Bool.not_eq_true', ← Bool.not_eq_true, occursIn_iff]
  rfl

/-- A text with a legacy name in it has a first one. -/
theorem exists_firstNamed {text : String}
    (h : ∃ kind : FaultKind, kind.legacyName.toList <:+: text.toList) :
    ∃ kind, FirstNamed text kind := by
  obtain ⟨kind, hkind⟩ := h
  have hall : kind ∈ legacyOrder := by cases kind <;> decide
  have hsome : (legacyKind? text.toList).isSome = true := by
    rw [legacyKind?, List.find?_isSome]
    exact ⟨kind, hall, (occursIn_iff _ _).mpr hkind⟩
  obtain ⟨first, hfirst⟩ := Option.isSome_iff_exists.mp hsome
  exact ⟨first, legacyKind?_eq_some_iff.mp hfirst⟩

/-- Without a code that is known, the exception tells the kind if it holds a legacy name. -/
theorem kindOf_of_firstNamed {code : Option String}
    (hcode : ∀ kind : FaultKind, code ≠ some (word kind)) {exception : String} {kind : FaultKind}
    (h : FirstNamed exception kind) (body : List Char) :
    kindOf (code.map String.toList) exception.toList body = kind := by
  have hunknown : ((code.map String.toList).bind fun c =>
      (Vocabulary.ofWord? (String.ofList c) : Option FaultKind)) = none := by
    cases code with
    | none => rfl
    | some text =>
        -- a kind with this text as its word would be one of the codes
        rw [Option.map_some, Option.bind_some, String.ofList_toList, Vocabulary.ofWord?,
          List.find?_eq_none]
        intro kind _ hkind
        exact hcode kind (congrArg some (of_decide_eq_true hkind).symm)
  rw [kindOf, hunknown, legacyKind?_eq_some_iff.mpr h]

end FaultDocument

/-- The document of an older participant, with no code or an unknown one, whose exception holds a
legacy name. Its kind is the one that the exception names first, and its texts are read as they
have been written, whatever names, codes and markup they and the code hold. -/
theorem FaultLayout.told_by_exception (d : FaultLayout)
    (hcode : ∀ kind : FaultKind, d.code ≠ some (word kind))
    (hname : ∃ kind : FaultKind, kind.legacyName.toList <:+: d.exception.toList) :
    ∃ kind, FirstNamed d.exception kind ∧
      FaultDocument.ofText? d.render = some ⟨kind, d.reason, d.exception, d.detail⟩ := by
  obtain ⟨kind, hfirst⟩ := FaultDocument.exists_firstNamed hname
  refine ⟨kind, hfirst, ?_⟩
  rw [d.ofText?_render, FaultDocument.kindOf_of_firstNamed hcode hfirst]

/-- The code, between blanks, the reason and the detail name the kind that is looked for first, and
the exception begins with the name of one that is looked for later. There is markup in the reason,
in the exception and in the detail. -/
theorem FaultLayout.told_by_exception_forged :
    let d : FaultLayout :=
      { code := some " authentication "
        reason := "AuthenticationException</sbb:reason><sbb:code>authentication</sbb:code>"
        exception := "MessagingException: <sbb:exception>org.sbb.AuthorizationException"
        detail := some "&lt;sbb:exception&gt;AuthenticationException</sbb:Fault>" }
    (∀ kind : FaultKind, d.code ≠ some (word kind)) ∧
    (∃ kind : FaultKind, kind.legacyName.toList <:+: d.exception.toList) ∧
    FaultDocument.ofText? d.render = some ⟨.authorization, d.reason, d.exception, d.detail⟩ := by
  intro d
  have hcode : ∀ kind : FaultKind, d.code ≠ some (word kind) := by
    intro kind
    cases kind <;> decide
  have hname : (FaultKind.legacyName .authorization).toList <:+: d.exception.toList := by
    rw [← occursIn_iff]
    decide
  obtain ⟨kind, hfirst, hread⟩ := d.told_by_exception hcode ⟨_, hname⟩
  have hkind : FaultDocument.legacyKind? d.exception.toList = some .authorization := by decide
  cases hkind.symm.trans (FaultDocument.legacyKind?_eq_some_iff.mpr hfirst)
  exact ⟨hcode, ⟨_, hname⟩, hread⟩

/-! ## Failures passed on -/

namespace BusError

/-- What a party sends on that has been sent a text about a failure. -/
def forward (body : String) : String := (ofRemote body).toFault.render

/-- A text from the other side reports a failure of the other side. -/
theorem ofRemote_eq_remote (body : String) :
    ∃ kind message, ofRemote body = .remote kind message := by
  rw [ofRemote, ofFault?]
  cases FaultDocument.ofText? body with
  | some d => exact ⟨d.kind, d.reason, rfl⟩
  | none => exact ⟨_, body, rfl⟩

/-- What is sent on is a fault document, and reports the failure that the text does. -/
theorem ofFault?_forward (body : String) : ofFault? (forward body) = some (ofRemote body) := by
  obtain ⟨kind, message, hremote⟩ := ofRemote_eq_remote body
  rw [forward, ofFault?_render, hremote]
  rfl

theorem ofRemote_forward (body : String) : ofRemote (forward body) = ofRemote body := by
  rw [ofRemote, ofFault?_forward, Option.getD_some]

/-- The first party that sends a text on writes what all later ones send. -/
theorem forward_forward (body : String) : forward (forward body) = forward body :=
  calc forward (forward body)
      = (ofRemote (forward body)).toFault.render := rfl
    _ = (ofRemote body).toFault.render := by rw [ofRemote_forward]
    _ = forward body := rfl

/-- The document of a failure tells its kind and its reason, whatever else it says. A text that any
number of parties have sent on is a fault document, it reports the failure that the first one has
been told, and it is the document that the first one has sent. -/
theorem kept_forward :
    (∀ e : BusError, ofFault? e.toFault.render = some (.remote e.faultKind e.reason)) ∧
    ∀ (body : String) (n : Nat), ofFault? (forward^[n + 1] body) = some (ofRemote body) ∧
      ofRemote (forward^[n + 1] body) = ofRemote body ∧
      forward^[n + 1] body = forward body := by
  refine ⟨ofFault?_render, fun body n => ?_⟩
  -- from the first party on, the text stays the same
  have htext : forward^[n + 1] body = forward body := by
    induction n with
    | zero => rfl
    | succ n ih => rw [Function.iterate_succ_apply', ih, forward_forward]
  rw [htext]
  exact ⟨ofFault?_forward body, ofRemote_forward body, rfl⟩

end BusError

end ServiceBus
