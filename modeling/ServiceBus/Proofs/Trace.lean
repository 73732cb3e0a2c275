import ServiceBus.Parties

set_option autoImplicit false

/-! # The calls of a trace

A trace is read by the kinds of its calls: `callsOf kinds` keeps the calls of some kinds, in the
order in which they were made. The signals of a leg to the transport are its calls of the kinds
`signalKinds`, what the participant is told are the calls of the kinds `callbackKinds`, and how an
exchange gets past the policy to the transport are the calls of the kinds `passageKinds`.

Some calls are read for what they carry: `noticesOf` keeps the notifications of a trace, and
`acceptedOf` the exchanges that the transport has accepted. With `entriesOf` they are read together
with the store as it was when they were made. `OnlyAfter` and `Precede` tell in which order calls of
two sorts were made. -/

namespace ServiceBus

/-- What a call is made for. -/
inductive CallKind where
  | policy
  | send
  | sendSync
  | acknowledge
  | refuse
  | handleMessage
  | handleError
  | notify
  deriving DecidableEq

/-- What a call is made for. -/
def Call.kind : Call → CallKind
  | .policy _ _ _ _ => .policy
  | .send _ _ => .send
  | .sendSync _ _ _ => .sendSync
  | .acknowledge _ _ => .acknowledge
  | .refuse _ _ _ => .refuse
  | .handleMessage _ _ _ => .handleMessage
  | .handleError _ _ _ _ => .handleError
  | .notify _ => .notify

/-- The calls that tell the transport how a leg has ended. -/
def signalKinds : List CallKind := [.acknowledge, .refuse]

/-- The calls that tell the participant something. -/
def callbackKinds : List CallKind := [.handleMessage, .handleError]

/-- The calls that judge an exchange or hand one to the transport. -/
def passageKinds : List CallKind := [.policy, .send, .sendSync]

/-- The exchange that a call hands to the transport. -/
def Call.handed? : Call → Option Exchange
  | .send e _ => some e
  | .sendSync e _ _ => some e
  | _ => none

/-- The exchange that a call hands to the transport, if the transport accepts it in time. -/
def Call.accepted? : Call → Option Exchange
  | .send e none => some e
  | .sendSync e limit a => if a.failure? limit = none then some e else none
  | _ => none

/-- The handler that a call tells something. -/
def Call.told? : Call → Option HandlerName
  | .handleMessage handler _ _ => some handler
  | .handleError handler _ _ _ => some handler
  | _ => none

/-- The notification that a call makes. -/
def Call.notice? : Call → Option Event
  | .notify event => some event
  | _ => none

/-- Whether a call asks the policy about a leg with this role and this scope. -/
def Call.judges (role : Role) (scope : Scope) : Call → Bool
  | .policy _ r s _ => decide (r = role ∧ s = scope)
  | _ => false

/-- The calls of the given kinds, in the order in which they were made. -/
def callsOf (kinds : List CallKind) (trace : List Entry) : List Call :=
  (trace.map (·.call)).filter fun c => c.kind ∈ kinds

@[simp] theorem callsOf_nil (kinds : List CallKind) : callsOf kinds [] = [] := rfl

theorem callsOf_append (kinds : List CallKind) (t u : List Entry) :
    callsOf kinds (t ++ u) = callsOf kinds t ++ callsOf kinds u := by
  simp [callsOf]

theorem callsOf_concat_of_mem {kinds : List CallKind} {e : Entry} (h : e.call.kind ∈ kinds)
    (t : List Entry) : callsOf kinds (t ++ [e]) = callsOf kinds t ++ [e.call] := by
  simp [callsOf, h]

theorem callsOf_concat_of_not_mem {kinds : List CallKind} {e : Entry} (h : e.call.kind ∉ kinds)
    (t : List Entry) : callsOf kinds (t ++ [e]) = callsOf kinds t := by
  simp [callsOf, h]

theorem mem_callsOf {kinds : List CallKind} {t : List Entry} {c : Call} :
    c ∈ callsOf kinds t ↔ (∃ e ∈ t, e.call = c) ∧ c.kind ∈ kinds := by
  simp [callsOf]

/-- A call of a trace is read by every list of kinds that has its kind. -/
theorem mem_callsOf_of_kind {kinds : List CallKind} (kinds' : List CallKind) {t : List Entry}
    {c : Call} (h : c ∈ callsOf kinds t) (hk : c.kind ∈ kinds') : c ∈ callsOf kinds' t :=
  mem_callsOf.mpr ⟨(mem_callsOf.mp h).1, hk⟩

/-- The calls of a trace are among those of a longer one. -/
theorem callsOf_subset {t u : List Entry} (h : t <+: u) (kinds : List CallKind) :
    callsOf kinds t ⊆ callsOf kinds u := by
  obtain ⟨r, rfl⟩ := h
  rw [callsOf_append]
  exact List.subset_append_left _ _

/-! ## Calls and the store at their time -/

/-- The entries of a trace whose calls are of the given kinds. -/
def entriesOf (kinds : List CallKind) (trace : List Entry) : List Entry :=
  trace.filter fun e => e.call.kind ∈ kinds

/-- Calls are among the entries with calls of their kind. -/
theorem callsOf_entriesOf {kinds more : List CallKind} (h : kinds ⊆ more) (t : List Entry) :
    callsOf kinds (entriesOf more t) = callsOf kinds t := by
  simp only [callsOf, entriesOf, List.filter_map, List.filter_filter]
  refine congrArg (List.map Entry.call) (List.filter_congr fun e _ => ?_)
  by_cases hkind : e.call.kind ∈ kinds
  · simp [hkind, h hkind]
  · simp [hkind]

theorem entriesOf_concat_of_mem {kinds : List CallKind} {e : Entry} (h : e.call.kind ∈ kinds)
    (t : List Entry) : entriesOf kinds (t ++ [e]) = entriesOf kinds t ++ [e] := by
  simp [entriesOf, h]

theorem entriesOf_concat_of_not_mem {kinds : List CallKind} {e : Entry} (h : e.call.kind ∉ kinds)
    (t : List Entry) : entriesOf kinds (t ++ [e]) = entriesOf kinds t := by
  simp [entriesOf, h]

/-! ## Splitting lists -/

section Split

variable {α : Type} {xs ys before after : List α} {x y : α}

/-- An item of two lists in a row is in the first or in the second of them. -/
theorem split_append (h : xs ++ ys = before ++ x :: after) :
    (∃ rest, xs = before ++ x :: rest ∧ after = rest ++ ys) ∨
      ∃ rest, before = xs ++ rest ∧ ys = rest ++ x :: after := by
  rcases List.append_eq_append_iff.mp h with ⟨rest, hbefore, hafter⟩ | ⟨rest, hxs, hrest⟩
  · exact .inr ⟨rest, hbefore, hafter⟩
  · cases rest with
    | nil => exact .inr ⟨[], by simpa using hxs.symm, hrest.symm⟩
    | cons x' rest =>
        obtain ⟨rfl, rfl⟩ := List.cons.inj hrest
        exact .inl ⟨rest, hxs, rfl⟩

/-- An item of a list with one more item is in the list, or is this one. -/
theorem split_concat (h : xs ++ [y] = before ++ x :: after) :
    (∃ rest, xs = before ++ x :: rest ∧ after = rest ++ [y]) ∨
      xs = before ∧ y = x ∧ after = [] := by
  rcases split_append h with hin | ⟨rest, hbefore, hlast⟩
  · exact .inl hin
  · obtain ⟨rfl, hsingle⟩ : rest = [] ∧ [y] = x :: after := by
      cases rest with
      | nil => exact ⟨rfl, hlast⟩
      | cons z rest => simp at hlast
    obtain ⟨rfl, hnil⟩ := List.cons.inj hsingle
    exact .inr ⟨by rw [hbefore, List.append_nil], rfl, hnil.symm⟩

end Split

/-! ## The order of calls -/

/-- Every call with the second property has one with the first property before it. -/
def OnlyAfter (first later : Call → Prop) (calls : List Call) : Prop :=
  ∀ before c after, calls = before ++ c :: after → later c → ∃ d ∈ before, first d

/-- Every call with the first property has one with the second property after it, and none before
it. -/
def Precede (first later : Call → Prop) (calls : List Call) : Prop :=
  ∀ before c after, calls = before ++ c :: after → first c →
    (∀ d ∈ before, ¬ later d) ∧ ∃ d ∈ after, later d

section Order

variable {first later : Call → Prop} {calls calls' : List Call}

namespace OnlyAfter

theorem of_forall (h : ∀ c ∈ calls, ¬ later c) : OnlyAfter first later calls := by
  rintro before c after rfl hc
  exact absurd hc (h c (by simp))

/-- What comes behind a call with the first property may be anything. -/
theorem of_mem (h : ∀ c ∈ calls, ¬ later c) {d : Call} (hd : d ∈ calls) (hf : first d)
    (calls' : List Call) : OnlyAfter first later (calls ++ calls') := by
  intro before c after heq hc
  rcases split_append heq with ⟨rest, rfl, -⟩ | ⟨rest, rfl, -⟩
  · exact absurd hc (h c (by simp))
  · exact ⟨d, List.mem_append_left _ hd, hf⟩

theorem append (h : OnlyAfter first later calls) (h' : ∀ c ∈ calls', ¬ later c) :
    OnlyAfter first later (calls ++ calls') := by
  intro before c after heq hc
  rcases split_append heq with ⟨rest, hcalls, -⟩ | ⟨rest, -, rfl⟩
  · exact h before c rest hcalls hc
  · exact absurd hc (h' c (by simp))

end OnlyAfter

namespace Precede

theorem of_forall (h : ∀ c ∈ calls, ¬ first c) : Precede first later calls := by
  rintro before c after rfl hc
  exact absurd hc (h c (by simp))

/-- Enough that a call with the second property separates those before it, none of which has this
property, from those after it, none of which has the first property. -/
theorem of_mem {d : Call} (hbefore : ∀ c ∈ calls, ¬ later c) (hd : later d) (hnot : ¬ first d)
    (hafter : ∀ c ∈ calls', ¬ first c) : Precede first later (calls ++ d :: calls') := by
  intro before c after heq hc
  rcases split_append heq with ⟨rest, rfl, rfl⟩ | ⟨rest, -, hrest⟩
  · exact ⟨fun b hb => hbefore b (List.mem_append_left _ hb), d, by simp, hd⟩
  · have hmem : c ∈ d :: calls' := by simp [hrest]
    rcases List.mem_cons.mp hmem with rfl | hmem
    · exact absurd hc hnot
    · exact absurd hc (hafter c hmem)

theorem append (h : Precede first later calls) (h' : ∀ c ∈ calls', ¬ first c) :
    Precede first later (calls ++ calls') := by
  intro before c after heq hc
  rcases split_append heq with ⟨rest, hcalls, rfl⟩ | ⟨rest, -, rfl⟩
  · obtain ⟨hbefore, d, hd, hl⟩ := h before c rest hcalls hc
    exact ⟨hbefore, d, List.mem_append_left _ hd, hl⟩
  · exact absurd hc (h' c (by simp))

end Precede

end Order

/-! ## What calls carry -/

/-- Callbacks tell a handler something. -/
theorem Call.told?_of_mem {c : Call} (h : c.kind ∈ callbackKinds) :
    ∃ handler, c.told? = some handler := by
  cases c with
  | handleMessage handler => exact ⟨handler, rfl⟩
  | handleError handler => exact ⟨handler, rfl⟩
  | _ => simp [Call.kind, callbackKinds] at h

/-- Only callbacks tell a handler something. -/
theorem Call.told?_of_not_mem {c : Call} (h : c.kind ∉ callbackKinds) : c.told? = none := by
  cases c with
  | handleMessage => exact absurd List.mem_cons_self h
  | handleError => exact absurd (List.mem_cons_of_mem _ List.mem_cons_self) h
  | _ => rfl

/-- The notifications of a trace, in the order in which they were made. -/
def noticesOf (trace : List Entry) : List Event := trace.filterMap (·.call.notice?)

/-- The exchanges that the transport has accepted, in the order in which they were handed over. -/
def acceptedOf (trace : List Entry) : List Exchange := trace.filterMap (·.call.accepted?)

@[simp] theorem noticesOf_append (t u : List Entry) :
    noticesOf (t ++ u) = noticesOf t ++ noticesOf u :=
  List.filterMap_append

@[simp] theorem acceptedOf_append (t u : List Entry) :
    acceptedOf (t ++ u) = acceptedOf t ++ acceptedOf u :=
  List.filterMap_append

/-- A call that is no notification adds none. -/
theorem noticesOf_concat_of_ne {e : Entry} (h : e.call.kind ≠ .notify) (t : List Entry) :
    noticesOf (t ++ [e]) = noticesOf t := by
  have hnone : e.call.notice? = none := by
    cases hc : e.call with
    | notify event => exact absurd (congrArg Call.kind hc) h
    | _ => rfl
  simp [noticesOf, hnone]

theorem Call.kind_of_handed? {c : Call} {e : Exchange} (h : c.handed? = some e) :
    c.kind = .send ∨ c.kind = .sendSync := by
  cases c with
  | send => exact .inl rfl
  | sendSync => exact .inr rfl
  | _ => cases h

/-- What the transport accepts has been handed to it. -/
theorem Call.handed?_of_accepted? {c : Call} {e : Exchange} (h : c.accepted? = some e) :
    c.handed? = some e := by
  cases c with
  | send e' failure =>
      cases failure with
      | none => exact h
      | some _ => cases h
  | sendSync e' limit a =>
      simp only [accepted?, Option.ite_none_right_eq_some] at h
      exact h.2
  | _ => cases h

theorem Call.kind_of_accepted? {c : Call} {e : Exchange} (h : c.accepted? = some e) :
    c.kind ∈ [.send, .sendSync] := by
  rcases c.kind_of_handed? (c.handed?_of_accepted? h) with hk | hk <;> simp [hk]

theorem Call.kind_ne_of_accepted? {c : Call} {e : Exchange} (h : c.accepted? = some e)
    {kind : CallKind} (hk : kind ∉ [.send, .sendSync]) : c.kind ≠ kind := by
  rintro rfl
  exact hk (c.kind_of_accepted? h)

end ServiceBus
