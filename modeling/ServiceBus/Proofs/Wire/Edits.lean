import ServiceBus.Proofs.Wire.RoundTrip
import Mathlib.Logic.Relation

set_option autoImplicit false

/-! # Documents that say the same

A document that an exchange has been written as may reach its reader in another form: with members
left out that say nothing, or with members that the reader does not know. Such changes are edits
(`Edit`), one at a time and anywhere in the document; which members say nothing is told by a table of
the members of each record (`Part.members`).

An edit does not change what is read (`Edit.keeps`). For a record this is a matter of its form,
which takes what is under one of its names for the same before and after the edit (`Change`,
`Part.Steady`). -/

namespace ServiceBus.Wire

/-! ## The parts of a document -/

/-- The parts of a document with an exchange. -/
inductive Part where
  | exchange
  | message
  | failure
  | failureData (type : FailureType)
  | context
  | policy
  | address
  | relations
  | relation
  deriving DecidableEq

/-- A member of a record: the value with which it says nothing, and which part of the document it
is. -/
structure Member where
  spare : Option Json := none
  part : Option Part := none

namespace Part

/-- The members of a record. -/
def members : Part → List (String × Member)
  | .exchange =>
      [("id", {}), ("pattern", {}), ("status", {}), ("service_id", {}), ("operation", {}),
        ("target", { spare := some .null }), ("context", { part := some .context }),
        ("in_message", ⟨some .null, some .message⟩), ("out_message", ⟨some .null, some .message⟩),
        ("fault", ⟨some .null, some .message⟩), ("failure", ⟨some .null, some .failure⟩)]
  | .message => [("body", {}), ("headers", {}), ("must_understand", { spare := some (.array []) })]
  | .failure => [("type", {}), ("data", {})]
  | .failureData .remoteFault => [("document", {})]
  | .failureData .transport => [("reason", {})]
  | .context =>
      [("message_id", {}), ("created_at", {}), ("relations", { part := some .relations }),
        ("correlation_id", { spare := some .null }),
        ("fault_correlation_id", { spare := some .null }), ("related_at", { spare := some .null }),
        ("agreed_policy", ⟨some .null, some .policy⟩), ("reply_to", ⟨some .null, some .address⟩),
        ("reference_parameters", { spare := some (.object []) })]
  | .policy =>
      [("policy_id", {}), ("require_authentication", {}),
        ("required_roles", { spare := some (.array []) }),
        ("transport_assertions", { spare := some (.array []) })]
  | .address =>
      [("address", {}), ("service_id", {}), ("correlation_id", { spare := some .null }),
        ("fault_correlation_id", { spare := some .null }),
        ("reference_parameters", { spare := some (.object []) })]
  | .relation => [("message_id", {}), ("relation", {}), ("recorded_at", {})]
  | .relations => []

/-- What a part of a document says. -/
def Meaning : Part → Type
  | .exchange => Exchange
  | .message => Message
  | .failure | .failureData _ => ExchangeFailure
  | .context => CallContext
  | .policy => AgreedPolicy
  | .address => EndpointReference
  | .relation => Relation
  | .relations => List Relation

/-- Read a part of a document. -/
def read : (p : Part) → Json → Except DecodeError p.Meaning
  | .exchange => readExchange
  | .message => readMessage
  | .failure => readFailure
  | .failureData type => (failureForm type).readAgain type.record
  | .context => readCallContext
  | .policy => readAgreedPolicy
  | .address => readEndpointReference
  | .relation => readRelation
  | .relations => readList readRelation

end Part

/-- One change of a part of a document. -/
inductive Edit : Part → Json → Json → Prop where
  /-- A member that says nothing is left out. -/
  | leaveOut {p : Part} {name : String} {v : Json} {part : Option Part} (before after)
      (h : p.members.lookup name = some ⟨some v, part⟩) :
      Edit p (.object (before ++ (name, v) :: after)) (.object (before ++ after))
  /-- A member is put in that the record does not have. -/
  | putIn {p : Part} {name : String} (v : Json) (before after)
      (h : p.members.lookup name = none) :
      Edit p (.object (before ++ after)) (.object (before ++ (name, v) :: after))
  /-- A member is edited. -/
  | member {p q : Part} {name : String} {v v' : Json} {spare : Option Json} (before after)
      (h : p.members.lookup name = some ⟨spare, some q⟩) (hv : Edit q v v') :
      Edit p (.object (before ++ (name, v) :: after)) (.object (before ++ (name, v') :: after))
  /-- The data of a failure are edited. -/
  | data {type : FailureType} {v v' : Json} (before after)
      (h : (before ++ ("data", v) :: after).lookup "type" = some (writeWord type))
      (hv : Edit (.failureData type) v v') :
      Edit .failure (.object (before ++ ("data", v) :: after))
        (.object (before ++ ("data", v') :: after))
  /-- One of several relations is edited. -/
  | item {v v' : Json} (before after) (hv : Edit .relation v v') :
      Edit .relations (.array (before ++ v :: after)) (.array (before ++ v' :: after))

/-- What is read from the one document is read from the other. -/
def Part.Keeps (p : Part) (v v' : Json) : Prop := ∀ a, p.read v = .ok a → p.read v' = .ok a

/-- Edits are made in objects and lists. -/
theorem Edit.ne_null {p : Part} {v v' : Json} (h : Edit p v v') : v ≠ .null ∧ v' ≠ .null := by
  cases h <;> exact ⟨nofun, nofun⟩

/-! ## What an edit does under a name -/

/-- What is under a name of a record is the same, or is not looked at, or says nothing and is left
out, or says the same. -/
inductive Change (p : Part) (name : String) : Option Json → Option Json → Prop where
  | same (o : Option Json) : Change p name o o
  | unknown (h : p.members.lookup name = none) (o o' : Option Json) : Change p name o o'
  | leftOut {v : Json} {part : Option Part} (h : p.members.lookup name = some ⟨some v, part⟩) :
      Change p name (some v) none
  | edited {q : Part} {v v' : Json} {spare : Option Json}
      (h : p.members.lookup name = some ⟨spare, some q⟩) (hv : v ≠ .null) (hv' : v' ≠ .null)
      (hkeeps : q.Keeps v v') : Change p name (some v) (some v')

open Form

section Members

variable {α : Type} {p : Part} {name : String} {part : Json → Except DecodeError α}
  {absent short : Option α}

/-- A member takes no notice of changes if it reads what it takes by default from the value that
says nothing, and keeps to what is read from an edited part. -/
theorem respects_change {m : Member} (hm : p.members.lookup name = some m)
    (hspare : ∀ v, m.spare = some v → ∀ a, part v = .ok a → absent = some a)
    (hpart : ∀ q, m.part = some q → ∀ v v', v ≠ .null → v' ≠ .null → q.Keeps v v' →
      ∀ a, part v = .ok a → part v' = .ok a) :
    (Form.member name part absent short).Respects (Change p) := by
  refine respects_member fun o o' a hchange ha => ?_
  cases hchange with
  | same => exact ha
  | unknown h => rw [h] at hm; cases hm
  | leftOut h =>
      rw [h] at hm
      cases hm
      exact hspare _ rfl a ha
  | edited h hv hv' hkeeps =>
      rw [h] at hm
      cases hm
      exact hpart _ rfl _ _ hv hv' hkeeps a ha

/-- A member that can neither be left out nor be edited. -/
theorem respects_plain (hm : p.members.lookup name = some {}) :
    (Form.member name part absent short).Respects (Change p) :=
  respects_change hm nofun nofun

/-- A member that can be left out. -/
theorem respects_spare {v : Json} {a : α} (hm : p.members.lookup name = some { spare := some v })
    (hv : part v = .ok a) : (Form.member name part (some a) short).Respects (Change p) := by
  refine respects_change hm ?_ nofun
  rintro _ ⟨⟩ b hb
  rw [hv] at hb
  cases hb
  rfl

/-- A member that is a part of the document. -/
theorem respects_part {q : Part} (hm : p.members.lookup name = some { part := some q }) :
    (Form.required name q.read).Respects (Change p) := by
  refine respects_change hm nofun ?_
  rintro _ ⟨⟩ v v' - - hkeeps
  exact hkeeps

/-- A member that is a part of the document or null. -/
theorem respects_optional {q : Part} (hm : p.members.lookup name = some ⟨some .null, some q⟩) :
    (Form.optional name (readOption q.read)).Respects (Change p) := by
  refine respects_change hm ?_ ?_
  · rintro _ ⟨⟩ _ ⟨⟩
    rfl
  · rintro _ ⟨⟩ v v' hv hv' hkeeps a ha
    rw [readOption_of_ne_null hv] at ha
    rw [readOption_of_ne_null hv']
    cases hread : q.read v with
    | error e => rw [hread] at ha; cases ha
    | ok b => rw [hread] at ha; rw [hkeeps b hread]; exact ha

end Members

/-! ## Steady parts -/

/-- What is read from an object stays what it is when one of its members is left out, put in or
edited. -/
structure Part.Steady (p : Part) : Prop where
  leaveOut {name : String} {v : Json} {part : Option Part}
    (h : p.members.lookup name = some ⟨some v, part⟩) (before after : List (String × Json)) :
    p.Keeps (.object (before ++ (name, v) :: after)) (.object (before ++ after))
  putIn {name : String} (h : p.members.lookup name = none) (v : Json)
    (before after : List (String × Json)) :
    p.Keeps (.object (before ++ after)) (.object (before ++ (name, v) :: after))
  member {q : Part} {name : String} {v v' : Json} {spare : Option Json}
    (h : p.members.lookup name = some ⟨spare, some q⟩) (hv : v ≠ .null) (hv' : v' ≠ .null)
    (hkeeps : q.Keeps v v') (before after : List (String × Json)) :
    p.Keeps (.object (before ++ (name, v) :: after)) (.object (before ++ (name, v') :: after))

/-- An object with values under a name in the middle. -/
def around (before after : List (String × Json)) (name : String) (vs : List Json) :
    List (String × Json) :=
  before ++ (vs.map (name, ·) ++ after)

section Around

variable (before after : List (String × Json)) {name n : String} (vs : List Json)

theorem contents_around_self : contents name (around before after name vs) =
    contents name before ++ (vs ++ contents name after) := by
  have hvs : contents name (vs.map (name, ·)) = vs := by
    rw [contents, List.filterMap_map]
    have hsome : (fun m : String × Json => if m.1 = name then some m.2 else none) ∘ (name, ·) =
        some := funext fun v => if_pos rfl
    rw [hsome, List.filterMap_some]
  rw [around, contents_append, contents_append, hvs]

theorem contents_around_of_ne (h : name ≠ n) :
    contents n (around before after name vs) = contents n (before ++ after) := by
  have hvs : contents n (vs.map (name, ·)) = [] := by
    rw [contents, List.filterMap_map]
    exact List.filterMap_eq_nil_iff.mpr fun v _ => if_neg h
  rw [around, contents_append, contents_append, hvs, List.nil_append, contents_append]

theorem lookup_around_of_ne (h : name ≠ n) :
    (around before after name vs).lookup n = (before ++ after).lookup n := by
  have hvs : (vs.map (name, ·)).lookup n = none := by
    rw [List.lookup_eq_none_iff]
    simp [Ne.symm h]
  rw [around, List.lookup_append, List.lookup_append, hvs, Option.none_or, List.lookup_append]

end Around

section Forms

variable {p : Part} {expected fewer : String} (f : Form Json p.Meaning)
  (hread : p.read = f.readAs expected fewer)
  (hnames : f.names = p.members.map Prod.fst) (hf : f.Respects (Change p))

include hnames

theorem lookup_ne_none_of_mem {name : String} (h : name ∈ f.names) :
    p.members.lookup name ≠ none := by
  intro hnone
  rw [hnames] at h
  obtain ⟨m, hm, rfl⟩ := List.mem_map.mp h
  have hne := List.lookup_eq_none_iff.mp hnone m hm
  simp at hne

theorem mem_names_of_lookup_ne_none {name : String} (h : p.members.lookup name ≠ none) :
    name ∈ f.names := by
  obtain ⟨m, hm⟩ := Option.ne_none_iff_exists'.mp h
  obtain ⟨before, after, hmembers, -⟩ := List.lookup_eq_some_iff.mp hm
  rw [hnames, hmembers, List.map_append]
  exact List.mem_append_right _ List.mem_cons_self

include hread hf

/-- The values under a name that the form knows are replaced in a way that it takes no notice of,
or those under any other name are. -/
theorem keeps_around {name : String} (vs vs' : List Json) (hone : vs'.length ≤ 1)
    (hchange : p.members.lookup name ≠ none → vs ≠ [] ∧ Change p name vs.head? vs'.head?)
    (before after : List (String × Json)) :
    p.Keeps (.object (around before after name vs)) (.object (around before after name vs')) := by
  intro a ha
  rw [hread] at ha ⊢
  have hlengths := (of_readAs ha).2
  -- what is under a known name is there once, so it is all there is
  have hself : p.members.lookup name ≠ none →
      contents name before = [] ∧ contents name after = [] := by
    intro hne
    have hlength := hlengths name (mem_names_of_lookup_ne_none f hnames hne)
    have hvs := List.length_pos_iff.mpr (hchange hne).1
    rw [contents_around_self, List.length_append, List.length_append] at hlength
    exact ⟨List.eq_nil_of_length_eq_zero (by omega), List.eq_nil_of_length_eq_zero (by omega)⟩
  refine hf.readAs (fun n => ?_) (fun n hn => ?_) ha
  · by_cases heq : name = n
    · subst heq
      by_cases hnone : p.members.lookup name = none
      · exact .unknown hnone _ _
      · obtain ⟨hb, ha⟩ := hself hnone
        rw [contents_around_self, contents_around_self, hb, ha, List.nil_append, List.append_nil,
          List.nil_append, List.append_nil]
        exact (hchange hnone).2
    · rw [contents_around_of_ne _ _ _ heq, contents_around_of_ne _ _ _ heq]
      exact .same _
  · by_cases heq : name = n
    · subst heq
      obtain ⟨hb, ha⟩ := hself (lookup_ne_none_of_mem f hnames hn)
      rw [contents_around_self, hb, ha, List.nil_append, List.append_nil]
      exact hone
    · rw [contents_around_of_ne _ _ _ heq, ← contents_around_of_ne _ _ vs heq]
      exact hlengths n hn

/-- A record is steady if its form takes no notice of changes. -/
theorem steady_of_form : p.Steady where
  leaveOut h := keeps_around f hread hnames hf [_] [] (Nat.zero_le 1)
    fun _ => ⟨List.cons_ne_nil _ _, .leftOut h⟩
  putIn h v := keeps_around f hread hnames hf [] [v] (Nat.le_refl 1)
    fun hknown => absurd h hknown
  member h hv hv' hkeeps := keeps_around f hread hnames hf [_] [_] (Nat.le_refl 1)
    fun _ => ⟨List.cons_ne_nil _ _, .edited h hv hv' hkeeps⟩

end Forms

/-! ### The parts of an exchange -/

theorem steady_exchange : Part.exchange.Steady := by
  refine steady_of_form exchangeForm rfl rfl ?_
  iterate 10 refine .seq ?_ ?_
  refine .map ?_ _
  · exact respects_plain rfl
  · exact respects_plain rfl
  · exact respects_plain rfl
  · exact respects_plain rfl
  · exact respects_plain rfl
  · exact respects_spare rfl rfl
  · exact respects_part (q := .context) rfl
  · exact respects_optional (q := .message) rfl
  · exact respects_optional (q := .message) rfl
  · exact respects_optional (q := .message) rfl
  · exact respects_optional (q := .failure) rfl

theorem steady_message : Part.message.Steady := by
  refine steady_of_form messageForm rfl rfl ?_
  iterate 2 refine .seq ?_ ?_
  refine .map ?_ _
  · exact respects_plain rfl
  · exact respects_plain rfl
  · exact respects_spare rfl rfl

theorem steady_context : Part.context.Steady := by
  refine steady_of_form callContextForm rfl rfl ?_
  iterate 8 refine .seq ?_ ?_
  refine .map ?_ _
  · exact respects_plain rfl
  · exact respects_plain rfl
  · exact respects_part (q := .relations) rfl
  · exact respects_spare rfl rfl
  · exact respects_spare rfl rfl
  · exact respects_spare rfl rfl
  · exact respects_optional (q := .policy) rfl
  · exact respects_optional (q := .address) rfl
  · exact respects_spare rfl rfl

theorem steady_policy : Part.policy.Steady := by
  refine steady_of_form agreedPolicyForm rfl rfl ?_
  iterate 3 refine .seq ?_ ?_
  refine .map ?_ _
  · exact respects_plain rfl
  · exact respects_plain rfl
  · exact respects_spare rfl rfl
  · exact respects_spare rfl rfl

theorem steady_address : Part.address.Steady := by
  refine steady_of_form endpointReferenceForm rfl rfl ?_
  iterate 4 refine .seq ?_ ?_
  refine .map ?_ _
  · exact respects_plain rfl
  · exact respects_plain rfl
  · exact respects_spare rfl rfl
  · exact respects_spare rfl rfl
  · exact respects_spare rfl rfl

theorem steady_relation : Part.relation.Steady := by
  refine steady_of_form relationForm rfl rfl ?_
  iterate 2 refine .seq ?_ ?_
  refine .map ?_ _
  · exact respects_plain rfl
  · exact respects_plain rfl
  · exact respects_plain rfl

theorem steady_failureData (type : FailureType) : (Part.failureData type).Steady := by
  refine steady_of_form (failureForm type) rfl ?_ ?_
  · cases type <;> rfl
  · cases type with
    | remoteFault => exact .map (respects_plain (p := .failureData .remoteFault) rfl) _
    | transport => exact .map (respects_plain (p := .failureData .transport) rfl) _

/-- There are no objects that relations can be read from. -/
theorem steady_relations : Part.relations.Steady := by
  constructor
  · rintro _ _ _ _ _ _ _ ⟨⟩
  · rintro _ _ _ _ _ _ ⟨⟩
  · rintro _ _ _ _ _ _ _ _ _ _ _ _ ⟨⟩

/-! ### Failures

A failure is read from what is under two names. -/

theorem readFailure_object_congr {members members' : List (String × Json)}
    (htype : members'.lookup "type" = members.lookup "type")
    (hdata : members'.lookup "data" = members.lookup "data") :
    readFailure (.object members') = readFailure (.object members) := by
  rw [readFailure, readFailure, htype, hdata]

theorem readFailure_of_type {members : List (String × Json)} {type : FailureType} {v : Json}
    (htype : members.lookup "type" = some (writeWord type))
    (hdata : members.lookup "data" = some v) :
    readFailure (.object members) = (failureForm type).readAgain type.record v := by
  have hword : readWord (writeWord type) = .ok type := readWord_writeWord type
  rw [readFailure, htype]
  dsimp only
  rw [hword]
  dsimp only
  rw [hdata]

theorem steady_failure : Part.failure.Steady := by
  have hplain : ∀ name m, Part.failure.members.lookup name = some m →
      m.spare = none ∧ m.part = none := by
    intro name m hm
    obtain ⟨before, after, hmembers, -⟩ := List.lookup_eq_some_iff.mp hm
    have hmem : (name, m) ∈ Part.failure.members := by
      rw [hmembers]
      exact List.mem_append_right _ List.mem_cons_self
    simp only [Part.members, List.mem_cons, List.not_mem_nil, or_false, Prod.mk.injEq] at hmem
    rcases hmem with ⟨-, rfl⟩ | ⟨-, rfl⟩
    · exact ⟨rfl, rfl⟩
    · exact ⟨rfl, rfl⟩
  constructor
  · intro name v part h
    cases (hplain name _ h).1
  · intro name h v before after a ha
    have hne : name ≠ "type" ∧ name ≠ "data" := by
      constructor
      · rintro rfl
        cases h
      · rintro rfl
        cases h
    have hsame := readFailure_object_congr (lookup_around_of_ne before after [v] hne.1)
      (lookup_around_of_ne before after [v] hne.2)
    exact hsame.trans ha
  · intro q name v v' spare h
    cases (hplain name _ h).2

theorem steady : ∀ p : Part, p.Steady
  | .exchange => steady_exchange
  | .message => steady_message
  | .failure => steady_failure
  | .failureData type => steady_failureData type
  | .context => steady_context
  | .policy => steady_policy
  | .address => steady_address
  | .relations => steady_relations
  | .relation => steady_relation

/-! ## Edits -/

theorem keeps_data {type : FailureType} {v v' : Json} (before after : List (String × Json))
    (htype : (before ++ ("data", v) :: after).lookup "type" = some (writeWord type))
    (hkeeps : (Part.failureData type).Keeps v v') :
    Part.failure.Keeps (.object (before ++ ("data", v) :: after))
      (.object (before ++ ("data", v') :: after)) := by
  intro a ha
  -- the first data are looked at, be they those edited or others before them
  have hdata : ∀ w, (before ++ ("data", w) :: after).lookup "data" =
      some ((before.lookup "data").getD w) := by
    intro w
    rw [List.lookup_append, List.lookup_cons_self]
    cases before.lookup "data" <;> rfl
  have htype' : (before ++ ("data", v') :: after).lookup "type" = some (writeWord type) := by
    rw [List.lookup_append, List.lookup_cons] at htype ⊢
    exact htype
  have hread : (failureForm type).readAgain type.record ((before.lookup "data").getD v) = .ok a :=
    (readFailure_of_type htype (hdata v)).symm.trans ha
  refine (readFailure_of_type htype' (hdata v')).trans ?_
  cases hlookup : before.lookup "data" with
  | some w => rw [hlookup] at hread; exact hread
  | none => rw [hlookup] at hread; exact hkeeps a hread

theorem readAll_cons_eq_ok_iff {α : Type} {read : Json → Except DecodeError α} {v : Json}
    {rest : List Json} {items : List α} :
    readAll read (v :: rest) = .ok items ↔
      ∃ a as, read v = .ok a ∧ readAll read rest = .ok as ∧ a :: as = items := by
  rw [readAll]
  cases read v with
  | error e => simp
  | ok a => cases readAll read rest <;> simp [Except.map]

/-- Lists are read item by item. -/
theorem readAll_middle {α : Type} {read : Json → Except DecodeError α} {v v' : Json}
    (h : ∀ a, read v = .ok a → read v' = .ok a) (before after : List Json) {items : List α}
    (hitems : readAll read (before ++ v :: after) = .ok items) :
    readAll read (before ++ v' :: after) = .ok items := by
  induction before generalizing items with
  | nil =>
      obtain ⟨a, as, ha, hrest, rfl⟩ := readAll_cons_eq_ok_iff.mp hitems
      exact readAll_cons_eq_ok_iff.mpr ⟨a, as, h a ha, hrest, rfl⟩
  | cons w before ih =>
      obtain ⟨a, as, ha, hrest, rfl⟩ := readAll_cons_eq_ok_iff.mp hitems
      exact readAll_cons_eq_ok_iff.mpr ⟨a, as, ha, ih hrest, rfl⟩

/-- An edit does not change what is read. -/
theorem Edit.keeps {p : Part} {v v' : Json} (h : Edit p v v') : p.Keeps v v' := by
  induction h with
  | leaveOut before after h => exact (steady _).leaveOut h before after
  | putIn v before after h => exact (steady _).putIn h v before after
  | member before after h hv ih =>
      exact (steady _).member h hv.ne_null.1 hv.ne_null.2 ih before after
  | data before after h hv ih => exact keeps_data before after h ih
  | item before after hv ih => exact fun _ ha => readAll_middle ih before after ha

/-- Nor do any number of edits. -/
theorem keeps_of_edits {p : Part} {v v' : Json} (h : Relation.ReflTransGen (Edit p) v v') :
    p.Keeps v v' := by
  induction h with
  | refl => exact fun _ ha => ha
  | tail _ hedit ih => exact fun a ha => hedit.keeps a (ih a ha)

/-- Exchanges, notifications and the progress of a failover are read from what they are written as,
and an exchange also from what any number of edits make of it: with members left out that are null
or empty, and with others put in that no record has. Points in time are in years of four digits. -/
theorem documents_round_trip :
    (∀ e : Exchange, e.context.FourDigitYears →
      readExchange (writeExchange e) = .ok e ∧
        ∀ v, Relation.ReflTransGen (Edit .exchange) (writeExchange e) v →
          readExchange v = .ok e) ∧
      (∀ e : Event, e.recordedAt.FourDigitYear → readEvent (writeEvent e) = .ok e) ∧
      ∀ p, readProgress (writeProgress p) = .ok p := by
  refine ⟨fun e h => ⟨readExchange_writeExchange h, fun v hedits => ?_⟩,
    fun e h => readEvent_writeEvent h, readProgress_writeProgress⟩
  exact keeps_of_edits hedits e (readExchange_writeExchange h)

section Orders

/-- The leap second at the end of the year 2016, half over. -/
def leapSecond : Timestamp := (Timestamp.ofText? "2016-12-31T23:59:60.5Z").getD default

example : leapSecond.second = 86399 ∧ leapSecond.nano = 1500000000 := by decide

/-- An order that answers a message from that second. -/
def lateOrder : Exchange where
  id := .generated 1
  pattern := .inOut
  serviceId := "orders"
  operation := "place"
  context :=
    { messageId := .generated 2
      createdAt := .within 2017 120
      relations := [⟨.generated 3, .reply, leapSecond⟩]
      relatedAt := some (.within 2017 60) }
  input := some (Message.withRequired { body := "book" } "tenant" "7")

/-- The order is also read without the policy in its context, and with a mark that nobody knows. -/
theorem documents_round_trip_order :
    let event := Event.ofExchange lateOrder .sender .request .exchange .finished none leapSecond
    lateOrder.context.FourDigitYears ∧ readExchange (writeExchange lateOrder) = .ok lateOrder ∧
      (∃ v context, v.member? "trace" = some (.string "7") ∧ v.member? "context" = some context ∧
        context.member? "agreed_policy" = none ∧ readExchange v = .ok lateOrder) ∧
      readEvent (writeEvent event) = .ok event := by
  intro event
  have hyears : lateOrder.context.FourDigitYears := by
    refine ⟨by decide, ?_, ?_⟩
    · rintro _ ⟨⟩
      decide
    · simp only [lateOrder, List.mem_singleton, forall_eq]
      decide
  obtain ⟨hexchange, hevent, -⟩ := documents_round_trip
  obtain ⟨hread, hedits⟩ := hexchange lateOrder hyears
  refine ⟨hyears, hread, ⟨.object (("trace", .string "7") :: _), _, rfl, rfl, ?_, hedits _
    (.tail (.single (.member [] _ rfl (.leaveOut [] _ rfl))) (.putIn _ [] _ rfl))⟩, ?_⟩
  · rfl
  · exact hevent event (by decide)

end Orders

end ServiceBus.Wire
