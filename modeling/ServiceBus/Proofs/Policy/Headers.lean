import ServiceBus.Policy.Headers
import ServiceBus.Proofs.Text.Blank

set_option autoImplicit false

/-! # Which requests the check of headers accepts

A header lists the roles that stand between its commas, without the blanks around them (`Lists`,
`mem_presentedRoles_iff`). Headers that are put together list what the single ones do, so that
more entries list more roles.

Where a request comes in at the provider, it is accepted if it has the credentials that the policy
agreed on requires (`Credentials`), and otherwise rejected for the first of the reasons that there
are (`Refused`). Nothing else is ever rejected (`byHeaders_exact`). -/

namespace ServiceBus.Policy

open ServiceBus.Text

/-! ## The entries of a header -/

theorem splitAt_eq_splitOn (mark : Char) (s : List Char) : splitAt mark s = s.splitOn mark := by
  induction s with
  | nil => rfl
  | cons c s ih =>
      rw [splitAt, List.splitOn_cons_eq_if_modifyHead, ih]
      by_cases h : c = mark
      · simp [h]
      · rw [if_neg h, if_neg (by simpa using h)]
        cases hs : s.splitOn mark with
        | nil => exact absurd hs (List.splitOn_ne_nil mark s)
        | cons part rest => rfl

theorem splitAt_append (mark : Char) (s t : List Char) :
    splitAt mark (s ++ mark :: t) = splitAt mark s ++ splitAt mark t := by
  rw [splitAt_eq_splitOn, splitAt_eq_splitOn, splitAt_eq_splitOn, List.splitOn_append_cons_self]

theorem splitAt_of_not_mem {mark : Char} {s : List Char} (h : mark ∉ s) : splitAt mark s = [s] := by
  rw [splitAt_eq_splitOn, List.splitOn_eq_singleton h]

/-- A part of a text has no mark in it, and goes from the start of the text, or from a mark, to
the end or to the next mark. -/
def IsPart (mark : Char) (part s : List Char) : Prop :=
  mark ∉ part ∧ ∃ before after, s = before ++ part ++ after ∧
    (before = [] ∨ before.getLast? = some mark) ∧ (after = [] ∨ after.head? = some mark)

theorem mem_splitAt_of_isPart {mark : Char} {part s : List Char} (h : IsPart mark part s) :
    part ∈ splitAt mark s := by
  obtain ⟨hpart, before, after, rfl, hbefore, hafter⟩ := h
  have hrest : part ∈ splitAt mark (part ++ after) := by
    rcases hafter with rfl | hafter
    · rw [List.append_nil, splitAt_of_not_mem hpart]
      exact List.mem_singleton_self part
    · obtain ⟨after, rfl⟩ := List.head?_eq_some_iff.mp hafter
      rw [splitAt_append, splitAt_of_not_mem hpart]
      exact List.mem_append_left _ (List.mem_singleton_self part)
  rcases hbefore with rfl | hbefore
  · exact hrest
  · obtain ⟨before, rfl⟩ := List.getLast?_eq_some_iff.mp hbefore
    rw [List.append_assoc, List.append_assoc, List.singleton_append, splitAt_append]
    exact List.mem_append_right _ hrest

theorem isPart_of_mem_splitAt {mark : Char} {part s : List Char} (h : part ∈ splitAt mark s) :
    IsPart mark part s := by
  by_cases hmark : mark ∈ s
  · -- the text is cut at its first mark; what is behind that is shorter
    obtain ⟨first, rest, hs, hfirst⟩ := List.eq_append_cons_of_mem hmark
    have hlength : rest.length < s.length := by
      rw [hs, List.length_append, List.length_cons]
      omega
    rw [hs, splitAt_append, splitAt_of_not_mem hfirst, List.singleton_append,
      List.mem_cons] at h
    rcases h with rfl | h
    · exact ⟨hfirst, [], mark :: rest, by rw [hs, List.nil_append], .inl rfl, .inr rfl⟩
    · obtain ⟨hpart, before, after, hrest, hbefore, hafter⟩ := isPart_of_mem_splitAt h
      refine ⟨hpart, first ++ mark :: before, after, ?_, .inr ?_, hafter⟩
      · rw [hs, hrest]
        simp only [List.append_assoc, List.cons_append]
      · rcases hbefore with rfl | hbefore
        · exact List.getLast?_concat
        · obtain ⟨before, rfl⟩ := List.getLast?_eq_some_iff.mp hbefore
          rw [← List.cons_append, ← List.append_assoc]
          exact List.getLast?_concat
  · rw [splitAt_of_not_mem hmark, List.mem_singleton] at h
    subst h
    exact ⟨hmark, [], [], by rw [List.nil_append, List.append_nil], .inl rfl, .inl rfl⟩
termination_by s.length

/-- The parts of a text are what it is split into. -/
theorem mem_splitAt_iff {mark : Char} {part s : List Char} :
    part ∈ splitAt mark s ↔ IsPart mark part s :=
  ⟨isPart_of_mem_splitAt, mem_splitAt_of_isPart⟩

/-- A header lists a role if one of the parts between its commas is the role with blanks around
it. The role is not empty, and the blanks do not belong to it. -/
def Lists (header role : String) : Prop :=
  role ≠ "" ∧ Trimmed role.toList ∧ ∃ left right, (∀ c ∈ left, isBlank c = true) ∧
    (∀ c ∈ right, isBlank c = true) ∧ IsPart ',' (left ++ role.toList ++ right) header.toList

theorem mem_presentedRoles_iff {header role : String} :
    role ∈ presentedRoles header ↔ Lists header role := by
  have hmem : role ∈ presentedRoles header ↔
      role ≠ "" ∧ ∃ part ∈ splitAt ',' header.toList, trim part = role.toList := by
    simp only [presentedRoles, List.mem_map, List.mem_filter]
    constructor
    · rintro ⟨s, ⟨⟨part, hpart, rfl⟩, hne⟩, rfl⟩
      refine ⟨fun hnil => ?_, part, hpart, String.toList_ofList.symm⟩
      rw [← String.toList_inj, String.toList_ofList, String.toList_empty] at hnil
      rw [hnil] at hne
      cases hne
    · rintro ⟨hne, part, hpart, htrim⟩
      refine ⟨role.toList, ⟨⟨part, hpart, htrim⟩, ?_⟩, String.ofList_toList⟩
      cases hrole : role.toList with
      | nil => exact absurd (String.toList_eq_nil_iff.mp hrole) hne
      | cons c s => rfl
  rw [hmem, Lists]
  refine and_congr_right fun _ => ?_
  simp only [trim_eq_iff, mem_splitAt_iff]
  constructor
  · rintro ⟨part, hpart, htrimmed, left, right, hleft, hright, rfl⟩
    exact ⟨htrimmed, left, right, hleft, hright, hpart⟩
  · rintro ⟨htrimmed, left, right, hleft, hright, hpart⟩
    exact ⟨_, hpart, htrimmed, left, right, hleft, hright, rfl⟩

theorem presentedRoles_append (header header' : String) :
    presentedRoles (header ++ "," ++ header') = presentedRoles header ++ presentedRoles header' := by
  have hsplit : splitAt ',' (header ++ "," ++ header').toList =
      splitAt ',' header.toList ++ splitAt ',' header'.toList := by
    rw [String.toList_append, String.toList_append, ← splitAt_append, List.append_assoc]
    rfl
  rw [presentedRoles, hsplit, List.map_append, List.filter_append, List.map_append]
  rfl

/-- A header that is put together from entries lists what its entries do. -/
theorem mem_presentedRoles_intercalate {entries : List String} {role : String} :
    role ∈ presentedRoles (String.intercalate "," entries) ↔
      ∃ entry ∈ entries, role ∈ presentedRoles entry := by
  induction entries with
  | nil => exact iff_of_false List.not_mem_nil fun ⟨_, h, _⟩ => List.not_mem_nil h
  | cons entry entries ih =>
      cases entries with
      | nil =>
          have hone : String.intercalate "," [entry] = entry := rfl
          rw [hone]
          simp
      | cons entry' entries =>
          rw [String.intercalate_cons_cons, presentedRoles_append, List.mem_append, ih]
          simp only [List.mem_cons, exists_eq_or_imp]

/-! ## Credentials -/

/-- The message has a header with a token that is not empty. -/
def HasToken (m : Message) : Prop := ∃ token, m.header? tokenHeader = some token ∧ token ≠ ""

/-- The message has a header with roles that lists the role. -/
def ListsRole (m : Message) (role : String) : Prop :=
  ∃ header, m.header? rolesHeader = some header ∧ Lists header role

/-- The message has the credentials that the policy requires. -/
structure Credentials (p : AgreedPolicy) (m : Message) : Prop where
  token : p.requireAuthentication = true → HasToken m
  roles : ∀ role ∈ p.requiredRoles.keys, ListsRole m role

/-- Why a message lacks the credentials that the policy requires. A token that is missing comes
first, and of the roles that are missing the smallest one is named. -/
inductive Refused (p : AgreedPolicy) (m : Message) : PolicyViolation → Prop where
  | token (hrequired : p.requireAuthentication = true) (h : ¬ HasToken m) :
      Refused p m
        ⟨.authentication, "Policy " ++ p.policyId ++ " requires an authentication token"⟩
  | role (htoken : p.requireAuthentication = true → HasToken m) (role : String)
      (hrequired : role ∈ p.requiredRoles.keys) (h : ¬ ListsRole m role)
      (hleast : ∀ other ∈ p.requiredRoles.keys, ¬ ListsRole m other → role ≤ other) :
      Refused p m
        ⟨.authorization, "Caller lacks role '" ++ role ++ "' required by " ++ p.policyId⟩

section Message

variable {p : AgreedPolicy} {m : Message}

theorem hasToken_iff : hasToken m = true ↔ HasToken m := by
  rw [hasToken, HasToken]
  cases m.header? tokenHeader with
  | none => simp
  | some token => simp

theorem contains_presentedRoles_iff {role : String} :
    (presentedRoles ((m.header? rolesHeader).getD "")).contains role = true ↔ ListsRole m role := by
  rw [List.contains_iff_mem, mem_presentedRoles_iff, ListsRole]
  cases m.header? rolesHeader with
  | none =>
      -- a message without the header lists as little as one whose header is empty
      have hnone : ¬ Lists "" role := by
        rw [← mem_presentedRoles_iff]
        exact List.not_mem_nil
      simpa using hnone
  | some header => simp

theorem missingRole?_eq_some_iff {role : String} :
    missingRole? p m = some role ↔
      (role ∈ p.requiredRoles.keys ∧ ¬ ListsRole m role) ∧
        ∀ other ∈ p.requiredRoles.keys, ¬ ListsRole m other → role ≤ other := by
  rw [missingRole?]
  simp only [Dict.find?_keys_eq_some_iff, Bool.not_eq_true', ← Bool.not_eq_true,
    contains_presentedRoles_iff]

theorem missingRole?_eq_none_iff :
    missingRole? p m = none ↔ ∀ role ∈ p.requiredRoles.keys, ListsRole m role := by
  rw [missingRole?]
  simp only [List.find?_eq_none, Bool.not_eq_true', Bool.not_eq_false, contains_presentedRoles_iff]

/-- A message is not rejected if it has the credentials. -/
theorem rejection?_eq_none_iff : rejection? p m = none ↔ Credentials p m := by
  have htoken : (p.requireAuthentication && !hasToken m) = true ↔
      p.requireAuthentication = true ∧ ¬ HasToken m := by
    rw [Bool.and_eq_true, Bool.not_eq_true', ← Bool.not_eq_true, hasToken_iff]
  rw [rejection?]
  split
  · next h =>
      obtain ⟨hrequired, hnone⟩ := htoken.mp h
      exact iff_of_false (Option.some_ne_none _) fun hc => hnone (hc.token hrequired)
  · next h =>
      rw [Option.map_eq_none_iff, missingRole?_eq_none_iff]
      refine ⟨fun hroles => ⟨fun hrequired => ?_, hroles⟩, Credentials.roles⟩
      exact Classical.not_not.mp fun hnone => h (htoken.mpr ⟨hrequired, hnone⟩)

/-- A message that lacks credentials is rejected for the first reason that there is. -/
theorem refused_of_rejection? {v : PolicyViolation} (h : rejection? p m = some v) :
    Refused p m v := by
  rw [rejection?] at h
  split at h
  · next hlacks =>
      rw [Bool.and_eq_true, Bool.not_eq_true', ← Bool.not_eq_true, hasToken_iff] at hlacks
      cases h
      exact .token hlacks.1 hlacks.2
  · next hlacks =>
      obtain ⟨role, hrole, rfl⟩ := Option.map_eq_some_iff.mp h
      obtain ⟨⟨hrequired, hlisted⟩, hleast⟩ := missingRole?_eq_some_iff.mp hrole
      refine .role (fun hauthentication => ?_) role hrequired hlisted hleast
      rw [hauthentication, Bool.true_and, Bool.not_eq_true', Bool.not_eq_false,
        hasToken_iff] at hlacks
      exact hlacks

end Message

/-! ## Verdicts -/

/-- Another policy requires all that a policy does. -/
structure AtLeast (p p' : AgreedPolicy) : Prop where
  authentication : p.requireAuthentication = true → p'.requireAuthentication = true
  roles : p.requiredRoles.keys ⊆ p'.requiredRoles.keys

theorem Credentials.of_atLeast {p p' : AgreedPolicy} {m : Message} (h : Credentials p' m)
    (hp : AtLeast p p') : Credentials p m :=
  ⟨fun hrequired => h.token (hp.authentication hrequired), fun role hrole => h.roles role (hp.roles hrole)⟩

/-- More entries in the header with the roles do not take any credentials away. -/
theorem Credentials.extend {p : AgreedPolicy} {m : Message} (h : Credentials p m)
    {entries entries' : List String}
    (hm : (m.header? rolesHeader).getD "" = String.intercalate "," entries)
    (hsub : entries ⊆ entries') :
    Credentials p (m.withHeader rolesHeader (String.intercalate "," entries')) := by
  have hheader : ∀ name, (m.withHeader rolesHeader (String.intercalate "," entries')).header? name =
      if name = rolesHeader then some (String.intercalate "," entries') else m.header? name :=
    fun name => Dict.find?_insert m.headers rolesHeader name _
  constructor
  · intro hrequired
    rw [HasToken, hheader, if_neg (by decide)]
    exact h.token hrequired
  · intro role hrole
    have hlisted := contains_presentedRoles_iff.mpr (h.roles role hrole)
    rw [hm, List.contains_iff_mem, mem_presentedRoles_intercalate] at hlisted
    obtain ⟨entry, hentry, hlists⟩ := hlisted
    refine ⟨_, by rw [hheader, if_pos rfl], ?_⟩
    rw [← mem_presentedRoles_iff, mem_presentedRoles_intercalate]
    exact ⟨entry, hsub hentry, hlists⟩

/-- Without a policy there is nothing to check. -/
theorem byHeaders_of_none (e : Exchange) (role : Role) (scope : Scope) :
    byHeaders e role none scope = ⟨e, none⟩ := by
  cases role <;> cases scope <;> rfl

/-- Credentials are checked where a request comes in at the provider, and nowhere else. -/
theorem byHeaders_elsewhere (e : Exchange) {role : Role} (policy : Option AgreedPolicy)
    {scope : Scope} (h : ¬ (role = .receiver ∧ scope = .request)) :
    byHeaders e role policy scope = ⟨e, none⟩ := by
  cases policy with
  | none => exact byHeaders_of_none e role scope
  | some p =>
      cases role with
      | sender => rfl
      | receiver =>
          cases scope with
          | request => exact absurd ⟨rfl, rfl⟩ h
          | response => rfl

/-- At the provider, the ruling is about the message of the request. -/
theorem byHeaders_provider (e : Exchange) (p : AgreedPolicy) :
    byHeaders e .receiver (some p) .request =
      ⟨e, e.input.elim (some ⟨.other, "Request leg carries no message to check"⟩) (rejection? p)⟩ := by
  rw [byHeaders]
  cases e.input <;> rfl

theorem exchange_byHeaders (e : Exchange) (role : Role) (policy : Option AgreedPolicy)
    (scope : Scope) : (byHeaders e role policy scope).exchange = e := by
  by_cases h : role = .receiver ∧ scope = .request
  · obtain ⟨rfl, rfl⟩ := h
    cases policy with
    | none => rw [byHeaders_of_none]
    | some p => rw [byHeaders_provider]
  · rw [byHeaders_elsewhere e policy h]

/-- What is accepted. -/
theorem accepted_iff (e : Exchange) (role : Role) (policy : Option AgreedPolicy) (scope : Scope) :
    (byHeaders e role policy scope).violation = none ↔
      policy = none ∨ ¬ (role = .receiver ∧ scope = .request) ∨
        ∃ p m, policy = some p ∧ e.input = some m ∧ Credentials p m := by
  by_cases h : role = .receiver ∧ scope = .request
  · obtain ⟨rfl, rfl⟩ := h
    cases policy with
    | none => simp [byHeaders_of_none]
    | some p =>
        rw [byHeaders_provider]
        cases e.input with
        | none => simp
        | some m => simp [rejection?_eq_none_iff]
  · rw [byHeaders_elsewhere e policy h]
    exact iff_of_true rfl (.inr (.inl h))

/-- What a rejection is about. -/
theorem rejected (e : Exchange) (role : Role) (policy : Option AgreedPolicy) (scope : Scope)
    (v : PolicyViolation) (h : (byHeaders e role policy scope).violation = some v) :
    ∃ p, policy = some p ∧ (v.kind = .other ↔ e.input = none) ∧
      ∀ m, e.input = some m → Refused p m v := by
  by_cases hleg : role = .receiver ∧ scope = .request
  · obtain ⟨rfl, rfl⟩ := hleg
    cases policy with
    | none =>
        rw [byHeaders_of_none] at h
        cases h
    | some p =>
        rw [byHeaders_provider] at h
        refine ⟨p, rfl, ?_⟩
        cases hm : e.input with
        | none =>
            rw [hm] at h
            cases h
            exact ⟨iff_of_true rfl rfl, fun m hm => nomatch hm⟩
        | some m =>
            rw [hm] at h
            have hrefused := refused_of_rejection? h
            refine ⟨iff_of_false (fun hkind => ?_) (Option.some_ne_none m), ?_⟩
            · cases hrefused <;> cases hkind
            · rintro _ ⟨rfl⟩
              exact hrefused
  · rw [byHeaders_elsewhere e policy hleg] at h
    cases h

/-- The check of headers leaves the exchange as it is, and accepts it exactly if there is no policy,
or if it is not on its way in at the provider, or if its message has the credentials that the policy
requires. A rejection is of kind `other` exactly if there is no message; otherwise it is for the
token exactly if that is required and missing, and if not, for the smallest of the roles that are
required and not listed. What is accepted stays accepted with more entries in the header with the
roles, and what is rejected stays rejected under a policy that requires more. -/
theorem byHeaders_exact (e : Exchange) (role : Role) (policy : Option AgreedPolicy) (scope : Scope) :
    let ruling := byHeaders e role policy scope
    ruling.exchange = e ∧
      (ruling.violation = none ↔
        policy = none ∨ ¬ (role = .receiver ∧ scope = .request) ∨
          ∃ p m, policy = some p ∧ e.input = some m ∧ Credentials p m) ∧
      (∀ v, ruling.violation = some v → ∃ p, policy = some p ∧
        (v.kind = .other ↔ e.input = none) ∧
        ∀ m, e.input = some m →
          (v.kind = .authentication ↔ p.requireAuthentication = true ∧ ¬ HasToken m) ∧
            Refused p m v) ∧
      (∀ m entries entries', e.input = some m →
        (m.header? rolesHeader).getD "" = String.intercalate "," entries → entries ⊆ entries' →
        ruling.violation = none →
        let extended := m.withHeader rolesHeader (String.intercalate "," entries')
        (byHeaders { e with input := some extended } role policy scope).violation = none) ∧
      ∀ p p', policy = some p → AtLeast p p' → ruling.violation ≠ none →
        (byHeaders e role (some p') scope).violation ≠ none := by
  intro ruling
  refine ⟨exchange_byHeaders e role policy scope, accepted_iff e role policy scope,
    fun v hv => ?_, ?_, ?_⟩
  · obtain ⟨p, hpolicy, hother, hrefused⟩ := rejected e role policy scope v hv
    refine ⟨p, hpolicy, hother, fun m hm => ⟨?_, hrefused m hm⟩⟩
    cases hrefused m hm with
    | token hrequired hnone => exact iff_of_true rfl ⟨hrequired, hnone⟩
    | role htoken => exact iff_of_false (fun h => nomatch h) fun h => h.2 (htoken h.1)
  · intro m entries entries' hm hentries hsub haccepted extended
    rw [accepted_iff] at haccepted ⊢
    rcases haccepted with hnone | hleg | ⟨p, m', hpolicy, hm', hcredentials⟩
    · exact .inl hnone
    · exact .inr (.inl hleg)
    · obtain rfl : m = m' := Option.some.inj (hm.symm.trans hm')
      exact .inr (.inr ⟨p, _, hpolicy, rfl, hcredentials.extend hentries hsub⟩)
  · intro p p' hpolicy hp hrejected haccepted
    refine hrejected ?_
    rw [accepted_iff] at haccepted ⊢
    rcases haccepted with hnone | hleg | ⟨_, m, ⟨rfl⟩, hm, hcredentials⟩
    · cases hnone
    · exact .inr (.inl hleg)
    · exact .inr (.inr ⟨p, m, hpolicy, hm, hcredentials.of_atLeast hp⟩)

section Billing

/-- A policy that requires a token and two roles. -/
def billingPolicy : AgreedPolicy :=
  { policyId := "billing"
    requireAuthentication := true
    requiredRoles := Dict.ofNames ["billing", "audit"] }

/-- A policy that requires one role more. -/
def refundPolicy : AgreedPolicy :=
  { billingPolicy with requiredRoles := Dict.ofNames ["refund", "billing", "audit"] }

/-- A message with a token and a header with roles. -/
def invoice (roles : String) : Message :=
  (({ body := "invoice" } : Message).withHeader tokenHeader "t-1").withHeader rolesHeader roles

/-- A request to charge what the message says. -/
def charge (m : Message) : Exchange :=
  { id := default
    pattern := .oneWay
    serviceId := "billing"
    operation := "charge"
    context := { messageId := default, createdAt := default }
    input := some m }

/-- What is said about the message under a policy, where it comes in at the provider. -/
def billed (m : Message) (p : AgreedPolicy) : Option PolicyViolation :=
  (byHeaders (charge m) .receiver (some p) .request).violation

/-- Blanks and empty entries do not matter, nor do further ones. Under a policy that requires one
role more, that role is what is missed. -/
theorem byHeaders_exact_billing :
    billed (invoice " billing ,, audit") billingPolicy = none ∧
      billed ((invoice " billing ,, audit").withHeader rolesHeader " billing ,, audit,trial")
        billingPolicy = none ∧
      AtLeast billingPolicy refundPolicy ∧
      billed (invoice "billing") refundPolicy ≠ none ∧
      ∃ v, billed (invoice " billing ,, audit") refundPolicy = some v ∧
        Refused refundPolicy (invoice " billing ,, audit") v ∧
        v.reason = "Caller lacks role 'refund' required by billing" := by
  have hatLeast : AtLeast billingPolicy refundPolicy := ⟨fun h => h, by decide⟩
  obtain ⟨-, haccepted, -, hextended, -⟩ :=
    byHeaders_exact (charge (invoice " billing ,, audit")) .receiver (some billingPolicy) .request
  obtain ⟨-, -, -, -, hstricter⟩ :=
    byHeaders_exact (charge (invoice "billing")) .receiver (some billingPolicy) .request
  obtain ⟨-, -, hrejected, -, -⟩ :=
    byHeaders_exact (charge (invoice " billing ,, audit")) .receiver (some refundPolicy) .request
  have hboth : billed (invoice " billing ,, audit") billingPolicy = none :=
    haccepted.mpr (.inr (.inr ⟨_, _, rfl, rfl, rejection?_eq_none_iff.mp (by decide)⟩))
  have hone : billed (invoice "billing") billingPolicy ≠ none := by decide
  have hrefund : billed (invoice " billing ,, audit") refundPolicy =
      some ⟨.authorization, "Caller lacks role 'refund' required by billing"⟩ := by decide
  obtain ⟨_, ⟨rfl⟩, -, hrefused⟩ := hrejected _ hrefund
  refine ⟨hboth, ?_, hatLeast, hstricter _ _ rfl hatLeast hone, _, hrefund, (hrefused _ rfl).2, rfl⟩
  have hentries : ((invoice " billing ,, audit").header? rolesHeader).getD "" =
      String.intercalate "," [" billing ", "", " audit"] := by decide
  have hlonger : " billing ,, audit,trial" =
      String.intercalate "," [" billing ", "", " audit", "trial"] := by decide
  rw [hlonger]
  exact hextended _ _ _ rfl hentries (by decide) hboth

end Billing

end ServiceBus.Policy
