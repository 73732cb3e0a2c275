import ServiceBus.Proofs.Wire.Form
import ServiceBus.Proofs.Yaml.Merge
import ServiceBus.Settings.Environment

set_option autoImplicit false

/-! # What the section of an environment changes

A section for an environment is laid over the whole document that it is in. Where it is a mapping,
and gives the sections of the settings as mappings, it changes only what it gives, as long as the
document gives them as mappings as well; a section without entries changes nothing. But a value
that is no mapping, or that has a tag, is not merged: such a section of the settings is replaced
altogether, and when the section of the environment is itself such a value, if only since all of
its entries have been taken out, it replaces the whole document (`ofDocument_section`).

Whether settings can be read, and which, does not depend on the order of the entries
(`Alike.read`), so that it does not matter in which order sections are dropped. -/

namespace ServiceBus.Settings

open Wire Yaml

/-! ## Reading YAML documents -/

theorem yamlLabel_eq_name_iff {k : Yaml} {name : String} :
    yamlLabel k = .name name ↔ k.name? = some name := by
  rw [yamlLabel, name?]
  cases k.untagged <;> simp

theorem isName_yamlLabel_iff {k : Yaml} : (yamlLabel k).IsName ↔ k.name? ≠ none := by
  rw [yamlLabel, name?]
  cases k.untagged <;> simp [Label.IsName]

/-- The members of a mapping. -/
def members (entries : List (Yaml × Yaml)) : List (Label × Yaml) :=
  entries.map fun e => (yamlLabel e.1, e.2)

theorem under_members (name : String) (entries : List (Yaml × Yaml)) :
    under name (members entries) = named name entries := by
  rw [under, members, named, List.filterMap_map]
  refine congrArg (List.filterMap · entries) (funext fun e => ?_)
  simp only [Function.comp_apply, yamlLabel_eq_name_iff]

/-- Reading a record needs nothing but the names and what is under those that the form knows. -/
theorem read_iff {α : Type} {expected : String} (f : Form Yaml α) (entries : List (Yaml × Yaml))
    (a : α) :
    f.read expected (.mapping entries) = .ok a ↔
      (∀ e ∈ entries, e.1.name? ≠ none) ∧ f.Passes [] (members entries) ∧
        f.named (fun name => (named name entries).head?) = .ok a := by
  have hshape : Document.shape (Yaml.mapping entries) = .named (members entries) := rfl
  have hnames : (∀ m ∈ members entries, m.1.IsName) ↔ ∀ e ∈ entries, e.1.name? ≠ none := by
    simp only [members, List.forall_mem_map, isName_yamlLabel_iff]
  rw [Form.read, Form.readAs_eq_ok_iff f hshape]
  simp only [hnames, under_members]

/-- Where there is a record, it is read from the entries of a mapping, or from nothing at all as if
it were a mapping without entries. -/
theorem read_entries {α : Type} {expected : String} {f : Form Yaml α} {v : Yaml} {a : α}
    (h : f.read expected v = .ok a) :
    f.read expected (.mapping v.entries) = .ok a ∧
      (v.untagged = .null ∨ v.untagged = .mapping v.entries) := by
  have hshape : Document.shape v = yamlShape v := rfl
  rw [Form.read, Form.readAs, hshape, yamlShape] at h
  rw [Yaml.entries]
  generalize v.untagged = u at h ⊢
  cases u with
  | null => exact ⟨h, .inl rfl⟩
  | mapping entries => exact ⟨h, .inr rfl⟩
  | _ => cases h

/-! ## Single settings -/

/-- A single setting. -/
inductive Key where
  | exchangeCallTimeout
  | rethrowFailures
  | enabled
  | bufferSize
  | resilienceCallTimeout
  deriving DecidableEq

namespace Key

/-- The section that the setting is in. -/
def outer : Key → String
  | .exchangeCallTimeout | .rethrowFailures => "exchange"
  | .enabled | .bufferSize => "notifications"
  | .resilienceCallTimeout => "resilience"

/-- The name of the setting in its section. -/
def inner : Key → String
  | .exchangeCallTimeout | .resilienceCallTimeout => "call_timeout_ms"
  | .rethrowFailures => "rethrow_failures"
  | .enabled => "enabled"
  | .bufferSize => "buffer_size"

/-- The value of the setting. -/
def value (s : Settings) : Key → Nat ⊕ Bool
  | .exchangeCallTimeout => .inl s.exchange.callTimeout
  | .rethrowFailures => .inr s.exchange.rethrowFailures
  | .enabled => .inr s.notifications.enabled
  | .bufferSize => .inl s.notifications.bufferSize
  | .resilienceCallTimeout => .inl s.resilience.callTimeout

/-- Read a value of the setting. -/
def read (v : Yaml) : Key → Except DecodeError (Nat ⊕ Bool)
  | .rethrowFailures | .enabled => (Document.flag v).map .inr
  | .exchangeCallTimeout | .resilienceCallTimeout => (Document.natural "u64" v).map .inl
  | .bufferSize => (Document.natural "usize" v).map .inl

/-- What the entries of a document say about the setting. -/
def readIn (entries : List (Yaml × Yaml)) (key : Key) : Except DecodeError (Nat ⊕ Bool) :=
  (path? key.outer key.inner entries).elim (.ok (key.value {})) fun v => key.read v

end Key

/-- The names of the sections of the settings. -/
def sectionNames : List String := ["exchange", "notifications", "resilience"]

theorem outer_mem (key : Key) : key.outer ∈ sectionNames := by
  cases key <;> decide

section Forms

variable (look : String → Option Yaml)

theorem named_settingsForm (s : Settings) :
    settingsForm.named look = .ok s ↔
      (look "exchange").elim (.ok {}) readExchangeSettings = .ok s.exchange ∧
        (look "notifications").elim (.ok {}) readNotificationSettings = .ok s.notifications ∧
        (look "resilience").elim (.ok {}) readResilienceSettings = .ok s.resilience := by
  simp only [settingsForm, Form.named_seq_eq_ok_iff, Form.named_map_eq_ok_iff, Form.named_defaulted]
  constructor
  · rintro ⟨_, r, ⟨_, n, ⟨e, he, rfl⟩, hn, rfl⟩, hr, rfl⟩
    exact ⟨he, hn, hr⟩
  · rintro ⟨he, hn, hr⟩
    exact ⟨_, _, ⟨_, _, ⟨_, he, rfl⟩, hn, rfl⟩, hr, rfl⟩

theorem named_exchangeSettingsForm (x : ExchangeSettings) :
    exchangeSettingsForm.named look = .ok x ↔
      (∃ v, look "call_timeout_ms" = some v ∧ Document.natural "u64" v = .ok x.callTimeout) ∧
        (look "rethrow_failures").elim (.ok false) Document.flag = .ok x.rethrowFailures := by
  simp only [exchangeSettingsForm, Form.named_seq_eq_ok_iff, Form.named_map_eq_ok_iff,
    Form.named_required_eq_ok_iff, Form.named_defaulted]
  constructor
  · rintro ⟨_, r, ⟨t, ht, rfl⟩, hr, rfl⟩
    exact ⟨ht, hr⟩
  · rintro ⟨ht, hr⟩
    exact ⟨_, _, ⟨_, ht, rfl⟩, hr, rfl⟩

theorem named_notificationSettingsForm (x : NotificationSettings) :
    notificationSettingsForm.named look = .ok x ↔
      (∃ v, look "enabled" = some v ∧ Document.flag v = .ok x.enabled) ∧
        ∃ v, look "buffer_size" = some v ∧ Document.natural "usize" v = .ok x.bufferSize := by
  simp only [notificationSettingsForm, Form.named_seq_eq_ok_iff, Form.named_map_eq_ok_iff,
    Form.named_required_eq_ok_iff]
  constructor
  · rintro ⟨_, b, ⟨e, he, rfl⟩, hb, rfl⟩
    exact ⟨he, hb⟩
  · rintro ⟨he, hb⟩
    exact ⟨_, _, ⟨_, he, rfl⟩, hb, rfl⟩

theorem named_resilienceSettingsForm (x : ResilienceSettings) :
    resilienceSettingsForm.named look = .ok x ↔
      ∃ v, look "call_timeout_ms" = some v ∧ Document.natural "u64" v = .ok x.callTimeout := by
  simp only [resilienceSettingsForm, Form.named_map_eq_ok_iff, Form.named_required_eq_ok_iff]
  constructor
  · rintro ⟨t, ht, rfl⟩
    exact ht
  · exact fun ht => ⟨_, ht, rfl⟩

end Forms

/-- Where a section is there, it says what its settings are; otherwise they are as by default. -/
theorem readIn_of_section {α : Type} {entries : List (Yaml × Yaml)} {absent a : α}
    {read : Yaml → Except DecodeError α} (key : Key) (value : α → Nat ⊕ Bool)
    (h : (named key.outer entries).head?.elim (.ok absent) read = .ok a)
    (habsent : key.value {} = value absent)
    (hinner : ∀ v, read v = .ok a →
      (named key.inner v.entries).head?.elim (.ok (value absent)) (fun v => key.read v) =
        .ok (value a)) :
    key.readIn entries = .ok (value a) := by
  rw [Key.readIn, path?, habsent]
  generalize (named key.outer entries).head? = v? at h ⊢
  cases v? with
  | none =>
      cases h
      rfl
  | some v => exact hinner v h

/-- Settings that have been read have the values that the document gives. -/
theorem readIn_of_read {entries : List (Yaml × Yaml)} {s : Settings}
    (h : readSettings (Yaml.mapping entries) = .ok s) (key : Key) :
    key.readIn entries = .ok (key.value s) := by
  obtain ⟨-, -, h⟩ := (read_iff settingsForm entries s).mp h
  obtain ⟨he, hn, hr⟩ := (named_settingsForm _ s).mp h
  cases key with
  | exchangeCallTimeout =>
      refine readIn_of_section .exchangeCallTimeout
        (fun x : ExchangeSettings => Sum.inl x.callTimeout) he rfl fun v hv => ?_
      obtain ⟨-, -, hv⟩ := (read_iff _ _ _).mp (read_entries hv).1
      obtain ⟨⟨t, ht, hread⟩, -⟩ := (named_exchangeSettingsForm _ _).mp hv
      rw [Key.inner, ht, Option.elim, Key.read, hread]
      rfl
  | rethrowFailures =>
      refine readIn_of_section .rethrowFailures
        (fun x : ExchangeSettings => Sum.inr x.rethrowFailures) he rfl fun v hv => ?_
      obtain ⟨-, -, hv⟩ := (read_iff _ _ _).mp (read_entries hv).1
      obtain ⟨-, hread⟩ := (named_exchangeSettingsForm _ _).mp hv
      rw [Key.inner]
      generalize (named "rethrow_failures" v.entries).head? = r? at hread ⊢
      cases r? with
      | none =>
          rw [Option.elim] at hread
          rw [Option.elim, ← Except.ok.inj hread]
      | some r =>
          rw [Option.elim] at hread
          rw [Option.elim, Key.read, hread]
          rfl
  | enabled =>
      refine readIn_of_section .enabled
        (fun x : NotificationSettings => Sum.inr x.enabled) hn rfl fun v hv => ?_
      obtain ⟨-, -, hv⟩ := (read_iff _ _ _).mp (read_entries hv).1
      obtain ⟨⟨t, ht, hread⟩, -⟩ := (named_notificationSettingsForm _ _).mp hv
      rw [Key.inner, ht, Option.elim, Key.read, hread]
      rfl
  | bufferSize =>
      refine readIn_of_section .bufferSize
        (fun x : NotificationSettings => Sum.inl x.bufferSize) hn rfl fun v hv => ?_
      obtain ⟨-, -, hv⟩ := (read_iff _ _ _).mp (read_entries hv).1
      obtain ⟨-, t, ht, hread⟩ := (named_notificationSettingsForm _ _).mp hv
      rw [Key.inner, ht, Option.elim, Key.read, hread]
      rfl
  | resilienceCallTimeout =>
      refine readIn_of_section .resilienceCallTimeout
        (fun x : ResilienceSettings => Sum.inl x.callTimeout) hr rfl fun v hv => ?_
      obtain ⟨-, -, hv⟩ := (read_iff _ _ _).mp (read_entries hv).1
      obtain ⟨t, ht, hread⟩ := (named_resilienceSettingsForm _ _).mp hv
      rw [Key.inner, ht, Option.elim, Key.read, hread]
      rfl

/-! ## Documents that give the same settings -/

/-- Nothing about settings tells the entries apart, except for their order. -/
structure Alike (entries entries' : List (Yaml × Yaml)) : Prop where
  names : (∀ e ∈ entries, e.1.name? ≠ none) ↔ ∀ e ∈ entries', e.1.name? ≠ none
  sections : ∀ name ∈ sectionNames, (named name entries).Perm (named name entries')

theorem Alike.symm {entries entries' : List (Yaml × Yaml)} (h : Alike entries entries') :
    Alike entries' entries :=
  ⟨h.names.symm, fun name hname => (h.sections name hname).symm⟩

theorem Alike.trans {entries entries' entries'' : List (Yaml × Yaml)} (h : Alike entries entries')
    (h' : Alike entries' entries'') : Alike entries entries'' :=
  ⟨h.names.trans h'.names, fun name hname => (h.sections name hname).trans (h'.sections name hname)⟩

theorem mem_sectionNames_of_lookup {name : String} {check : Yaml → Except DecodeError Unit}
    (h : settingsForm.checks.lookup name = some check) : name ∈ sectionNames := by
  have hkeys : (settingsForm : Form Yaml Settings).checks.map Prod.fst = sectionNames := rfl
  obtain ⟨before, after, hchecks, -⟩ := List.lookup_eq_some_iff.mp h
  rw [← hkeys, hchecks, List.map_append]
  exact List.mem_append_right _ List.mem_cons_self

theorem lookup_of_mem_sectionNames {name : String} (h : name ∈ sectionNames) :
    ∃ check, (settingsForm : Form Yaml Settings).checks.lookup name = some check := by
  simp only [sectionNames, List.mem_cons, List.not_mem_nil, or_false] at h
  rcases h with rfl | rfl | rfl
  · exact ⟨_, rfl⟩
  · exact ⟨_, rfl⟩
  · exact ⟨_, rfl⟩

/-- Where settings can be read, there is one value at most under the name of a section. -/
theorem length_named_le_one {entries : List (Yaml × Yaml)} {s : Settings}
    (h : readSettings (Yaml.mapping entries) = .ok s) {name : String}
    (hname : name ∈ sectionNames) :
    (named name entries).length ≤ 1 := by
  obtain ⟨-, hpasses, -⟩ := (read_iff settingsForm entries s).mp h
  obtain ⟨check, hcheck⟩ := lookup_of_mem_sectionNames hname
  have hlength := (hpasses name check hcheck).2.1
  rwa [under_members] at hlength

/-- From alike entries, the same settings are read. -/
theorem Alike.read {entries entries' : List (Yaml × Yaml)} (h : Alike entries entries')
    {s : Settings} (hs : readSettings (Yaml.mapping entries) = .ok s) :
    readSettings (Yaml.mapping entries') = .ok s := by
  have heq : ∀ name ∈ sectionNames, named name entries' = named name entries := by
    intro name hname
    have hperm := h.sections name hname
    have hone := length_named_le_one hs hname
    -- of one value at most, there is one order only
    generalize named name entries = values at hperm hone
    match values, hone with
    | [], _ => exact hperm.nil_eq.symm
    | [v], _ => exact hperm.singleton_eq.symm
  obtain ⟨hnames, hpasses, hnamed⟩ := (read_iff settingsForm entries s).mp hs
  refine (read_iff settingsForm entries' s).mpr ⟨h.names.mp hnames, fun name check hcheck => ?_, ?_⟩
  · rw [under_members, heq name (mem_sectionNames_of_lookup hcheck), ← under_members]
    exact hpasses name check hcheck
  · rw [named_settingsForm] at hnamed ⊢
    rw [heq _ (by decide), heq _ (by decide), heq _ (by decide)]
    exact hnamed

/-! ## Sections of environments -/

/-- Entries without the section of an environment. -/
def dropSection (environment : String) (entries : List (Yaml × Yaml)) : List (Yaml × Yaml) :=
  entries.filter fun e => !same (.string environment) e.1

theorem name?_of_same {environment : String} {k : Yaml} (h : same (.string environment) k = true) :
    k.name? = some environment := by
  rw [same_string_iff.mp h, name?_string]

section Dropped

variable {environment : String} (h : environment ∉ sectionNames) (entries : List (Yaml × Yaml))

include h

theorem name?_ne_of_same {k : Yaml} (hk : same (.string environment) k = true) {name : String}
    (hname : name ∈ sectionNames) : k.name? ≠ some name := by
  rw [name?_of_same hk]
  exact fun heq => h (Option.some.inj heq ▸ hname)

theorem alike_discard : Alike (discard (.string environment) entries) entries := by
  rcases discard_cases (.string environment) entries with ⟨heq, -⟩ | ⟨e, hsame, hperm⟩
  · rw [heq]
    exact ⟨.rfl, fun _ _ => .refl _⟩
  · constructor
    · simp only [hperm.mem_iff, List.forall_mem_cons, name?_of_same hsame]
      exact (and_iff_right (Option.some_ne_none _)).symm
    · intro name hmem
      have hnamed := hperm.filterMap fun e => if e.1.name? = some name then some e.2 else none
      rw [← named, ← named, named_cons, if_neg (name?_ne_of_same h hsame hmem)] at hnamed
      exact hnamed.symm

theorem named_dropSection {name : String} (hname : name ∈ sectionNames) :
    named name (dropSection environment entries) = named name entries := by
  rw [dropSection]
  induction entries with
  | nil => rfl
  | cons e entries ih =>
      cases hsame : same (.string environment) e.1 with
      | true =>
          rw [List.filter_cons_of_neg (by rw [hsame]; decide), ih, named_cons,
            if_neg (name?_ne_of_same h hsame hname)]
      | false => rw [List.filter_cons_of_pos (by rw [hsame]; rfl), named_cons, named_cons, ih]

theorem alike_dropSection : Alike (dropSection environment entries) entries := by
  refine ⟨⟨fun hnames e he => ?_, fun hnames e he => ?_⟩, fun name hname => ?_⟩
  · cases hsame : same (.string environment) e.1 with
    | true =>
        rw [name?_of_same hsame]
        exact Option.some_ne_none _
    | false => exact hnames e (List.mem_filter.mpr ⟨he, by rw [hsame]; rfl⟩)
  · exact hnames e (List.mem_filter.mp he).1
  · exact .of_eq (named_dropSection h entries hname)

end Dropped

theorem not_mem_of_mem_known : ∀ name ∈ knownEnvironments, name ∉ sectionNames := by decide

/-- Dropping the sections of environments makes no difference to the settings. -/
theorem read_withoutSections {environment : String} (h : environment ∉ sectionNames)
    (entries : List (Yaml × Yaml)) (s : Settings) :
    readSettings (withoutSections environment (.mapping entries)) = .ok s ↔
      readSettings (Yaml.mapping entries) = .ok s := by
  have halike : ∀ names : List String, (∀ name ∈ names, name ∉ sectionNames) → ∀ entries,
      Alike (names.foldl (fun entries name => discard (.string name) entries) entries) entries := by
    intro names
    induction names with
    | nil => exact fun _ entries => ⟨.rfl, fun _ _ => .refl _⟩
    | cons name names ih =>
        intro hnames entries
        obtain ⟨hname, hnames⟩ := List.forall_mem_cons.mp hnames
        exact (ih hnames _).trans (alike_discard hname entries)
  have hnames : ∀ name ∈ knownEnvironments ++ [environment], name ∉ sectionNames := by
    intro name hname
    rcases List.mem_append.mp hname with hknown | hname
    · exact not_mem_of_mem_known name hknown
    · rw [List.mem_singleton.mp hname]
      exact h
  have hall := halike _ hnames entries
  exact ⟨hall.read, hall.symm.read⟩

/-! ## Documents with and without a section -/

section Documents

variable {environment : String} {lower upper : List (Yaml × Yaml)} {s s' : Settings}

theorem find?_dropSection (environment : String) (entries : List (Yaml × Yaml)) :
    find? (.string environment) (dropSection environment entries) = none :=
  find?_eq_none_iff.mpr fun e he => by
    have hne := (List.mem_filter.mp he).2
    rwa [Bool.not_eq_true'] at hne

theorem dropSection_of_none (h : find? (.string environment) lower = none) :
    dropSection environment lower = lower :=
  List.filter_eq_self.mpr fun e he => by rw [find?_eq_none_iff.mp h e he]; rfl

variable (h : environment ∉ sectionNames)

include h

theorem ofDocument_dropSection :
    ofDocument environment (.mapping (dropSection environment lower)) = .ok s ↔
      readSettings (Yaml.mapping lower) = .ok s := by
  have hget : (Yaml.mapping (dropSection environment lower)).get? (.string environment) = none :=
    find?_dropSection environment lower
  have halike := alike_dropSection h lower
  rw [ofDocument, inEnvironment, withSection, hget]
  exact (read_withoutSections h _ s).trans ⟨halike.read, halike.symm.read⟩

theorem ofDocument_mapping
    (hget : (Yaml.mapping lower).get? (.string environment) = some (.mapping upper)) :
    ofDocument environment (.mapping lower) = .ok s ↔
      readSettings (Yaml.mapping (mergeEntries lower upper)) = .ok s := by
  rw [ofDocument, inEnvironment, withSection, hget]
  dsimp only
  rw [merge_mapping]
  exact read_withoutSections h _ s

end Documents

/-- Where a record with a member that has to be there is read, it is a mapping below its tags. -/
theorem untagged_of_check {α : Type} {expected : String} {f : Form Yaml α} {v : Yaml}
    {e : DecodeError} (hnil : f.read expected (Yaml.mapping []) = .error e)
    (hv : (f.read expected v).map (fun _ => ()) = .ok ()) :
    v.untagged = .mapping v.entries := by
  cases hr : f.read expected v with
  | error e =>
      rw [hr] at hv
      cases hv
  | ok a =>
      obtain ⟨hread, hnull | hmapping⟩ := read_entries hr
      · have hentries : v.entries = [] := by rw [Yaml.entries, hnull]
        rw [hentries, hnil] at hread
        cases hread
      · exact hmapping

/-- A section that is read is a mapping below its tags. -/
theorem untagged_of_read {entries : List (Yaml × Yaml)} {s : Settings}
    (hs : readSettings (Yaml.mapping entries) = .ok s) {name : String} (hname : name ∈ sectionNames)
    {v : Yaml} (hv : v ∈ named name entries) : v.untagged = .mapping v.entries := by
  obtain ⟨-, hpasses, -⟩ := (read_iff settingsForm entries s).mp hs
  have hchecks : ∀ check, settingsForm.checks.lookup name = some check → check v = .ok () :=
    fun check hcheck => (hpasses name check hcheck).2.2 v (by rw [under_members]; exact hv)
  simp only [sectionNames, List.mem_cons, List.not_mem_nil, or_false] at hname
  rcases hname with rfl | rfl | rfl
  · exact untagged_of_check rfl (hchecks _ rfl)
  · exact untagged_of_check rfl (hchecks _ rfl)
  · exact untagged_of_check rfl (hchecks _ rfl)

/-- The section of an environment leaves a setting alone: what it has under the name of the section
of the setting is a mapping without it, and merged with one. -/
def Key.LeftAlone (lower upper : List (Yaml × Yaml)) (key : Key) : Prop :=
  ∀ v ∈ named key.outer upper, (∃ entries, v = .mapping entries ∧ named key.inner entries = []) ∧
    ∀ w ∈ named key.outer lower, w.untagged = w

/-- The section of an environment replaces the section of a setting, since one of the two is no
mapping, or has a tag. -/
def Key.Replaced (lower upper : List (Yaml × Yaml)) (key : Key) : Prop :=
  ∃ w, named key.outer upper = [w] ∧
    ((∀ entries, w ≠ .mapping entries) ∨
      ∀ v ∈ named key.outer lower, ∀ entries, v ≠ .mapping entries)

section Merged

variable {lower upper : List (Yaml × Yaml)} {s s' : Settings}
  (hs : readSettings (Yaml.mapping (mergeEntries lower upper)) = .ok s)

include hs

/-- A setting that is left alone has the value that it has below. -/
theorem value_of_leftAlone (hs' : readSettings (Yaml.mapping lower) = .ok s') {key : Key}
    (hkey : key.LeftAlone lower upper) : key.value s = key.value s' := by
  have hpath : path? key.outer key.inner (mergeEntries lower upper) =
      path? key.outer key.inner lower := by
    cases hupper : named key.outer upper with
    | nil => rw [path?, path?, named_mergeEntries_of_absent hupper]
    | cons v rest =>
        have hlower := (hkey v (hupper ▸ List.mem_cons_self)).2
        refine path?_mergeEntries (length_named_le_one hs (outer_mem key)) (fun w hw => ?_)
          fun v hv => (hkey v hv).1
        exact ⟨_, (hlower w hw).symm.trans (untagged_of_read hs' (outer_mem key) hw)⟩
  have hread := readIn_of_read hs key
  rw [Key.readIn, hpath, ← Key.readIn, readIn_of_read hs' key] at hread
  exact (Except.ok.inj hread).symm

/-- A setting whose section is replaced has the value that the section of the environment gives. -/
theorem readIn_of_replaced {key : Key} (hkey : key.Replaced lower upper) :
    key.readIn upper = .ok (key.value s) := by
  obtain ⟨w, hw, hreplaced⟩ := hkey
  have hone := length_named_le_one hs (outer_mem key)
  have hnamed := named_mergeEntries_of_replaced hone hw hreplaced
  rw [← readIn_of_read hs key, Key.readIn, Key.readIn, path?, path?, hnamed, hw]

/-- The section of an environment has to give each section that it gives as a mapping. -/
theorem untagged_of_replaced {name : String} (hname : name ∈ sectionNames) {w : Yaml}
    (hw : named name upper = [w]) : w.untagged = .mapping w.entries := by
  by_cases hmapping : ∃ entries, w = .mapping entries
  · obtain ⟨entries, rfl⟩ := hmapping
    rfl
  · have hnamed := named_mergeEntries_of_replaced (length_named_le_one hs hname) hw
      (.inl fun entries h => hmapping ⟨entries, h⟩)
    exact untagged_of_read hs hname (hnamed ▸ List.mem_cons_self)

end Merged

/-- What the section of an environment changes. One that is not there changes nothing, nor does one
without entries. A mapping changes no setting that it leaves alone; the settings of a section that
it replaces are those that it gives, or else defaults; and settings are loaded only if what it
gives as their sections are mappings. Any other value is read in place of the whole document. -/
theorem ofDocument_section {environment : String} (h : environment ∉ sectionNames)
    (lower : List (Yaml × Yaml)) :
    let root := Yaml.mapping lower
    let rest := Yaml.mapping (dropSection environment lower)
    (root.get? (.string environment) = none →
        ofDocument environment root = ofDocument environment rest) ∧
      (root.get? (.string environment) = some (.mapping []) →
        ∀ s, ofDocument environment root = .ok s ↔ ofDocument environment rest = .ok s) ∧
      (∀ upper, root.get? (.string environment) = some (.mapping upper) →
        ∀ s, ofDocument environment root = .ok s →
          ∀ key : Key,
            (key.LeftAlone lower upper → ∀ s', ofDocument environment rest = .ok s' →
              key.value s = key.value s') ∧
            (key.Replaced lower upper → key.readIn upper = .ok (key.value s)) ∧
            ∀ w, named key.outer upper = [w] → ∃ entries, w.untagged = .mapping entries) ∧
      ∀ v, root.get? (.string environment) = some v → (∀ upper, v ≠ .mapping upper) →
        ofDocument environment root = readSettings v := by
  intro root rest
  refine ⟨fun hget => ?_, fun hget s => ?_, fun upper hget s hs key => ?_, fun v hget hv => ?_⟩
  · have hrest : rest = root := congrArg Yaml.mapping (dropSection_of_none hget)
    rw [hrest]
  · rw [ofDocument_mapping h hget, ofDocument_dropSection h, mergeEntries]
  · have hs := (ofDocument_mapping h hget).mp hs
    refine ⟨fun hkey s' hs' => ?_, fun hkey => readIn_of_replaced hs hkey, fun w hw => ?_⟩
    · exact value_of_leftAlone hs ((ofDocument_dropSection h).mp hs') hkey
    · exact ⟨_, untagged_of_replaced hs (outer_mem key) hw⟩
  · have hmerge : root.merge v = v := merge_eq_right (.inl hv)
    rw [ofDocument, inEnvironment, withSection, hget]
    dsimp only
    rw [hmerge, withoutSections]
    exact hv

section Examples

/-- Entries with texts as keys. -/
def entriesOf (entries : List (String × Yaml)) : List (Yaml × Yaml) :=
  entries.map fun e => (.string e.1, e.2)

/-- A document that gives a time limit, with a section for tests. -/
def patient (tests : Yaml) : List (Yaml × Yaml) :=
  entriesOf
    [("exchange", .mapping (entriesOf [("call_timeout_ms", .int 5000),
      ("rethrow_failures", .bool true)])),
      ("test", tests)]

/-- With a section for tests that gives another time limit, failures are returned as before. -/
theorem ofDocument_section_patient :
    let upper := entriesOf [("exchange", .mapping (entriesOf [("call_timeout_ms", .int 250)]))]
    let lower := patient (.mapping upper)
    let s : Settings := { exchange := ⟨250, true⟩ }
    let s' : Settings := { exchange := ⟨5000, true⟩ }
    "test" ∉ sectionNames ∧
      (Yaml.mapping lower).get? (.string "test") = some (.mapping upper) ∧
      ofDocument "test" (.mapping lower) = .ok s ∧
      ofDocument "test" (.mapping (dropSection "test" lower)) = .ok s' ∧
      Key.LeftAlone lower upper .rethrowFailures ∧
      Key.value s .rethrowFailures = Key.value s' .rethrowFailures := by
  intro upper lower s s'
  have hname : "test" ∉ sectionNames := by decide
  have hs : ofDocument "test" (.mapping lower) = .ok s := rfl
  have hs' : ofDocument "test" (.mapping (dropSection "test" lower)) = .ok s' := rfl
  have hkey : Key.LeftAlone lower upper .rethrowFailures := by
    intro v hv
    cases List.mem_singleton.mp hv
    refine ⟨⟨_, rfl, rfl⟩, fun w hw => ?_⟩
    cases List.mem_singleton.mp hw
    rfl
  have hsection := (ofDocument_section hname lower).2.2.1 upper rfl s hs .rethrowFailures
  exact ⟨hname, rfl, hs, hs', hkey, hsection.1 hkey s' hs'⟩

/-- With a section for tests of which only the name is there, the time limit is lost. -/
theorem patience_lost :
    ofDocument "test" (.mapping (patient .null)) = .ok {} ∧
      ofDocument "test" (.mapping (dropSection "test" (patient .null))) =
        .ok { exchange := ⟨5000, true⟩ } :=
  ⟨rfl, rfl⟩

end Examples

end ServiceBus.Settings
