import ServiceBus.Parties
import ServiceBus.Proofs.Settings.Sections
import ServiceBus.Proofs.Yaml.Distinct
import ServiceBus.Settings.Loading

set_option autoImplicit false

/-! # What other environments have to do with the settings

An entry of a document that is no section of the settings, nor that of the environment, makes no
difference to which settings are loaded, or which setting is not allowed; and where the document
cannot be read, it cannot be read without the entry either. But sections are dropped by putting
the last entry in their place, so that the entry has an influence on the order of the others, and
on which of several errors is told (`load_apart`). -/

namespace ServiceBus.Settings

open Wire Yaml

/-! ## An entry that is left out -/

section Dropped

variable {other : String} {k : Yaml}

theorem dropSection_cons_self (other : String) (v : Yaml) (lower : List (Yaml × Yaml)) :
    dropSection other ((.string other, v) :: lower) = dropSection other lower :=
  List.filter_cons_of_neg (by rw [same_string_iff.mpr rfl]; decide)

theorem dropSection_cons_of_ne (h : k ≠ .string other) (v : Yaml) (lower : List (Yaml × Yaml)) :
    dropSection other ((k, v) :: lower) = (k, v) :: dropSection other lower :=
  List.filter_cons_of_pos (by rw [Bool.eq_false_iff.mpr (mt same_string_iff.mp h)]; rfl)

theorem dropSection_append (other : String) (lower upper : List (Yaml × Yaml)) :
    dropSection other (lower ++ upper) = dropSection other lower ++ dropSection other upper :=
  List.filter_append ..

theorem dropSection_comm (name name' : String) (entries : List (Yaml × Yaml)) :
    dropSection name (dropSection name' entries) = dropSection name' (dropSection name entries) := by
  rw [dropSection, dropSection, dropSection, dropSection, List.filter_filter, List.filter_filter]
  simp only [Bool.and_comm]

theorem find?_dropSection_of_ne (h : k ≠ .string other) (lower : List (Yaml × Yaml)) :
    find? k (dropSection other lower) = find? k lower := by
  induction lower with
  | nil => rfl
  | cons e lower ih =>
      obtain ⟨l, w⟩ := e
      by_cases hl : l = .string other
      · have hne : ¬ same k (.string other) = true := mt same_string_right.mp h
        rw [hl, dropSection_cons_self, ih, find?, if_neg hne]
      · rw [dropSection_cons_of_ne hl, find?, find?, ih]

theorem dropSection_replace_of_ne (h : k ≠ .string other) (v : Yaml) (lower : List (Yaml × Yaml)) :
    dropSection other (replace k v lower) = replace k v (dropSection other lower) := by
  induction lower with
  | nil => rfl
  | cons e lower ih =>
      obtain ⟨l, w⟩ := e
      rw [replace]
      by_cases hl : l = .string other
      · have hne : ¬ same k (.string other) = true := mt same_string_right.mp h
        rw [hl, if_neg hne, dropSection_cons_self, dropSection_cons_self, ih]
      · rw [dropSection_cons_of_ne hl, replace]
        split
        · exact dropSection_cons_of_ne hl v lower
        · rw [dropSection_cons_of_ne hl, ih]

theorem dropSection_replace_self (v : Yaml) (lower : List (Yaml × Yaml)) :
    dropSection other (replace (.string other) v lower) = dropSection other lower := by
  induction lower with
  | nil => rfl
  | cons e lower ih =>
      obtain ⟨l, w⟩ := e
      rw [replace]
      by_cases hl : l = .string other
      · rw [hl, if_pos (same_string_iff.mpr rfl), dropSection_cons_self, dropSection_cons_self]
      · rw [if_neg (mt same_string_iff.mp hl), dropSection_cons_of_ne hl,
          dropSection_cons_of_ne hl, ih]

theorem dropSection_lay_of_ne (h : k ≠ .string other) (v : Yaml) (lower : List (Yaml × Yaml)) :
    dropSection other (lay lower (k, v)) = lay (dropSection other lower) (k, v) := by
  rw [lay, lay]
  dsimp only
  rw [find?_dropSection_of_ne h]
  cases find? k lower with
  | some w => exact dropSection_replace_of_ne h _ lower
  | none =>
      show dropSection other (lower ++ [(k, v)]) = dropSection other lower ++ [(k, v)]
      rw [dropSection_append, dropSection_cons_of_ne h]
      rfl

theorem dropSection_lay_self (v : Yaml) (lower : List (Yaml × Yaml)) :
    dropSection other (lay lower (.string other, v)) = dropSection other lower := by
  rw [lay]
  split
  · exact dropSection_replace_self _ lower
  · rw [dropSection_append, dropSection_cons_self]
    exact List.append_nil _

/-- An entry that is left out of both mappings is left out of the merged one. -/
theorem dropSection_mergeEntries (other : String) (lower upper : List (Yaml × Yaml)) :
    dropSection other (mergeEntries lower upper) =
      mergeEntries (dropSection other lower) (dropSection other upper) := by
  induction upper generalizing lower with
  | nil =>
      have hnil : dropSection other [] = [] := rfl
      rw [hnil, mergeEntries, mergeEntries]
  | cons e upper ih =>
      obtain ⟨k, v⟩ := e
      rw [mergeEntries_cons, ih]
      by_cases hk : k = .string other
      · rw [hk, dropSection_cons_self, dropSection_lay_self]
      · rw [dropSection_cons_of_ne hk, mergeEntries_cons, dropSection_lay_of_ne hk]

/-! ## Reading without the entry -/

theorem lookup_eq_none_of_not_mem (h : other ∉ sectionNames) :
    (settingsForm : Form Yaml Settings).checks.lookup other = none := by
  cases hlookup : (settingsForm : Form Yaml Settings).checks.lookup other with
  | none => rfl
  | some check => exact absurd (mem_sectionNames_of_lookup hlookup) h

theorem firstError_dropSection (h : other ∉ sectionNames) (seen : List String)
    (entries : List (Yaml × Yaml)) :
    settingsForm.firstError seen (members (dropSection other entries)) =
      settingsForm.firstError seen (members entries) := by
  induction entries generalizing seen with
  | nil => rfl
  | cons e entries ih =>
      obtain ⟨k, v⟩ := e
      by_cases hk : k = .string other
      · -- a name that the form does not know is passed over
        rw [hk, dropSection_cons_self, ih]
        show _ = settingsForm.firstError seen ((.name other, v) :: members entries)
        rw [Form.firstError, lookup_eq_none_of_not_mem h]
      · rw [dropSection_cons_of_ne hk]
        show settingsForm.firstError seen ((yamlLabel k, v) :: members (dropSection other entries)) =
          settingsForm.firstError seen ((yamlLabel k, v) :: members entries)
        cases yamlLabel k with
        | other found => rfl
        | name name =>
            rw [Form.firstError, Form.firstError]
            simp only [ih]

/-- What is made of the sections depends on nothing but what is under their names. -/
theorem named_congr {look look' : String → Option Yaml}
    (h : ∀ name ∈ sectionNames, look name = look' name) :
    settingsForm.named look = settingsForm.named look' := by
  have hlook : ∀ look : String → Option Yaml, settingsForm.named look =
      settingsForm.named fun name => if name = "exchange" then look "exchange"
        else if name = "notifications" then look "notifications" else look "resilience" :=
    fun _ => rfl
  rw [hlook look, hlook look', h _ (by decide), h _ (by decide), h _ (by decide)]

/-- An entry that is no section makes no difference to what is read, nor to the error. -/
theorem readSettings_dropSection (h : other ∉ sectionNames) (entries : List (Yaml × Yaml)) :
    readSettings (Yaml.mapping (dropSection other entries)) =
      readSettings (Yaml.mapping entries) := by
  have hnamed : ∀ name ∈ sectionNames,
      (members (dropSection other entries)).lookup (.name name) =
        (members entries).lookup (.name name) := by
    intro name hname
    rw [lookup_eq_under, lookup_eq_under, under_members, under_members,
      named_dropSection h entries hname]
  have hshape : ∀ entries, Document.shape (Yaml.mapping entries) = .named (members entries) :=
    fun _ => rfl
  rw [readSettings, readSettings, Form.read, Form.read, Form.readAs, Form.readAs, hshape, hshape]
  dsimp only
  rw [firstError_dropSection h, named_congr hnamed]

end Dropped

/-! ## Documents in an environment -/

/-- An error that a document may be reported to have: the one that is found in it, or in the same
document with its entries in another order. -/
inductive MayReport : Yaml → DecodeError → Prop where
  | found (v : Yaml) (d : DecodeError) (h : readSettings v = .error d) : MayReport v d
  | reordered (entries entries' : List (Yaml × Yaml)) (d : DecodeError)
      (hperm : entries.Perm entries') (h : readSettings (Yaml.mapping entries) = .error d) :
      MayReport (.mapping entries') d

section Documents

variable {environment other : String} {lower lower' : List (Yaml × Yaml)}

theorem Alike.of_perm (h : lower.Perm lower') : Alike lower lower' :=
  ⟨by simp only [h.mem_iff], fun _ _ => h.filterMap _⟩

/-- Discarding the entries under some keys is leaving them out, except for the order. -/
theorem perm_foldl_discard (names : List String) (hperm : lower.Perm lower')
    (honce : ∀ name, Once name lower) :
    (names.foldl (fun entries name => discard (.string name) entries) lower).Perm
      (names.foldl (fun entries name => dropSection name entries) lower') := by
  induction names generalizing lower lower' with
  | nil => exact hperm
  | cons name names ih =>
      have hdiscard : (discard (.string name) lower).Perm (dropSection name lower) :=
        perm_discard (honce name)
      exact ih (hdiscard.trans (hperm.filter _)) fun other =>
        ((honce other).filter _).of_perm hdiscard.symm

theorem dropSection_foldl (names : List String) (entries : List (Yaml × Yaml)) :
    dropSection other (names.foldl (fun entries name => dropSection name entries) entries) =
      names.foldl (fun entries name => dropSection name entries) (dropSection other entries) := by
  induction names generalizing entries with
  | nil => rfl
  | cons name names ih =>
      rw [List.foldl_cons, List.foldl_cons, ih, dropSection_comm]

/-- Documents that differ in one entry differ in no more than that and the order when the sections
of environments have been dropped. -/
theorem perm_withoutSections (environment : String) (honce : ∀ name, Once name lower)
    (honce' : ∀ name, Once name lower')
    (hrest : dropSection other lower = dropSection other lower') :
    ∃ rest rest', withoutSections environment (.mapping lower) = .mapping rest ∧
      withoutSections environment (.mapping lower') = .mapping rest' ∧
      (dropSection other rest).Perm (dropSection other rest') := by
  refine ⟨_, _, rfl, rfl, ?_⟩
  have hdrop := fun {entries : List (Yaml × Yaml)} (h : ∀ name, Once name entries) =>
    (perm_foldl_discard (knownEnvironments ++ [environment]) (.refl entries) h).filter
      fun e => !same (.string other) e.1
  refine (hdrop honce).trans (.trans (.of_eq ?_) (hdrop honce').symm)
  show dropSection other _ = dropSection other _
  rw [dropSection_foldl, dropSection_foldl, hrest]

section Rest

variable (hother : other ∉ sectionNames)
  (hperm : (dropSection other lower).Perm (dropSection other lower'))

include hother hperm

/-- From two such documents, the same settings are read. -/
theorem read_of_rest {s : Settings} (h : readSettings (Yaml.mapping lower) = .ok s) :
    readSettings (Yaml.mapping lower') = .ok s := by
  rw [← readSettings_dropSection hother] at h ⊢
  exact (Alike.of_perm hperm).read h

/-- An error in one of them may be reported for the other. -/
theorem mayReport_of_rest {d : DecodeError} (h : readSettings (Yaml.mapping lower) = .error d) :
    MayReport (.mapping lower') d := by
  -- the entries of the first document, with what the second one has under the other key
  let entries := dropSection other lower ++ lower'.filter fun e => same (.string other) e.1
  have hentries : entries.Perm lower' := by
    refine (hperm.append_right _).trans (List.perm_append_comm.trans ?_)
    exact List.filter_append_perm (fun e => same (.string other) e.1) lower'
  have hnone : dropSection other (lower'.filter fun e => same (.string other) e.1) = [] := by
    rw [dropSection, List.filter_filter]
    simp
  have hdrop : dropSection other entries = dropSection other lower := by
    rw [dropSection_append, hnone, List.append_nil, dropSection_of_none (find?_dropSection _ _)]
  refine .reordered entries lower' d hentries ?_
  rw [← readSettings_dropSection hother, hdrop, readSettings_dropSection hother, h]

end Rest

/-- The section of an environment is laid over both documents, or it replaces them. -/
theorem withSection_cases (environment : String) (lower lower' : List (Yaml × Yaml))
    (hget : (Yaml.mapping lower').get? (.string environment) =
      (Yaml.mapping lower).get? (.string environment)) :
    withSection environment (.mapping lower) = withSection environment (.mapping lower') ∨
    ∃ upper, withSection environment (.mapping lower) = .mapping (mergeEntries lower upper) ∧
      withSection environment (.mapping lower') = .mapping (mergeEntries lower' upper) := by
  rw [withSection, withSection, hget]
  cases (Yaml.mapping lower).get? (.string environment) with
  | none => exact .inr ⟨[], by rw [mergeEntries], by rw [mergeEntries]⟩
  | some v =>
      by_cases hmapping : ∃ upper, v = .mapping upper
      · obtain ⟨upper, rfl⟩ := hmapping
        exact .inr ⟨upper, merge_mapping lower upper, merge_mapping lower' upper⟩
      · have hv := not_exists.mp hmapping
        exact .inl ((merge_eq_right (.inl hv)).trans (merge_eq_right (.inl hv)).symm)

/-- What is read from a document in an environment, and from one that differs in one entry. -/
theorem ofDocument_apart (hne : other ≠ environment) (hother : other ∉ sectionNames)
    (honce : ∀ name, Once name lower) (honce' : ∀ name, Once name lower')
    (hrest : dropSection other lower = dropSection other lower') :
    (∀ s, ofDocument environment (.mapping lower) = .ok s →
      ofDocument environment (.mapping lower') = .ok s) ∧
    ∀ d, ofDocument environment (.mapping lower) = .error d →
      MayReport (inEnvironment environment (.mapping lower')) d := by
  have hname : Yaml.string environment ≠ .string other := fun h => hne (string.inj h).symm
  have hget : (Yaml.mapping lower').get? (.string environment) =
      (Yaml.mapping lower).get? (.string environment) := by
    show find? _ lower' = find? _ lower
    rw [← find?_dropSection_of_ne hname lower', ← hrest, find?_dropSection_of_ne hname]
  rcases withSection_cases environment lower lower' hget with
    hreplaced | ⟨upper, hlower, hlower'⟩
  · -- nothing is left of the other entries
    rw [ofDocument, ofDocument, inEnvironment, inEnvironment, hreplaced]
    exact ⟨fun s h => h, fun d h => .found _ d h⟩
  · have hmerged : dropSection other (mergeEntries lower upper) =
        dropSection other (mergeEntries lower' upper) := by
      rw [dropSection_mergeEntries, dropSection_mergeEntries, hrest]
    obtain ⟨rest, rest', hwithout, hwithout', hperm⟩ :=
      perm_withoutSections environment
        (fun name => once_mergeEntries (honce name) upper)
        (fun name => once_mergeEntries (honce' name) upper) hmerged
    rw [ofDocument, ofDocument, inEnvironment, inEnvironment, hlower, hlower', hwithout, hwithout']
    exact ⟨fun s => read_of_rest hother hperm, fun d => mayReport_of_rest hother hperm⟩

end Documents

/-! ## Loading -/

/-- The first file that is found in a directory has this path, and is the text of a document. -/
def Holds (files : FileView) (directory path : String) (root : Yaml) : Prop :=
  ∃ file s, findFile files (pathsIn directory) = some (path, file) ∧ textOf path file = .ok s ∧
    Yaml.ofText? s = some root

section Loading

variable {complaint : String → String} {files files' : FileView}
  {directory path environment other : String}

/-- What comes of loading a document. -/
theorem load_of_holds {root : Yaml} (h : Holds files directory path root) (environment : String) :
    load complaint files directory environment =
      match ofDocument environment root with
      | .error d => .error (.undecodable path d)
      | .ok s =>
          match s.invalid? with
          | some i => .error (.invalid i)
          | none => .ok ⟨s, environment, directory⟩ := by
  obtain ⟨file, s, hfile, htext, hroot⟩ := h
  rw [load, hfile]
  dsimp only
  rw [ofFile, htext, Except.bind, ofText, hroot]
  dsimp only
  cases ofDocument environment root with
  | error d => rfl
  | ok s =>
      dsimp only [Except.mapError]
      cases s.invalid? <;> rfl

/-- Settings that have been loaded come from a document that is held, and are valid. -/
theorem holds_of_load {l : LoadedSettings}
    (h : load complaint files directory environment = .ok l) :
    l.settings.Valid ∧ ∃ path root, Holds files directory path root ∧
      ofDocument environment root = .ok l.settings := by
  refine ⟨(invalid?_eq_none_iff _).mp (invalid?_of_load h), ?_⟩
  have hload := h
  rw [load] at hload
  split at hload
  · cases hload
  · next path file hfile =>
      rw [ofFile] at hload
      cases htext : textOf path file with
      | error e =>
          rw [htext] at hload
          cases hload
      | ok s =>
          rw [htext, Except.bind, ofText] at hload
          cases hroot : Yaml.ofText? s with
          | none =>
              rw [hroot] at hload
              cases hload
          | some root =>
              have hholds : Holds files directory path root := ⟨file, s, hfile, htext, hroot⟩
              refine ⟨path, root, hholds, ?_⟩
              rw [load_of_holds hholds] at h
              cases hread : ofDocument environment root with
              | error d =>
                  rw [hread] at h
                  cases h
              | ok s =>
                  rw [hread] at h
                  dsimp only at h
                  split at h
                  · cases h
                  · cases h
                    rfl

/-- Documents that differ in one entry come to the same when they are loaded, in one direction. -/
theorem load_of_rest {lower lower' : List (Yaml × Yaml)} (hne : other ≠ environment)
    (hother : other ∉ sectionNames) (h : Holds files directory path (.mapping lower))
    (h' : Holds files' directory path (.mapping lower'))
    (hrest : dropSection other lower = dropSection other lower') :
    let x := load complaint files directory environment
    let x' := load complaint files' directory environment
    (∀ l, x = .ok l → x' = .ok l) ∧ (∀ i, x = .error (.invalid i) → x' = .error (.invalid i)) ∧
      ∀ d, x = .error (.undecodable path d) →
        MayReport (inEnvironment environment (.mapping lower')) d ∧
          ∃ d', x' = .error (.undecodable path d') := by
  have honce : ∀ name, Once name lower := by
    obtain ⟨_, _, -, -, htext⟩ := h
    exact once_of_ofText? htext
  have honce' : ∀ name, Once name lower' := by
    obtain ⟨_, _, -, -, htext⟩ := h'
    exact once_of_ofText? htext
  obtain ⟨hok, herror⟩ := ofDocument_apart hne hother honce honce' hrest
  obtain ⟨hok', -⟩ := ofDocument_apart hne hother honce' honce hrest.symm
  intro x x'
  have hx : x = _ := load_of_holds h environment
  have hx' : x' = _ := load_of_holds h' environment
  rw [hx, hx']
  cases hread : ofDocument environment (.mapping lower) with
  | ok s =>
      rw [hok s hread]
      refine ⟨fun l hl => hl, fun i hi => hi, fun d hd => ?_⟩
      dsimp only at hd
      split at hd <;> cases hd
  | error d =>
      refine ⟨fun l hl => (nomatch hl), fun i hi => (nomatch hi), fun d hd => ?_⟩
      cases hd
      refine ⟨herror d hread, ?_⟩
      cases hread' : ofDocument environment (.mapping lower') with
      | ok s =>
          rw [hok' s hread'] at hread
          cases hread
      | error d' => exact ⟨d', rfl⟩

end Loading

/-- Documents that differ in one entry, which is no section of the settings and not that of the
environment, come to the same: either the same settings are loaded from both, or the same setting
is not allowed, or none of them can be read; in that case the error for one of them is that of the
other, or would be with the entries in another order. Whatever settings are loaded, given, or taken
for the exchange of messages are valid. -/
theorem load_apart (complaint : String → String) :
    (∀ (files files' : FileView) (directory path environment other : String)
        (lower lower' : List (Yaml × Yaml)),
      other ≠ environment → other ∉ sectionNames →
      Holds files directory path (.mapping lower) → Holds files' directory path (.mapping lower') →
      dropSection other lower = dropSection other lower' →
      let x := load complaint files directory environment
      let x' := load complaint files' directory environment
      ((∃ l, x = .ok l) ∨ (∃ i, x = .error (.invalid i)) ∨
        ∃ d, x = .error (.undecodable path d)) ∧
      (∀ l, x = .ok l ↔ x' = .ok l) ∧
      (∀ i, x = .error (.invalid i) ↔ x' = .error (.invalid i)) ∧
      ∀ d, x = .error (.undecodable path d) →
        MayReport (inEnvironment environment (.mapping lower')) d ∧
          ∃ d', x' = .error (.undecodable path d')) ∧
    (∀ files directory environment l, load complaint files directory environment = .ok l →
      l.settings.Valid ∧ ∃ path root, Holds files directory path root ∧
        ofDocument environment root = .ok l.settings) ∧
    (∀ s environment l, given s environment = .ok l → l.settings = s ∧ s.Valid) ∧
    ∀ (σ : Type) (parties : Parties σ) directory s env,
      Environment.build parties directory s = .ok env → env.settings = s ∧ s.Valid := by
  refine ⟨?_, fun files directory environment l => holds_of_load, ?_, ?_⟩
  · intro files files' directory path environment other lower lower' hne hother h h' hrest x x'
    obtain ⟨hok, hinvalid, herror⟩ := load_of_rest hne hother h h' hrest
    obtain ⟨hok', hinvalid', -⟩ := load_of_rest hne hother h' h hrest.symm
    refine ⟨?_, fun l => ⟨hok l, hok' l⟩, fun i => ⟨hinvalid i, hinvalid' i⟩, herror⟩
    have hx : x = _ := load_of_holds h environment
    rw [hx]
    cases ofDocument environment (.mapping lower) with
    | error d => exact .inr (.inr ⟨d, rfl⟩)
    | ok s =>
        dsimp only
        cases s.invalid? with
        | some i => exact .inr (.inl ⟨i, rfl⟩)
        | none => exact .inl ⟨_, rfl⟩
  · intro s environment l h
    rw [given] at h
    split at h
    · cases h
    · next hvalid =>
        cases h
        exact ⟨rfl, (invalid?_eq_none_iff s).mp hvalid⟩
  · intro σ parties directory s env h
    rw [Environment.build] at h
    split at h
    · cases h
    · next hvalid =>
        cases h
        exact ⟨rfl, (invalid?_eq_none_iff s).mp hvalid⟩

section Examples

/-- A text with names of sections, and nothing in them. -/
def bareText (names : List String) : String := String.join (names.map fun name => name ++ ":\n")

/-- Its tokens. -/
def bareTokens (names : List String) : List Token :=
  .blockMapping :: names.flatMap (fun name => [.key, .scalar true name, .value]) ++ [.blockEnd]

/-- The node that they make up. -/
def bareNode (names : List String) : Node Nat :=
  .mapping {} (names.map fun name => (.scalar {} true name, .absent))

/-- The entries that it stands for. -/
def bareEntries (names : List String) : List (Yaml × Yaml) :=
  names.map fun name => (.string name, .null)

/-- The files of a directory with such a text. -/
def bareFile (names : List String) : FileView := fun path =>
  if path = "sbb-config.yaml" then some (.regular (bareText names).toUTF8) else none

theorem holds_bareFile {names : List String}
    (hsize : (bareText names).toUTF8.size ≤ maxFileSize)
    (htokens : Token.ofText? (bareText names) = some (bareTokens names))
    (hnode : ((Node.ofTokens? (bareTokens names)).bind fun n => n.numbered?) = some (bareNode names))
    (hroot : ofDocument? (bareNode names) = some (.mapping (bareEntries names))) :
    Holds (bareFile names) "" "sbb-config.yaml" (.mapping (bareEntries names)) := by
  refine ⟨.regular (bareText names).toUTF8, bareText names, ?_, ?_, ?_⟩
  · have hpath : bareFile names "sbb-config.yaml" =
        some (.regular (bareText names).toUTF8) := if_pos rfl
    have hpaths : pathsIn "" = ["sbb-config.yaml", "sbb-config.yml"] := by
      decide
    rw [findFile, hpaths, List.findSome?_cons, hpath]
    rfl
  · have hutf8 : String.fromUTF8? (bareText names).toUTF8 = some (bareText names) :=
      dif_pos (bareText names).isValidUTF8
    rw [textOf, if_neg (Nat.not_lt.mpr hsize), hutf8]
  · obtain ⟨n, hn, hnumbered⟩ := Option.bind_eq_some_iff.mp hnode
    rw [Yaml.ofText?, htokens, Option.bind_some, hn, Option.bind_some, hnumbered]
    exact hroot

/-- An entry for audits makes no difference to the tests of an empty configuration. -/
theorem load_apart_audit :
    let complaint : String → String := fun _ => "did not find expected node content"
    let l : LoadedSettings := ⟨{}, "test", ""⟩
    load complaint (bareFile ["development"]) "" "test" = .ok l ∧
      load complaint (bareFile ["development", "audit"]) "" "test" = .ok l ∧
      l.settings.Valid := by
  intro complaint l
  have h : Holds (bareFile ["development"]) "" "sbb-config.yaml"
      (.mapping (bareEntries ["development"])) :=
    holds_bareFile (by decide) (by decide +kernel) rfl rfl
  have h' : Holds (bareFile ["development", "audit"]) "" "sbb-config.yaml"
      (.mapping (bareEntries ["development", "audit"])) :=
    holds_bareFile (by decide) (by decide +kernel) rfl rfl
  obtain ⟨hapart, hvalid, -, -⟩ := load_apart complaint
  obtain ⟨-, hok, -, -⟩ := hapart _ _ "" _ "test" "audit" _ _ (by decide) (by decide) h h'
    rfl
  have hload : load complaint (bareFile ["development"]) "" "test" = .ok l := by
    rw [load_of_holds h]
    rfl
  exact ⟨hload, (hok l).mp hload, (hvalid _ _ _ _ hload).1⟩

/-- When the section for the development is dropped, what comes last takes its place. So an entry
for audits decides about which of two errors is told. -/
theorem audit_decides :
    let complaint : String → String := fun _ => "did not find expected node content"
    let names := ["development", "exchange", "notifications"]
    let path := "sbb-config.yaml"
    Holds (bareFile names) "" path (.mapping (bareEntries names)) ∧
      Holds (bareFile (names ++ ["audit"])) "" path
        (.mapping (bareEntries (names ++ ["audit"]))) ∧
      dropSection "audit" (bareEntries (names ++ ["audit"])) = bareEntries names ∧
      load complaint (bareFile names) "" "test" =
        .error (.undecodable path (.missingField "enabled")) ∧
      load complaint (bareFile (names ++ ["audit"])) "" "test" =
        .error (.undecodable path (.missingField "call_timeout_ms")) := by
  intro complaint names path
  have h : Holds (bareFile names) "" path (.mapping (bareEntries names)) :=
    holds_bareFile (by decide) (by decide +kernel) rfl rfl
  have h' : Holds (bareFile (names ++ ["audit"])) "" path
      (.mapping (bareEntries (names ++ ["audit"]))) :=
    holds_bareFile (by decide) (by decide +kernel) rfl rfl
  refine ⟨h, h', rfl, ?_, ?_⟩
  · rw [load_of_holds h]
    rfl
  · rw [load_of_holds h']
    rfl

end Examples

end ServiceBus.Settings
