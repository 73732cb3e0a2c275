import ServiceBus.Fault.Markup
import ServiceBus.Proofs.Text.Search

set_option autoImplicit false

/-! # Element content

The four replacements that write element content amount to writing each character by itself, with
the table of the entities (`escape_eq_spell`).

The four that read content back are the same as one pass over the text, from left to right, in
which every entity is replaced by its character and all else is copied (`OnePass`), whatever the
text is: no entity is read that the text itself does not have, and none is missed
(`unescape_in_one_pass`). A replacement works on what the ones before it have left. Each puts
characters into the text that belong to none of the spellings still to be replaced (`Successive`),
so that what is replaced next stands in the text as it was at first (`OnePass.of_append`,
`OnePass.append`). A replacement therefore adds its entry to the table of the pass
(`onePass_replaceAll`).

A pass never looks back beyond the `&` at which it stands: what it makes of a text is what it makes
of the pieces that begin with `&` (`OnePass.concat`). Written content is gone over spelling by
spelling, which restores the text (`onePass_spell`, `unescape_escape`). -/

namespace ServiceBus.Fault

open ServiceBus.Text

variable {table : List (Char × List Char)} {e : Char × List Char} {s t u w : List Char}

/-- The entries of a table can be replaced one after another, the first one first where text is
written and the last one first where it is read. All spellings begin with `&`, and contain neither
it nor their own character further on. No spelling contains the character of a later entry. -/
structure Successive (table : List (Char × List Char)) : Prop where
  marks : ∀ e ∈ table, e.2.head? = some '&' ∧ '&' ∉ e.2.tail ∧ e.1 ∉ e.2.tail
  order : table.Pairwise fun e e' => e'.1 ∉ e.2

theorem successive_entities : Successive entities := ⟨by decide, by decide⟩

theorem Successive.tail (h : Successive (e :: table)) : Successive table :=
  ⟨fun e' he' => h.marks e' (List.mem_cons_of_mem e he'), (List.pairwise_cons.1 h.order).2⟩

/-- The first spelling is `&` and a word that no character of the table occurs in. -/
theorem Successive.head (h : Successive (e :: table)) :
    ∃ w, e.2 = '&' :: w ∧ '&' ∉ w ∧ (∀ e' ∈ e :: table, e'.1 ∉ w) ∧ ∀ e' ∈ table, '&' ≠ e'.1 := by
  obtain ⟨hhead, htail, hself⟩ := h.marks e List.mem_cons_self
  obtain ⟨w, hw⟩ := List.head?_eq_some_iff.1 hhead
  have hlater := (List.pairwise_cons.1 h.order).1
  rw [hw] at htail hself hlater
  refine ⟨w, hw, htail, List.forall_mem_cons.2 ⟨hself, ?_⟩, ?_⟩
  · intro e' he' hmem
    exact hlater e' he' (List.mem_cons_of_mem _ hmem)
  · intro e' he' heq
    exact hlater e' he' (heq ▸ List.mem_cons_self)

/-! ## Spelling by a table -/

/-- A character as the table spells it: a character without an entry stands for itself. -/
def spellChar (table : List (Char × List Char)) (c : Char) : List Char := (table.lookup c).getD [c]

/-- A text as the table spells it. -/
def spell (table : List (Char × List Char)) (s : List Char) : List Char :=
  s.flatMap (spellChar table)

@[simp] theorem spell_cons (table : List (Char × List Char)) (c : Char) (s : List Char) :
    spell table (c :: s) = spellChar table c ++ spell table s := rfl

theorem spell_empty (s : List Char) : spell [] s = s := by
  induction s with
  | nil => rfl
  | cons c s ih => rw [spell_cons, ih]; rfl

theorem spellChar_of_not_isSome {c : Char} (h : ¬ (table.lookup c).isSome) :
    spellChar table c = [c] := by
  rw [spellChar, Option.not_isSome_iff_eq_none.1 h]
  rfl

theorem spellChar_append (table : List (Char × List Char)) (e : Char × List Char) (c : Char) :
    spellChar (table ++ [e]) c =
      if (table.lookup c).isSome then spellChar table c else if c = e.1 then e.2 else [c] := by
  obtain ⟨d, w⟩ := e
  rw [spellChar, spellChar, List.lookup_append]
  cases table.lookup c with
  | some w => rfl
  | none =>
      by_cases h : c = d
      · simp [h]
      · simp [List.lookup_cons, beq_eq_false_iff_ne.2 h, h]

/-- An entry that spells a character is one of the table. -/
theorem mem_of_lookup_isSome {c : Char} (h : (table.lookup c).isSome) :
    (c, spellChar table c) ∈ table := by
  obtain ⟨w, hw⟩ := Option.isSome_iff_exists.1 h
  obtain ⟨t, u, ht, -⟩ := List.lookup_eq_some_iff.1 hw
  have hc : spellChar table c = w := by rw [spellChar, hw]; rfl
  rw [hc, ht]
  simp

/-- The spelling that a replacement of one character adds to a table whose spellings do not
contain the character. -/
theorem replaceAll_spell (h : ∀ e' ∈ table, e.1 ∉ e'.2) (s : List Char) :
    replaceAll [e.1] e.2 (spell table s) = spell (table ++ [e]) s := by
  rw [replaceAll_singleton]
  induction s with
  | nil => rfl
  | cons c s ih =>
      rw [spell_cons, List.flatMap_append, ih, spell_cons, spellChar_append]
      congr 1
      by_cases hc : (table.lookup c).isSome
      · have hne : ∀ d ∈ spellChar table c, (if d = e.1 then e.2 else [d]) = [d] := by
          intro d hd
          refine if_neg fun he => ?_
          exact h _ (mem_of_lookup_isSome hc) (he ▸ hd)
        rw [if_pos hc, List.flatMap_def, List.map_congr_left hne, ← List.flatMap_def,
          List.flatMap_singleton']
      · rw [if_neg hc, spellChar_of_not_isSome hc]
        simp

/-- Replacements one after another spell a text by the table of all their entries. -/
theorem foldl_replaceAll {entries : List (Char × List Char)}
    (h : (table ++ entries).Pairwise fun e e' => e'.1 ∉ e.2) (s : List Char) :
    entries.foldl (fun s e => replaceAll [e.1] e.2 s) (spell table s) =
      spell (table ++ entries) s := by
  induction entries generalizing table with
  | nil => rw [List.foldl_nil, List.append_nil]
  | cons e entries ih =>
      have hfree : ∀ e' ∈ table, e.1 ∉ e'.2 := fun e' he' =>
        (List.pairwise_append.1 h).2.2 e' he' e List.mem_cons_self
      rw [List.append_cons] at h
      rw [List.foldl_cons, replaceAll_spell hfree, ih h, ← List.append_cons]

/-! ## One pass -/

/-- One pass over a text, from left to right. A spelling of the table is replaced by its character;
where no spelling begins, the text is copied. -/
inductive OnePass (table : List (Char × List Char)) : List Char → List Char → Prop
  | done : OnePass table [] []
  | spelt {s t : List Char} (e : Char × List Char) (he : e ∈ table) (h : OnePass table s t) :
      OnePass table (e.2 ++ s) (e.1 :: t)
  | copied {c : Char} {s t : List Char} (hc : ∀ e ∈ table, ¬ e.2 <+: c :: s)
      (h : OnePass table s t) : OnePass table (c :: s) (c :: t)

/-- A pass without any spellings copies the text. -/
theorem onePass_nil (s : List Char) : OnePass [] s s := by
  induction s with
  | nil => exact .done
  | cons c s ih => exact .copied (by simp) ih

/-- What a pass has not put into the text has been copied. -/
theorem OnePass.of_append (hw : ∀ e ∈ table, e.1 ∉ w) (h : OnePass table s (w ++ t)) :
    ∃ s', s = w ++ s' ∧ OnePass table s' t := by
  induction w generalizing s with
  | nil => exact ⟨s, rfl, h⟩
  | cons c w ih =>
      cases h with
      | spelt e he h => exact absurd List.mem_cons_self (hw e he)
      | copied hc h =>
          obtain ⟨s', rfl, hs'⟩ := ih (fun e he hmem => hw e he (List.mem_cons_of_mem c hmem)) h
          exact ⟨s', rfl, hs'⟩

/-- A pass copies a word in which no spelling begins. -/
theorem OnePass.append (hmarks : ∀ e ∈ table, e.2.head? = some '&') (hw : '&' ∉ w)
    (h : OnePass table (w ++ s) t) : ∃ t', t = w ++ t' ∧ OnePass table s t' := by
  induction w generalizing t with
  | nil => exact ⟨t, rfl, h⟩
  | cons c w ih =>
      rw [List.mem_cons, not_or] at hw
      generalize htext : c :: w ++ s = text at h
      cases h with
      | done => cases htext
      | spelt e he h =>
          obtain ⟨m, hm⟩ := List.head?_eq_some_iff.1 (hmarks e he)
          rw [hm] at htext
          exact absurd (List.cons.inj htext).1.symm hw.1
      | copied hc h =>
          obtain ⟨rfl, rfl⟩ := List.cons.inj htext
          obtain ⟨t', rfl, ht'⟩ := ih hw.2 h
          exact ⟨t', rfl, ht'⟩

/-- A replacement adds its entry to the table of the pass. -/
theorem onePass_replaceAll (hnext : Successive (e :: table)) (h : OnePass table s t) :
    OnePass (e :: table) s (replaceAll e.2 [e.1] t) := by
  obtain ⟨w, hw, hamp, hfree, hne⟩ := hnext.head
  induction h with
  | done => exact .done
  | @spelt s t e' he' h ih =>
      -- the character put into the text is not the `&` that the spelling begins with
      have hn : after? e.2 (e'.1 :: t) = none := by
        rw [hw]
        exact after?_cons_of_ne (hne e' he') w t
      rw [replaceAll_cons_of_eq_none hn]
      exact .spelt e' (List.mem_cons_of_mem e he') ih
  | @copied c s t hc h ih =>
      by_cases hmark : e.2 <+: c :: t
      · -- what is replaced has been copied, so it stands in the text itself
        obtain ⟨t', ht'⟩ := hmark
        rw [hw, List.cons_append] at ht'
        obtain ⟨rfl, rfl⟩ := List.cons.inj ht'
        rw [hw, replaceAll_append_of_not_mem hamp, ← hw] at ih
        obtain ⟨s', rfl, hs'⟩ := ih.of_append hfree
        have hself : replaceAll e.2 [e.1] ('&' :: (w ++ t')) = e.1 :: replaceAll e.2 [e.1] t' := by
          rw [hw]
          exact replaceAll_mark_append '&' w [e.1] t'
        have hspelt := OnePass.spelt e List.mem_cons_self hs'
        rwa [hself, ← List.cons_append, ← hw]
      · rw [replaceAll_cons_of_eq_none ((after?_eq_none_iff _ _).2 hmark)]
        refine .copied (List.forall_mem_cons.2 ⟨?_, hc⟩) ih
        -- a spelling in the text itself would have been copied as it is
        rintro ⟨s', hs'⟩
        rw [hw, List.cons_append] at hs'
        obtain ⟨rfl, rfl⟩ := List.cons.inj hs'
        obtain ⟨t', rfl, -⟩ := h.append (fun e he => (hnext.tail.marks e he).1) hamp
        exact hmark ⟨t', by rw [hw, List.cons_append]⟩

/-- Replacements one after another are one pass with all their entries. -/
theorem onePass_foldr (h : Successive table) (s : List Char) :
    OnePass table s (table.foldr (fun e s => replaceAll e.2 [e.1] s) s) := by
  induction table with
  | nil => exact onePass_nil s
  | cons e table ih => exact onePass_replaceAll h (ih h.tail)

/-- A text and a further one that begins with `&` are gone over one after the other. -/
theorem OnePass.concat (hmarks : ∀ e ∈ table, e.2.head? = some '&' ∧ '&' ∉ e.2.tail)
    (first : OnePass table w t) (last : OnePass table ('&' :: s) u) :
    OnePass table (w ++ '&' :: s) (t ++ u) := by
  induction first with
  | done => exact last
  | spelt e he h ih =>
      rw [List.append_assoc, List.cons_append]
      exact .spelt e he ih
  | @copied c w t hc h ih =>
      refine .copied (fun e he hpre => hc e he ?_) ih
      obtain ⟨hhead, htail⟩ := hmarks e he
      obtain ⟨m, hm⟩ := List.head?_eq_some_iff.1 hhead
      rw [hm] at hpre htail ⊢
      exact prefix_of_prefix_append_cons htail (List.cons_ne_nil c w) hpre

/-- What a table spells is restored in one pass, provided that `&` itself is spelt. -/
theorem onePass_spell (hmarks : ∀ e ∈ table, e.2.head? = some '&')
    (hamp : (table.lookup '&').isSome) (s : List Char) : OnePass table (spell table s) s := by
  induction s with
  | nil => exact .done
  | cons c s ih =>
      rw [spell_cons]
      by_cases hc : (table.lookup c).isSome
      · exact .spelt _ (mem_of_lookup_isSome hc) ih
      · rw [spellChar_of_not_isSome hc]
        refine .copied (fun e he hpre => hc ?_) ih
        -- a spelling could only begin here if the character were `&`
        obtain ⟨m, hm⟩ := List.head?_eq_some_iff.1 (hmarks e he)
        rw [hm, List.cons_prefix_cons] at hpre
        rwa [← hpre.1]

/-! ## The pass as a function -/

theorem entityAt?_eq_none_iff : entityAt? s = none ↔ ∀ e ∈ entities, ¬ e.2 <+: s := by
  simp only [entityAt?, Option.map_eq_none_iff, List.find?_eq_none, isSome_after?_iff]

/-- Only one entity stands at the start of a text. -/
theorem eq_of_prefix {e e' : Char × List Char} (he : e ∈ entities) (he' : e' ∈ entities)
    (h : e.2 <+: s) (h' : e'.2 <+: s) : e = e' := by
  have hapart : ∀ e ∈ entities, ∀ e' ∈ entities, e.2 <+: e'.2 → e = e' := by decide
  rcases List.prefix_or_prefix_of_prefix h h' with hpre | hpre
  · exact hapart e he e' he' hpre
  · exact (hapart e' he' e he hpre).symm

theorem entityAt?_append (he : e ∈ entities) (s : List Char) :
    entityAt? (e.2 ++ s) = some (e.1, e.2.length - 1) := by
  have hself : e.2 <+: e.2 ++ s := List.prefix_append e.2 s
  cases hfind : entities.find? fun e' => (after? e'.2 (e.2 ++ s)).isSome with
  | none => exact absurd ((isSome_after?_iff _ _).2 hself) (List.find?_eq_none.1 hfind e he)
  | some e' =>
      have hfound := List.find?_some hfind
      have hpre : e'.2 <+: e.2 ++ s := (isSome_after?_iff _ _).1 hfound
      rw [entityAt?, hfind, eq_of_prefix (List.mem_of_find?_eq_some hfind) he hpre hself]
      rfl

/-- The characters of an entity that has been replaced are skipped. -/
theorem decodeFrom_length_append (w s : List Char) :
    decodeFrom w.length (w ++ s) = decodeEntities s := by
  induction w with
  | nil => rfl
  | cons c w ih => exact ih

theorem decodeEntities_append (he : e ∈ entities) (s : List Char) :
    decodeEntities (e.2 ++ s) = e.1 :: decodeEntities s := by
  obtain ⟨w, hw⟩ := List.head?_eq_some_iff.1 (successive_entities.marks e he).1
  have hat := entityAt?_append he s
  rw [hw, List.cons_append] at hat ⊢
  rw [decodeEntities, decodeFrom, hat]
  exact congrArg (e.1 :: ·) (decodeFrom_length_append w s)

theorem decodeEntities_cons {c : Char} (h : ∀ e ∈ entities, ¬ e.2 <+: c :: s) :
    decodeEntities (c :: s) = c :: decodeEntities s := by
  rw [decodeEntities, decodeFrom, entityAt?_eq_none_iff.2 h]
  rfl

/-- There is only one way to go over a text. -/
theorem OnePass.eq_decodeEntities (h : OnePass entities s t) : t = decodeEntities s := by
  induction h with
  | done => rfl
  | spelt e he h ih => rw [decodeEntities_append he, ih]
  | copied hc h ih => rw [decodeEntities_cons hc, ih]

/-! ## Content -/

theorem onePass_unescape (s : List Char) : OnePass entities s (unescape s) :=
  onePass_foldr successive_entities s

theorem unescape_eq_decodeEntities (s : List Char) : unescape s = decodeEntities s :=
  (onePass_unescape s).eq_decodeEntities

theorem onePass_iff : OnePass entities s t ↔ unescape s = t := by
  constructor
  · intro h
    rw [unescape_eq_decodeEntities, h.eq_decodeEntities]
  · rintro rfl
    exact onePass_unescape s

/-- A text is read piece by piece, if the pieces begin with `&`. -/
theorem unescape_append (p s : List Char) :
    unescape (p ++ '&' :: s) = unescape p ++ unescape ('&' :: s) := by
  have hmarks : ∀ e ∈ entities, e.2.head? = some '&' ∧ '&' ∉ e.2.tail :=
    fun e he => ⟨(successive_entities.marks e he).1, (successive_entities.marks e he).2.1⟩
  exact onePass_iff.1 ((onePass_unescape p).concat hmarks (onePass_unescape ('&' :: s)))

/-- The character of an entity is not read once more, wherever the entity stands. -/
theorem unescape_append_entity (he : e ∈ entities) (p s : List Char) :
    unescape (p ++ (e.2 ++ s)) = unescape p ++ e.1 :: unescape s := by
  have hself : unescape (e.2 ++ s) = e.1 :: unescape s :=
    onePass_iff.1 (.spelt e he (onePass_unescape s))
  obtain ⟨w, hw⟩ := List.head?_eq_some_iff.1 (successive_entities.marks e he).1
  rw [← hself, hw]
  exact unescape_append p (w ++ s)

theorem escape_eq_spell (s : List Char) : escape s = spell entities s := by
  have horder := successive_entities.order
  rw [← List.nil_append entities] at horder
  calc escape s
      = entities.foldl (fun s e => replaceAll [e.1] e.2 s) (spell [] s) := by rw [spell_empty]; rfl
    _ = spell ([] ++ entities) s := foldl_replaceAll horder s

theorem unescape_escape (s : List Char) : unescape (escape s) = s := by
  rw [escape_eq_spell, ← onePass_iff]
  exact onePass_spell (fun e he => (successive_entities.marks e he).1) (by decide) s

/-- Written content holds none of the characters that tags are made with. -/
theorem not_mem_escape {c : Char} (h : c ∈ ['<', '>', '"']) (s : List Char) : c ∉ escape s := by
  have hentry : ∀ e ∈ entities, c ∉ e.2 := by
    intro e he hc
    have hall : ∀ e ∈ entities, ∀ c ∈ e.2, c ∉ ['<', '>', '"'] := by simp [entities]
    exact hall e he c hc h
  rw [escape_eq_spell]
  intro hc
  obtain ⟨d, -, hd⟩ := List.mem_flatMap.1 hc
  by_cases hl : (entities.lookup d).isSome
  · exact hentry _ (mem_of_lookup_isSome hl) hd
  · rw [spellChar_of_not_isSome hl, List.mem_singleton] at hd
    have hsome : ∀ c ∈ ['<', '>', '"'], (entities.lookup c).isSome := by
      simp [entities, List.lookup_cons]
    exact hl (hd ▸ hsome c h)

/-- The four replacements that read content back are one pass over the text, whatever the text is.
What the entity of an ampersand stands for is not read once more with what follows it. Content that
has been written is read back, and has none of the characters that tags are made with. -/
theorem unescape_in_one_pass (s : List Char) :
    unescape s = decodeEntities s ∧
    (∀ t, OnePass entities s t ↔ unescape s = t) ∧
    (∀ p, unescape (p ++ ("&amp;".toList ++ s)) = unescape p ++ '&' :: unescape s) ∧
    unescape "&amp;lt;".toList = "&lt;".toList ∧
    unescape (escape s) = s ∧ '<' ∉ escape s ∧ '>' ∉ escape s ∧ '"' ∉ escape s := by
  have hamp : ('&', "&amp;".toList) ∈ entities := by decide
  refine ⟨unescape_eq_decodeEntities s, fun t => onePass_iff,
    fun p => unescape_append_entity hamp p s, unescape_append_entity hamp [] "lt;".toList,
    unescape_escape s, ?_, ?_, ?_⟩
  · exact not_mem_escape (by decide) s
  · exact not_mem_escape (by decide) s
  · exact not_mem_escape (by decide) s

/-- Entities that break off, that stand within one another, and that follow one that is read. -/
example : unescape "&&lt;&am&quot;p;&amp;gt;&gt".toList = "&<&am\"p;&gt;&gt".toList := by decide

end ServiceBus.Fault
