import FlatStyle.Proofs.Text.Split
import FlatStyle.Selector
import Mathlib.Logic.Function.Basic

namespace FlatStyle

open Text

namespace SelectorLevel

variable {word tag value : List Char} {level : SelectorLevel} {e : Element}

/-- The tag or nothing, then the class after a dot or nothing, then the id after a hash or
nothing. -/
def written (level : SelectorLevel) : List Char :=
  level.tag.elim [] String.toList ++ level.className.elim [] ('.' :: ·.toList) ++
    level.ident.elim [] ('#' :: ·.toList)

/-- The levels that are read back from their own writing. -/
structure Writable (level : SelectorLevel) : Prop where
  asks : level.tag ≠ none ∨ level.className ≠ none ∨ level.ident ≠ none
  single : level.className = none ∨ level.ident = none
  tag : ∀ tag ∈ level.tag,
    tag ≠ "" ∧ '.' ∉ tag.toList ∧ (level.className = none → '#' ∉ tag.toList)
  ident : ∀ value ∈ level.ident, '.' ∉ value.toList

theorem elim_tagOf (tag : List Char) : (tagOf tag).elim [] String.toList = tag := by
  cases tag with
  | nil => rfl
  | cons c tag => exact String.toList_ofList

theorem tagOf_of_ne_nil (h : tag ≠ []) : tagOf tag = some (String.ofList tag) := by
  rw [tagOf, if_neg (by simpa using h)]

theorem tagOf_elim {tag : Option String} (h : ∀ text ∈ tag, text ≠ "") :
    tagOf (tag.elim [] String.toList) = tag := by
  cases tag with
  | none => rfl
  | some text =>
      have hne : text.toList ≠ [] := mt String.toList_eq_nil_iff.1 (h text rfl)
      rw [Option.elim_some, tagOf_of_ne_nil hne, String.ofList_toList]

theorem of_mem_tagOf {text : String} (htext : text ∈ tagOf tag) :
    text ≠ "" ∧ text.toList = tag := by
  cases tag with
  | nil => cases htext
  | cons c tag =>
      obtain rfl := Option.some.inj (htext.symm.trans (tagOf_of_ne_nil (List.cons_ne_nil c tag)))
      exact ⟨by simp, String.toList_ofList⟩

theorem tag_of_tagOf {className : Option String} (hdot : '.' ∉ tag)
    (hhash : className = none → '#' ∉ tag) : ∀ text ∈ tagOf tag,
      text ≠ "" ∧ '.' ∉ text.toList ∧ (className = none → '#' ∉ text.toList) := by
  intro text htext
  obtain ⟨hne, rfl⟩ := of_mem_tagOf htext
  exact ⟨hne, hdot, hhash⟩

theorem not_mem_elim {c : Char} {text? : Option String} (h : ∀ text ∈ text?, c ∉ text.toList) :
    c ∉ text?.elim [] String.toList := by
  cases text? with
  | none => exact List.not_mem_nil
  | some text => exact h text rfl

theorem ofWord?_class (htag : '.' ∉ tag) (value : List Char) :
    ofWord? (tag ++ '.' :: value) = some ⟨tagOf tag, some (String.ofList value), none⟩ := by
  rw [ofWord?, if_neg (by simp), splitFirst?_mark_iff.2 ⟨rfl, htag⟩]

example : ofWord? "div#a.b".toList = some ⟨some "div#a", some "b", none⟩ := by
  decide +kernel

theorem ofWord?_ident (htag : '.' ∉ tag) (hhash : '#' ∉ tag) (hvalue : '.' ∉ value) :
    ofWord? (tag ++ '#' :: value) = some ⟨tagOf tag, none, some (String.ofList value)⟩ := by
  have hdot : '.' ∉ tag ++ '#' :: value := by simp [htag, hvalue]
  rw [ofWord?, if_neg (by simp), splitFirst?_eq_none_of_not_mem hdot,
    splitFirst?_mark_iff.2 ⟨rfl, hhash⟩]

theorem ofWord?_tag (hword : word ≠ []) (hdot : '.' ∉ word) (hhash : '#' ∉ word) :
    ofWord? word = some ⟨tagOf word, none, none⟩ := by
  rw [ofWord?, if_neg (by simpa using hword), splitFirst?_eq_none_of_not_mem hdot,
    splitFirst?_eq_none_of_not_mem hhash, tagOf_of_ne_nil hword]

/-- The first dot decides, without one the first hash, and without either all is a tag. -/
theorem word_cases (word : List Char) :
    (∃ tag value, word = tag ++ '.' :: value ∧ '.' ∉ tag) ∨
      (∃ tag value, word = tag ++ '#' :: value ∧ '.' ∉ tag ∧ '#' ∉ tag ∧ '.' ∉ value) ∨
        ('.' ∉ word ∧ '#' ∉ word) := by
  by_cases hdot : '.' ∈ word
  · obtain ⟨tag, value, rfl, htag⟩ := List.eq_append_cons_of_mem hdot
    exact .inl ⟨tag, value, rfl, htag⟩
  · by_cases hhash : '#' ∈ word
    · obtain ⟨tag, value, rfl, htag⟩ := List.eq_append_cons_of_mem hhash
      simp only [List.mem_append, List.mem_cons, not_or] at hdot
      exact .inr (.inl ⟨tag, value, rfl, hdot.1, htag, hdot.2.2⟩)
    · exact .inr (.inr ⟨hdot, hhash⟩)

theorem exists_writable_ofWord? (hword : word ≠ []) :
    ∃ level, ofWord? word = some level ∧ level.written = word ∧ level.Writable := by
  obtain ⟨tag, value, rfl, htag⟩ | ⟨tag, value, rfl, htag, hhash, hvalue⟩ | ⟨hdot, hhash⟩ :=
    word_cases word
  · refine ⟨_, ofWord?_class htag value, ?_, .inr (.inl nofun), .inr rfl,
      tag_of_tagOf htag nofun, nofun⟩
    simp [written, elim_tagOf]
  · refine ⟨_, ofWord?_ident htag hhash hvalue, ?_, .inr (.inr nofun), .inl rfl,
      tag_of_tagOf htag fun _ => hhash, ?_⟩
    · simp [written, elim_tagOf]
    · rintro _ ⟨⟩
      rwa [String.toList_ofList]
  · refine ⟨_, ofWord?_tag hword hdot hhash, ?_, .inl ?_, .inl rfl,
      tag_of_tagOf hdot fun _ => hhash, nofun⟩
    · simp [written, elim_tagOf]
    · rw [tagOf_of_ne_nil hword]
      nofun

theorem Writable.ofWord?_written (h : level.Writable) : ofWord? level.written = some level := by
  obtain ⟨tag, className, ident⟩ := level
  obtain ⟨hasks, hsingle, htag, hident⟩ := h
  have htagOf : tagOf (tag.elim [] String.toList) = tag :=
    tagOf_elim fun text htext => (htag text htext).1
  have hdot : '.' ∉ tag.elim [] String.toList :=
    not_mem_elim fun text htext => (htag text htext).2.1
  cases className with
  | some value =>
      obtain rfl : ident = none := hsingle.resolve_left nofun
      simp [written, ofWord?_class hdot, htagOf]
  | none =>
      have hhash : '#' ∉ tag.elim [] String.toList :=
        not_mem_elim fun text htext => (htag text htext).2.2 rfl
      cases ident with
      | some value => simp [written, ofWord?_ident hdot hhash (hident value rfl), htagOf]
      | none =>
          obtain ⟨text, rfl⟩ : ∃ text, tag = some text :=
            Option.ne_none_iff_exists'.1 (by simpa using hasks)
          have hne : text.toList ≠ [] := mt String.toList_eq_nil_iff.1 (htag text rfl).1
          have hread := ofWord?_tag hne hdot hhash
          rw [Option.elim_some] at htagOf
          rw [htagOf] at hread
          simpa [written] using hread

theorem ofWord?_eq_some_iff :
    ofWord? word = some level ↔ level.written = word ∧ level.Writable := by
  constructor
  · intro h
    have hword : word ≠ [] := by
      rintro rfl
      cases h
    obtain ⟨read, hread, hwritten⟩ := exists_writable_ofWord? hword
    obtain rfl : read = level := Option.some.inj (hread.symm.trans h)
    exact hwritten
  · rintro ⟨rfl, h⟩
    exact h.ofWord?_written

theorem ofWord?_eq_none_iff : ofWord? word = none ↔ word = [] := by
  constructor
  · intro hnone
    by_contra hword
    obtain ⟨level, hlevel, -⟩ := exists_writable_ofWord? hword
    rw [hnone] at hlevel
    cases hlevel
  · rintro rfl
    rfl

theorem ofWord?_injective : Function.Injective ofWord? := by
  intro first second h
  cases hlevel : ofWord? first with
  | none =>
      have hsecond : ofWord? second = none := h ▸ hlevel
      rw [ofWord?_eq_none_iff.1 hlevel, ofWord?_eq_none_iff.1 hsecond]
  | some level =>
      rw [← (ofWord?_eq_some_iff.1 hlevel).1]
      exact (ofWord?_eq_some_iff.1 (h ▸ hlevel)).1

theorem matchesElement_tagOf {className ident : Option String} :
    matchesElement ⟨tagOf tag, className, ident⟩ e ↔
      matchesElement ⟨none, className, ident⟩ e ∧ (tag = [] ∨ String.ofList tag = e.name) := by
  cases tag with
  | nil => simp [tagOf]
  | cons c tag => simp [matchesElement, tagOf, and_assoc, and_comm]

/-- What a word asks for is its own text in parts: it can be written again, and an element matches
exactly if the parts are its name and its whole class or id. A class and an id are never asked for
by one word. -/
theorem ofWord?_faithful :
    (∀ word, ofWord? word = none ↔ word = []) ∧
      (∀ word level, ofWord? word = some level ↔ level.written = word ∧ level.Writable) ∧
      Function.Injective ofWord? ∧
      (∀ word, ∀ level ∈ ofWord? word, level.className = none ∨ level.ident = none) ∧
      ∀ (e : Element) (tag value : List Char), '.' ∉ tag → '#' ∉ tag →
        ((∃ level ∈ ofWord? (tag ++ '.' :: value), level.matchesElement e) ↔
          e.className? = some (String.ofList value) ∧ (tag = [] ∨ String.ofList tag = e.name)) ∧
        ('.' ∉ value →
          ((∃ level ∈ ofWord? (tag ++ '#' :: value), level.matchesElement e) ↔
            e.ident? = some (String.ofList value) ∧ (tag = [] ∨ String.ofList tag = e.name))) := by
  refine ⟨fun word => ofWord?_eq_none_iff, fun word level => ofWord?_eq_some_iff,
    ofWord?_injective, fun word level hlevel => (ofWord?_eq_some_iff.1 hlevel).2.single, ?_⟩
  intro e tag value htag hhash
  constructor
  · simp only [ofWord?_class htag, Option.mem_some_iff, exists_eq_left', matchesElement_tagOf]
    simp [matchesElement]
  · intro hvalue
    simp only [ofWord?_ident htag hhash hvalue, Option.mem_some_iff, exists_eq_left',
      matchesElement_tagOf]
    simp [matchesElement]

theorem ofWord?_faithful_aside :
    let e := Element.ofAttributes "p" [("class", "note#1.aside"), ("id", "#top")]
    (∃ level ∈ ofWord? "p.note#1.aside".toList, level.matchesElement e) ∧
      (∃ level ∈ ofWord? "##top".toList, level.matchesElement e) ∧
      ¬∃ level ∈ ofWord? "div#top".toList, level.matchesElement e := by
  intro e
  have haround := ofWord?_faithful.2.2.2.2 e
  exact ⟨(haround ['p'] "note#1.aside".toList (by decide) (by decide)).1.2 (by decide +kernel),
    ((haround [] "#top".toList (by decide) (by decide)).2 (by decide)).2 (by decide +kernel),
    fun h => absurd (((haround "div".toList "top".toList (by decide) (by decide)).2
      (by decide)).1 h) (by decide +kernel)⟩

end SelectorLevel

end FlatStyle
