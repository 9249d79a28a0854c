import FlatStyle.Proofs.Resolution.Capitals
import FlatStyle.Proofs.Selector.Word
import FlatStyle.Proofs.SortedMap.Keys

/-!
Elements with a class or an id that no selector can spell. Stored selectors are in lower case and
their words hold no blank, so that such an attribute is as good as none; any other class or id is
found by some rule.
-/

namespace FlatStyle

open Text

namespace Element

def without (e : Element) (key : String) : Element :=
  { e with attributes := e.attributes.erase key }

@[simp] theorem attribute?_without (e : Element) (key key' : String) :
    (e.without key).attribute? key' = if key' = key then none else e.attribute? key' :=
  SortedMap.get?_erase e.attributes key key'

end Element

namespace SelectorLevel

variable {level : SelectorLevel} {key value : String}

def asked (level : SelectorLevel) : List (String × String) :=
  level.className.toList.map ("class", ·) ++ level.ident.toList.map ("id", ·)

theorem mem_asked : (key, value) ∈ level.asked ↔
    key = "class" ∧ level.className = some value ∨ key = "id" ∧ level.ident = some value := by
  simp [asked, and_comm, eq_comm]

theorem matchesElement_eq (level : SelectorLevel) (e : Element) :
    level.matchesElement e = (level.tag.all (· == e.name) &&
      level.asked.all fun asked => e.attribute? asked.1 == some asked.2) := by
  obtain ⟨tag, className, ident⟩ := level
  cases className <;> cases ident <;>
    simp [matchesElement, asked, Element.className?, Element.ident?, Bool.and_assoc]

theorem subset_written (h : (key, value) ∈ level.asked) : value.toList ⊆ level.written := by
  intro c hc
  rcases mem_asked.1 h with ⟨-, hclass⟩ | ⟨-, hident⟩
  · simp [written, hclass, hc]
  · simp [written, hident, hc]

end SelectorLevel

/-- The values of an attribute that stand in the last word of some stored selector. -/
structure Spellable (key value : String) : Prop where
  key : key = "class" ∨ key = "id" ∧ '.' ∉ value.toList
  settled : ∀ c ∈ value.toList, Settled c
  unblank : ∀ c ∈ value.toList, isBlank c = false
  comma : ',' ∉ value.toList

namespace Spellable

variable {key value : String}

theorem exists_level (h : Spellable key value) :
    ∃ (level : SelectorLevel) (c : Char), level.tag = none ∧ level.asked = [(key, value)] ∧
      level.written = c :: value.toList ∧ (c = '.' ∨ c = '#') ∧ level.Writable := by
  rcases h.key with rfl | ⟨rfl, hdot⟩
  · exact ⟨⟨none, some value, none⟩, '.', rfl, rfl, List.append_nil _, .inl rfl,
      .inr (.inl nofun), .inr rfl, nofun, nofun⟩
  · refine ⟨⟨none, none, some value⟩, '#', rfl, rfl, rfl, .inr rfl, .inr (.inr nofun), .inl rfl,
      nofun, ?_⟩
    rintro _ ⟨⟩
    exact hdot

theorem not_of_mem {c : Char} (hc : c ∈ value.toList)
    (hunspelled : isBlank c = true ∨ c.isUpper = true) : ¬ Spellable key value := by
  intro h
  rcases hunspelled with hblank | hupper
  · rw [h.unblank c hc] at hblank
    cases hblank
  · have hrange : 0x41 ≤ c.toNat ∧ c.toNat ≤ 0x5A :=
      (of_decide_eq_true hupper).imp UInt32.le_iff_toNat_le.1 UInt32.le_iff_toNat_le.1
    have hlower := toNat_toLower hrange.1 hrange.2
    rw [toLower_of_settled (h.settled c hc)] at hlower
    omega

end Spellable

section Without

variable {r : Rule} {e : Element} {key value : String}

theorem Rule.Stored.spellable (h : r.Stored) {level : SelectorLevel}
    (hlevel : r.level? = some level) (hasked : (key, value) ∈ level.asked) :
    Spellable key value := by
  obtain ⟨word, hword, hlevel⟩ := Option.bind_eq_some_iff.1 hlevel
  obtain ⟨-, hunblank, before, after, hselector, -, -⟩ := lastWord?_eq_some_iff.1 hword
  obtain ⟨hwritten, hwritable⟩ := SelectorLevel.ofWord?_eq_some_iff.1 hlevel
  have hvalue : value.toList ⊆ word := by
    rw [← hwritten]
    exact SelectorLevel.subset_written hasked
  have hword : word ⊆ r.selector.toList := by
    rw [hselector]
    exact List.subset_append_of_subset_left after (List.subset_append_right before word)
  refine ⟨?_, ?_, ?_, ?_⟩
  · rcases SelectorLevel.mem_asked.1 hasked with ⟨rfl, -⟩ | ⟨rfl, hident⟩
    · exact .inl rfl
    · exact .inr ⟨rfl, hwritable.ident value hident⟩
  · exact fun c hc => h.selector.settled c (hword (hvalue hc))
  · exact fun c hc => hunblank c (hvalue hc)
  · exact fun hc => h.comma (hword (hvalue hc))

theorem Rule.Stored.selectorMatches_without (h : r.Stored) (hvalue : e.attribute? key = some value)
    (hunspelled : ¬ Spellable key value) :
    selectorMatches r.selector (e.without key) = selectorMatches r.selector e := by
  rw [Rule.selectorMatches_eq_any, Rule.selectorMatches_eq_any]
  cases hlevel : r.level? with
  | none => rfl
  | some level =>
      rw [Option.any_some, Option.any_some, SelectorLevel.matchesElement_eq,
        SelectorLevel.matchesElement_eq]
      refine congrArg (level.tag.all (· == e.name) && ·) ?_
      rw [Bool.eq_iff_iff, List.all_eq_true, List.all_eq_true]
      refine forall₂_congr fun asked hasked => ?_
      obtain ⟨askedKey, askedValue⟩ := asked
      rw [Element.attribute?_without]
      split
      · rename_i hkey
        dsimp only at hkey
        subst hkey
        have hother : value ≠ askedValue := by
          rintro rfl
          exact hunspelled (h.spellable hlevel hasked)
        rw [hvalue]
        simp [hother]
      · rfl

theorem StyleIndex.newestMatch?_without {index : StyleIndex} (hindex : ∀ r ∈ index.rules, r.Stored)
    (hvalue : e.attribute? key = some value) (hunspelled : ¬ Spellable key value) :
    index.newestMatch? (e.without key) = index.newestMatch? e := by
  refine congrArg (Option.map _) (List.find?_congr fun r hr => ?_)
  exact (hindex r (List.mem_reverse.1 hr)).selectorMatches_without hvalue hunspelled

end Without

namespace Spellable

variable {e : Element} {key value : String}

theorem exists_reaches (h : Spellable key value) :
    ∃ selectors : String, ∀ e : Element,
      Rule.Reaches selectors.toList ['x'] e ↔ e.attribute? key = some value := by
  obtain ⟨level, c, htag, hasked, hwritten, hc, hwritable⟩ := h.exists_level
  have hunblank : ∀ d ∈ level.written, isBlank d = false := by
    rw [hwritten, List.forall_mem_cons]
    refine ⟨?_, h.unblank⟩
    rcases hc with rfl | rfl <;> rfl
  have hne : level.written ≠ [] := by
    rw [hwritten]
    exact List.cons_ne_nil _ _
  have hnormal : Text.Normal level.written := by
    refine ⟨hne, ⟨?_, ?_⟩, ?_⟩
    · exact fun d hd => hunblank d (List.mem_of_mem_head? hd)
    · exact fun d hd => hunblank d (List.mem_of_mem_getLast? hd)
    · rw [hwritten, List.forall_mem_cons]
      refine ⟨?_, h.settled⟩
      rcases hc with rfl | rfl <;> exact settled_of_ascii (by decide) (by decide)
  have hcomma : ',' ∉ level.written := by
    rw [hwritten, List.mem_cons, not_or]
    refine ⟨?_, h.comma⟩
    rcases hc with rfl | rfl <;> decide
  have hfragments : Rule.fragments level.written = [level.written] := by
    simpa using Rule.fragments_margins hnormal hcomma blank_nil blank_nil
  have hlevel : SelectorLevel.ofWord? level.written = some level := hwritable.ofWord?_written
  have hmatches (e : Element) : level.matchesElement e = true ↔
      e.attribute? key = some value := by
    rw [SelectorLevel.matchesElement_eq, htag, hasked]
    simp
  refine ⟨String.ofList level.written, fun e => ?_⟩
  rw [String.toList_ofList, ← hmatches e]
  constructor
  · rintro ⟨-, -, fragment, hfragment, word, found, hword, hword', he⟩
    rw [hfragments, List.mem_singleton] at hfragment
    subst hfragment
    have hself := lastWord?_eq_some_iff.2 (lastWord_self hne hunblank)
    rw [lastWord?_eq_some_iff.2 hword] at hself
    cases hself
    rw [hlevel] at hword'
    cases hword'
    exact he
  · intro he
    refine ⟨fun hblank => ?_, ?_, level.written, ?_, ?_⟩
    · rw [← trim_eq_nil_iff, hnormal.trim_eq] at hblank
      exact hne hblank
    · exact fun hblank => absurd (hblank 'x' List.mem_cons_self) (by decide)
    · rw [hfragments]
      exact List.mem_singleton_self _
    · exact ⟨level.written, level, lastWord_self hne hunblank, hlevel, he⟩

theorem exists_newestMatch?_ne (h : Spellable key value) (hvalue : e.attribute? key = some value) :
    ∃ selectors : String,
      StyleIndex.newestMatch? ⟨Rule.ofBlock selectors.toList ['x']⟩ (e.without key) ≠
        StyleIndex.newestMatch? ⟨Rule.ofBlock selectors.toList ['x']⟩ e := by
  obtain ⟨selectors, hreaches⟩ := h.exists_reaches
  have hmissed : ¬ Rule.Reaches selectors.toList ['x'] (e.without key) := by
    rw [hreaches, Element.attribute?_without, if_pos rfl]
    exact nofun
  refine ⟨selectors, ?_⟩
  rw [StyleIndex.newestMatch?_ofBlock ((hreaches e).2 hvalue),
    StyleIndex.newestMatch?_ofBlock_eq_none hmissed]
  exact nofun

end Spellable

namespace Session

/-- An element whose class holds a blank or a capital finds what it finds without its class, by the
rules of any history, and so with its id. The values for which this is so are exactly those that no
selector can spell. -/
theorem resolve_without (path : List Element) (e : Element) {key value : String}
    (hvalue : e.attribute? key = some value) :
    ((∃ c ∈ value.toList, isBlank c = true ∨ c.isUpper = true) →
      ∀ (echoing : Bool) (history : List Command) (name : String),
        ((start echoing).run history).index.resolve name (path ++ [e.without key]) =
          ((start echoing).run history).index.resolve name (path ++ [e])) ∧
    (¬ Spellable key value ↔ ∀ (echoing : Bool) (history : List Command) (name : String),
      ((start echoing).run history).index.resolve name (path ++ [e.without key]) =
        ((start echoing).run history).index.resolve name (path ++ [e])) := by
  have hignored (h : ¬ Spellable key value) (echoing : Bool) (history : List Command)
      (name : String) :
      ((start echoing).run history).index.resolve name (path ++ [e.without key]) =
        ((start echoing).run history).index.resolve name (path ++ [e]) := by
    rw [StyleIndex.resolve, StyleIndex.resolve, List.getLast?_concat, List.getLast?_concat]
    dsimp only
    rw [StyleIndex.newestMatch?_without (stored_rules_run echoing history) hvalue h]
    rfl
  refine ⟨?_, hignored, ?_⟩
  · rintro ⟨c, hc, hunspelled⟩
    exact hignored (Spellable.not_of_mem hc hunspelled)
  · intro hsame hspellable
    obtain ⟨selectors, hne⟩ := hspellable.exists_newestMatch?_ne hvalue
    have hequal := hsame false [.register selectors "x"] e.name
    have hown : (e.without key).name = e.name := rfl
    rw [StyleIndex.resolve_concat, ← hown, StyleIndex.resolve_concat] at hequal
    exact hne (Except.ok.inj hequal)

/-- The class has both a blank and a capital, the id neither. -/
theorem resolve_without_bigNote :
    let e := Element.ofAttributes "p" [("class", "Big note"), ("id", "top")]
    let history : List Command := [.addText "p\x7bcolor:red\x7d.big note\x7bcolor:blue\x7d"]
    e.attribute? "class" = some "Big note" ∧
      (∃ c ∈ "Big note".toList, isBlank c = true ∨ c.isUpper = true) ∧
      ((start false).run history).index.resolve "p" [e.without "class"] =
        ((start false).run history).index.resolve "p" [e] ∧
      e.attribute? "id" = some "top" ∧
      ¬ ∀ (echoing : Bool) (history : List Command) (name : String),
        ((start echoing).run history).index.resolve name [e.without "id"] =
          ((start echoing).run history).index.resolve name [e] := by
  intro e history
  have hclass : e.attribute? "class" = some "Big note" := rfl
  have hbig : ∃ c ∈ "Big note".toList, isBlank c = true ∨ c.isUpper = true :=
    ⟨' ', by decide, .inl rfl⟩
  have hid : e.attribute? "id" = some "top" := rfl
  have htop : Spellable "id" "top" := by
    have hsmall : "top".toList.all Char.isLower = true := by decide
    have hlower := List.all_eq_true.1 hsmall
    have hrange : ∀ c ∈ "top".toList, 0x61 ≤ c.toNat ∧ c.toNat ≤ 0x7A :=
      fun c hc => isLower_iff_toNat.1 (hlower c hc)
    refine ⟨.inr ⟨rfl, by decide⟩, fun c hc => ?_, fun c hc => ?_, by decide⟩
    · have hascii := hrange c hc
      exact settled_of_ascii (by omega) (toLower_eq_self_of_isLower (hlower c hc))
    · have hletter := hrange c hc
      exact isBlank_eq_false_of_letter (by omega) hletter.2
  refine ⟨hclass, hbig, (resolve_without [] e hclass).1 hbig false history "p", hid, ?_⟩
  exact fun hsame => (resolve_without [] e hid).2.2 hsame htop

end Session

end FlatStyle
