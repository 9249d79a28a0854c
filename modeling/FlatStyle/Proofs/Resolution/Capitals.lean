import FlatStyle.Proofs.Resolution.Folding
import FlatStyle.Proofs.Resolution.Latest
import FlatStyle.Proofs.Session.Rules
import Mathlib.Data.List.Find

/-!
Elements with capitals in their names. Names are compared with their case and the tags of stored
rules have no capitals, so that only rules without a tag select such an element.
-/

namespace FlatStyle

open Text

def Text.Uncapitalized (s : String) : Prop := folded s.toList = s.toList

instance (s : String) : Decidable (Text.Uncapitalized s) := inferInstanceAs (Decidable (_ = _))

namespace Element

def renamed (e : Element) (name : String) : Element := { e with name }

def lowered (e : Element) : Element := e.renamed (String.ofList (folded e.name.toList))

theorem lowered_of_uncapitalized {e : Element} (h : Uncapitalized e.name) : e.lowered = e := by
  rw [lowered, h, String.ofList_toList]
  rfl

theorem lowered_renamed {e : Element} {name : String} (h : SameLetters e.name name) :
    (e.renamed name).lowered = e.lowered := by
  rw [lowered, lowered, sameLetters_iff.1 h]
  rfl

end Element

theorem SelectorLevel.tag_prefix {word : List Char} {level : SelectorLevel} {tag : String}
    (hlevel : ofWord? word = some level) (htag : level.tag = some tag) : tag.toList <+: word := by
  have hfront : ∀ front, tagOf front = some tag → front <+: word → tag.toList <+: word := by
    intro front hfront hword
    unfold tagOf at hfront
    split at hfront
    · cases hfront
    · cases hfront
      rwa [String.toList_ofList]
  unfold ofWord? at hlevel
  split at hlevel
  · cases hlevel
  · split at hlevel
    · rename_i front value hdot
      cases hlevel
      exact hfront front htag (prefix_of_splitFirst? hdot)
    · split at hlevel
      · rename_i front value hhash
        cases hlevel
        exact hfront front htag (prefix_of_splitFirst? hhash)
      · cases hlevel
        cases htag
        exact ⟨[], by rw [String.toList_ofList, List.append_nil]⟩

namespace Rule

def level? (r : Rule) : Option SelectorLevel :=
  (lastWord? r.selector.toList).bind SelectorLevel.ofWord?

/-- Whether the rule selects elements of any name. -/
def isUntagged (r : Rule) : Bool := r.level?.any (·.tag.isNone)

theorem selectorMatches_eq_any (r : Rule) (e : Element) :
    selectorMatches r.selector e = r.level?.any (·.matchesElement e) := by
  rw [selectorMatches, ← level?]
  cases r.level? <;> rfl

theorem selectorMatches_renamed {r : Rule} (h : r.isUntagged = true) (e : Element)
    (name : String) :
    selectorMatches r.selector (e.renamed name) = selectorMatches r.selector e := by
  obtain ⟨level, hlevel, htag⟩ := (Option.any_eq_true _ _).1 h
  rw [selectorMatches_eq_any, selectorMatches_eq_any, hlevel]
  simp only [Option.any_some, SelectorLevel.matchesElement, Option.isNone_iff_eq_none.1 htag]
  rfl

section Stored

variable {r : Rule} (h : r.Stored)

include h

theorem Stored.uncapitalized_tag {level : SelectorLevel} {tag : String}
    (hlevel : r.level? = some level) (htag : level.tag = some tag) : Uncapitalized tag := by
  obtain ⟨word, hword, hlevel⟩ := Option.bind_eq_some_iff.1 hlevel
  obtain ⟨-, -, before, after, hselector, -, -⟩ := lastWord?_eq_some_iff.1 hword
  refine folded_of_settled fun c hc => h.selector.settled c ?_
  have hmem : c ∈ word := (SelectorLevel.tag_prefix hlevel htag).subset hc
  rw [hselector]
  exact List.mem_append_left after (List.mem_append_right before hmem)

theorem Stored.isUntagged_of_matches {e : Element} (he : ¬ Uncapitalized e.name)
    (hmatches : selectorMatches r.selector e = true) : r.isUntagged = true := by
  rw [selectorMatches_eq_any] at hmatches
  obtain ⟨level, hlevel, hlevelMatches⟩ := (Option.any_eq_true _ _).1 hmatches
  refine (Option.any_eq_true _ _).2 ⟨level, hlevel, ?_⟩
  cases htag : level.tag with
  | none => rfl
  | some tag =>
      have hname : tag = e.name := by
        rw [SelectorLevel.matchesElement, htag, Bool.and_assoc, Bool.and_eq_true] at hlevelMatches
        exact beq_iff_eq.1 hlevelMatches.1
      have htagCase := h.uncapitalized_tag hlevel htag
      rw [hname] at htagCase
      exact absurd htagCase he

end Stored

end Rule

namespace StyleIndex

def untagged (index : StyleIndex) : StyleIndex := ⟨index.rules.filter Rule.isUntagged⟩

theorem newestMatch?_untagged_renamed (index : StyleIndex) (e : Element) (name : String) :
    index.untagged.newestMatch? (e.renamed name) = index.untagged.newestMatch? e := by
  refine congrArg (Option.map _) (List.find?_congr fun r hr => ?_)
  exact Rule.selectorMatches_renamed (List.mem_filter.1 (List.mem_reverse.1 hr)).2 e name

theorem newestMatch?_of_capitals {index : StyleIndex} (hindex : ∀ r ∈ index.rules, r.Stored)
    {e : Element} (he : ¬ Uncapitalized e.name) :
    index.newestMatch? e = index.untagged.newestMatch? e := by
  rw [newestMatch?, newestMatch?, untagged, ← List.filter_reverse, List.find?_filter]
  refine congrArg _ (List.find?_congr fun r hr => ?_)
  have hstored := hindex r (List.mem_reverse.1 hr)
  rw [Bool.eq_iff_iff, decide_eq_true_iff]
  exact (and_iff_right_of_imp (hstored.isUntagged_of_matches he)).symm

/-- An element with capitals in its name finds what the rules without a tag declare, and any other
element what its name in small letters finds. -/
theorem newestMatch?_eq_ite {index : StyleIndex} (hindex : ∀ r ∈ index.rules, r.Stored)
    (e : Element) :
    index.newestMatch? e =
      if Uncapitalized e.name then index.newestMatch? e.lowered
      else index.untagged.newestMatch? e.lowered := by
  split
  · rename_i he
    rw [Element.lowered_of_uncapitalized he]
  · rename_i he
    rw [newestMatch?_of_capitals hindex he, Element.lowered, newestMatch?_untagged_renamed]

end StyleIndex

namespace Session

/-- By the rules of any history, the case of an element's name makes no difference exactly if both
spellings have capitals or neither has, or if the rule found for the name in small letters could as
well be found among those without a tag. -/
theorem resolve_recased (echoing : Bool) (history : List Command) (path : List Element)
    (e : Element) (name : String) (h : SameLetters e.name name) :
    let index := ((start echoing).run history).index
    index.resolve e.name (path ++ [e]) =
      .ok (if Uncapitalized e.name then index.newestMatch? e.lowered
        else index.untagged.newestMatch? e.lowered) ∧
    (index.resolve name (path ++ [e.renamed name]) = index.resolve e.name (path ++ [e]) ↔
      (Uncapitalized name ↔ Uncapitalized e.name) ∨
        index.untagged.newestMatch? e.lowered = index.newestMatch? e.lowered) := by
  intro index
  have hindex : ∀ r ∈ index.rules, r.Stored := stored_rules_run echoing history
  have hrenamed : index.resolve name (path ++ [e.renamed name]) =
      .ok (index.newestMatch? (e.renamed name)) := index.resolve_concat path (e.renamed name)
  have hname : (e.renamed name).name = name := rfl
  have hown : index.resolve e.name (path ++ [e]) = .ok (index.newestMatch? e) :=
    index.resolve_concat path e
  rw [hrenamed, hown, StyleIndex.newestMatch?_eq_ite hindex (e.renamed name),
    StyleIndex.newestMatch?_eq_ite hindex e, Element.lowered_renamed h, hname]
  refine ⟨rfl, ?_⟩
  by_cases hnew : Uncapitalized name
  · by_cases hold : Uncapitalized e.name
    · simp [hnew, hold]
    · simp [hnew, hold, eq_comm]
  · by_cases hold : Uncapitalized e.name
    · simp [hnew, hold]
    · simp [hnew, hold]

def tagRules : List Command :=
  [.addText "p\x7bcolor:red\x7dlinearGradient\x7bcolor:blue\x7d.note\x7btop:1px\x7d"]

/-- A note is found by its class under either name. -/
theorem tagRules_note :
    SameLetters "p" "P" ∧
      ((start false).run tagRules).index.resolve "P" [.ofAttributes "P" [("class", "note")]] =
        ((start false).run tagRules).index.resolve "p" [.ofAttributes "p" [("class", "note")]] := by
  have hletters : SameLetters "p" "P" := by decide
  refine ⟨hletters, ?_⟩
  have hiff := (resolve_recased false tagRules [] (.ofAttributes "p" [("class", "note")]) "P"
    hletters).2
  exact hiff.2 (.inr (by decide +kernel))

/-- A rule for a tag is not found under a name with capitals, even if its text spells the tag so. -/
theorem tagRules_capitals :
    let index := ((start false).run tagRules).index
    (SameLetters "p" "P" ∧
      index.resolve "p" [.ofAttributes "p" []] = .ok (some "color:red") ∧
      index.resolve "P" [.ofAttributes "P" []] = .ok none) ∧
    (SameLetters "lineargradient" "linearGradient" ∧
      index.resolve "lineargradient" [.ofAttributes "lineargradient" []] =
        .ok (some "color:blue") ∧
      index.resolve "linearGradient" [.ofAttributes "linearGradient" []] = .ok none) := by
  intro index
  have hresolve : ∀ (name : String) (found : Option String),
      index.newestMatch? (.ofAttributes name []) = found →
        index.resolve name [.ofAttributes name []] = .ok found := by
    rintro name _ rfl
    exact index.resolve_concat [] (.ofAttributes name [])
  refine ⟨⟨by decide, hresolve _ _ ?_, hresolve _ _ ?_⟩,
    ⟨by decide, hresolve _ _ ?_, hresolve _ _ ?_⟩⟩
  all_goals decide +kernel

end Session

end FlatStyle
