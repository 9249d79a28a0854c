import FlatStyle.Proofs.Text.Split
import FlatStyle.Resolution

namespace FlatStyle

open Text

/-- The last word of the selector reads as a level that the element has. -/
def Rule.Selects (rule : Rule) (e : Element) : Prop :=
  ∃ word level, LastWord rule.selector.toList word ∧ SelectorLevel.ofWord? word = some level ∧
    level.matchesElement e = true

theorem selectorMatches_iff {rule : Rule} {e : Element} :
    selectorMatches rule.selector e = true ↔ rule.Selects e := by
  unfold selectorMatches
  constructor
  · intro h
    split at h
    · rename_i level hlevel
      obtain ⟨word, hword, hlevel⟩ := Option.bind_eq_some_iff.1 hlevel
      exact ⟨word, level, lastWord?_eq_some_iff.1 hword, hlevel, h⟩
    · cases h
  · rintro ⟨word, level, hword, hlevel, h⟩
    rw [lastWord?_eq_some_iff.2 hword, Option.bind_some, hlevel]
    exact h

section Traits

variable {e f : Element} (hname : e.name = f.name) (hclass : e.className? = f.className?)
  (hident : e.ident? = f.ident?)

include hname hclass hident

theorem selectorMatches_congr (selector : String) :
    selectorMatches selector e = selectorMatches selector f := by
  simp only [selectorMatches, SelectorLevel.matchesElement, hname, hclass, hident]

theorem StyleIndex.newestMatch?_congr (index : StyleIndex) :
    index.newestMatch? e = index.newestMatch? f := by
  simp only [newestMatch?, selectorMatches_congr hname hclass hident]

end Traits

namespace StyleIndex

/-- What the last rule that selects the element declares. -/
def LastMatch (index : StyleIndex) (e : Element) : Option String → Prop
  | none => ∀ rule ∈ index.rules, ¬ rule.Selects e
  | some declaration => ∃ earlier rule later, index.rules = earlier ++ rule :: later ∧
      rule.Selects e ∧ rule.declaration = declaration ∧ ∀ newer ∈ later, ¬ newer.Selects e

theorem lastMatch_newestMatch? (index : StyleIndex) (e : Element) :
    index.LastMatch e (index.newestMatch? e) := by
  unfold newestMatch?
  cases hfind : index.rules.reverse.find? fun rule => selectorMatches rule.selector e with
  | none =>
      intro rule hrule hselects
      have hnone := List.find?_eq_none.1 hfind rule (List.mem_reverse.2 hrule)
      exact hnone (selectorMatches_iff.2 hselects)
  | some rule =>
      obtain ⟨hrule, newer, older, hrules, hnewer⟩ := List.find?_eq_some_iff_append.1 hfind
      refine ⟨older.reverse, rule, newer.reverse, ?_, selectorMatches_iff.1 hrule, rfl, ?_⟩
      · have hreverse := congrArg List.reverse hrules
        rw [List.reverse_reverse, List.reverse_append, List.reverse_cons] at hreverse
        rw [hreverse, List.append_assoc, List.singleton_append]
      · intro other hother hselects
        have hfalse := hnewer other (List.mem_reverse.1 hother)
        rw [selectorMatches_iff.2 hselects] at hfalse
        cases hfalse

theorem LastMatch.unique {index : StyleIndex} {e : Element} {sheet : Option String}
    (h : index.LastMatch e sheet) : sheet = index.newestMatch? e := by
  cases sheet with
  | none =>
      have hnone : index.rules.reverse.find? (fun rule => selectorMatches rule.selector e) = none :=
        List.find?_eq_none.2 fun rule hrule =>
          mt selectorMatches_iff.1 (h rule (List.mem_reverse.1 hrule))
      rw [newestMatch?, hnone, Option.map_none]
  | some declaration =>
      obtain ⟨earlier, rule, later, hrules, hrule, rfl, hlater⟩ := h
      have hsome : index.rules.reverse.find? (fun rule => selectorMatches rule.selector e) =
          some rule := by
        refine List.find?_eq_some_iff_append.2
          ⟨selectorMatches_iff.2 hrule, later.reverse, earlier.reverse, ?_, ?_⟩
        · rw [hrules, List.reverse_append, List.reverse_cons, List.append_assoc,
            List.singleton_append]
        · intro newer hnewer
          have hfalse := mt selectorMatches_iff.1 (hlater newer (List.mem_reverse.1 hnewer))
          rw [Bool.eq_false_iff.2 hfalse]
          rfl
      rw [newestMatch?, hsome, Option.map_some]

end StyleIndex

end FlatStyle
