import FlatStyle.Proofs.Resolution.Match
import FlatStyle.Proofs.Stylesheet.Block
import FlatStyle.Session

namespace FlatStyle

open Text

/-- Whether a block with this list of selectors is found by the element. -/
structure Rule.Reaches (selectors declaration : List Char) (e : Element) : Prop where
  listed : ¬ Blank selectors
  declared : ¬ Blank declaration
  selected : ∃ fragment ∈ Rule.fragments selectors, ∃ word level, LastWord fragment word ∧
    SelectorLevel.ofWord? word = some level ∧ level.matchesElement e = true

theorem Rule.exists_selects_iff {selectors declaration : List Char} {e : Element} :
    (∃ rule ∈ ofBlock selectors declaration, rule.Selects e) ↔ Reaches selectors declaration e := by
  constructor
  · rintro ⟨rule, hrule, hselects⟩
    obtain ⟨hdeclaration, fragment, hfragment, rfl⟩ := mem_ofBlock.1 hrule
    rw [Selects, String.toList_ofList] at hselects
    refine ⟨fun hblank => ?_, hdeclaration, fragment, hfragment, hselects⟩
    rw [fragments_eq_nil (lower_eq_nil_iff.2 (trim_eq_nil_iff.2 hblank))] at hfragment
    cases hfragment
  · rintro ⟨-, hdeclaration, fragment, hfragment, hselects⟩
    refine ⟨_, mem_ofBlock.2 ⟨hdeclaration, fragment, hfragment, rfl⟩, ?_⟩
    rw [Selects, String.toList_ofList]
    exact hselects

namespace StyleIndex

theorem newestMatch?_append (earlier later : List Rule) (e : Element) :
    newestMatch? ⟨earlier ++ later⟩ e = (newestMatch? ⟨later⟩ e).or (newestMatch? ⟨earlier⟩ e) := by
  rw [newestMatch?, List.reverse_append, List.find?_append, Option.map_or]
  rfl

theorem resolve_concat (index : StyleIndex) (path : List Element) (e : Element) :
    index.resolve e.name (path ++ [e]) = .ok (index.newestMatch? e) := by
  rw [resolve, List.getLast?_concat]
  exact if_pos rfl

theorem newestMatch?_ofBlock {selectors declaration : List Char} {e : Element}
    (h : Rule.Reaches selectors declaration e) :
    newestMatch? ⟨Rule.ofBlock selectors declaration⟩ e =
      some (String.ofList (lower (trim declaration))) := by
  have hmatch := lastMatch_newestMatch? ⟨Rule.ofBlock selectors declaration⟩ e
  cases hfound : newestMatch? ⟨Rule.ofBlock selectors declaration⟩ e with
  | none =>
      rw [hfound] at hmatch
      obtain ⟨rule, hrule, hselects⟩ := Rule.exists_selects_iff.2 h
      exact absurd hselects (hmatch rule hrule)
  | some found =>
      rw [hfound] at hmatch
      obtain ⟨earlier, rule, later, hrules, -, rfl, -⟩ := hmatch
      have hrule : rule ∈ (⟨Rule.ofBlock selectors declaration⟩ : StyleIndex).rules := by
        rw [hrules]
        exact List.mem_append_right _ List.mem_cons_self
      obtain ⟨-, fragment, -, rfl⟩ := Rule.mem_ofBlock.1 hrule
      rfl

theorem newestMatch?_ofBlock_eq_none {selectors declaration : List Char} {e : Element}
    (h : ¬ Rule.Reaches selectors declaration e) :
    newestMatch? ⟨Rule.ofBlock selectors declaration⟩ e = none := by
  have hmiss : LastMatch ⟨Rule.ofBlock selectors declaration⟩ e none := fun rule hrule hselects =>
    h (Rule.exists_selects_iff.1 ⟨rule, hrule, hselects⟩)
  exact hmiss.unique.symm

end StyleIndex

namespace Session

/-- After a text is added, an element finds what it finds in that text alone, and what it found
before where that is nothing. After a block is registered it finds the block, or what it found
before. -/
theorem resolve_latest (s : Session) (path : List Element) (e : Element) :
    (∀ css : String, ∃ found earlier,
      (s.reset.addText css).index.resolve e.name (path ++ [e]) = .ok found ∧
      s.index.resolve e.name (path ++ [e]) = .ok earlier ∧
      (s.addText css).index.resolve e.name (path ++ [e]) = .ok (found.or earlier)) ∧
    ∀ selectors declaration : String,
      (Rule.Reaches selectors.toList declaration.toList e ∧
        (s.register selectors declaration).index.resolve e.name (path ++ [e]) =
          .ok (some (String.ofList (lower (trim declaration.toList))))) ∨
      (¬ Rule.Reaches selectors.toList declaration.toList e ∧
        (s.register selectors declaration).index.resolve e.name (path ++ [e]) =
          s.index.resolve e.name (path ++ [e])) := by
  refine ⟨fun css => ?_, fun selectors declaration => ?_⟩
  · refine ⟨_, _, StyleIndex.resolve_concat _ path e, StyleIndex.resolve_concat _ path e, ?_⟩
    rw [StyleIndex.resolve_concat]
    exact congrArg Except.ok (StyleIndex.newestMatch?_append _ _ e)
  · have hregister : (s.register selectors declaration).index.newestMatch? e =
        (StyleIndex.newestMatch? ⟨Rule.ofBlock selectors.toList declaration.toList⟩ e).or
          (s.index.newestMatch? e) := StyleIndex.newestMatch?_append _ _ e
    rw [StyleIndex.resolve_concat, StyleIndex.resolve_concat, hregister]
    by_cases hreaches : Rule.Reaches selectors.toList declaration.toList e
    · left
      rw [StyleIndex.newestMatch?_ofBlock hreaches]
      exact ⟨hreaches, rfl⟩
    · right
      rw [StyleIndex.newestMatch?_ofBlock_eq_none hreaches]
      exact ⟨hreaches, rfl⟩

end Session

end FlatStyle
