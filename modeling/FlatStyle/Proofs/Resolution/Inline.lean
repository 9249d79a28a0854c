import FlatStyle.Proofs.Declaration.Normalization
import FlatStyle.Proofs.Resolution.Styles
import FlatStyle.Proofs.Stylesheet.Block
import FlatStyle.Proofs.Stylesheet.Comment
import FlatStyle.Proofs.Stylesheet.Reading

namespace FlatStyle

open Text Stylesheet

/-- A tag as a selector spells it: one or more small ASCII letters. -/
structure TagName (tag : List Char) : Prop where
  ne_nil : tag ≠ []
  letters : ∀ c ∈ tag, c.isLower = true

namespace TagName

variable {tag : List Char}

theorem not_mem (h : TagName tag) {c : Char} (hc : c.isLower = false) : c ∉ tag := by
  intro hmem
  rw [h.letters c hmem] at hc
  cases hc

theorem isBlank_eq_false (h : TagName tag) : ∀ c ∈ tag, isBlank c = false := by
  intro c hc
  have hletter := isLower_iff_toNat.1 (h.letters c hc)
  exact isBlank_eq_false_of_letter (by omega) hletter.2

theorem normal (h : TagName tag) : Text.Normal tag where
  ne_nil := h.ne_nil
  trimmed := ⟨fun c hc => h.isBlank_eq_false c (List.mem_of_mem_head? hc),
    fun c hc => h.isBlank_eq_false c (List.mem_of_mem_getLast? hc)⟩
  settled := by
    intro c hc
    have hletter := isLower_iff_toNat.1 (h.letters c hc)
    exact settled_of_ascii (by omega) (toLower_eq_self_of_isLower (h.letters c hc))

theorem uncommented (h : TagName tag) : Uncommented tag :=
  uncommented_of_not_mem (h.not_mem (by decide))

theorem lastWord (h : TagName tag) : LastWord tag tag := lastWord_self h.ne_nil h.isBlank_eq_false

theorem selects (h : TagName tag) (declaration : String) {e : Element} (he : e.name.toList = tag) :
    Rule.Selects ⟨String.ofList tag, declaration⟩ e := by
  refine ⟨tag, ⟨some (String.ofList tag), none, none⟩, ?_, ?_, ?_⟩
  · rw [String.toList_ofList]
    exact h.lastWord
  · rw [SelectorLevel.ofWord?, if_neg (by simpa using h.ne_nil),
      splitFirst?_eq_none_of_not_mem (h.not_mem (by decide)),
      splitFirst?_eq_none_of_not_mem (h.not_mem (by decide))]
  · simp [SelectorLevel.matchesElement, ← he]

end TagName

section OneRule

variable {tag text : List Char}

def onePiece (htag : TagName tag) (hclosed : '}' ∉ text) : Piece where
  kind := .rule
  front := tag
  body := text
  unmarked := ⟨htag.not_mem (by decide), htag.not_mem (by decide)⟩
  unclosed := hclosed

theorem rules_oneRule (htag : TagName tag) (hclosed : '}' ∉ text) (hcomment : Uncommented text) :
    (Sheet.ofText (tag ++ '{' :: (text ++ ['}']))).rules =
      if 2 < utf8Length text ∧ ¬ Blank text then
        [⟨String.ofList tag, String.ofList (lower (trim text))⟩] else [] := by
  have hstrip : stripComments (tag ++ '{' :: (text ++ ['}'])) = tag ++ '{' :: (text ++ ['}']) := by
    refine stripComments_eq_self (htag.uncommented.append_cons ?_ (by decide) (by decide))
    exact hcomment.append_cons uncommented_nil (by decide) (by decide)
  have hpiece : tag ++ '{' :: (text ++ ['}']) = (onePiece htag hclosed).chars ++ [] := by
    simp [onePiece, Piece.chars, Piece.openChars, ItemKind.opener, ItemKind.closer]
  have hblock : (onePiece htag hclosed).isBlock = decide (2 < utf8Length text) := by
    simp [Piece.isBlock, onePiece]
  have hfragments : Rule.fragments tag = [tag] := by
    simpa using Rule.fragments_margins htag.normal (htag.not_mem (by decide)) blank_nil blank_nil
  have hrules : (onePiece htag hclosed).item.rules =
      if 2 < utf8Length text then Rule.ofBlock tag text else [] := by
    rw [Piece.rules_item, hblock]
    simp only [decide_eq_true_eq]
    rfl
  rw [Sheet.ofText, hstrip, hpiece, Sheet.ofBare_piece, Sheet.rules_append,
    Sheet.ofBare_unmarked ⟨List.not_mem_nil, List.not_mem_nil⟩]
  refine (List.append_nil _).trans (hrules.trans ?_)
  by_cases hblank : Blank text
  · simp [Rule.ofBlock_eq_nil tag hblank, hblank]
  · simp [Rule.ofBlock_eq_map tag hblank, hblank, hfragments]

end OneRule

theorem declare_eq_self {map : PropertyMap} {text : String}
    (h : ∀ declaration ∈ Declaration.ofText text, declaration.writes = []) :
    map.declare text = map := by
  rw [PropertyMap.declare_eq_insertAll, Declaration.writesOf, List.flatMap_eq_nil_iff.2 h]
  rfl

theorem declare_normalized (map : PropertyMap) {text : String} (hsigma : 'Σ' ∉ text.toList) :
    map.declare (String.ofList (lower (trim text.toList))) = map.declare text := by
  rw [PropertyMap.declare, Declaration.ofText, String.toList_ofList,
    Declaration.ofChars_normalized hsigma]
  rfl

namespace Session

variable {tag text : String} {e : Element}

theorem resolveTexts_oneRule (s : Session) (htag : TagName tag.toList) (hclosed : '}' ∉ text.toList)
    (hcomment : Uncommented text.toList) (hsigma : 'Σ' ∉ text.toList) (he : e.name = tag) :
    resolveTexts ((s.readText (tag ++ "\x7b" ++ text ++ "\x7d")).index.newestMatch? e) none =
      PropertyMap.declare ∅ text := by
  have hrules := rules_oneRule htag hclosed hcomment
  have hchars : (tag ++ "\x7b" ++ text ++ "\x7d").toList =
      tag.toList ++ '{' :: (text.toList ++ ['}']) := by simp
  rw [← hchars] at hrules
  have hindex : (s.readText (tag ++ "\x7b" ++ text ++ "\x7d")).index =
      ⟨(Sheet.ofText (tag ++ "\x7b" ++ text ++ "\x7d").toList).rules⟩ := rfl
  rw [hindex, hrules]
  split
  · have hmatch : StyleIndex.LastMatch
        ⟨[⟨String.ofList tag.toList, String.ofList (lower (trim text.toList))⟩]⟩ e
        (some (String.ofList (lower (trim text.toList)))) :=
      ⟨[], _, [], rfl, htag.selects _ (congrArg String.toList he), rfl, nofun⟩
    rw [← hmatch.unique]
    exact declare_normalized ∅ hsigma
  -- The rule is left out where the text is blank or too short to name a property.
  · rename_i hsilent
    refine (declare_eq_self fun declaration hdeclaration => ?_).symm
    by_cases hblank : Blank text.toList
    · rw [Declaration.ofText, Declaration.ofChars_blank hblank] at hdeclaration
      cases hdeclaration
    · have hshort : utf8Length text.toList ≤ 2 := Nat.not_lt.1 fun hlong => hsilent ⟨hlong, hblank⟩
      exact Declaration.writes_eq_nil_of_length
        ((length_le_utf8Length _).trans hshort) hdeclaration

/-- An element without a style text of its own, under a sheet whose only rule is for its tag, has
the properties that it has where the block is its own style text and there is no rule. The one
capital whose lower case depends on its neighbours is left out. -/
theorem styleOf_oneRule (htag : TagName tag.toList) (hclosed : '}' ∉ text.toList)
    (hcomment : Uncommented text.toList) (hsigma : 'Σ' ∉ text.toList) (s : Session)
    {d d' : Document} {id id' : NodeId} {e' : Element}
    (he : d.element? id = some e) (hname : e.name = tag) (hplain : e.style? = none)
    (he' : d'.element? id' = some e') (hstyle : e'.style? = some text) :
    ∃ map, d.styleOf (s.readText (tag ++ "\x7b" ++ text ++ "\x7d")).index id = .ok map ∧
      d'.styleOf s.reset.index id' = .ok map := by
  refine ⟨PropertyMap.declare ∅ text, ?_, ?_⟩
  · rw [Document.styleOf_eq _ he, hplain,
      s.resolveTexts_oneRule htag hclosed hcomment hsigma hname]
  · rw [Document.styleOf_eq _ he', hstyle]
    rfl

def paragraph (attributes : List (String × String)) : Document :=
  ⟨#[⟨.document, none, [1]⟩, ⟨.element (.ofAttributes "p" attributes), some 0, []⟩]⟩

theorem styleOf_oneRule_quoted :
    ∃ map, (paragraph [("id", "q")]).styleOf
        ((start false).readText "p\x7b\n COLOR : 'Red' ;@\x7bx;top\x7d").index 1 = .ok map ∧
      (paragraph [("style", "\n COLOR : 'Red' ;@\x7bx;top")]).styleOf (start false).reset.index 1 =
        .ok map :=
  @styleOf_oneRule "p" "\n COLOR : 'Red' ;@\x7bx;top" (.ofAttributes "p" [("id", "q")])
    ⟨by decide, List.all_eq_true.1 (by decide)⟩ (by decide)
    (uncommented_of_not_mem (by decide)) (by decide) (start false)
    (paragraph [("id", "q")]) (paragraph [("style", "\n COLOR : 'Red' ;@\x7bx;top")]) 1 1
    (.ofAttributes "p" [("style", "\n COLOR : 'Red' ;@\x7bx;top")]) rfl rfl rfl rfl rfl

end Session

end FlatStyle
