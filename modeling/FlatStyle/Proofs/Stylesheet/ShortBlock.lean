import FlatStyle.Proofs.Resolution.Latest
import FlatStyle.Proofs.Stylesheet.Reading
import FlatStyle.Proofs.Text.Caseless
import FlatStyle.Proofs.Text.Offset

namespace FlatStyle

open Text Stylesheet

/-- A list of selectors with nothing between its commas. -/
def Selectorless (s : List Char) : Prop := ∀ c ∈ s, c = ',' ∨ isBlank c = true

section Selectorless

variable {s before : List Char}

theorem caseless_comma : Caseless ',' := caseless_of_ascii (by decide) (by decide) (by decide)

theorem Selectorless.lower (h : Selectorless s) : lower s = s := by
  apply lower_eq_self
  intro c hc
  rcases h c hc with rfl | hblank
  · exact caseless_comma.settled
  · exact settled_of_isBlank hblank

theorem selectorless_of_lowerAfter (h : Selectorless (lowerAfter before s)) : Selectorless s := by
  induction s generalizing before with
  | nil => exact List.forall_mem_nil _
  | cons c s ih =>
      rw [lowerAfter] at h
      obtain ⟨himage, hrest⟩ := List.forall_mem_append.1 h
      apply List.forall_mem_cons.2 ⟨?_, ih hrest⟩
      split at himage
      · -- Neither small sigma is a comma or a blank.
        have hsigma := himage _ (List.mem_singleton_self _)
        unfold lowerSigma at hsigma
        split at hsigma <;> exact absurd hsigma (by decide)
      · obtain ⟨d, hd⟩ := List.exists_mem_of_ne_nil _ (lowerChar_ne_nil c)
        rcases himage d hd with rfl | hblank
        · exact .inl (caseless_comma.origin hd)
        · exact .inr ((isBlank_of_mem_lowerChar hd).symm.trans hblank)

theorem selectorless_lower_iff : Selectorless (Text.lower s) ↔ Selectorless s := by
  constructor
  · exact selectorless_of_lowerAfter
  · intro h
    rwa [h.lower]

theorem selectorless_trim_iff : Selectorless (trim s) ↔ Selectorless s := by
  constructor
  · intro h
    obtain ⟨before, after, hbefore, hafter, hs⟩ := exists_margins s
    rw [hs]
    refine List.forall_mem_append.2 ⟨List.forall_mem_append.2 ⟨?_, h⟩, ?_⟩
    · exact fun c hc => .inr (hbefore c hc)
    · exact fun c hc => .inr (hafter c hc)
  · exact fun h c hc => h c (trim_subset s hc)

theorem blank_fields_iff :
    (∀ field ∈ fields (· == ',') s, Blank field) ↔ Selectorless s := by
  induction s with
  | nil => simp [Selectorless, Blank]
  | cons c s ih =>
      rw [Selectorless, List.forall_mem_cons, ← Selectorless, ← ih]
      by_cases hc : c = ','
      · rw [fields_cons_separator (p := (· == ',')) (beq_iff_eq.2 hc), List.forall_mem_cons]
        exact and_congr_left fun _ => iff_of_true blank_nil (.inl hc)
      · rw [fields_cons_other (p := (· == ',')) (beq_false_of_ne hc)]
        cases hfields : fields (· == ',') s with
        | nil => exact absurd hfields (fields_ne_nil _ s)
        | cons first others =>
            simp only [List.modifyHead_cons, List.forall_mem_cons, Blank, hc, false_or, and_assoc]

theorem Rule.fragments_eq_nil_iff : fragments s = [] ↔ Selectorless s := by
  calc fragments s = []
    _ ↔ ∀ field ∈ fields (· == ',') (Text.lower (trim s)), Blank field := by
        rw [List.eq_nil_iff_forall_not_mem]
        simp only [mem_fragments, not_and, not_exists, ← trim_eq_nil_iff]
        constructor
        · intro h field hfield
          by_contra hne
          exact h _ hne field hfield rfl
        · rintro h _ hne field hfield rfl
          exact hne (h field hfield)
    _ ↔ Selectorless s := by
        rw [blank_fields_iff, selectorless_lower_iff, selectorless_trim_iff]

theorem Rule.ofBlock_eq_nil_iff {declaration : List Char} :
    ofBlock s declaration = [] ↔ Blank declaration ∨ Selectorless s := by
  by_cases hblank : Blank declaration
  · simp [ofBlock_eq_nil s hblank, hblank]
  · simp [ofBlock_eq_map s hblank, hblank, fragments_eq_nil_iff]

end Selectorless

def blockText (selectors block : List Char) : List Char := selectors ++ '{' :: (block ++ ['}'])

section Block

variable {selectors block : List Char}

theorem Sheet.ofBare_closed (before : List Piece) (after : List Char) :
    ofBare (before.flatMap Piece.chars ++ after) =
      concat ((before.map Piece.item).map ofItem) ++ ofBare after := by
  rw [ofBare, items_closed_append, List.map_append, concat_append]
  rfl

theorem Sheet.ofBare_block (hselectors : Unmarked selectors) (hblock : '}' ∉ block)
    (after : List Char) :
    ofBare (blockText selectors block ++ after) =
      ⟨if 2 < utf8Length block then Rule.ofBlock selectors block else [], []⟩ ++ ofBare after := by
  have hpiece := ofBare_piece ⟨.rule, selectors, block, hselectors, hblock⟩ after
  rw [Piece.chars, Piece.openChars, ItemKind.opener, ItemKind.closer, List.append_assoc selectors,
    List.cons_append] at hpiece
  exact hpiece

theorem Session.exists_addText_block (s : Session) (before : List Piece)
    (hselectors : Unmarked selectors) (hblock : '}' ∉ block) (after : List Char) :
    ∃ earlier log,
      s.addText (String.ofList
          (before.flatMap Piece.chars ++ (blockText selectors block ++ after))) =
        ⟨⟨earlier ++ ((if 2 < utf8Length block then Rule.ofBlock selectors block else []) ++
          (Sheet.ofBare after).rules)⟩, log⟩ ∧
      s.addText (String.ofList (before.flatMap Piece.chars ++ after)) =
        ⟨⟨earlier ++ (Sheet.ofBare after).rules⟩, log⟩ := by
  generalize hearlier : Sheet.concat ((before.map Piece.item).map Sheet.ofItem) = earlier
  refine ⟨s.index.rules ++ earlier.rules,
    s.log.recordAll (earlier.warnings ++ (Sheet.ofBare after).warnings), ?_, ?_⟩
  · rw [addText, String.toList_ofList, Sheet.ofBare_closed, Sheet.ofBare_block hselectors hblock,
      hearlier, StyleIndex.addSheet, Sheet.rules_append, Sheet.rules_append, List.append_assoc]
    rfl
  · rw [addText, String.toList_ofList, Sheet.ofBare_closed, hearlier, StyleIndex.addSheet,
      Sheet.rules_append, List.append_assoc]
    rfl

/-- An element that the selectors of a long enough block reach, and no rule of the text after it. -/
structure Rule.Surfaces (selectors block after : List Char) (e : Element) : Prop where
  long : 2 < utf8Length block
  reaches : Reaches selectors block e
  last : StyleIndex.newestMatch? ⟨(Sheet.ofBare after).rules⟩ e = none

end Block

namespace Session

variable {selectors block : List Char}

/-- A block of at most two characters in the midst of a text changes nothing exactly if it is ASCII,
or a single character of two bytes, or blank, or without a selector. Only a block of more than two
bytes is ever found in place of an earlier rule. -/
theorem addText_shortBlock (s : Session) (before : List Piece) (hselectors : Unmarked selectors)
    (hblock : '}' ∉ block) (hshort : block.length ≤ 2) (after : List Char) :
    (s.addText (String.ofList
          (before.flatMap Piece.chars ++ (blockText selectors block ++ after))) =
        s.addText (String.ofList (before.flatMap Piece.chars ++ after)) ↔
      (∀ c ∈ block, c.toNat < 0x80) ∨ (∃ c, block = [c] ∧ c.toNat < 0x800) ∨ Blank block ∨
        Selectorless selectors) ∧
    ∀ e : Element,
      (Rule.Surfaces selectors block after e →
        (s.addText (String.ofList (before.flatMap Piece.chars ++
          (blockText selectors block ++ after)))).index.newestMatch? e =
        some (String.ofList (lower (trim block)))) ∧
      (¬ Rule.Surfaces selectors block after e →
        (s.addText (String.ofList (before.flatMap Piece.chars ++
          (blockText selectors block ++ after)))).index.newestMatch? e =
        (s.addText (String.ofList
          (before.flatMap Piece.chars ++ after))).index.newestMatch? e) := by
  obtain ⟨earlier, log, hwith, hwithout⟩ :=
    s.exists_addText_block before hselectors hblock after
  rw [hwith, hwithout]
  refine ⟨?_, fun e => ?_⟩
  · rw [← or_assoc, ← utf8Length_le_two_iff hshort, ← Rule.ofBlock_eq_nil_iff]
    simp only [Session.mk.injEq, StyleIndex.mk.injEq, and_true, List.append_cancel_left_eq,
      List.append_left_eq_self, ite_eq_right_iff]
    exact imp_iff_or_not.trans (or_comm.trans (or_congr_left Nat.not_lt))
  · simp only [StyleIndex.newestMatch?_append]
    constructor
    · rintro ⟨hlong, hreaches, hlast⟩
      rw [if_pos hlong, hlast, StyleIndex.newestMatch?_ofBlock hreaches]
      rfl
    · intro hhidden
      cases hafter : StyleIndex.newestMatch? ⟨(Sheet.ofBare after).rules⟩ e with
      | some found => rfl
      | none =>
          split
          · rename_i hlong
            rw [StyleIndex.newestMatch?_ofBlock_eq_none]
            · rfl
            · exact fun hreaches => hhidden ⟨hlong, hreaches, hafter⟩
          · rfl

def redParagraph : Piece where
  kind := .rule
  front := "p".toList
  body := "color:red".toList
  unmarked := ⟨by decide, by decide⟩
  unclosed := by decide

def bareParagraph : Element := .ofAttributes "p" []

theorem addText_shortBlock_accents :
    Unmarked "p".toList ∧ '}' ∉ "éé".toList ∧ "éé".toList.length ≤ 2 ∧
      Rule.Surfaces "p".toList "éé".toList "q\x7btop:1\x7d".toList bareParagraph ∧
      ((start false).addText (String.ofList ([redParagraph].flatMap Piece.chars ++
        (blockText "p".toList "éé".toList ++ "q\x7btop:1\x7d".toList)))).index.newestMatch?
          bareParagraph = some "éé" := by
  have hselectors : Unmarked "p".toList := ⟨by decide, by decide⟩
  have hblock : '}' ∉ "éé".toList := by decide
  have hreaches : Rule.Reaches "p".toList "éé".toList bareParagraph :=
    ⟨mt trim_eq_nil_iff.2 (by decide +kernel), mt trim_eq_nil_iff.2 (by decide +kernel),
      "p".toList, by decide +kernel, "p".toList, ⟨some "p", none, none⟩,
      lastWord?_eq_some_iff.1 (by decide +kernel), by decide +kernel, by decide +kernel⟩
  have hsurfaces : Rule.Surfaces "p".toList "éé".toList "q\x7btop:1\x7d".toList bareParagraph :=
    ⟨by decide, hreaches, by decide +kernel⟩
  have hfound := ((addText_shortBlock (start false) [redParagraph] hselectors
    hblock (by decide) "q\x7btop:1\x7d".toList).2 bareParagraph).1 hsurfaces
  have htext : String.ofList (lower (trim "éé".toList)) = "éé" := by decide +kernel
  exact ⟨hselectors, hblock, by decide, hsurfaces, hfound.trans (congrArg some htext)⟩

/-- Two characters of two bytes each make a rule, which hides the rule before it. -/
theorem addText_twoAccents :
    "éé".toList.length = 2 ∧
      ((start false).addText "p\x7bcolor:red\x7d").index.rules = [⟨"p", "color:red"⟩] ∧
      ((start false).addText "p\x7bcolor:red\x7dp\x7béé\x7d").index.rules =
        [⟨"p", "color:red"⟩, ⟨"p", "éé"⟩] ∧
      ((start false).addText "p\x7bcolor:red\x7d").index.newestMatch? bareParagraph =
        some "color:red" ∧
      ((start false).addText "p\x7bcolor:red\x7dp\x7béé\x7d").index.newestMatch? bareParagraph =
        some "éé" := by
  decide +kernel

end Session

end FlatStyle
