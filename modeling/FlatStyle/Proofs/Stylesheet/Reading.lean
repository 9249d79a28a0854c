import FlatStyle.Proofs.Stylesheet.Layout
import FlatStyle.Proofs.Warning.Log
import FlatStyle.Session

namespace FlatStyle

open Text Stylesheet

namespace Sheet

theorem empty_append (s : Sheet) : ∅ ++ s = s := rfl

theorem append_empty (s : Sheet) : s ++ ∅ = s := by
  rcases s with ⟨rules, warnings⟩
  exact congrArg₂ Sheet.mk (List.append_nil rules) (List.append_nil warnings)

theorem append_assoc (s t u : Sheet) : s ++ t ++ u = s ++ (t ++ u) :=
  congrArg₂ Sheet.mk (List.append_assoc _ _ _) (List.append_assoc _ _ _)

theorem concat_cons (s : Sheet) (sheets : List Sheet) : concat (s :: sheets) = s ++ concat sheets :=
  rfl

theorem concat_append (sheets others : List Sheet) :
    concat (sheets ++ others) = concat sheets ++ concat others := by
  induction sheets with
  | nil => rfl
  | cons s sheets ih => rw [List.cons_append, concat_cons, concat_cons, ih, append_assoc]

theorem concat_flatMap {α : Type} (l : List α) (f : α → List Sheet) :
    concat (l.flatMap f) = concat (l.map fun x => concat (f x)) := by
  induction l with
  | nil => rfl
  | cons x l ih => rw [List.flatMap_cons, concat_append, ih, List.map_cons, concat_cons]

theorem concat_eq_flatMap {β : Type} {part : Sheet → List β} (hempty : part ∅ = [])
    (happend : ∀ s t, part (s ++ t) = part s ++ part t) (sheets : List Sheet) :
    part (concat sheets) = sheets.flatMap part := by
  induction sheets with
  | nil => exact hempty
  | cons sheet sheets ih =>
      rw [List.flatMap_cons, ← ih]
      exact happend sheet (concat sheets)

theorem rules_ofBare (s : List Char) : (ofBare s).rules = (items s).flatMap Item.rules := by
  rw [ofBare, concat_eq_flatMap rfl rules_append, List.flatMap_map]
  rfl

theorem warnings_ofBare (s : List Char) :
    (ofBare s).warnings = (items s).flatMap Item.warnings := by
  rw [ofBare, concat_eq_flatMap rfl warnings_append, List.flatMap_map]
  rfl

end Sheet

namespace Stylesheet

def Piece.isBlock (p : Piece) : Bool := p.kind = .rule ∧ 2 < utf8Length p.body

def Piece.atRule? (p : Piece) : Option (List Char) :=
  match p.kind with
  | .atRule => some (trim ('@' :: p.body))
  | .rule => none

def skippedText (atRule : List Char) : String :=
  "[CSS] skipped at-rule '" ++ String.ofList atRule ++ "'"

theorem framed_injective (front back : String) :
    Function.Injective fun s : List Char => front ++ String.ofList s ++ back := by
  intro s t h
  have hchars := congrArg String.toList h
  simp only [String.toList_append, String.toList_ofList] at hchars
  exact List.append_cancel_left (List.append_cancel_right hchars)

theorem skippedText_injective : Function.Injective skippedText := framed_injective _ _

theorem Piece.rules_item (p : Piece) :
    p.item.rules = if p.isBlock then Rule.ofBlock p.front p.body else [] := by
  rcases p with ⟨kind, front, body, _, _⟩
  cases kind with
  | atRule => rfl
  | rule =>
      by_cases hlong : 2 < utf8Length body
      · simp only [item, Item.rules, isBlock, hlong, and_self, decide_true, if_true]
      · simp only [item, Item.rules, isBlock, hlong, and_false, decide_false, Bool.false_eq_true,
          if_false]

theorem text_skipped (atRule : List Char) :
    Warning.text ⟨"CSS", "skipped at-rule '" ++ String.ofList atRule ++ "'"⟩ =
      skippedText atRule :=
  Warning.text_eq_append (by decide) _

theorem Piece.warnings_item (p : Piece) :
    p.item.warnings.map Warning.text = (p.atRule?.map skippedText).toList := by
  rcases p with ⟨kind, front, body, _, _⟩
  cases kind with
  | atRule => exact congrArg (fun text => [text]) (text_skipped _)
  | rule => rfl

namespace Layout

/-- The rule items that carry a declaration, in order. -/
def blocks (l : Layout) : List Piece := l.pieces.filter Piece.isBlock

def atRules (l : Layout) : List (List Char) := l.pieces.filterMap Piece.atRule?

theorem rules_ofBare (l : Layout) :
    (Sheet.ofBare l.chars).rules = l.blocks.flatMap fun p => Rule.ofBlock p.front p.body := by
  rw [Sheet.rules_ofBare, items_layout, blocks]
  induction l.pieces with
  | nil => rfl
  | cons p ps ih =>
      rw [List.map_cons, List.flatMap_cons, ih, p.rules_item]
      cases hblock : p.isBlock with
      | true => rw [List.filter_cons_of_pos hblock, List.flatMap_cons, if_pos rfl]
      | false =>
          rw [List.filter_cons_of_neg (Bool.eq_false_iff.1 hblock), if_neg Bool.false_ne_true]
          rfl

theorem warnings_ofBare (l : Layout) :
    (Sheet.ofBare l.chars).warnings.map Warning.text = l.atRules.map skippedText := by
  rw [Sheet.warnings_ofBare, items_layout, atRules]
  induction l.pieces with
  | nil => rfl
  | cons p ps ih =>
      rw [List.map_cons, List.flatMap_cons, List.map_append, ih, p.warnings_item]
      cases hrule : p.atRule? with
      | none =>
          rw [List.filterMap_cons_none hrule]
          rfl
      | some atRule =>
          rw [List.filterMap_cons_some hrule]
          rfl

end Layout

end Stylesheet

namespace StyleIndex

def registerPiece (index : StyleIndex) (p : Piece) : StyleIndex :=
  index.register (String.ofList p.front) (String.ofList p.body)

theorem foldl_registerPiece (index : StyleIndex) (ps : List Piece) :
    ps.foldl registerPiece index =
      ⟨index.rules ++ ps.flatMap fun p => Rule.ofBlock p.front p.body⟩ := by
  induction ps generalizing index with
  | nil => rw [List.foldl_nil, List.flatMap_nil, List.append_nil]
  | cons p ps ih =>
      rw [List.foldl_cons, ih, registerPiece, register, String.toList_ofList,
        String.toList_ofList, List.flatMap_cons, List.append_assoc]

end StyleIndex

namespace Session

theorem index_addText_layout (s : Session) (l : Layout) :
    (s.addText l.text).index = l.blocks.foldl StyleIndex.registerPiece s.index := by
  rw [StyleIndex.foldl_registerPiece, ← l.rules_ofBare, addText, Layout.text,
    String.toList_ofList]
  rfl

theorem log_addText_layout (s : Session) (l : Layout) :
    (s.addText l.text).log = s.log.recordAll (Sheet.ofBare l.chars).warnings := by
  rw [addText, Layout.text, String.toList_ofList]

/-- Every text has exactly one layout. Reading the text registers the blocks of the layout in order
and nothing else, keeps the rules that were there, and records one warning for each at-rule that
differs from the others. -/
theorem addText_layout :
    (∀ css : String, ∃! l : Layout, l.text = css) ∧
    ∀ (s : Session) (l : Layout),
      (s.addText l.text).index = l.blocks.foldl StyleIndex.registerPiece s.index ∧
      s.index.rules <+: (s.addText l.text).index.rules ∧
      (∀ text, text ∈ (s.addText l.text).log.texts ↔
        text ∈ s.log.texts ∨ ∃ atRule ∈ l.atRules, skippedText atRule = text) ∧
      (s.clearWarnings.addText l.text).log.texts.Perm (l.atRules.dedup.map skippedText) := by
  refine ⟨Layout.existsUnique_text, fun s l => ⟨s.index_addText_layout l, ?_, ?_, ?_⟩⟩
  · rw [index_addText_layout, StyleIndex.foldl_registerPiece]
    exact List.prefix_append _ _
  · intro text
    rw [log_addText_layout, WarningLog.mem_texts_recordAll, l.warnings_ofBare, List.mem_map]
  · have hrecorded := s.log.texts_recordAll_clear (Sheet.ofBare l.chars).warnings
    rw [l.warnings_ofBare, List.dedup_map_of_injective skippedText_injective] at hrecorded
    rw [log_addText_layout]
    exact hrecorded

-- What stands before an `@` is dropped, a block of one byte is passed over, and the end of the text
-- closes the last block.
example : ((start false).addText "x@m;P, .q\x7bColor: red\x7du\x7bx\x7dv\x7btop: 1").index.rules =
    [⟨"p", "color: red"⟩, ⟨".q", "color: red"⟩, ⟨"v", "top: 1"⟩] := by
  cbv

end Session

end FlatStyle
