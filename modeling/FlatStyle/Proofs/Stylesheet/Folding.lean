import FlatStyle.Proofs.Stylesheet.Comment
import FlatStyle.Proofs.Stylesheet.Layout
import FlatStyle.Proofs.Stylesheet.Reading
import FlatStyle.Proofs.Text.Folding

namespace FlatStyle

open Text

namespace Stylesheet

def Item.folded : Item → Item
  | .atRule text => .atRule (Text.folded text)
  | .rule selector block => .rule (Text.folded selector) (Text.folded block)

theorem stripLine_folded (line : List Char) :
    stripLine (folded line) = folded (stripLine line) := by
  have hslash : Unlettered '/' := by decide
  have hstar : Unlettered '*' := by decide
  have hopening : ∀ c ∈ ['/', '*'], Unlettered c :=
    List.forall_mem_cons.2 ⟨hslash, List.forall_mem_singleton.2 hstar⟩
  have hclosing : ∀ c ∈ ['*', '/'], Unlettered c :=
    List.forall_mem_cons.2 ⟨hstar, List.forall_mem_singleton.2 hslash⟩
  fun_induction stripLine line with
  | case1 line hopen =>
      apply stripLine_unopened
      rw [splitFirst?_folded hopening, hopen]
      rfl
  | case2 line before inner hopen hclose =>
      apply stripLine_unclosed
      · rw [splitFirst?_folded hopening, hopen]
        rfl
      · rw [splitFirst?_folded hclosing, hclose]
        rfl
  | case3 line before inner hopen skipped after hclose ih =>
      rw [folded_append, ← ih]
      apply stripLine_closed
      · rw [splitFirst?_folded hopening, hopen]
        rfl
      · rw [splitFirst?_folded hclosing, hclose]
        rfl

theorem stripComments_folded (s : List Char) :
    stripComments (folded s) = folded (stripComments s) := by
  rw [stripComments, lines_folded, List.flatMap_map, stripComments, folded, List.map_flatMap]
  exact List.flatMap_congr fun line _ => stripLine_folded line

theorem isItemMark_ignoresCase : IgnoresCase (!isItemMark ·) := by
  have hbrace : IgnoresCase (· == '{') := Unlettered.beq_ignoresCase (by decide)
  have hat : IgnoresCase (· == '@') := Unlettered.beq_ignoresCase (by decide)
  exact fun c => congrArg₂ (fun first second => !(first || second)) (hbrace c) (hat c)

theorem nextItem?_folded (s : List Char) : nextItem? (folded s) =
    (nextItem? s).map fun found => (found.1.folded, folded found.2) := by
  have hbrace : IgnoresCase (· != '}') := Unlettered.bne_ignoresCase (by decide)
  have hsemicolon : IgnoresCase (· != ';') := Unlettered.bne_ignoresCase (by decide)
  unfold nextItem?
  rw [dropWhile_folded isItemMark_ignoresCase, takeWhile_folded isItemMark_ignoresCase]
  cases hrest : s.dropWhile (!isItemMark ·) with
  | nil => rfl
  | cons c t =>
      have hmark := of_dropWhile_eq_cons hrest
      rw [Bool.not_eq_false', isItemMark_iff] at hmark
      obtain ⟨kind, rfl⟩ := hmark
      cases kind with
      | atRule =>
          change some (Item.atRule ('@' :: (folded t).takeWhile (· != ';')),
            ((folded t).dropWhile (· != ';')).drop 1) = _
          rw [takeWhile_folded hsemicolon, dropWhile_folded hsemicolon, ← folded_drop]
          rfl
      | rule =>
          change some (Item.rule _ ((folded t).takeWhile (· != '}')),
            ((folded t).dropWhile (· != '}')).drop 1) = _
          rw [takeWhile_folded hbrace, dropWhile_folded hbrace, ← folded_drop]
          rfl

theorem items_folded (s : List Char) : items (folded s) = (items s).map Item.folded := by
  have hnext := nextItem?_folded s
  fun_induction items s with
  | case1 s h =>
      rw [h] at hnext
      exact items_eq_nil hnext
  | case2 s item rest h ih =>
      rw [h] at hnext
      exact (items_eq_cons hnext).trans (congrArg _ (ih (nextItem?_folded rest)))

theorem Item.rules_folded (item : Item) : item.folded.rules = item.rules := by
  cases item with
  | atRule text => rfl
  | rule selector block =>
      simp only [folded, rules, utf8Length_folded, Rule.ofBlock, trim_folded, lower_folded]

end Stylesheet

namespace Sheet

theorem rules_ofBare_folded (s : List Char) : (ofBare (folded s)).rules = (ofBare s).rules := by
  rw [rules_ofBare, Stylesheet.items_folded, List.flatMap_map, rules_ofBare]
  exact List.flatMap_congr fun item _ => item.rules_folded

theorem rules_ofText_folded (s : List Char) : (ofText (folded s)).rules = (ofText s).rules := by
  rw [ofText, Stylesheet.stripComments_folded, rules_ofBare_folded, ofText]

end Sheet

end FlatStyle
