import FlatStyle.Grammar.Decoration
import FlatStyle.Grammar.Font
import FlatStyle.Grammar.ListStyle
import FlatStyle.Proofs.Grammar.Emission

namespace FlatStyle.Grammar

variable {permitted : Char → Prop} {kind : String × String → Prop}

theorem slashLineHeight_emits (hheight : Emits lineHeight permitted kind) :
    Emits slashLineHeight permitted kind where
  suffix := by
    intro s
    unfold slashLineHeight
    split
    · rename_i t heq
      have ht := suffix_of_skipBlanks heq
      simp only
      split
      · exact (hheight.suffix t).trans ht
      · exact List.suffix_refl s
    · exact List.suffix_refl s
  writes := by
    intro s hs e he
    unfold slashLineHeight at he
    split at he
    · rename_i t heq
      have ht := suffix_of_skipBlanks heq
      simp only at he
      split at he
      · exact hheight.writes (permitted_of_suffix ht hs) e he
      · cases he
    · cases he

theorem font_emits
    (hstyle : Emits (single "font-style" (keyword? fontStyles)) permitted kind)
    (hvariant : Emits (single "font-variant" (keyword? fontVariants)) permitted kind)
    (hweight : Emits (single "font-weight" (keyword? fontWeights)) permitted kind)
    (hsize : Emits fontSize permitted kind) (hheight : Emits lineHeight permitted kind)
    (hfamily : Emits fontFamily permitted kind) : Emits font permitted kind := by
  have hslash := slashLineHeight_emits hheight
  constructor
  · intro s
    have hlead := (hsize.suffix _).trans ((hweight.suffix _).trans
      ((hvariant.suffix _).trans (hstyle.suffix s)))
    simp only [font]
    split
    · exact (hfamily.suffix _).trans ((hslash.suffix _).trans hlead)
    · exact hlead
  · intro s hs e he
    have hs₁ := permitted_of_suffix (hstyle.suffix s) hs
    have hs₂ := permitted_of_suffix (hvariant.suffix _) hs₁
    have hs₃ := permitted_of_suffix (hweight.suffix _) hs₂
    have hs₄ := permitted_of_suffix (hsize.suffix _) hs₃
    have hs₅ := permitted_of_suffix (hslash.suffix _) hs₄
    simp only [font] at he
    split at he
    · simp only [List.mem_append] at he
      rcases he with ((((he | he) | he) | he) | he) | he
      · exact hstyle.writes hs e he
      · exact hvariant.writes hs₁ e he
      · exact hweight.writes hs₂ e he
      · exact hsize.writes hs₃ e he
      · exact hslash.writes hs₄ e he
      · exact hfamily.writes hs₅ e he
    · simp only [List.mem_append] at he
      rcases he with ((he | he) | he) | he
      · exact hstyle.writes hs e he
      · exact hvariant.writes hs₁ e he
      · exact hweight.writes hs₂ e he
      · exact hsize.writes hs₃ e he

section Stages

variable (s : List Char)

/-! The font shorthand tries the first three components one after the other. -/

def styleReading : Reading := single "font-style" (keyword? fontStyles) s

def variantReading : Reading := single "font-variant" (keyword? fontVariants) (styleReading s).rest

def weightReading : Reading := single "font-weight" (keyword? fontWeights) (variantReading s).rest

theorem font_eq : font s =
    let size := fontSize (weightReading s).rest
    let lead := (styleReading s).writes ++ (variantReading s).writes ++ (weightReading s).writes ++
      size.writes
    if size.accepted then
      let height := slashLineHeight size.rest
      let family := fontFamily height.rest
      ⟨true, lead ++ height.writes ++ family.writes, family.rest⟩
    else ⟨size.rest.length != s.length, lead, size.rest⟩ := rfl

end Stages

theorem decorationWords_eq (s : List Char) : decorationWords s =
    match keyword? decorations s with
    | none => ([], s)
    | some (word, t) =>
        if word = "none" then ([], t)
        else (word :: (decorationWords t).1, (decorationWords t).2) := by
  rw [decorationWords]
  split <;> simp_all

theorem decorationWords_suffix (s : List Char) : (decorationWords s).2 <:+ s := by
  fun_induction decorationWords s with
  | case1 s => exact List.suffix_refl s
  | case2 s t hword => exact keyword?_suffix hword
  | case3 s word t hword _ words rest hmore ih =>
      rw [hmore] at ih
      exact ih.trans (keyword?_suffix hword)

theorem decorationWords_subset (s : List Char) : (decorationWords s).1 ⊆ decorationLines := by
  fun_induction decorationWords s with
  | case1 => exact List.nil_subset _
  | case2 => exact List.nil_subset _
  | case3 s word t hword hnone words rest hmore ih =>
      rw [hmore] at ih
      have hline : word ∈ decorationLines :=
        (List.mem_cons.1 (of_keyword? hword).1).resolve_left hnone
      exact List.cons_subset.2 ⟨hline, ih⟩

theorem textDecoration_emits
    (hline : ∀ line ∈ decorationLines, ∀ flag ∈ ["true", "false"],
      kind (decorationKey line, flag)) :
    Emits textDecoration permitted kind where
  suffix := decorationWords_suffix
  writes := by
    intro s _ e he
    rcases List.mem_append.1 he with he | he
    · obtain ⟨line, hmem, rfl⟩ := List.mem_map.1 he
      exact hline line hmem "false" (by decide)
    · obtain ⟨line, hmem, rfl⟩ := List.mem_map.1 he
      exact hline line (decorationWords_subset s hmem) "true" (by decide)

theorem listStyleImage_emits : Emits listStyleImage permitted kind where
  suffix := by
    intro s
    simp only [listStyleImage]
    split
    · exact (skipPast_suffix ')' _).trans (skipBlanks_suffix s)
    · exact List.suffix_refl s
  writes := by
    intro s _ e he
    simp only [listStyleImage] at he
    split at he <;> cases he

end FlatStyle.Grammar
