import FlatStyle.Proofs.Grammar.FontComponents
import FlatStyle.Proofs.SortedMap.Keys

/-!
The font shorthand on the values that it is meant for: any of a style, a variant and a weight, then
a size, perhaps a slash and a line height, and the families. Every component comes out with its own
text, with one exception. Where no weight is given and the size begins with the number of a weight
before a point or a percent sign, the number is taken for the weight and the size is lost.
-/

namespace FlatStyle

open Text Grammar

/-- The components of a font shorthand, each spelled as in its table. -/
structure FontValue where
  style : Option String
  variant : Option String
  weight : Option String
  size : String
  lineHeight : Option String
  family : String
  style_mem : ∀ word ∈ style, word ∈ ["italic", "oblique"]
  variant_mem : ∀ word ∈ variant, word ∈ ["small-caps"]
  weight_mem : ∀ word ∈ weight, word ∈ ["bold", "bolder", "lighter"] ++ numberWeights
  size_ok : IsFontSize size
  lineHeight_ok : ∀ height ∈ lineHeight, IsLineHeight height
  family_ne_nil : family.toList ≠ []
  family_small : Small family.toList

/-- What stands between the components, and what follows the first family. -/
structure FontSpacing where
  afterStyle : Gap
  afterVariant : Gap
  afterWeight : Gap
  beforeSlash : List Char
  afterSlash : List Char
  beforeFamily : Gap
  afterFamily : List Char
  others : List Char
  beforeSlash_blank : ∀ c ∈ beforeSlash, isAsciiBlank c = true
  afterSlash_blank : ∀ c ∈ afterSlash, isAsciiBlank c = true
  afterFamily_blank : ∀ c ∈ afterFamily, isAsciiBlank c = true
  others_comma : ∀ c ∈ others.head?, c = ','

namespace FontValue

variable (v : FontValue) (l : FontSpacing)

def familyText : List Char :=
  l.beforeFamily.chars ++ (v.family.toList ++ (l.afterFamily ++ l.others))

def tailText : List Char :=
  match v.lineHeight with
  | some height => l.beforeSlash ++ '/' :: (l.afterSlash ++ (height.toList ++ v.familyText l))
  | none => v.familyText l

def sizeText : List Char := v.size.toList ++ v.tailText l

def weightText : List Char := lead v.weight l.afterWeight ++ v.sizeText l

def variantText : List Char := lead v.variant l.afterVariant ++ v.weightText l

def text : List Char := lead v.style l.afterStyle ++ v.variantText l

def entries : List (String × String) :=
  entry "font-style" v.style ++ entry "font-variant" v.variant ++ entry "font-weight" v.weight ++
    [("font-size", v.size)] ++ entry "line-height" (v.lineHeight.map pixels) ++
    [("font-family", v.family)]

/-- The size hides a weight, and none stands before it. -/
def Shadowed : Prop := v.weight = none ∧ Heavy v.size.toList

theorem parted_familyText : Parted (v.familyText l) := l.beforeFamily.parted _

theorem parted_tailText : Parted (v.tailText l) := by
  unfold tailText
  cases v.lineHeight with
  | none => exact v.parted_familyText l
  | some height =>
      intro c hc
      have hblank := l.beforeSlash_blank
      cases hbefore : l.beforeSlash with
      | nil =>
          rw [hbefore] at hc
          cases hc
          exact .inr (.inl rfl)
      | cons d before =>
          rw [hbefore] at hc hblank
          cases hc
          exact .inl (hblank c List.mem_cons_self)

theorem begins_sizeText : Begins fontSizes (v.sizeText l) :=
  ⟨v.size, v.tailText l, rfl, v.parted_tailText l, v.size_ok⟩

theorem begins_weightText :
    Begins (["bold", "bolder", "lighter"] ++ numberWeights ++ fontSizes) (v.weightText l) :=
  begins_lead v.weight_mem (v.begins_sizeText l)

theorem begins_variantText : Begins (["small-caps"] ++
    (["bold", "bolder", "lighter"] ++ numberWeights ++ fontSizes)) (v.variantText l) :=
  begins_lead v.variant_mem (v.begins_weightText l)

theorem isSome_keyword?_sizeText :
    (keyword? fontWeights (v.sizeText l)).isSome = true ↔ Heavy v.size.toList := by
  rw [sizeText, keyword?_append (by decide) v.size_ok.solid (v.parted_tailText l),
    Option.isSome_map]
  exact isSome_iff_heavy v.size_ok

theorem styleReading_text : (styleReading (v.text l)).writes = entry "font-style" v.style ∧
    skipBlanks (styleReading (v.text l)).rest = skipBlanks (v.variantText l) := by
  have hnone : keyword? fontStyles (v.variantText l) = none :=
    (v.begins_variantText l).keyword?_eq_none (by decide) (by decide) (by decide +kernel)
  exact single_lead (by decide) (by decide +kernel) v.style_mem (fun _ => hnone) rfl

theorem variantReading_text : (variantReading (v.text l)).writes = entry "font-variant" v.variant ∧
    skipBlanks (variantReading (v.text l)).rest = skipBlanks (v.weightText l) := by
  have hnone : keyword? fontVariants (v.weightText l) = none :=
    (v.begins_weightText l).keyword?_eq_none (by decide) (by decide) (by decide +kernel)
  exact single_lead (by decide) (by decide +kernel) v.variant_mem (fun _ => hnone)
    (v.styleReading_text l).2

theorem weightReading_text (h : ¬ v.Shadowed) :
    (weightReading (v.text l)).writes = entry "font-weight" v.weight ∧
      skipBlanks (weightReading (v.text l)).rest = skipBlanks (v.sizeText l) := by
  have hnone : v.weight = none → keyword? fontWeights (v.sizeText l) = none := by
    intro hweight
    rw [← Option.not_isSome_iff_eq_none, v.isSome_keyword?_sizeText l]
    exact fun hheavy => h ⟨hweight, hheavy⟩
  exact single_lead (by decide) (by decide +kernel) v.weight_mem hnone (v.variantReading_text l).2

theorem weightReading_shadowed (h : v.Shadowed) :
    ∃ word, (weightReading (v.text l)).writes = [("font-weight", word)] := by
  obtain ⟨hweight, hheavy⟩ := h
  have htext : v.weightText l = v.sizeText l := by
    rw [weightText, hweight]
    rfl
  have hread := (v.isSome_keyword?_sizeText l).2 hheavy
  rw [← htext, ← keyword?_congr (v.variantReading_text l).2] at hread
  obtain ⟨⟨word, rest⟩, hread⟩ := Option.isSome_iff_exists.1 hread
  refine ⟨word, ?_⟩
  rw [weightReading, single, hread]

theorem slashLineHeight_tailText :
    (slashLineHeight (v.tailText l)).writes = entry "line-height" (v.lineHeight.map pixels) ∧
      (slashLineHeight (v.tailText l)).rest = v.familyText l := by
  unfold tailText
  cases hheight : v.lineHeight with
  | some height =>
      rw [slashLineHeight_append (v.lineHeight_ok height hheight) l.beforeSlash_blank
        l.afterSlash_blank (v.parted_familyText l)]
      exact ⟨rfl, rfl⟩
  | none =>
      have hfamily : ∀ u, skipBlanks (v.familyText l) ≠ '/' :: u := by
        intro u
        rw [familyText, skipBlanks_append l.beforeFamily.blank,
          (identifier_of_small v.family_ne_nil v.family_small).solid.skipBlanks_append]
        exact append_ne_cons_of_small v.family_ne_nil v.family_small rfl
      rw [slashLineHeight_eq_refused hfamily]
      exact ⟨rfl, rfl⟩

theorem font_text (h : ¬ v.Shadowed) :
    (font (v.text l)).accepted = true ∧ (font (v.text l)).writes = v.entries := by
  obtain ⟨hweight, hweightRest⟩ := v.weightReading_text l h
  obtain ⟨hheight, hheightRest⟩ := v.slashLineHeight_tailText l
  have hsize : fontSize (weightReading (v.text l)).rest =
      ⟨true, [("font-size", v.size)], v.tailText l⟩ :=
    fontSize_append v.size_ok (v.parted_tailText l) hweightRest
  have hfamily : (fontFamily (v.familyText l)).writes = [("font-family", v.family)] :=
    fontFamily_append v.family_ne_nil v.family_small l.afterFamily_blank l.others_comma
      (skipBlanks_append l.beforeFamily.blank _)
  rw [font_eq, hsize]
  refine ⟨rfl, ?_⟩
  simp only [if_true, (v.styleReading_text l).1, (v.variantReading_text l).1, hweight, hheight,
    hheightRest, hfamily, entries]

theorem not_mem_entries_keys (h : v.weight = none) : "font-weight" ∉ v.entries.map (·.1) := by
  simp [entries, entry, h]

end FontValue

/-- The shorthand writes each component that is there with its own text, and nothing else, unless
its size is taken for a weight. -/
theorem Property.font_apply_text_iff (v : FontValue) (l : FontSpacing) :
    font.apply (String.ofList (v.text l)) ∅ = (true, .ofList v.entries) ↔ ¬ v.Shadowed := by
  have happly : font.apply (String.ofList (v.text l)) ∅ =
      ((Grammar.font (v.text l)).accepted, .ofList (Grammar.font (v.text l)).writes) := by
    rw [apply, String.toList_ofList]
    rfl
  rw [happly, Prod.mk.injEq]
  constructor
  · rintro ⟨-, hmap⟩ hshadowed
    obtain ⟨word, hword⟩ := v.weightReading_shadowed l hshadowed
    have hwritten : ("font-weight", word) ∈ (Grammar.font (v.text l)).writes :=
      weightReading_subset _ (hword ▸ List.mem_singleton_self _)
    have hkey := SortedMap.mem_keys_ofList.2 (List.mem_map_of_mem hwritten)
    rw [hmap, SortedMap.mem_keys_ofList] at hkey
    exact v.not_mem_entries_keys hshadowed.1 hkey
  · intro h
    obtain ⟨haccepted, hwrites⟩ := v.font_text l h
    exact ⟨haccepted, congrArg _ hwrites⟩

def FontSpacing.spaced : FontSpacing where
  afterStyle := .space
  afterVariant := .space
  afterWeight := .space
  beforeSlash := []
  afterSlash := []
  beforeFamily := .space
  afterFamily := []
  others := []
  beforeSlash_blank := nofun
  afterSlash_blank := nofun
  afterFamily_blank := nofun
  others_comma := nofun

def FontValue.percentage : FontValue where
  style := none
  variant := none
  weight := none
  size := "100%"
  lineHeight := none
  family := "arial"
  style_mem := nofun
  variant_mem := nofun
  weight_mem := nofun
  size_ok := .inr ⟨"100".toList, "%", by decide, ⟨List.all_eq_true.1 rfl, '1', by decide, rfl⟩, rfl⟩
  lineHeight_ok := nofun
  family_ne_nil := by decide
  family_small := by decide

/-- A size in percent and a family are a font, and yet the number is read as a weight and the rest
is dropped. -/
theorem Property.font_percentage :
    FontValue.percentage.text .spaced = "100% arial".toList ∧
      FontValue.percentage.entries = [("font-size", "100%"), ("font-family", "arial")] ∧
      font.apply "100% arial" ∅ = (true, .ofList [("font-weight", "100")]) ∧
      font.apply "100% arial" ∅ ≠ (true, .ofList FontValue.percentage.entries) := by
  have happly : font.apply "100% arial" ∅ = (true, .ofList [("font-weight", "100")]) := rfl
  refine ⟨rfl, rfl, happly, fun h => ?_⟩
  rw [happly] at h
  have hkeys := congrArg (·.2.keys) h
  exact absurd hkeys (by decide +kernel)

end FlatStyle
