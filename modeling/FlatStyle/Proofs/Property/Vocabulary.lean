import FlatStyle.Property.Apply
import FlatStyle.Proofs.Grammar.Language
import FlatStyle.Proofs.Grammar.Shorthand

namespace FlatStyle

open Grammar

namespace Property

def emittedKeys (p : Property) : List String :=
  match p with
  | .font =>
      ["font-style", "font-variant", "font-weight", "font-size", "line-height", "font-family"]
  | .textDecoration => decorationLines.map decorationKey
  | .margin | .padding | .borderWidth | .borderStyle | .borderColor =>
      sides.map (sideKey p.name)
  | .border => ["border-width", "border-style", "border-color"].flatMap (sides.map <| sideKey ·)
  | .listStyle => ["list-style-type", "list-style-position"]
  | p => if p.isIgnored then [] else [p.name]

end Property

def sideLanguages (property : String) (language : Language) : List (String × Language) :=
  sides.map fun side => (sideKey property side, language)

/-- The language of every key but that of the font families, which are any text. -/
def valueLanguages : List (String × Language) := [
    ("font-style", .keyword fontStyles), ("font-variant", .keyword fontVariants),
    ("font-weight", .keyword fontWeights), ("font-size", .size fontSizes),
    ("line-height", .size ["normal"]), ("color", .color []),
    ("background-color", .color ["transparent"]), ("text-align", .keyword textAligns),
    ("text-indent", .signedSize []), ("text-transform", .keyword textTransforms),
    ("vertical-align", .signedSize verticalAligns), ("white-space", .keyword whiteSpaces),
    ("width", .size ["auto"]), ("height", .size ["auto"]), ("float", .keyword floats),
    ("clear", .keyword clears), ("list-style-type", .keyword listStyleTypes),
    ("list-style-position", .keyword listStylePositions)] ++
  decorationLines.map (fun line => (decorationKey line, .keyword ["true", "false"])) ++
  sideLanguages "margin" (.size []) ++ sideLanguages "padding" (.size []) ++
  sideLanguages "border-width" (.size []) ++ sideLanguages "border-style" (.keyword borderStyles) ++
  sideLanguages "border-color" (.color [])

def languageOf? (key : String) : Option Language := valueLanguages.lookup key

theorem mem_valueLanguages {key : String} {language : Language}
    (h : languageOf? key = some language) : (key, language) ∈ valueLanguages := by
  obtain ⟨before, after, htable, -⟩ := List.lookup_eq_some_iff.1 h
  rw [htable]
  exact List.mem_append_right _ List.mem_cons_self

/-- The value is a family name with the given property, or it is in the language of its key. -/
def Speaks (family : String → Prop) (e : String × String) : Prop :=
  (e.1 = "font-family" ∧ family e.2) ∨
    ∃ language, languageOf? e.1 = some language ∧ language.Accepts e.2

theorem Property.grammar_eq_single {p : Property} {language : Language}
    (h : languageOf? p.name = some language) :
    p.grammar = single p.name language.reader ∧ p.emittedKeys = [p.name] := by
  cases p <;> cases h <;> exact ⟨rfl, rfl⟩

theorem Property.grammar_of_isIgnored {p : Property} (h : p.isIgnored = true) :
    p.grammar = Reading.refused := by
  cases p <;> cases h <;> rfl

/-- Whatever is read for a key, from permitted characters, makes an entry of the kind. -/
structure Supplies (permitted : Char → Prop) (kind : String × String → Prop) : Prop where
  language : ∀ {key language}, languageOf? key = some language →
    language.reader.Yields permitted fun value => kind (key, value)
  flag : ∀ line ∈ decorationLines, ∀ flag ∈ ["true", "false"], kind (decorationKey line, flag)
  family : firstFamily?.Yields permitted fun name => kind ("font-family", name)

section Emission

variable {permitted : Char → Prop} {kind : String × String → Prop} {keys : List String}

namespace Supplies

theorem single (h : Supplies permitted kind) {key : String} (language : Language)
    (hkey : key ∈ keys) (hlanguage : languageOf? key = some language) :
    Emits (single key language.reader) permitted fun e => e.1 ∈ keys ∧ kind e :=
  single_emits (h.language hlanguage) fun _ hvalue => ⟨hkey, hvalue⟩

theorem rectangle (h : Supplies permitted kind) {property : String} (language : Language)
    (hkeys : sides.map (sideKey property) ⊆ keys)
    (hlanguage : ∀ side ∈ sides, languageOf? (sideKey property side) = some language) :
    Emits (rectangle property language.reader) permitted fun e => e.1 ∈ keys ∧ kind e := by
  have htop : languageOf? (sideKey property "top") = some language :=
    hlanguage "top" List.mem_cons_self
  -- The reader is the same for all sides, so that it yields a value that suits each of them.
  have htoken : language.reader.Yields permitted fun value =>
      ∀ side ∈ sides, kind (sideKey property side, value) :=
    ⟨(h.language htop).suffix, fun hs hread side hside =>
      (h.language (hlanguage side hside)).value hs hread⟩
  refine rectangle_emits htoken fun side hside value hvalue => ⟨hkeys ?_, hvalue side hside⟩
  exact List.mem_map_of_mem hside

theorem sizeRectangle (h : Supplies permitted kind) {property : String}
    (hkeys : sides.map (sideKey property) ⊆ keys)
    (hlanguage : ∀ side ∈ sides, languageOf? (sideKey property side) = some (.size [])) :
    Emits (sizeRectangle property) permitted fun e => e.1 ∈ keys ∧ kind e :=
  h.rectangle (.size []) hkeys hlanguage

theorem borderStyle (h : Supplies permitted kind)
    (hkeys : sides.map (sideKey "border-style") ⊆ keys) :
    Emits borderStyle permitted fun e => e.1 ∈ keys ∧ kind e :=
  h.rectangle (.keyword borderStyles) hkeys (by decide)

theorem borderColor (h : Supplies permitted kind)
    (hkeys : sides.map (sideKey "border-color") ⊆ keys) :
    Emits borderColor permitted fun e => e.1 ∈ keys ∧ kind e :=
  h.rectangle (.color []) hkeys (by decide)

theorem border (h : Supplies permitted kind)
    (hwidth : sides.map (sideKey "border-width") ⊆ keys)
    (hstyle : sides.map (sideKey "border-style") ⊆ keys)
    (hcolor : sides.map (sideKey "border-color") ⊆ keys) :
    Emits border permitted fun e => e.1 ∈ keys ∧ kind e := by
  apply eachOnce_emits
  intro g hg
  simp only [List.mem_cons, List.not_mem_nil, or_false] at hg
  rcases hg with rfl | rfl | rfl
  · exact h.sizeRectangle hwidth (by decide)
  · exact h.borderStyle hstyle
  · exact h.borderColor hcolor

theorem fontFamily (h : Supplies permitted kind) (hkey : "font-family" ∈ keys) :
    Emits fontFamily permitted fun e => e.1 ∈ keys ∧ kind e :=
  single_emits h.family fun _ hname => ⟨hkey, hname⟩

end Supplies

theorem Property.isIgnored_or_isSome_language_or (p : Property) : p.isIgnored = true ∨
    (languageOf? p.name).isSome = true ∨ p ∈ [font, fontFamily, textDecoration, margin, padding,
      border, borderWidth, borderStyle, borderColor, listStyle] := by
  have hall : ∀ p ∈ all, p.isIgnored = true ∨ (languageOf? p.name).isSome = true ∨
      p ∈ [font, fontFamily, textDecoration, margin, padding, border, borderWidth, borderStyle,
        borderColor, listStyle] := by
    decide +kernel
  exact hall p p.mem_all

theorem Property.grammar_supplied (h : Supplies permitted kind) (p : Property) :
    Emits p.grammar permitted fun e => e.1 ∈ p.emittedKeys ∧ kind e := by
  rcases p.isIgnored_or_isSome_language_or with hignored | hlanguage | hmem
  · rw [grammar_of_isIgnored hignored]
    exact refused_emits
  · obtain ⟨language, hlanguage⟩ := Option.isSome_iff_exists.1 hlanguage
    obtain ⟨hgrammar, hkeys⟩ := grammar_eq_single hlanguage
    rw [hgrammar, hkeys]
    exact h.single language (List.mem_singleton_self _) hlanguage
  · cases p with
    | font =>
        apply font_emits
        · exact h.single (.keyword fontStyles) (by decide) (by decide)
        · exact h.single (.keyword fontVariants) (by decide) (by decide)
        · exact h.single (.keyword fontWeights) (by decide) (by decide)
        · exact h.single (.size fontSizes) (by decide) (by decide)
        · exact h.single (.size ["normal"]) (by decide) (by decide)
        · exact h.fontFamily (by decide)
    | fontFamily => exact h.fontFamily (by decide)
    | textDecoration =>
        refine textDecoration_emits fun line hline flag hflag => ⟨?_, h.flag line hline flag hflag⟩
        exact List.mem_map_of_mem hline
    | margin => exact h.sizeRectangle (List.Subset.refl _) (by decide)
    | padding => exact h.sizeRectangle (List.Subset.refl _) (by decide)
    | border => exact h.border (by decide) (by decide) (by decide)
    | borderWidth => exact h.sizeRectangle (List.Subset.refl _) (by decide)
    | borderStyle => exact h.borderStyle (List.Subset.refl _)
    | borderColor => exact h.borderColor (List.Subset.refl _)
    | listStyle =>
        apply repeated_emits
        apply orElse_emits
        · exact h.single (.keyword listStyleTypes) (by decide) (by decide)
        · apply orElse_emits
          · exact h.single (.keyword listStylePositions) (by decide) (by decide)
          · exact listStyleImage_emits
    | _ => exact absurd hmem (by decide)

theorem Property.grammar_emits {family : String → Prop}
    (hfamily : firstFamily?.Yields permitted family) (p : Property) :
    Emits p.grammar permitted fun e => e.1 ∈ p.emittedKeys ∧ Speaks family e := by
  have hflag : ∀ line ∈ decorationLines,
      languageOf? (decorationKey line) = some (.keyword ["true", "false"]) := by decide
  refine grammar_supplied ⟨fun {key language} hlanguage => ?_, ?_, ?_⟩ p
  · exact language.reader_yields.mono fun value hvalue => .inr ⟨language, hlanguage, hvalue⟩
  · exact fun line hline flag hmem => .inr ⟨_, hflag line hline, hmem⟩
  · exact hfamily.mono fun name hname => .inl ⟨rfl, hname⟩

theorem Property.grammar_emits_keys (p : Property) : Emits p.grammar (fun _ => True)
    fun e => e.1 ∈ p.emittedKeys ∧ Speaks (fun _ => True) e :=
  p.grammar_emits ((firstFamily?_yields fun _ _ _ _ => trivial).mono fun _ _ => trivial)

theorem Property.grammar_suffix (p : Property) (s : List Char) : (p.grammar s).rest <:+ s :=
  p.grammar_emits_keys.suffix s

theorem Property.mem_emittedKeys {p : Property} {s : List Char} {e : String × String}
    (he : e ∈ (p.grammar s).writes) : e.1 ∈ p.emittedKeys :=
  (p.grammar_emits_keys.writes (fun _ _ => trivial) e he).1

end Emission

end FlatStyle
