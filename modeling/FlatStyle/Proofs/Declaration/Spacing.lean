import FlatStyle.Proofs.Declaration.NormalForm
import FlatStyle.Proofs.Declaration.Normalization
import FlatStyle.Proofs.Declaration.Precedence
import FlatStyle.Proofs.Grammar.Spacing
import FlatStyle.Proofs.Property.ListStyle

namespace FlatStyle

open Text Grammar

theorem Language.isKeywordChar_of_mem_words : ∀ entry ∈ valueLanguages,
    ∀ word ∈ entry.2.words, ∀ c ∈ word.toList, isKeywordChar c = true := by
  have hall : ∀ entry ∈ valueLanguages, ∀ word ∈ entry.2.words,
      word.toList.all isKeywordChar = true := by
    decide +kernel
  exact fun entry hentry word hword => List.all_eq_true.1 (hall entry hentry word hword)

theorem Language.reader_ignoresSpacing {language : Language}
    (h : ∀ word ∈ language.words, ∀ c ∈ word.toList, isKeywordChar c = true) :
    language.reader.IgnoresSpacing := by
  have hword := keyword?_ignoresSpacing h
  cases language with
  | keyword words => exact hword
  | size words => exact hword.orElse (size?_ignoresSpacing true)
  | signedSize words => exact hword.orElse (size?_ignoresSpacing false)
  | color words => exact hword.orElse color?_ignoresSpacing

namespace Property

theorem grammar_ignoresSpacing {p : Property} (hfont : p ≠ font) (hfamily : p ≠ fontFamily) :
    IgnoresSpacing p.grammar := by
  have hsize := size?_ignoresSpacing true
  have hstyle : (keyword? borderStyles).IgnoresSpacing :=
    table_ignoresSpacing (by simp [keywordTables])
  rcases p.isIgnored_or_isSome_language_or with hignored | hlanguage | hmem
  · rw [grammar_of_isIgnored hignored]
    exact refused_ignoresSpacing
  · obtain ⟨language, hlanguage⟩ := Option.isSome_iff_exists.1 hlanguage
    rw [(grammar_eq_single hlanguage).1]
    have hwords := Language.isKeywordChar_of_mem_words _ (mem_valueLanguages hlanguage)
    exact single_ignoresSpacing _ (Language.reader_ignoresSpacing hwords)
  · cases p with
    | font => exact absurd rfl hfont
    | fontFamily => exact absurd rfl hfamily
    | textDecoration => exact textDecoration_ignoresSpacing
    | margin => exact rectangle_ignoresSpacing _ hsize
    | padding => exact rectangle_ignoresSpacing _ hsize
    | border =>
        apply eachOnce_ignoresSpacing
        intro g hg
        simp only [List.mem_cons, List.not_mem_nil, or_false] at hg
        rcases hg with rfl | rfl | rfl
        · exact rectangle_ignoresSpacing _ hsize
        · exact rectangle_ignoresSpacing _ hstyle
        · exact rectangle_ignoresSpacing _ color?_ignoresSpacing
    | borderWidth => exact rectangle_ignoresSpacing _ hsize
    | borderStyle => exact rectangle_ignoresSpacing _ hstyle
    | borderColor => exact rectangle_ignoresSpacing _ color?_ignoresSpacing
    | listStyle =>
        refine repeated_ignoresSpacing ?_ markerGrammar_consumes
        apply orElse_ignoresSpacing
        · exact single_ignoresSpacing _ (table_ignoresSpacing (by simp [keywordTables]))
        · apply orElse_ignoresSpacing
          · exact single_ignoresSpacing _ (table_ignoresSpacing (by simp [keywordTables]))
          · exact listStyleImage_ignoresSpacing
    | _ => exact absurd hmem (by decide)

theorem name_unblank (p : Property) : ∀ c ∈ p.name.toList, isAsciiBlank c = false := by
  intro c hc
  exact isAsciiBlank_eq_false (isBlank_of_isPlain (p.name_plain c hc))

theorem squeezed_eq_name_iff (p : Property) {s : List Char} :
    squeezed s = p.name.toList ↔ s = p.name.toList := by
  constructor
  · intro h
    rw [← h]
    apply eq_squeezed_of_unblank
    rw [h]
    exact p.name_unblank
  · rintro rfl
    exact squeezed_eq_self p.name_unblank

end Property

namespace Declaration

def squeezed (d : Declaration) : Declaration where
  name := String.ofList (Text.squeezed d.name.toList)
  value := String.ofList (Text.squeezed d.value.toList)

section Parts

variable {quote : Char}

theorem stripQuote?_eq_none {s : List Char} (h : s.head? ≠ some quote) :
    stripQuote? quote s = none := by
  cases s with
  | nil => rfl
  | cons c s =>
      have hc : c ≠ quote := fun hc => h (congrArg some hc)
      simp [stripQuote?, hc]

theorem stripQuote?_squeezed (hquote : isAsciiBlank quote = false) (s : List Char) :
    stripQuote? quote (Text.squeezed s) = (stripQuote? quote s).map Text.squeezed := by
  by_cases hhead : s.head? = some quote
  · obtain ⟨s, rfl⟩ := List.head?_eq_some_iff.1 hhead
    simp only [squeezed_other hquote, stripQuote?, getLast?_squeezed_eq_some_iff hquote, true_and]
    split
    · rename_i hlast
      obtain ⟨inner, rfl⟩ := List.getLast?_eq_some_iff.1 hlast
      have hstart : startsBlank [quote] = false := hquote
      simp [squeezed_append hstart, squeezed_other hquote]
    · rfl
  · have hsqueezed : (Text.squeezed s).head? ≠ some quote := by
      intro h
      exact hhead ((head?_squeezed_eq_some_iff hquote).1 h)
    rw [stripQuote?_eq_none hhead, stripQuote?_eq_none hsqueezed, Option.map_none]

theorem unquote_squeezed (s : List Char) :
    unquote (Text.squeezed s) = Text.squeezed (unquote s) := by
  rw [unquote, unquote, stripQuote?_squeezed rfl, stripQuote?_squeezed rfl]
  cases stripQuote? '"' s with
  | some inner => rfl
  | none => cases stripQuote? '\'' s <;> rfl

theorem ofParts?_squeezed (parts : List (List Char)) :
    ofParts? (parts.map Text.squeezed) = (ofParts? parts).map squeezed := by
  rcases parts with _ | ⟨name, _ | ⟨value, _ | ⟨other, rest⟩⟩⟩
  · rfl
  · rfl
  · simp [ofParts?, squeezed, unquote_squeezed, lower_squeezed]
  · rfl

theorem ofCandidate?_squeezed (s : List Char) :
    ofCandidate? (Text.squeezed s) = (ofCandidate? s).map squeezed := by
  have hparts : parts (Text.squeezed s) = (parts s).map Text.squeezed := by
    simp [parts, fields_squeezed (p := (· == ':')) (by decide) s rfl, trim_squeezed]
  rw [ofCandidate?_eq, hparts, ofParts?_squeezed, ofCandidate?_eq]

theorem ofChars_squeezed (s : List Char) :
    ofChars (Text.squeezed s) = (ofChars s).map squeezed := by
  rw [ofChars, fields_squeezed (p := (· == ';')) (by decide) s rfl, List.filterMap_map, ofChars,
    List.map_filterMap]
  exact List.filterMap_congr fun candidate _ => ofCandidate?_squeezed candidate

end Parts

section Names

theorem squeezed_name_eq_iff (d : Declaration) (p : Property) :
    d.squeezed.name = p.name ↔ d.name = p.name := by
  rw [← String.toList_inj, ← String.toList_inj, squeezed, String.toList_ofList,
    p.squeezed_eq_name_iff]

theorem ofName?_squeezed (d : Declaration) :
    Property.ofName? d.squeezed.name = Property.ofName? d.name := by
  apply congrArg (Property.all.find? ·)
  funext p
  rw [Bool.eq_iff_iff, beq_iff_eq, beq_iff_eq, eq_comm, d.squeezed_name_eq_iff, eq_comm]

/-- The properties whose values take in the name of a font family. -/
def fontNames : List String := ["font", "font-family"]

theorem squeezed_name_mem_fontNames_iff (d : Declaration) :
    d.squeezed.name ∈ fontNames ↔ d.name ∈ fontNames := by
  have hfont := d.squeezed_name_eq_iff .font
  have hfamily := d.squeezed_name_eq_iff .fontFamily
  simp only [fontNames, List.mem_cons, List.not_mem_nil, or_false]
  exact or_congr hfont hfamily

theorem writes_squeezed {d : Declaration} (h : d.name ∉ fontNames) :
    d.squeezed.writes = d.writes := by
  rw [writes, ofName?_squeezed, writes]
  cases hp : Property.ofName? d.name with
  | none => rfl
  | some p =>
      rw [← Property.name_of_ofName? hp] at h
      have hfont : p ≠ .font := by
        rintro rfl
        exact h (by decide)
      have hfamily : p ≠ .fontFamily := by
        rintro rfl
        exact h (by decide)
      simp [squeezed, Property.grammar_ignoresSpacing hfont hfamily d.value.toList]

end Names

section Texts

variable {s t : String}

theorem map_squeezed_ofText (h : Respaced s.toList t.toList) :
    (ofText s).map squeezed = (ofText t).map squeezed := by
  rw [ofText, ← ofChars_squeezed, h.squeezed_eq, ofChars_squeezed, ofText]

theorem writesOf_eq_flatMap (h : ∀ d ∈ ofText s, d.name ∉ fontNames) :
    writesOf s = ((ofText s).map squeezed).flatMap writes := by
  rw [writesOf, List.flatMap_map]
  exact List.flatMap_congr fun d hd => (writes_squeezed (h d hd)).symm

theorem fontNames_respaced (h : Respaced s.toList t.toList)
    (hs : ∀ d ∈ ofText s, d.name ∉ fontNames) : ∀ d ∈ ofText t, d.name ∉ fontNames := by
  intro d hd
  have hmem : d.squeezed ∈ (ofText s).map squeezed := by
    rw [map_squeezed_ofText h]
    exact List.mem_map_of_mem hd
  obtain ⟨other, hother, heq⟩ := List.mem_map.1 hmem
  rw [← d.squeezed_name_mem_fontNames_iff, ← heq, other.squeezed_name_mem_fontNames_iff]
  exact hs other hother

end Texts

end Declaration

open Declaration in
/-- How many blanks stand between the words of a text, and which, does not count, as long as it
declares no font. -/
theorem PropertyMap.declare_respaced {s t : String} (h : Respaced s.toList t.toList)
    (hs : ∀ d ∈ ofText s, d.name ∉ fontNames) (map : PropertyMap) :
    map.declare s = map.declare t := by
  rw [declare_eq_insertAll, declare_eq_insertAll]
  apply congrArg map.insertAll
  calc writesOf s
    _ = ((ofText s).map Declaration.squeezed).flatMap writes := writesOf_eq_flatMap hs
    _ = ((ofText t).map Declaration.squeezed).flatMap writes := by rw [map_squeezed_ofText h]
    _ = writesOf t := (writesOf_eq_flatMap (fontNames_respaced h hs)).symm

open Declaration in
theorem PropertyMap.declare_respaced_color :
    Respaced "color :\trgb(1,\n\n2)".toList "color\x0c\r:  rgb(1, 2)".toList ∧
      (∀ d ∈ ofText "color :\trgb(1,\n\n2)", d.name ∉ fontNames) ∧
      declare ∅ "color :\trgb(1,\n\n2)" = declare ∅ "color\x0c\r:  rgb(1, 2)" ∧
      declare ∅ "color\x0c\r:  rgb(1, 2)" = .ofList [("color", "gray")] := by
  have hspaced : Respaced "color :\trgb(1,\n\n2)".toList "color\x0c\r:  rgb(1, 2)".toList := by
    decide +kernel
  have hnames : ∀ d ∈ ofText "color :\trgb(1,\n\n2)", d.name ∉ fontNames := by decide +kernel
  exact ⟨hspaced, hnames, declare_respaced hspaced hnames ∅, rfl⟩

end FlatStyle
