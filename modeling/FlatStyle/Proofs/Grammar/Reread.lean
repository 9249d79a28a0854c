import FlatStyle.Proofs.Property.Vocabulary
import FlatStyle.Proofs.Text.Folding

namespace FlatStyle

open Text Grammar

def normalForm (value : String) : String := if value = "0" then "0px" else value

theorem normalForm_of_ne {value : String} (h : value ≠ "0") : normalForm value = value := if_neg h

theorem normalForm_normalForm (value : String) :
    normalForm (normalForm value) = normalForm value := by
  by_cases h : value = "0"
  · rw [h]
    decide
  · rw [normalForm_of_ne h, normalForm_of_ne h]

namespace Grammar

/-- The value is read off its own text to the end. -/
def TokenReader.Rereads (token : TokenReader) (value : String) : Prop :=
  token value.toList = some (normalForm value, [])

instance (token : TokenReader) (value : String) : Decidable (token.Rereads value) :=
  inferInstanceAs (Decidable (_ = _))

namespace TokenReader.Rereads

variable {first second : TokenReader} {value : String}

theorem orElse_left (h : first.Rereads value) : (first.orElse second).Rereads value := by
  rw [Rereads, orElse, h, Option.some_or]

theorem orElse_right (hfirst : first value.toList = none) (h : second.Rereads value) :
    (first.orElse second).Rereads value := by
  rw [Rereads, orElse, hfirst, Option.none_or, h]

end TokenReader.Rereads

/-- A character at which neither a word nor a blank begins. -/
structure Bare (c : Char) : Prop where
  unlettered : Unlettered c
  unblank : isAsciiBlank c = false

instance (c : Char) : Decidable (Bare c) :=
  decidable_of_iff (Unlettered c ∧ isAsciiBlank c = false)
    ⟨fun h => ⟨h.1, h.2⟩, fun h => ⟨h.1, h.2⟩⟩

def Lettered (words : List String) : Prop :=
  ∀ word ∈ words, word.toList.head?.any Char.isLower = true

instance (words : List String) : Decidable (Lettered words) :=
  inferInstanceAs (Decidable (∀ word ∈ words, _))

def Small (s : List Char) : Prop := ∀ c ∈ s, c.isLower = true

instance (s : List Char) : Decidable (Small s) := List.decidableBAll _ s

theorem folded_small {s : List Char} (h : Small s) : folded s = s := by
  rw [folded, List.map_congr_left fun c hc => toLower_eq_self_of_isLower (h c hc), List.map_id']

theorem normalForm_of_small {value : String} (h : Small value.toList) :
    normalForm value = value := by
  refine normalForm_of_ne ?_
  rintro rfl
  cases h '0' List.mem_cons_self

theorem skipBlanks_cons {c : Char} (hc : isAsciiBlank c = false) (s : List Char) :
    skipBlanks (c :: s) = c :: s :=
  List.dropWhile_cons_of_neg (Bool.eq_false_iff.1 hc)

theorem isBlank_eq_false_of_isLower {c : Char} (h : c.isLower = true) : isBlank c = false := by
  rw [isLower_iff_toNat] at h
  exact isBlank_eq_false_of_letter (by omega) h.2

theorem skipBlanks_small {s : List Char} (h : Small s) : skipBlanks s = s := by
  cases s with
  | nil => rfl
  | cons c s =>
      refine skipBlanks_cons (Bool.eq_false_iff.2 fun hc => ?_) s
      have hblank := isBlank_eq_false_of_isLower (h c List.mem_cons_self)
      rw [isBlank_of_isAsciiBlank hc] at hblank
      cases hblank

section Keyword

variable {words : List String}

theorem Bare.dropWord?_eq_none {c d : Char} (hc : Bare c) (hd : d.isLower = true)
    (word s : List Char) : dropWord? (d :: word) (c :: s) = none := by
  have hother : sameLetter d c = false := by
    rw [sameLetter, hc.unlettered.upper, toLower_eq_self_of_isLower hd, beq_eq_false_iff_ne]
    rintro rfl
    rw [hc.unlettered.lower] at hd
    cases hd
  rw [dropWord?, if_neg (Bool.eq_false_iff.1 hother)]

theorem keyword?_eq_none (hwords : Lettered words) {c : Char} (hc : Bare c) (s : List Char) :
    keyword? words (c :: s) = none := by
  rw [keyword?, skipBlanks_cons hc.unblank, keywordHere?, List.findSome?_eq_none_iff]
  intro word hword
  have hletter := hwords word hword
  cases hchars : word.toList with
  | nil =>
      rw [hchars] at hletter
      cases hletter
  | cons d rest =>
      have hd : d.isLower = true := by
        rw [hchars] at hletter
        exact hletter
      rw [hc.dropWord?_eq_none hd, Option.bind_none]

theorem eq_of_keyword?_small (hwords : ∀ word ∈ words, Small word.toList) {name word : String}
    {rest : List Char} (hname : Small name.toList)
    (h : keyword? words name.toList = some (word, rest)) : word = name ∧ rest = [] := by
  obtain ⟨hword, hdrop, hend⟩ := of_keyword? h
  rw [skipBlanks_small hname] at hdrop
  obtain ⟨front, hfront, hchars⟩ := dropWord?_eq_some_iff.1 hdrop
  rw [hchars] at hname
  obtain ⟨hsmall, hrest⟩ := List.forall_mem_append.1 hname
  have hnil : rest = [] := by
    cases rest with
    | nil => rfl
    | cons c rest =>
        have hletter : c.isAlphanum = true := by
          change (c.isUpper || c.isLower || c.isDigit) = true
          rw [hrest c List.mem_cons_self, Bool.or_true, Bool.true_or]
        have hstop : (!c.isAlphanum) = true := hend
        rw [hletter] at hstop
        cases hstop
  rw [folded_small hsmall, folded_small (hwords word hword)] at hfront
  rw [hnil, List.append_nil, hfront] at hchars
  exact ⟨String.toList_inj.1 hchars.symm, hnil⟩

theorem keyword?_small (hwords : ∀ word ∈ words, Small word.toList) {name : String}
    (hname : Small name.toList) :
    keyword? words name.toList = if name ∈ words then some (name, []) else none := by
  cases hread : keyword? words name.toList with
  | some read =>
      obtain ⟨word, rest⟩ := read
      obtain ⟨rfl, rfl⟩ := eq_of_keyword?_small hwords hname hread
      rw [if_pos (of_keyword? hread).1]
  | none =>
      rw [if_neg]
      intro hmem
      have hhere := (List.findSome?_eq_none_iff.1 hread) name hmem
      rw [skipBlanks_small hname, dropWord?_self] at hhere
      cases hhere

end Keyword

theorem bare_of_isNumberChar {c : Char} (h : isNumberChar c = true) : Bare c := by
  rcases Bool.or_eq_true_iff.1 h with hdigit | hpoint
  · refine ⟨unlettered_of_isDigit hdigit, Bool.eq_false_iff.2 fun hblank => ?_⟩
    simp only [isAsciiBlank, Bool.or_eq_true, beq_iff_eq] at hblank
    rcases hblank with (((rfl | rfl) | rfl) | rfl) | rfl <;> cases hdigit
  · rw [beq_iff_eq.1 hpoint]
    decide

section Number

variable {number rest : List Char}

theorem number?_append (hnumber : IsNumber number)
    (hrest : ∀ c ∈ rest.head?, isNumberChar c = false) :
    number? (number ++ rest) = some (String.ofList number, rest) := by
  obtain ⟨hchars, digit, hdigit, hisDigit⟩ := hnumber
  have hany : number.any Char.isDigit = true := List.any_eq_true.2 ⟨digit, hdigit, hisDigit⟩
  unfold number?
  split
  rename_i sign body hsplit
  have hsign : sign = [] ∧ body = number ++ rest := by
    split at hsplit
    · rename_i t heq
      cases number with
      | nil => cases hdigit
      | cons c number =>
          cases heq
          cases hchars '-' List.mem_cons_self
    · cases hsplit
      exact ⟨rfl, rfl⟩
  obtain ⟨rfl, rfl⟩ := hsign
  simp only [takeWhile_run hchars hrest, dropWhile_run hchars hrest, hany, if_true, List.nil_append]

theorem number?_minus_append (hnumber : IsNumber number)
    (hrest : ∀ c ∈ rest.head?, isNumberChar c = false) :
    number? ('-' :: (number ++ rest)) = some (String.ofList ('-' :: number), rest) := by
  obtain ⟨hchars, digit, hdigit, hisDigit⟩ := hnumber
  have hany : number.any Char.isDigit = true := List.any_eq_true.2 ⟨digit, hdigit, hisDigit⟩
  simp only [number?, takeWhile_run hchars hrest, dropWhile_run hchars hrest, hany, if_true,
    List.singleton_append]

end Number

theorem units_reread : ∀ unit ∈ units, unit.toList ≠ [] ∧
    unit.toList.head?.any isNumberChar = false ∧
      keywordHere? units unit.toList = some (unit, []) := by
  decide

theorem isNumberChar_of_mem_units {unit : String} (hunit : unit ∈ units) :
    ∀ c ∈ unit.toList.head?, isNumberChar c = false := by
  intro c hc
  have hhead := (units_reread unit hunit).2.1
  rwa [Option.mem_def.1 hc] at hhead

theorem size?_eq_some {nonNegative : Bool} {s : List Char} {number unit : String}
    (hs : skipBlanks s = s) (hnumber : number? s = some (number, unit.toList))
    (hunit : unit ∈ units) (hsign : nonNegative = false ∨ number.toList.head? ≠ some '-') :
    size? nonNegative s = some (number ++ unit, []) := by
  have hclamp : ¬ (nonNegative && number.toList.head? == some '-') = true := by
    rw [Bool.and_eq_true, beq_iff_eq]
    rcases hsign with rfl | hhead
    · exact fun h => nomatch h.1
    · exact fun h => hhead h.2
  rw [size?, hs, hnumber, Option.map_some]
  simp only [(units_reread unit hunit).2.2, Option.getD_some, if_neg hclamp]

section Measure

theorem exists_cons_of_isMeasure {s : List Char} (h : IsMeasure s) :
    ∃ c d t, s = c :: d :: t ∧ isNumberChar c = true := by
  obtain ⟨number, unit, hunit, ⟨hchars, digit, hdigit, -⟩, rfl⟩ := h
  obtain ⟨c, number, rfl⟩ := List.exists_cons_of_ne_nil (List.ne_nil_of_mem hdigit)
  have hc : isNumberChar c = true := hchars c List.mem_cons_self
  cases number with
  | nil =>
      obtain ⟨d, t, ht⟩ := List.exists_cons_of_ne_nil (units_reread unit hunit).1
      exact ⟨c, d, t, congrArg (c :: ·) ht, hc⟩
  | cons d t => exact ⟨c, d, t ++ unit.toList, rfl, hc⟩

theorem size?_rereads_measure (nonNegative : Bool) {value : String} (h : IsMeasure value.toList) :
    (size? nonNegative).Rereads value := by
  obtain ⟨c, d, t, hchars, hc⟩ := exists_cons_of_isMeasure h
  have hne : value ≠ "0" := by
    rintro rfl
    cases hchars
  have hblank : skipBlanks value.toList = value.toList := by
    rw [hchars]
    exact skipBlanks_cons (bare_of_isNumberChar hc).unblank _
  obtain ⟨number, unit, hunit, hnumber, heq⟩ := h
  have hread := number?_append hnumber (isNumberChar_of_mem_units hunit)
  rw [← heq] at hread
  have hhead : (String.ofList number).toList.head? ≠ some '-' := by
    intro hminus
    rw [String.toList_ofList] at hminus
    cases hnumber.1 '-' (List.mem_of_mem_head? hminus)
  have hjoined : String.ofList number ++ unit = value := by
    rw [← String.toList_inj, String.toList_append, String.toList_ofList, heq]
  rw [TokenReader.Rereads, size?_eq_some hblank hread hunit (.inr hhead), hjoined,
    normalForm_of_ne hne]

theorem size?_rereads_minus {value : String} {s : List Char} (hvalue : value.toList = '-' :: s)
    (h : IsMeasure s) : (size? false).Rereads value := by
  have hne : value ≠ "0" := by
    rintro rfl
    cases hvalue
  have hblank : skipBlanks value.toList = value.toList := by
    rw [hvalue]
    exact skipBlanks_cons (by decide) s
  obtain ⟨number, unit, hunit, hnumber, rfl⟩ := h
  have hread := number?_minus_append hnumber (isNumberChar_of_mem_units hunit)
  rw [← hvalue] at hread
  have hjoined : String.ofList ('-' :: number) ++ unit = value := by
    rw [← String.toList_inj, String.toList_append, String.toList_ofList, hvalue]
    rfl
  rw [TokenReader.Rereads, size?_eq_some hblank hread hunit (.inl rfl), hjoined,
    normalForm_of_ne hne]

end Measure

theorem color?_rereads_hexadecimal {value : String} {digits : List Char} (hne : digits ≠ [])
    (hdigits : ∀ c ∈ digits, isHexDigit c = true) (hvalue : value.toList = '#' :: digits) :
    color?.Rereads value := by
  have hzero : value ≠ "0" := by
    rintro rfl
    cases hvalue
  have hrun : digits.takeWhile isHexDigit = digits ∧ digits.dropWhile isHexDigit = [] :=
    ⟨List.takeWhile_eq_self_iff.2 hdigits, List.dropWhile_eq_nil_iff.2 hdigits⟩
  have hchars : String.ofList ('#' :: digits) = value := by
    rw [← hvalue, String.ofList_toList]
  rw [TokenReader.Rereads, normalForm_of_ne hzero, color?, hvalue, skipBlanks_cons (by decide)]
  simp only [hrun, hchars]
  exact if_neg (mt List.isEmpty_iff.1 hne)

theorem namedColors_small : ∀ name ∈ namedColors, Small name.toList ∧
    startsWithWord ['r', 'g', 'b'] name.toList = false := by
  decide +kernel

theorem color?_rereads_name {name : String} (hname : name ∈ namedColors) : color?.Rereads name := by
  obtain ⟨hsmall, hrgb⟩ := namedColors_small name hname
  have hread : keyword? namedColors name.toList = some (name, []) := by
    rw [keyword?_small (fun word hword => (namedColors_small word hword).1) hsmall, if_pos hname]
  rw [TokenReader.Rereads, normalForm_of_small hsmall, color?, skipBlanks_small hsmall]
  split
  · rename_i heq
    rw [heq] at hsmall
    cases hsmall '#' List.mem_cons_self
  · rw [hrgb, hread]
    rfl

section Words

variable {words : List String} {value : String}

theorem orElse_rereads_measure (h : Lettered words) (nonNegative : Bool)
    (hvalue : IsMeasure value.toList) :
    ((keyword? words).orElse (size? nonNegative)).Rereads value := by
  obtain ⟨c, d, t, hchars, hc⟩ := exists_cons_of_isMeasure hvalue
  refine .orElse_right ?_ (size?_rereads_measure nonNegative hvalue)
  rw [hchars]
  exact keyword?_eq_none h (bare_of_isNumberChar hc) _

theorem size_rereads (hwords : ∀ word ∈ words, (keyword? words).Rereads word)
    (hlettered : Lettered words) (hvalue : (Language.size words).Accepts value) :
    (Language.size words).reader.Rereads value := by
  rcases hvalue with hvalue | rfl | hvalue
  · exact .orElse_left (hwords value hvalue)
  · exact .orElse_right (keyword?_eq_none hlettered (c := '0') (by decide) []) (by decide)
  · exact orElse_rereads_measure hlettered true hvalue

theorem signedSize_rereads (hwords : ∀ word ∈ words, (keyword? words).Rereads word)
    (hlettered : Lettered words) (hvalue : (Language.signedSize words).Accepts value) :
    (Language.signedSize words).reader.Rereads value := by
  rcases hvalue with hvalue | hvalue | ⟨s, hchars, hvalue⟩
  · exact .orElse_left (hwords value hvalue)
  · exact orElse_rereads_measure hlettered false hvalue
  · refine .orElse_right ?_ (size?_rereads_minus hchars hvalue)
    rw [hchars]
    exact keyword?_eq_none hlettered (by decide) s

theorem color_rereads (hwords : ∀ word ∈ words, Small word.toList) (hlettered : Lettered words)
    (hnames : ∀ word ∈ words, word ∉ namedColors) (hvalue : (Language.color words).Accepts value) :
    (Language.color words).reader.Rereads value := by
  rcases hvalue with hvalue | hvalue | ⟨digits, hne, hdigits, hchars⟩
  · refine .orElse_left ?_
    rw [TokenReader.Rereads, normalForm_of_small (hwords value hvalue),
      keyword?_small hwords (hwords value hvalue), if_pos hvalue]
  · refine .orElse_right ?_ (color?_rereads_name hvalue)
    rw [keyword?_small hwords (namedColors_small value hvalue).1,
      if_neg fun hword => hnames value hword hvalue]
  · refine .orElse_right ?_ (color?_rereads_hexadecimal hne hdigits hchars)
    rw [hchars]
    exact keyword?_eq_none hlettered (by decide) digits

end Words

end Grammar

namespace Language

/-- Each word of the language is read as itself and hides no other value. -/
def Separates : Language → Prop
  | keyword words => ∀ word ∈ words, (keyword? words).Rereads word
  | size words | signedSize words =>
      (∀ word ∈ words, (keyword? words).Rereads word) ∧ Lettered words
  | color words =>
      (∀ word ∈ words, Small word.toList) ∧ Lettered words ∧ ∀ word ∈ words, word ∉ namedColors

instance : DecidablePred Separates := fun language =>
  match language with
  | keyword _ => inferInstanceAs (Decidable (∀ word ∈ _, _))
  | size _ | signedSize _ => inferInstanceAs (Decidable (_ ∧ _))
  | color _ => inferInstanceAs (Decidable (_ ∧ _ ∧ _))

theorem separates_of_mem : ∀ entry ∈ valueLanguages, entry.2.Separates := by
  decide +kernel

theorem reader_rereads {language : Language} (h : language.Separates) {value : String}
    (hvalue : language.Accepts value) : language.reader.Rereads value := by
  cases language with
  | keyword words => exact h value hvalue
  | size words => exact size_rereads h.1 h.2 hvalue
  | signedSize words => exact signedSize_rereads h.1 h.2 hvalue
  | color words => exact color_rereads h.1 h.2.1 h.2.2 hvalue

end Language

theorem languageOf?_rereads {key value : String} {language : Language}
    (h : languageOf? key = some language) (hvalue : language.Accepts value) :
    language.reader.Rereads value :=
  Language.reader_rereads (Language.separates_of_mem _ (mem_valueLanguages h)) hvalue

end FlatStyle
