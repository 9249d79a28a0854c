import FlatStyle.Proofs.Grammar.Keyword
import FlatStyle.Proofs.Text.Margins

/-!
The components of fonts where they stand in a longer text. Each reader finds its own component and
passes over the blanks before it; a word or a measure of another component it leaves alone. Only the
number of a weight can be found where it is not meant, at the front of a size.
-/

namespace FlatStyle

open Text Grammar

namespace Grammar

/-- A text that may stand right after a token: nothing, a blank, a slash or a comma. -/
def Parted (s : List Char) : Prop :=
  ∀ c ∈ s.head?, isAsciiBlank c = true ∨ c = '/' ∨ c = ','

structure Gap where
  chars : List Char
  ne_nil : chars ≠ []
  blank : ∀ c ∈ chars, isAsciiBlank c = true

def Gap.space : Gap := ⟨[' '], List.cons_ne_nil _ _, List.forall_mem_singleton.2 rfl⟩

section Token

variable {s : List Char}

theorem Parted.not_isKeywordChar (h : Parted s) : ∀ c ∈ s.head?, isKeywordChar c = false := by
  intro c hc
  rcases h c hc with hblank | rfl | rfl
  · exact isKeywordChar_of_isBlank (isBlank_of_isAsciiBlank hblank)
  · rfl
  · rfl

theorem Parted.not_isNumberChar (h : Parted s) : ∀ c ∈ s.head?, isNumberChar c = false := by
  intro c hc
  rw [Bool.eq_false_iff]
  intro hnumber
  rcases h c hc with hblank | rfl | rfl
  · rw [(bare_of_isNumberChar hnumber).unblank] at hblank
    cases hblank
  · cases hnumber
  · cases hnumber

theorem Gap.parted (gap : Gap) (t : List Char) : Parted (gap.chars ++ t) := by
  intro c hc
  rw [List.head?_append_of_ne_nil _ gap.ne_nil] at hc
  exact .inl (gap.blank c (List.mem_of_mem_head? hc))

def Numeral (s : List Char) : Prop := ∃ c t, s = c :: t ∧ isNumberChar c = true

theorem numeral_of_isNumber (h : IsNumber s) : Numeral s := by
  obtain ⟨hchars, digit, hdigit, -⟩ := h
  obtain ⟨c, t, rfl⟩ := List.exists_cons_of_ne_nil (List.ne_nil_of_mem hdigit)
  exact ⟨c, t, rfl, hchars c List.mem_cons_self⟩

theorem numeral_of_isMeasure (h : IsMeasure s) : Numeral s := by
  obtain ⟨c, d, t, rfl, hc⟩ := exists_cons_of_isMeasure h
  exact ⟨c, d :: t, rfl, hc⟩

theorem Numeral.solid (h : Numeral s) : Solid s := by
  obtain ⟨c, t, rfl, hc⟩ := h
  exact solid_cons_iff.2 (bare_of_isNumberChar hc).unblank

end Token

section Keyword

variable {table : List String} {word t : List Char}

theorem keyword?_append (htable : table ∈ keywordTables) (hword : Solid word) (ht : Parted t) :
    keyword? table (word ++ t) =
      (keywordHere? table word).map fun (name, tail) => (name, tail ++ t) :=
  hword.keyword?_append (isKeywordChar_of_mem_keywordTables table htable) ht.not_isKeywordChar

theorem Numeral.keywordHere?_eq_none (h : Numeral word) (htable : Lettered table) :
    keywordHere? table word = none := by
  obtain ⟨c, t, rfl, hc⟩ := h
  rw [← skipBlanks_cons (bare_of_isNumberChar hc).unblank]
  exact keyword?_eq_none htable (bare_of_isNumberChar hc) t

end Keyword

section Size

variable {number s t : List Char} {value : String}

def pixels (value : String) : String :=
  if value.toList.all isNumberChar then value ++ "px" else value

theorem size?_congr (h : skipBlanks s = skipBlanks t) : size? true s = size? true t := by
  rw [size?, size?, h]

theorem size?_append (hnumber : IsNumber number) (ht : ∀ c ∈ t.head?, isNumberChar c = false) :
    size? true (number ++ t) =
      let (unit, rest) := (keywordHere? units t).getD ("px", t)
      some (String.ofList number ++ unit, rest) := by
  have hminus : (true && (String.ofList number).toList.head? == some '-') = false := by
    rw [Bool.true_and, beq_eq_false_iff_ne, String.toList_ofList]
    intro hhead
    cases hnumber.1 '-' (List.mem_of_mem_head? hhead)
  rw [size?, (numeral_of_isNumber hnumber).solid.skipBlanks_append, number?_append hnumber ht,
    Option.map_some]
  simp only [hminus, Bool.false_eq_true, if_false]

theorem units_chars : ∀ unit ∈ units, unit.toList.all isKeywordChar = true ∧
    unit.toList.all (fun c => c.isAlphanum || c == '%') = true := by
  decide

theorem isKeywordChar_of_mem_units : ∀ unit ∈ units, ∀ c ∈ unit.toList, isKeywordChar c = true :=
  fun unit hunit => List.all_eq_true.1 (units_chars unit hunit).1

theorem size?_number_append (hvalue : IsNumber value.toList) (ht : Parted t) :
    size? true (value.toList ++ t) = some (value ++ "px", t) := by
  have hunit : keywordHere? units ([] ++ t) = none :=
    keywordHere?_append isKeywordChar_of_mem_units ht.not_isKeywordChar
  rw [List.nil_append] at hunit
  rw [size?_append hvalue ht.not_isNumberChar, hunit, String.ofList_toList]
  rfl

theorem size?_measure_append (hvalue : IsMeasure value.toList) (ht : Parted t) :
    size? true (value.toList ++ t) = some (value, t) := by
  obtain ⟨number, unit, hunit, hnumber, hchars⟩ := hvalue
  have hread : keywordHere? units (unit.toList ++ t) = some (unit, t) := by
    rw [keywordHere?_append isKeywordChar_of_mem_units ht.not_isKeywordChar,
      (units_reread unit hunit).2.2]
    rfl
  have hhead : ∀ c ∈ (unit.toList ++ t).head?, isNumberChar c = false := by
    intro c hc
    rw [List.head?_append_of_ne_nil _ (units_reread unit hunit).1] at hc
    exact isNumberChar_of_mem_units hunit c hc
  have hjoined : String.ofList number ++ unit = value := by
    rw [← String.toList_inj, String.toList_append, String.toList_ofList, hchars]
  rw [hchars, List.append_assoc, size?_append hnumber hhead, hread, ← hjoined]
  rfl

theorem pixels_number (hvalue : IsNumber value.toList) : pixels value = value ++ "px" :=
  if_pos (List.all_eq_true.2 hvalue.1)

theorem pixels_measure (hvalue : IsMeasure value.toList) : pixels value = value := by
  refine if_neg fun hall => ?_
  obtain ⟨number, unit, hunit, -, hchars⟩ := hvalue
  obtain ⟨c, rest, hc⟩ := List.exists_cons_of_ne_nil (units_reread unit hunit).1
  have hnumber : isNumberChar c = true := by
    refine List.all_eq_true.1 hall c ?_
    rw [hchars, hc]
    exact List.mem_append_right _ List.mem_cons_self
  rw [isNumberChar_of_mem_units hunit c (by rw [hc]; rfl)] at hnumber
  cases hnumber

def IsFontSize (value : String) : Prop := value ∈ fontSizes ∨ IsMeasure value.toList

def IsLineHeight (value : String) : Prop :=
  value = "normal" ∨ IsNumber value.toList ∨ IsMeasure value.toList

theorem fontSizes_read : ∀ word ∈ fontSizes, Solid word.toList ∧
    keywordHere? fontSizes word.toList = some (word, []) := by
  decide +kernel

theorem IsFontSize.solid (hvalue : IsFontSize value) : Solid value.toList := by
  rcases hvalue with hword | hmeasure
  · exact (fontSizes_read value hword).1
  · exact (numeral_of_isMeasure hmeasure).solid

theorem fontSize_append (hvalue : IsFontSize value) (ht : Parted t)
    (hs : skipBlanks s = skipBlanks (value.toList ++ t)) :
    fontSize s = ⟨true, [("font-size", value)], t⟩ := by
  have htable : fontSizes ∈ keywordTables := by decide
  rw [fontSize, single, TokenReader.orElse, keyword?_congr hs, size?_congr hs]
  rcases hvalue with hword | hmeasure
  · obtain ⟨hsolid, hread⟩ := fontSizes_read value hword
    rw [keyword?_append htable hsolid ht, hread]
    rfl
  · have hnumeral := numeral_of_isMeasure hmeasure
    rw [keyword?_append htable hnumeral.solid ht, hnumeral.keywordHere?_eq_none (by decide),
      size?_measure_append hmeasure ht]
    rfl

theorem lineHeight_append (hvalue : IsLineHeight value) (ht : Parted t)
    (hs : skipBlanks s = skipBlanks (value.toList ++ t)) :
    lineHeight s = ⟨true, [("line-height", pixels value)], t⟩ := by
  have htable : ["normal"] ∈ keywordTables := by decide
  have hlettered : Lettered ["normal"] := by decide
  rw [lineHeight, single, TokenReader.orElse, keyword?_congr hs, size?_congr hs]
  rcases hvalue with rfl | hnumber | hmeasure
  · rw [keyword?_append htable (by decide) ht]
    rfl
  · have hnumeral := numeral_of_isNumber hnumber
    rw [keyword?_append htable hnumeral.solid ht, hnumeral.keywordHere?_eq_none hlettered,
      size?_number_append hnumber ht, pixels_number hnumber]
    rfl
  · have hnumeral := numeral_of_isMeasure hmeasure
    rw [keyword?_append htable hnumeral.solid ht, hnumeral.keywordHere?_eq_none hlettered,
      size?_measure_append hmeasure ht, pixels_measure hmeasure]
    rfl

theorem slashLineHeight_append {before after : List Char} (hvalue : IsLineHeight value)
    (hbefore : ∀ c ∈ before, isAsciiBlank c = true) (hafter : ∀ c ∈ after, isAsciiBlank c = true)
    (ht : Parted t) :
    slashLineHeight (before ++ '/' :: (after ++ (value.toList ++ t))) =
      ⟨true, [("line-height", pixels value)], t⟩ := by
  have hslash : skipBlanks (before ++ '/' :: (after ++ (value.toList ++ t))) =
      '/' :: (after ++ (value.toList ++ t)) := by
    rw [skipBlanks_append hbefore, skipBlanks_cons (by decide)]
  rw [slashLineHeight, hslash]
  simp only [lineHeight_append hvalue ht (skipBlanks_append hafter _), if_true]

theorem slashLineHeight_eq_refused (h : ∀ u, skipBlanks s ≠ '/' :: u) :
    slashLineHeight s = .refused s := by
  unfold slashLineHeight
  split
  · rename_i u heq
    exact absurd heq (h u)
  · rfl

end Size

section Weight

variable {size rest : List Char} {word : String}

def letteredWeights : List String := ["normal", "bold", "bolder", "lighter"]

def numberWeights : List String := ["100", "200", "300", "400", "500", "600", "700", "800", "900"]

/-- The text begins with the number of a weight, and a point or a percent sign ends it there. -/
def Heavy (size : List Char) : Prop :=
  ∃ weight ∈ numberWeights, ∃ mark, (mark = '.' ∨ mark = '%') ∧ weight.toList ++ [mark] <+: size

theorem isSome_of_heavy (h : Heavy size) : (keywordHere? fontWeights size).isSome = true := by
  obtain ⟨weight, hweight, mark, hmark, rest, rfl⟩ := h
  have hunambiguous : Unambiguous fontWeights :=
    unambiguous_of_mem_keywordTables fontWeights (by decide)
  have hmem : weight ∈ fontWeights := List.mem_append_right letteredWeights hweight
  have hend : endsWord (mark :: rest) = true := by
    rcases hmark with rfl | rfl <;> rfl
  have hdrop : dropWord? weight.toList (weight.toList ++ [mark] ++ rest) = some (mark :: rest) :=
    dropWord?_eq_some_iff.2 ⟨weight.toList, rfl, List.append_assoc _ _ _⟩
  rw [hunambiguous.keywordHere?_eq_some_iff.2 ⟨hmem, hdrop, hend⟩]
  rfl

theorem numberWeights_digits : ∀ weight ∈ numberWeights,
    weight.toList.all Char.isDigit = true := by
  decide

theorem eq_mark_of_measure (hsize : IsMeasure size) {c : Char} (hc : c ∈ size)
    (hend : c.isAlphanum = false) : c = '.' ∨ c = '%' := by
  obtain ⟨number, unit, hunit, hnumber, rfl⟩ := hsize
  rcases List.mem_append.1 hc with hc | hc
  · rcases Bool.or_eq_true_iff.1 (hnumber.1 c hc) with hdigit | hpoint
    · rw [Char.isAlphanum, hdigit, Bool.or_true] at hend
      cases hend
    · exact .inl (beq_iff_eq.1 hpoint)
  · have hunitChar := List.all_eq_true.1 (units_chars unit hunit).2 c hc
    rw [hend, Bool.false_or] at hunitChar
    exact .inr (beq_iff_eq.1 hunitChar)

theorem exists_mem_not_isDigit_of_measure (hsize : IsMeasure size) :
    ∃ c ∈ size, c.isDigit = false := by
  obtain ⟨number, unit, hunit, -, rfl⟩ := hsize
  obtain ⟨c, rest, hc⟩ := List.exists_cons_of_ne_nil (units_reread unit hunit).1
  have hnumber := isNumberChar_of_mem_units hunit c (by rw [hc]; rfl)
  refine ⟨c, List.mem_append_right _ (hc ▸ List.mem_cons_self), ?_⟩
  exact (Bool.or_eq_false_iff.1 hnumber).1

theorem heavy_of_measure (hsize : IsMeasure size)
    (h : keywordHere? fontWeights size = some (word, rest)) : Heavy size := by
  obtain ⟨hmem, hdrop, hend⟩ := of_keywordHere? h
  obtain ⟨front, hfront, rfl⟩ := dropWord?_eq_some_iff.1 hdrop
  have hword : word ∈ numberWeights := by
    have hparts : word ∈ letteredWeights ++ numberWeights := hmem
    refine (List.mem_append.1 hparts).resolve_left fun hlettered => ?_
    have hnone := (numeral_of_isMeasure hsize).keywordHere?_eq_none
      (show Lettered letteredWeights by decide)
    have hread := List.findSome?_eq_none_iff.1 hnone word hlettered
    rw [hdrop, Option.bind_some, if_pos hend] at hread
    cases hread
  have hdigits := List.all_eq_true.1 (numberWeights_digits word hword)
  obtain rfl : front = word.toList :=
    eq_of_folded_eq (fun c hc => unlettered_of_isDigit (hdigits c hc)) hfront
  cases rest with
  -- The unit is still to come, as all of the word is digits.
  | nil =>
      rw [List.append_nil] at hsize
      obtain ⟨c, hc, hother⟩ := exists_mem_not_isDigit_of_measure hsize
      rw [hdigits c hc] at hother
      cases hother
  | cons mark rest =>
      rw [endsWord_cons, Bool.not_eq_true'] at hend
      have hmark := eq_mark_of_measure hsize (List.mem_append_right _ List.mem_cons_self) hend
      exact ⟨word, hword, mark, hmark, rest, List.append_assoc _ _ _⟩

theorem fontSizes_weightless : ∀ word ∈ fontSizes,
    keywordHere? fontWeights word.toList = none := by
  decide +kernel

/-- A weight is read off a size exactly if the size begins with one that can end there. -/
theorem isSome_iff_heavy {value : String} (h : IsFontSize value) :
    (keywordHere? fontWeights value.toList).isSome = true ↔ Heavy value.toList := by
  refine ⟨fun hsome => ?_, isSome_of_heavy⟩
  rcases h with hword | hmeasure
  · rw [fontSizes_weightless value hword] at hsome
    cases hsome
  · obtain ⟨⟨word, rest⟩, hread⟩ := Option.isSome_iff_exists.1 hsome
    exact heavy_of_measure hmeasure hread

end Weight

section Lead

variable {table words later : List String} {key : String} {component : Option String} {gap : Gap}
  {s t : List Char}

def lead (component : Option String) (gap : Gap) : List Char :=
  match component with
  | some word => word.toList ++ gap.chars
  | none => []

def entry (key : String) (component : Option String) : List (String × String) :=
  component.toList.map (key, ·)

def Foreign (table words : List String) : Prop :=
  ∀ word ∈ words, Solid word.toList ∧ keywordHere? table word.toList = none

instance (table words : List String) : Decidable (Foreign table words) :=
  inferInstanceAs (Decidable (∀ word ∈ words, _))

def Known (table words : List String) : Prop :=
  ∀ word ∈ words, Solid word.toList ∧ keywordHere? table word.toList = some (word, [])

instance (table words : List String) : Decidable (Known table words) :=
  inferInstanceAs (Decidable (∀ word ∈ words, _))

def Begins (words : List String) (s : List Char) : Prop :=
  ∃ word t, s = word.toList ++ t ∧ Parted t ∧ (word ∈ words ∨ IsMeasure word.toList)

theorem begins_lead (hcomponent : ∀ word ∈ component, word ∈ words) (h : Begins later t) :
    Begins (words ++ later) (lead component gap ++ t) := by
  cases component with
  | none =>
      obtain ⟨word, rest, rfl, hrest, hword⟩ := h
      exact ⟨word, rest, rfl, hrest, hword.imp_left (List.mem_append_right words)⟩
  | some word =>
      have hword := List.mem_append_left later (hcomponent word rfl)
      exact ⟨word, gap.chars ++ t, List.append_assoc _ _ _, gap.parted t, .inl hword⟩

theorem Begins.keyword?_eq_none (h : Begins words s) (htable : table ∈ keywordTables)
    (hlettered : Lettered table) (hwords : Foreign table words) : keyword? table s = none := by
  obtain ⟨word, t, rfl, ht, hword | hmeasure⟩ := h
  · obtain ⟨hsolid, hnone⟩ := hwords word hword
    rw [keyword?_append htable hsolid ht, hnone, Option.map_none]
  · have hnumeral := numeral_of_isMeasure hmeasure
    rw [keyword?_append htable hnumeral.solid ht, hnumeral.keywordHere?_eq_none hlettered,
      Option.map_none]

theorem single_lead (htable : table ∈ keywordTables) (hwords : Known table words)
    (hcomponent : ∀ word ∈ component, word ∈ words)
    (hnone : component = none → keyword? table t = none)
    (hs : skipBlanks s = skipBlanks (lead component gap ++ t)) :
    (single key (keyword? table) s).writes = entry key component ∧
      skipBlanks (single key (keyword? table) s).rest = skipBlanks t := by
  rw [single, keyword?_congr hs]
  cases component with
  | none =>
      have hread : keyword? table (lead none gap ++ t) = none := hnone rfl
      rw [hread]
      exact ⟨rfl, hs⟩
  | some word =>
      obtain ⟨hsolid, hhere⟩ := hwords word (hcomponent word rfl)
      have hread : keyword? table (lead (some word) gap ++ t) = some (word, gap.chars ++ t) := by
        rw [lead, List.append_assoc, keyword?_append htable hsolid (gap.parted t), hhere]
        rfl
      rw [hread]
      exact ⟨rfl, skipBlanks_append gap.blank t⟩

end Lead

section Family

variable {name : String} {margin others s t u : List Char}

theorem families_of_none (h : familyName? s = none) : families s = ([], s) := by
  rw [families]
  split
  · rfl
  · rename_i hname
    rw [h] at hname
    cases hname

theorem families_of_comma (hname : familyName? s = some (name, t))
    (hcomma : skipBlanks t = ',' :: u) :
    families s = (name :: (families u).1, (families u).2) := by
  rw [families]
  split
  · rename_i hnone
    rw [hname] at hnone
    cases hnone
  · rename_i hsome
    rw [hname] at hsome
    cases hsome
    split
    · rename_i heq
      rw [hcomma] at heq
      cases heq
      rfl
    · rename_i hno
      exact absurd hcomma (hno u)

theorem families_of_end (hname : familyName? s = some (name, t))
    (hend : ∀ u, skipBlanks t ≠ ',' :: u) : families s = ([name], skipBlanks t) := by
  rw [families]
  split
  · rename_i hnone
    rw [hname] at hnone
    cases hnone
  · rename_i hsome
    rw [hname] at hsome
    cases hsome
    split
    · rename_i heq
      exact absurd heq (hend _)
    · rfl

theorem firstFamily?_of_familyName? (h : familyName? s = some (name, t)) :
    ∃ rest, firstFamily? s = some (name, rest) := by
  by_cases hcomma : ∃ u, skipBlanks t = ',' :: u
  · obtain ⟨u, hcomma⟩ := hcomma
    exact ⟨(families u).2, by rw [firstFamily?, families_of_comma h hcomma]⟩
  · exact ⟨skipBlanks t, by rw [firstFamily?, families_of_end h (not_exists.1 hcomma)]⟩

theorem identifier_of_small (hne : s ≠ []) (h : Small s) : Identifier s where
  ne_nil := hne
  chars := by
    intro c hc
    rw [isIdentifierChar, isAlphanum_of_isLower (h c hc), Bool.true_or, Bool.true_or]

theorem genericFamilies_folded : ∀ word ∈ genericFamilies, folded word.toList = word.toList := by
  decide

theorem keywordHere?_generic_iff (hfolded : folded name.toList = name.toList) {family : String} :
    keywordHere? genericFamilies name.toList = some (family, t) ↔
      family ∈ genericFamilies ∧ name.toList = family.toList ++ t ∧ endsWord t = true := by
  rw [(unambiguous_of_mem_keywordTables genericFamilies (by decide)).keywordHere?_eq_some_iff,
    dropWord?_eq_some_iff]
  refine and_congr_right fun hfamily => and_congr_left fun _ => ⟨?_, fun hsplit => ?_⟩
  · rintro ⟨front, hfront, hsplit⟩
    rw [hsplit, folded_append] at hfolded
    have hown : folded front = front :=
      (List.append_inj hfolded (by rw [folded, List.length_map])).1
    rw [hown, genericFamilies_folded family hfamily] at hfront
    rw [hsplit, hfront]
  · exact ⟨family.toList, rfl, hsplit⟩

/-- The name goes on after a generic family that is already complete. -/
def Clipped (name : String) : Prop :=
  ∃ family ∈ genericFamilies, ∃ c rest, c.isAlphanum = false ∧
    name.toList = family.toList ++ c :: rest

theorem not_clipped_of_small (hsmall : Small name.toList) : ¬ Clipped name := by
  rintro ⟨family, -, c, rest, hc, hsplit⟩
  have hlower : c.isLower = true := hsmall c (hsplit ▸ List.mem_append_right _ List.mem_cons_self)
  rw [isAlphanum_of_isLower hlower] at hc
  cases hc

theorem append_ne_cons_of_small (hne : s ≠ []) (hs : Small s) {c : Char} (hc : c.isLower = false)
    {u : List Char} : s ++ t ≠ c :: u := by
  obtain ⟨d, s, rfl⟩ := List.exists_cons_of_ne_nil hne
  rw [List.cons_append]
  intro h
  rw [← (List.cons.inj h).1, hs d List.mem_cons_self] at hc
  cases hc

theorem trimmed_of_small (h : Small s) : Trimmed s where
  head c hc := isBlank_eq_false_of_isLower (h c (List.mem_of_mem_head? hc))
  last c hc := isBlank_eq_false_of_isLower (h c (List.mem_of_mem_getLast? hc))

structure Unquoted (name : List Char) : Prop where
  ne_nil : name ≠ []
  trimmed : Trimmed name
  chars : ∀ c ∈ name, c ∉ [',', ';', '"', '\'']

instance (name : List Char) : Decidable (Unquoted name) :=
  decidable_of_iff (name ≠ [] ∧ Trimmed name ∧
      (name.all fun c => decide (c ∉ [',', ';', '"', '\''])) = true) (by
    simp only [List.all_eq_true, decide_eq_true_eq]
    exact ⟨fun h => ⟨h.1, h.2.1, h.2.2⟩, fun h => ⟨h.1, h.2, h.3⟩⟩)

theorem unquoted_of_small (hne : s ≠ []) (h : Small s) : Unquoted s where
  ne_nil := hne
  trimmed := trimmed_of_small h
  chars := by
    intro c hc hmark
    have hlower := h c hc
    simp only [List.mem_cons, List.not_mem_nil, or_false] at hmark
    rcases hmark with rfl | rfl | rfl | rfl <;> cases hlower

theorem Unquoted.solid (h : Unquoted s) : Solid s := by
  obtain ⟨c, s, rfl⟩ := List.exists_cons_of_ne_nil h.ne_nil
  refine solid_cons_iff.2 (Bool.eq_false_iff.2 fun hblank => ?_)
  have hhead : isBlank c = false := h.trimmed.head c rfl
  rw [isBlank_of_isAsciiBlank hblank] at hhead
  cases hhead

theorem Unquoted.append_ne_cons (h : Unquoted s) {c : Char} (hc : c ∈ [',', ';', '"', '\''])
    {u : List Char} : s ++ t ≠ c :: u := by
  intro heq
  obtain ⟨d, s, rfl⟩ := List.exists_cons_of_ne_nil h.ne_nil
  cases heq
  exact h.chars c List.mem_cons_self hc

theorem writtenName?_append (hname : Unquoted name.toList)
    (hmargin : ∀ c ∈ margin, isAsciiBlank c = true) (hothers : ∀ c ∈ others.head?, c = ',')
    (hs : skipBlanks s = name.toList ++ (margin ++ others)) :
    writtenName? s = some (name, others) := by
  have hrun : ∀ c ∈ name.toList ++ margin, isNameChar c = true := by
    rw [List.forall_mem_append]
    constructor
    · intro c hc
      have hplain := hname.chars c hc
      rw [isNameChar, Bool.and_eq_true, bne_iff_ne, bne_iff_ne]
      constructor <;> rintro rfl <;> exact hplain (by decide)
    · intro c hc
      have hblank := hmargin c hc
      rw [isNameChar, Bool.and_eq_true, bne_iff_ne, bne_iff_ne]
      constructor <;> rintro rfl <;> cases hblank
  have hend : ∀ c ∈ others.head?, isNameChar c = false := by
    intro c hc
    rw [hothers c hc]
    rfl
  have hblank : Blank margin := fun c hc => isBlank_of_isAsciiBlank (hmargin c hc)
  have htrim : trim (name.toList ++ margin) = name.toList :=
    trim_margins blank_nil hname.trimmed hblank
  unfold writtenName?
  rw [hs]
  split
  · rename_i heq
    exact absurd heq (hname.append_ne_cons (by decide))
  · rename_i heq
    exact absurd heq (hname.append_ne_cons (by decide))
  · rw [← List.append_assoc, takeWhile_run hrun hend, dropWhile_run hrun hend, htrim]
    simp only [List.isEmpty_iff, hname.ne_nil, if_false, String.ofList_toList]

theorem parted_margin (hmargin : ∀ c ∈ margin, isAsciiBlank c = true)
    (hothers : ∀ c ∈ others.head?, c = ',') : Parted (margin ++ others) := by
  intro c hc
  cases margin with
  | nil => exact .inr (.inr (hothers c hc))
  | cons d margin =>
      cases hc
      exact .inl (hmargin c List.mem_cons_self)

theorem familyName?_append (hname : Unquoted name.toList)
    (hfolded : folded name.toList = name.toList) (hwhole : ¬ Clipped name)
    (hmargin : ∀ c ∈ margin, isAsciiBlank c = true) (hothers : ∀ c ∈ others.head?, c = ',')
    (hs : skipBlanks s = skipBlanks (name.toList ++ (margin ++ others))) :
    ∃ t, familyName? s = some (name, t) ∧ skipBlanks t = skipBlanks others := by
  rw [familyName?, TokenReader.orElse, keyword?_congr hs,
    keyword?_append (by decide) hname.solid (parted_margin hmargin hothers)]
  cases hread : keywordHere? genericFamilies name.toList with
  | none =>
      rw [hname.solid.skipBlanks_append] at hs
      exact ⟨others, writtenName?_append hname hmargin hothers hs, rfl⟩
  | some read =>
      obtain ⟨family, tail⟩ := read
      obtain ⟨hfamily, hsplit, hend⟩ := (keywordHere?_generic_iff hfolded).1 hread
      cases tail with
      | nil =>
          rw [List.append_nil, String.toList_inj] at hsplit
          exact ⟨margin ++ others, by rw [hsplit]; rfl, skipBlanks_append hmargin others⟩
      | cons c tail =>
          rw [endsWord_cons, Bool.not_eq_true'] at hend
          exact absurd ⟨family, hfamily, c, tail, hend, hsplit⟩ hwhole

theorem fontFamily_append (hne : name.toList ≠ []) (hsmall : Small name.toList)
    (hmargin : ∀ c ∈ margin, isAsciiBlank c = true) (hothers : ∀ c ∈ others.head?, c = ',')
    (hs : skipBlanks s = skipBlanks (name.toList ++ (margin ++ others))) :
    (fontFamily s).writes = [("font-family", name)] := by
  obtain ⟨t, hname, -⟩ := familyName?_append (unquoted_of_small hne hsmall) (folded_small hsmall)
    (not_clipped_of_small hsmall) hmargin hothers hs
  obtain ⟨rest, hfirst⟩ := firstFamily?_of_familyName? hname
  rw [fontFamily, single, hfirst]

end Family

theorem weightReading_subset (s : List Char) : (weightReading s).writes ⊆ (font s).writes := by
  intro e he
  rw [font_eq]
  have hlead := List.mem_append_left (fontSize (weightReading s).rest).writes
    (List.mem_append_right ((styleReading s).writes ++ (variantReading s).writes) he)
  dsimp only
  split
  · exact List.mem_append_left _ (List.mem_append_left _ hlead)
  · exact hlead

end Grammar

end FlatStyle
