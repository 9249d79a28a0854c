import FlatStyle.Grammar.Decoration
import FlatStyle.Grammar.Font
import FlatStyle.Grammar.ListStyle
import FlatStyle.Proofs.Grammar.Emission
import FlatStyle.Proofs.Text.Split

namespace FlatStyle

open Text Grammar

/-- Digits and points with at least one digit. -/
def IsNumber (s : List Char) : Prop :=
  (∀ c ∈ s, isNumberChar c = true) ∧ ∃ c ∈ s, c.isDigit = true

instance (s : List Char) : Decidable (IsNumber s) :=
  decidable_of_iff (s.all isNumberChar = true ∧ s.any Char.isDigit = true)
    (and_congr List.all_eq_true List.any_eq_true)

def IsMeasure (s : List Char) : Prop :=
  ∃ number, ∃ unit ∈ units, IsNumber number ∧ s = number ++ unit.toList

/-- What the values of a key are, some words of its own apart. -/
inductive Language where
  | keyword (words : List String)
  | size (words : List String)
  | signedSize (words : List String)
  | color (words : List String)
  deriving DecidableEq

namespace Language

/-- The clamped size `0` has no unit and no sign; every other size has a unit. -/
def Accepts : Language → String → Prop
  | keyword words, value => value ∈ words
  | size words, value => value ∈ words ∨ value = "0" ∨ IsMeasure value.toList
  | signedSize words, value =>
      value ∈ words ∨ IsMeasure value.toList ∨ ∃ s, value.toList = '-' :: s ∧ IsMeasure s
  | color words, value =>
      value ∈ words ∨ value ∈ namedColors ∨
        ∃ digits, digits ≠ [] ∧ (∀ c ∈ digits, isHexDigit c = true) ∧ value.toList = '#' :: digits

def words : Language → List String
  | keyword words | size words | signedSize words | color words => words

def reader : Language → TokenReader
  | keyword words => keyword? words
  | size words => (keyword? words).orElse (size? true)
  | signedSize words => (keyword? words).orElse (size? false)
  | color words => (keyword? words).orElse color?

end Language

namespace Grammar

variable {permitted : Char → Prop}

theorem TokenReader.Yields.mono {token : TokenReader} {language other : String → Prop}
    (htoken : token.Yields permitted language) (h : ∀ value, language value → other value) :
    token.Yields permitted other where
  suffix := htoken.suffix
  value := fun hs hread => h _ (htoken.value hs hread)

theorem keyword?_yields (words : List String) :
    (keyword? words).Yields permitted (Language.keyword words).Accepts where
  suffix := keyword?_suffix
  value := fun _ h => (of_keyword? h).1

theorem isNumber_takeWhile {s : List Char}
    (h : (s.takeWhile isNumberChar).any Char.isDigit = true) :
    IsNumber (s.takeWhile isNumberChar) :=
  ⟨of_mem_takeWhile, List.any_eq_true.1 h⟩

theorem of_number? {s rest : List Char} {number : String} (h : number? s = some (number, rest)) :
    s = number.toList ++ rest ∧
      (IsNumber number.toList ∨ ∃ digits, number.toList = '-' :: digits ∧ IsNumber digits) := by
  unfold number? at h
  split at h
  rename_i sign body hsplit
  have hsign : s = sign ++ body ∧ (sign = [] ∨ sign = ['-']) := by
    split at hsplit <;> cases hsplit
    · exact ⟨rfl, .inr rfl⟩
    · exact ⟨rfl, .inl rfl⟩
  simp only at h
  split at h
  · rename_i hdigit
    cases h
    obtain ⟨rfl, rfl | rfl⟩ := hsign
    · refine ⟨?_, .inl ?_⟩
      · simp
      · simpa using isNumber_takeWhile hdigit
    · refine ⟨?_, .inr ⟨body.takeWhile isNumberChar, ?_, isNumber_takeWhile hdigit⟩⟩
      · simp
      · simp
  · cases h

theorem of_size? {nonNegative : Bool} {s rest : List Char} {value : String}
    (h : size? nonNegative s = some (value, rest)) :
    ∃ number numberRest, number? (skipBlanks s) = some (number, numberRest) ∧ rest <:+ numberRest ∧
      ∃ unit ∈ units,
        value = if nonNegative && number.toList.head? == some '-' then "0" else number ++ unit := by
  obtain ⟨⟨number, numberRest⟩, hnumber, heq⟩ := Option.map_eq_some_iff.1 h
  refine ⟨number, numberRest, hnumber, ?_⟩
  cases hunit : keywordHere? units numberRest with
  | none =>
      simp only [hunit, Option.getD_none] at heq
      cases heq
      exact ⟨List.suffix_refl _, "px", by decide, rfl⟩
  | some read =>
      obtain ⟨unit, unitRest⟩ := read
      simp only [hunit, Option.getD_some] at heq
      cases heq
      exact ⟨keywordHere?_suffix hunit, unit, (of_keywordHere? hunit).1, rfl⟩

theorem size?_suffix {nonNegative : Bool} {s rest : List Char} {value : String}
    (h : size? nonNegative s = some (value, rest)) : rest <:+ s := by
  obtain ⟨number, numberRest, hnumber, hrest, -⟩ := of_size? h
  have hblank : numberRest <:+ skipBlanks s := ⟨number.toList, (of_number? hnumber).1.symm⟩
  exact hrest.trans (hblank.trans (skipBlanks_suffix s))

theorem size?_yields : (size? true).Yields permitted (Language.size []).Accepts where
  suffix := size?_suffix
  value := by
    intro s value rest _ h
    obtain ⟨number, numberRest, hnumber, -, unit, hunit, rfl⟩ := of_size? h
    rcases (of_number? hnumber).2 with hdigits | ⟨digits, hsign, -⟩
    · split
      · exact .inr (.inl rfl)
      · exact .inr (.inr ⟨number.toList, unit, hunit, hdigits, String.toList_append⟩)
    · rw [hsign]
      exact .inr (.inl rfl)

theorem signedSize?_yields : (size? false).Yields permitted (Language.signedSize []).Accepts where
  suffix := size?_suffix
  value := by
    intro s value rest _ h
    obtain ⟨number, numberRest, hnumber, -, unit, hunit, rfl⟩ := of_size? h
    have hvalue : (number ++ unit).toList = number.toList ++ unit.toList := String.toList_append
    rcases (of_number? hnumber).2 with hdigits | ⟨digits, hsign, hdigits⟩
    · exact .inr (.inl ⟨number.toList, unit, hunit, hdigits, hvalue⟩)
    · rw [hsign] at hvalue
      exact .inr (.inr ⟨digits ++ unit.toList, hvalue, digits, unit, hunit, hdigits, rfl⟩)

theorem sizeOrWord_yields (words : List String) :
    ((keyword? words).orElse (size? true)).Yields permitted (Language.size words).Accepts := by
  apply ((keyword?_yields words).orElse size?_yields).mono
  rintro value (h | h | h)
  · exact .inl h
  · cases h
  · exact .inr h

theorem signedSizeOrWord_yields (words : List String) :
    ((keyword? words).orElse (size? false)).Yields permitted
      (Language.signedSize words).Accepts := by
  apply ((keyword?_yields words).orElse signedSize?_yields).mono
  rintro value (h | h | h)
  · exact .inl h
  · cases h
  · exact .inr h

theorem color?_suffix {s rest : List Char} {value : String} (h : color? s = some (value, rest)) :
    rest <:+ s := by
  refine List.IsSuffix.trans ?_ (skipBlanks_suffix s)
  unfold color? at h
  split at h
  · rename_i t heq
    simp only at h
    split at h
    · cases h
    · cases h
      rw [heq]
      exact (List.dropWhile_suffix _).trans (List.suffix_cons '#' t)
  · split at h
    · cases h
      exact skipPast_suffix ')' _
    · rcases Option.or_eq_some_iff.1 h with h | ⟨-, h⟩
      · exact keyword?_suffix h
      · obtain ⟨⟨word, wordRest⟩, hword, heq⟩ := Option.map_eq_some_iff.1 h
        cases heq
        exact keyword?_suffix hword

theorem of_color? {s rest : List Char} {value : String} (h : color? s = some (value, rest)) :
    value ∈ namedColors ∨ ∃ digits, digits ≠ [] ∧ digits ⊆ s ∧
      (∀ c ∈ digits, isHexDigit c = true) ∧ value.toList = '#' :: digits := by
  unfold color? at h
  split at h
  · rename_i t heq
    simp only at h
    split at h
    · cases h
    · rename_i hdigits
      cases h
      refine .inr ⟨t.takeWhile isHexDigit, ?_, ?_, of_mem_takeWhile, String.toList_ofList⟩
      · simpa using hdigits
      · exact List.Subset.trans (List.takeWhile_prefix _).subset (suffix_of_skipBlanks heq).subset
  · split at h
    · cases h
      exact .inl (by decide)
    · rcases Option.or_eq_some_iff.1 h with h | ⟨-, h⟩
      · exact .inl (of_keyword? h).1
      · obtain ⟨⟨word, wordRest⟩, -, heq⟩ := Option.map_eq_some_iff.1 h
        cases heq
        exact .inl (by decide)

theorem color?_yields : color?.Yields permitted (Language.color []).Accepts where
  suffix := color?_suffix
  value := by
    intro s value rest _ h
    rcases of_color? h with h | ⟨digits, hne, -, hdigits, heq⟩
    · exact .inr (.inl h)
    · exact .inr (.inr ⟨digits, hne, hdigits, heq⟩)

theorem colorOrWord_yields (words : List String) :
    ((keyword? words).orElse color?).Yields permitted (Language.color words).Accepts := by
  apply ((keyword?_yields words).orElse color?_yields).mono
  rintro value (h | h | h)
  · exact .inl h
  · cases h
  · exact .inr h

theorem writtenName?_suffix {s rest : List Char} {name : String}
    (h : writtenName? s = some (name, rest)) : rest <:+ s := by
  refine List.IsSuffix.trans ?_ (skipBlanks_suffix s)
  unfold writtenName? at h
  split at h
  · rename_i t heq
    cases h
    rw [heq]
    exact (skipPast_suffix '"' t).trans (List.suffix_cons '"' t)
  · rename_i t heq
    cases h
    rw [heq]
    exact (skipPast_suffix '\'' t).trans (List.suffix_cons '\'' t)
  · simp only at h
    split at h
    · cases h
    · cases h
      exact List.dropWhile_suffix _

theorem mem_of_mem_writtenName? {s rest : List Char} {name : String}
    (h : writtenName? s = some (name, rest)) {c : Char} (hc : c ∈ name.toList) : c ∈ s := by
  apply (skipBlanks_suffix s).subset
  unfold writtenName? at h
  split at h
  · rename_i t heq
    cases h
    rw [String.toList_ofList] at hc
    rw [heq]
    exact List.mem_cons_of_mem _ ((List.takeWhile_prefix _).subset hc)
  · rename_i t heq
    cases h
    rw [String.toList_ofList] at hc
    rw [heq]
    exact List.mem_cons_of_mem _ ((List.takeWhile_prefix _).subset hc)
  · simp only at h
    split at h
    · cases h
    · cases h
      rw [String.toList_ofList] at hc
      exact (List.takeWhile_prefix _).subset (trim_subset _ hc)

theorem familyName?_suffix {s rest : List Char} {name : String}
    (h : familyName? s = some (name, rest)) : rest <:+ s := by
  rcases Option.or_eq_some_iff.1 h with h | ⟨-, h⟩
  · exact keyword?_suffix h
  · exact writtenName?_suffix h

theorem families_suffix (s : List Char) : (families s).2 <:+ s := by
  fun_induction families s with
  | case1 s => exact List.suffix_refl s
  | case2 s name t hname u hcomma names rest hmore ih =>
      rw [hmore] at ih
      exact ih.trans ((suffix_of_skipBlanks hcomma).trans (familyName?_suffix hname))
  | case3 s name t hname _ => exact (skipBlanks_suffix t).trans (familyName?_suffix hname)

theorem familyName?_of_families {s rest : List Char} {name : String} {names : List String}
    (h : families s = (name :: names, rest)) : ∃ t, familyName? s = some (name, t) := by
  unfold families at h
  split at h
  · cases h
  · rename_i t hname
    split at h <;> cases h
    · exact ⟨t, hname⟩
    · exact ⟨t, hname⟩

theorem firstFamily?_yields
    (hgeneric : ∀ word ∈ genericFamilies, ∀ c ∈ word.toList, permitted c) :
    firstFamily?.Yields permitted fun name => ∀ c ∈ name.toList, permitted c where
  suffix := by
    intro s value rest h
    have hsuffix := families_suffix s
    unfold firstFamily? at h
    split at h
    · cases h
    · rename_i heq
      cases h
      rwa [heq] at hsuffix
  value := by
    intro s value rest hs h
    unfold firstFamily? at h
    split at h
    · cases h
    · rename_i heq
      cases h
      obtain ⟨t, hname⟩ := familyName?_of_families heq
      rcases Option.or_eq_some_iff.1 hname with hname | ⟨-, hname⟩
      · exact hgeneric value (of_keyword? hname).1
      · exact fun c hc => hs c (mem_of_mem_writtenName? hname hc)

end Grammar

theorem Language.reader_yields {permitted : Char → Prop} (language : Language) :
    language.reader.Yields permitted language.Accepts := by
  cases language with
  | keyword words => exact keyword?_yields words
  | size words => exact sizeOrWord_yields words
  | signedSize words => exact signedSizeOrWord_yields words
  | color words => exact colorOrWord_yields words

end FlatStyle
