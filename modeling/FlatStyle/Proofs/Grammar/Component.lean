import FlatStyle.Proofs.Grammar.Consumption
import FlatStyle.Proofs.Grammar.Spelling

namespace FlatStyle.Grammar

open Text

inductive Component where
  | size
  | style
  | color
  deriving DecidableEq

/-- A unit in any case. Without one a number counts pixels. -/
inductive SpellsUnit : List Char → String → Prop where
  | absent : SpellsUnit [] "px"
  | written {chars : List Char} {unit : String} (h : Spelled units chars unit) :
      SpellsUnit chars unit

namespace Component

def all : List Component := [size, style, color]

def reader : Component → TokenReader
  | size => size? true
  | style => keyword? borderStyles
  | color => color?

/-- The token stands for the value. -/
inductive Spells : Component → List Char → String → Prop where
  | number (number unitChars : List Char) (unit : String) (hnumber : IsNumber number)
      (hunit : SpellsUnit unitChars unit) :
      Spells size (number ++ unitChars) (String.ofList number ++ unit)
  | negative (number unitChars : List Char) (unit : String) (hnumber : IsNumber number)
      (hunit : SpellsUnit unitChars unit) : Spells size ('-' :: (number ++ unitChars)) "0"
  | style {chars : List Char} {name : String} (h : Spelled borderStyles chars name) :
      Spells style chars name
  | hexadecimal {digits : List Char} (hne : digits ≠ [])
      (hdigits : ∀ c ∈ digits, isHexDigit c = true) :
      Spells color ('#' :: digits) (String.ofList ('#' :: digits))
  | rgb {chars : List Char} (h : Called "rgb" chars) : Spells color chars "gray"
  | named {chars : List Char} {name : String} (h : Spelled namedColors chars name) :
      Spells color chars name
  | system {chars : List Char} {name : String} (h : Spelled systemColors chars name) :
      Spells color chars "black"

theorem mem_all (c : Component) : c ∈ all := by
  cases c <;> decide

end Component

section Size

variable {number unitChars t : List Char} {unit : String}

theorem units_unambiguous : Unambiguous units := by
  decide

theorem SpellsUnit.read (h : SpellsUnit unitChars unit) (ht : Spaced t) :
    (keywordHere? units (unitChars ++ t)).getD ("px", unitChars ++ t) = (unit, t) := by
  cases h with
  | absent =>
      have hnone : keywordHere? units ([] ++ t) = none :=
        keywordHere?_append isKeywordChar_of_mem_units ht.not_isKeywordChar
      rw [hnone]
      rfl
  | written h =>
      rw [h.keywordHere? units_unambiguous ht]
      rfl

theorem SpellsUnit.not_isNumberChar (h : SpellsUnit unitChars unit) (ht : Spaced t) :
    ∀ c ∈ (unitChars ++ t).head?, isNumberChar c = false := by
  cases h with
  | absent => exact fun c hc => isNumberChar_of_isBlank (ht c hc)
  | written h =>
      obtain ⟨hne, hhead, -⟩ := units_reread unit h.mem
      rw [← any_head?_of_sameLetters isNumberChar_ignoresCase h.letters] at hhead
      cases unitChars with
      | nil => exact absurd (length_eq_of_sameLetters h.letters).symm (by simpa using hne)
      | cons d unitChars =>
          rintro c ⟨⟩
          exact hhead

theorem size?_unit (hnumber : IsNumber number) (hunit : SpellsUnit unitChars unit)
    (ht : Spaced t) :
    size? true (number ++ (unitChars ++ t)) = some (String.ofList number ++ unit, t) := by
  rw [size?_append hnumber (hunit.not_isNumberChar ht), hunit.read ht]

theorem size?_minus_unit (hnumber : IsNumber number) (hunit : SpellsUnit unitChars unit)
    (ht : Spaced t) : size? true ('-' :: (number ++ (unitChars ++ t))) = some ("0", t) := by
  rw [size?, skipBlanks_cons (by decide), number?_minus_append hnumber (hunit.not_isNumberChar ht),
    Option.map_some]
  simp only [hunit.read ht, String.toList_ofList, List.head?_cons, BEq.rfl, Bool.and_self, if_true]

end Size

section Color

variable {s t : List Char}

theorem color?_congr (h : skipBlanks s = skipBlanks t) : color? s = color? t := by
  rw [color?, color?, h]

theorem isKeywordChar_of_isHexDigit {c : Char} (h : isHexDigit c = true) :
    isKeywordChar c = true := by
  simp only [isHexDigit, Bool.or_eq_true, Bool.and_eq_true, decide_eq_true_eq] at h
  have hc : c.isAlphanum = true := by
    rw [Char.isAlphanum, Bool.or_eq_true, isAlpha_iff_toNat]
    rcases h with (hdigit | ⟨hfirst, hlast⟩) | ⟨hfirst, hlast⟩
    · exact .inr hdigit
    · have hfirst : 0x61 ≤ c.toNat := UInt32.le_iff_toNat_le.1 hfirst
      have hlast : c.toNat ≤ 0x66 := UInt32.le_iff_toNat_le.1 hlast
      exact .inl (by omega)
    · have hfirst : 0x41 ≤ c.toNat := UInt32.le_iff_toNat_le.1 hfirst
      have hlast : c.toNat ≤ 0x46 := UInt32.le_iff_toNat_le.1 hlast
      exact .inl (by omega)
  rw [isKeywordChar, hc, Bool.true_or, Bool.true_or]

theorem color?_hexadecimal {digits : List Char} (hne : digits ≠ [])
    (hdigits : ∀ c ∈ digits, isHexDigit c = true) (ht : Spaced t) :
    color? ('#' :: (digits ++ t)) = some (String.ofList ('#' :: digits), t) := by
  have hend : ∀ c ∈ t.head?, isHexDigit c = false := by
    intro c hc
    rw [Bool.eq_false_iff]
    intro hdigit
    have hkey := ht.not_isKeywordChar c hc
    rw [isKeywordChar_of_isHexDigit hdigit] at hkey
    cases hkey
  rw [color?, skipBlanks_cons (by decide)]
  simp only [takeWhile_run hdigits hend, dropWhile_run hdigits hend]
  exact if_neg (mt List.isEmpty_iff.1 hne)

theorem Initial.color? (h : Initial s) : color? s =
    if startsWithWord ['r', 'g', 'b'] s then some ("gray", skipPast ')' s)
    else (keywordHere? namedColors s).or
      ((keywordHere? systemColors s).map fun (_, rest) => ("black", rest)) := by
  rw [Grammar.color?, h.skipBlanks]
  split
  · cases h
  · rw [h.keyword?, h.keyword?]
    rfl

theorem lettered_of_small {words : List String} (hwords : ∀ word ∈ words, Small word.toList)
    (hne : "" ∉ words) : Lettered words := by
  intro word hword
  cases hchars : word.toList with
  | nil =>
      have hempty : word = "" := String.toList_inj.1 hchars
      exact absurd (hempty ▸ hword) hne
  | cons c chars => exact hwords word hword c (hchars ▸ List.mem_cons_self)

theorem color?_bare {c : Char} (hc : Bare c) (hmark : c ≠ '#') : color? (c :: s) = none := by
  have hnamed : Lettered namedColors :=
    lettered_of_small (fun name hname => (namedColors_small name hname).1) (by decide +kernel)
  have hsystem : Lettered systemColors := lettered_of_small systemColors_small (by decide +kernel)
  have hrgb : startsWithWord ['r', 'g', 'b'] (c :: s) = false := by
    rw [startsWithWord, hc.dropWord?_eq_none (by decide)]
    rfl
  rw [Grammar.color?, skipBlanks_cons hc.unblank]
  split
  · rename_i heq
    cases heq
    exact absurd rfl hmark
  · rw [hrgb, keyword?_eq_none hnamed hc, keyword?_eq_none hsystem hc]
    rfl

theorem size?_eq_none {c : Char} (hblank : isAsciiBlank c = false) (hc : isNumberChar c = false)
    (hminus : c ≠ '-') : size? true (c :: s) = none := by
  have hnumber : number? (c :: s) = none := by
    unfold number?
    split
    rename_i sign body hsplit
    split at hsplit
    · rename_i heq
      cases heq
      exact absurd rfl hminus
    · cases hsplit
      rw [List.takeWhile_cons_of_neg (Bool.eq_false_iff.1 hc)]
      rfl
  rw [size?, skipBlanks_cons hblank, hnumber, Option.map_none]

theorem Initial.size? (h : Initial s) : size? true s = none := by
  obtain ⟨c, rest, rfl, hc⟩ := h.exists_cons
  refine size?_eq_none (isAsciiBlank_of_isAlpha hc) (isNumberChar_of_isAlpha hc) ?_
  rintro rfl
  cases hc

end Color

def borderWords : List String := "rgb" :: (borderStyles ++ namedColors ++ systemColors)

section Words

variable {s t : List Char} {name : String}

theorem borderStyles_small : ∀ name ∈ borderStyles, Small name.toList := by
  decide

theorem borderWords_small : ∀ word ∈ borderWords, Small word.toList := by
  intro word hword
  simp only [borderWords, List.mem_cons, List.mem_append] at hword
  rcases hword with rfl | (hstyle | hnamed) | hsystem
  · decide
  · exact borderStyles_small word hstyle
  · exact (namedColors_small word hnamed).1
  · exact systemColors_small word hsystem

theorem borderWords_unambiguous : Unambiguous borderWords := unambiguous_of_small borderWords_small

theorem empty_not_mem_borderWords : "" ∉ borderWords := by
  decide +kernel

theorem borderStyles_apart : ∀ name ∈ borderStyles,
    name ∉ "rgb" :: (namedColors ++ systemColors) ∧
      startsWithWord ['r', 'g', 'b'] name.toList = false := by
  decide +kernel

theorem systemColors_apart : ∀ name ∈ systemColors,
    name ∉ namedColors ∧ startsWithWord ['r', 'g', 'b'] name.toList = false := by
  decide +kernel

theorem subset_borderWords {words : List String}
    (h : words ∈ [borderStyles, namedColors, systemColors]) : words ⊆ borderWords := by
  simp only [List.mem_cons, List.not_mem_nil, or_false] at h
  intro word hword
  rcases h with rfl | rfl | rfl <;> simp [borderWords, hword]

namespace Stands

theorem initial_border (h : Stands name s) (hname : name ∈ borderWords) : Initial s := by
  refine h.initial (initial_of_small (fun hnil => ?_) (borderWords_small name hname))
  have hempty : name = "" := String.toList_inj.1 hnil
  exact empty_not_mem_borderWords (hempty ▸ hname)

theorem color?_eq (h : Stands name s) (hname : name ∈ borderWords)
    (hrgb : startsWithWord ['r', 'g', 'b'] name.toList = false) : color? s =
    (keywordHere? namedColors s).or
      ((keywordHere? systemColors s).map fun (_, rest) => ("black", rest)) := by
  have hnot : startsWithWord ['r', 'g', 'b'] s = false :=
    h.startsWithWord_eq_false borderWords_unambiguous hname "rgb" List.mem_cons_self hrgb
  rw [(h.initial_border hname).color?, hnot]
  rfl

theorem keywordHere?_border (h : Stands name s) (hname : name ∈ borderWords) {words : List String}
    (hwords : words ∈ [borderStyles, namedColors, systemColors]) (hnot : name ∉ words) :
    keywordHere? words s = none :=
  h.keywordHere?_eq_none borderWords_unambiguous hname (subset_borderWords hwords) hnot

theorem keyword?_borderStyles (h : Stands name s) (hname : name ∈ borderWords)
    (hstyle : name ∉ borderStyles) : keyword? borderStyles s = none := by
  rw [(h.initial_border hname).keyword?]
  exact h.keywordHere?_border hname (by simp) hstyle

theorem color?_borderStyle (h : Stands name s) (hname : name ∈ borderStyles) :
    color? s = none := by
  have hmem : name ∈ borderWords := subset_borderWords (by simp) hname
  obtain ⟨hother, hrgb⟩ := borderStyles_apart name hname
  simp only [List.mem_cons, List.mem_append, not_or] at hother
  rw [h.color?_eq hmem hrgb, h.keywordHere?_border hmem (by simp) hother.2.1,
    h.keywordHere?_border hmem (by simp) hother.2.2]
  rfl

end Stands

end Words

namespace Component

variable {c d : Component} {chars blanks s t : List Char} {value : String}

theorem reader_congr (c : Component) (h : skipBlanks s = skipBlanks t) :
    c.reader s = c.reader t := by
  cases c with
  | size => exact size?_congr h
  | style => exact keyword?_congr h
  | color => exact color?_congr h

theorem reader_blanks (c : Component) (hblanks : ∀ b ∈ blanks, isAsciiBlank b = true)
    (s : List Char) : c.reader (blanks ++ s) = c.reader s :=
  c.reader_congr (skipBlanks_append hblanks s)

theorem Spells.read (h : c.Spells chars value) (ht : Spaced t) :
    c.reader (chars ++ t) = some (value, t) := by
  cases h with
  | number number unitChars unit hnumber hunit =>
      rw [List.append_assoc]
      exact size?_unit hnumber hunit ht
  | negative number unitChars unit hnumber hunit =>
      rw [List.cons_append, List.append_assoc]
      exact size?_minus_unit hnumber hunit ht
  | style h =>
      have hinitial := (h.stands ht).initial_border (subset_borderWords (by simp) h.mem)
      rw [reader, hinitial.keyword?]
      exact h.keywordHere? (unambiguous_of_small borderStyles_small) ht
  | hexadecimal hne hdigits => exact color?_hexadecimal hne hdigits ht
  | rgb h =>
      have hstands : Stands "rgb" (chars ++ t) := h.stands
      have hrgb : startsWithWord ['r', 'g', 'b'] (chars ++ t) = true := by
        obtain ⟨rest, hdrop, -⟩ := hstands
        exact Option.isSome_iff_exists.2 ⟨rest, hdrop⟩
      rw [reader, (hstands.initial_border List.mem_cons_self).color?, if_pos hrgb,
        h.skipPast (by decide)]
  | named h =>
      have hunambiguous := unambiguous_of_small fun name hname => (namedColors_small name hname).1
      rw [reader, (h.stands ht).color?_eq (subset_borderWords (by simp) h.mem)
        (namedColors_small _ h.mem).2, h.keywordHere? hunambiguous ht, Option.some_or]
  | system h =>
      obtain ⟨hother, hrgb⟩ := systemColors_apart _ h.mem
      have hmem := subset_borderWords (by simp) h.mem
      rw [reader, (h.stands ht).color?_eq hmem hrgb,
        (h.stands ht).keywordHere?_border hmem (by simp) hother, Option.none_or,
        h.keywordHere? (unambiguous_of_small systemColors_small) ht]
      rfl

theorem reader_bare {b : Char} (hb : Bare b) (hmark : b ≠ '#') (hd : d ≠ size) :
    d.reader (b :: s) = none := by
  cases d with
  | size => exact absurd rfl hd
  | style => exact keyword?_eq_none (lettered_of_small borderStyles_small (by decide)) hb s
  | color => exact color?_bare hb hmark

theorem reader_blank_append (hblanks : Blank blanks) (h : c.reader s = none) :
    c.reader (blanks ++ s) = none := by
  rcases skipBlanks_append_blank hblanks s with hskip | ⟨b, rest, hb, hbare, hskip⟩
  · rw [c.reader_congr hskip, h]
  · rw [c.reader_congr hskip]
    have hmark : b ≠ '#' ∧ b ≠ '-' := by
      constructor <;> rintro rfl <;> cases hb
    cases c with
    | size => exact size?_eq_none hbare.unblank (isNumberChar_of_isBlank hb) hmark.2
    | style => exact reader_bare hbare hmark.1 nofun
    | color => exact reader_bare hbare hmark.1 nofun

theorem reader_of_colorWord {name : String} (h : Stands name s) (hname : name ∈ borderWords)
    (hstyle : name ∉ borderStyles) (hd : d ≠ color) : d.reader s = none := by
  cases d with
  | size => exact (h.initial_border hname).size?
  | style => exact h.keyword?_borderStyles hname hstyle
  | color => exact absurd rfl hd

theorem Spells.reader_eq_none (h : c.Spells chars value) (ht : Spaced t) (hd : d ≠ c) :
    d.reader (chars ++ t) = none := by
  cases h with
  | number number unitChars unit hnumber hunit =>
      obtain ⟨b, number, rfl, hb⟩ := numeral_of_isNumber hnumber
      refine reader_bare (bare_of_isNumberChar hb) ?_ hd
      rintro rfl
      cases hb
  | negative number unitChars unit hnumber hunit => exact reader_bare (by decide) (by decide) hd
  | style h =>
      have hstands := h.stands ht
      cases d with
      | size => exact (hstands.initial_border (subset_borderWords (by simp) h.mem)).size?
      | style => exact absurd rfl hd
      | color => exact hstands.color?_borderStyle h.mem
  | hexadecimal hne hdigits =>
      cases d with
      | size => exact size?_eq_none (by decide) (by decide) (by decide)
      | style =>
          exact keyword?_eq_none (lettered_of_small borderStyles_small (by decide)) (by decide) _
      | color => exact absurd rfl hd
  | rgb h => exact reader_of_colorWord h.stands List.mem_cons_self (by decide) hd
  | named h =>
      refine reader_of_colorWord (h.stands ht) (subset_borderWords (by simp) h.mem) ?_ hd
      exact fun hstyle => (borderStyles_apart _ hstyle).1 (by simp [h.mem])
  | system h =>
      refine reader_of_colorWord (h.stands ht) (subset_borderWords (by simp) h.mem) ?_ hd
      exact fun hstyle => (borderStyles_apart _ hstyle).1 (by simp [h.mem])

theorem reader_advances (c : Component) : c.reader.Advances := by
  cases c with
  | size => exact size?_advances true
  | style => exact keyword?_advances (by decide)
  | color => exact color?_advances

theorem reader_nil (c : Component) : c.reader [] = none := by
  rw [Option.eq_none_iff_forall_ne_some]
  intro read hread
  exact absurd (c.reader_advances hread) (Nat.not_lt_zero _)

end Component

/-- A word of small letters that is no border style and no color, and any text after it. -/
structure StrayWord (word rest : List Char) : Prop
    extends Unknown (borderStyles ++ namedColors ++ systemColors) word where
  not_rgb : ¬ ['r', 'g', 'b'] <+: word
  ended : ∀ c ∈ rest.head?, c.isAlpha = false

namespace StrayWord

variable {word rest : List Char}

theorem keywordHere?_eq_none (h : StrayWord word rest) {words : List String}
    (hwords : ∀ name ∈ words, Small name.toList)
    (hsub : words ⊆ borderStyles ++ namedColors ++ systemColors) :
    keywordHere? words (word ++ rest) = none := by
  refine h.toUnknown.keywordHere?_eq_none hsub isAlpha_ignoresCase (fun name hname => ?_) h.ended
  exact ⟨fun c hc => isAlpha_of_isLower (hwords name hname c hc), folded_small (hwords name hname)⟩

theorem startsWithWord_rgb (h : StrayWord word rest) :
    startsWithWord ['r', 'g', 'b'] (word ++ rest) = false :=
  startsWithWord_small isAlpha_ignoresCase (List.all_eq_true.1 rfl) rfl h.small h.not_rgb h.ended

theorem reader_eq_none (h : StrayWord word rest) (c : Component) :
    c.reader (word ++ rest) = none := by
  have hinitial := h.initial rest
  cases c with
  | size => exact hinitial.size?
  | style =>
      rw [Component.reader, hinitial.keyword?]
      exact h.keywordHere?_eq_none borderStyles_small
        (List.subset_append_of_subset_left _ (List.subset_append_left _ _))
  | color =>
      have hnamed : keywordHere? namedColors (word ++ rest) = none :=
        h.keywordHere?_eq_none (fun name hname => (namedColors_small name hname).1)
          (List.subset_append_of_subset_left _ (List.subset_append_right _ _))
      have hsystem : keywordHere? systemColors (word ++ rest) = none :=
        h.keywordHere?_eq_none systemColors_small (List.subset_append_right _ _)
      rw [Component.reader, hinitial.color?, h.startsWithWord_rgb, hnamed, hsystem]
      rfl

end StrayWord

end FlatStyle.Grammar
