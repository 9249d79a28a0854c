import FlatStyle.Proofs.Grammar.FontComponents

namespace FlatStyle.Grammar

open Text

structure Word where
  before : List Char
  chars : List Char
  before_blank : ∀ c ∈ before, isAsciiBlank c = true

namespace Word

def text (words : List Word) : List Char := words.flatMap fun word => word.before ++ word.chars

/-- Only the first word may do without blanks before it. -/
def Apart (words : List Word) : Prop := ∀ word ∈ words.tail, word.before ≠ []

instance (words : List Word) : Decidable (Apart words) :=
  inferInstanceAs (Decidable (∀ word ∈ words.tail, _))

@[simp] theorem text_nil : text [] = [] := rfl

@[simp] theorem text_cons (word : Word) (words : List Word) :
    text (word :: words) = word.before ++ word.chars ++ text words := rfl

@[simp] theorem text_append (words others : List Word) :
    text (words ++ others) = text words ++ text others := List.flatMap_append

theorem Apart.tail {word : Word} {words : List Word} (h : Apart (word :: words)) :
    Apart words := fun other hother => h other (List.mem_of_mem_tail hother)

theorem Apart.of_append {words others : List Word} (h : Apart (words ++ others))
    (hne : words ≠ []) : Apart words ∧ ∀ word ∈ others, word.before ≠ [] := by
  obtain ⟨word, words, rfl⟩ := List.exists_cons_of_ne_nil hne
  exact List.forall_mem_append.1 h

end Word

/-- A text that may stand right after a word: nothing, or a blank first. -/
def Spaced (s : List Char) : Prop := ∀ c ∈ s.head?, isBlank c = true

section Boundary

variable {blanks s t : List Char} {c : Char}

theorem spaced_nil : Spaced [] := nofun

theorem spaced_of_blank (h : Blank blanks) (hne : blanks ≠ []) : Spaced (blanks ++ s) := by
  intro c hc
  rw [List.head?_append_of_ne_nil _ hne] at hc
  exact h c (List.mem_of_mem_head? hc)

theorem spaced_text {words : List Word} (hwords : ∀ word ∈ words, word.before ≠ [])
    (ht : Spaced t) : Spaced (Word.text words ++ t) := by
  cases words with
  | nil => exact ht
  | cons word words =>
      have hblank : Blank word.before := fun c hc =>
        isBlank_of_isAsciiBlank (word.before_blank c hc)
      rw [Word.text_cons, List.append_assoc, List.append_assoc]
      exact spaced_of_blank hblank (hwords word List.mem_cons_self)

theorem unlettered_of_isBlank (h : isBlank c = true) : Unlettered c where
  lower := by
    rw [Bool.eq_false_iff]
    intro hlower
    rw [isBlank_eq_false_of_isLower hlower] at h
    cases h
  upper := by
    refine (toLower_eq_or_isUpper c).resolve_right fun hupper => ?_
    rw [isBlank_eq_false_of_letter hupper.1 (by omega)] at h
    cases h

theorem isBlank_ignoresCase : IgnoresCase isBlank :=
  ignoresCase_of_letters false fun _ hc => isBlank_eq_false_of_letter (by omega) (by omega)

theorem isNumberChar_of_isBlank (h : isBlank c = true) : isNumberChar c = false := by
  have hkey := isKeywordChar_of_isBlank h
  simp only [isKeywordChar, Char.isAlphanum, Bool.or_eq_false_iff] at hkey
  rw [isNumberChar, hkey.1.1.2, Bool.false_or, beq_eq_false_iff_ne]
  rintro rfl
  cases h

theorem Spaced.not_isKeywordChar (h : Spaced t) : ∀ c ∈ t.head?, isKeywordChar c = false :=
  fun c hc => isKeywordChar_of_isBlank (h c hc)

theorem Spaced.endsWord (h : Spaced t) : endsWord t = true :=
  endsWord_of_not_isKeywordChar h.not_isKeywordChar

theorem skipBlanks_append_blank (h : Blank blanks) (s : List Char) :
    skipBlanks (blanks ++ s) = skipBlanks s ∨ ∃ b rest, isBlank b = true ∧ Bare b ∧
      skipBlanks (blanks ++ s) = skipBlanks (b :: rest) := by
  induction blanks with
  | nil => exact .inl rfl
  | cons b blanks ih =>
      obtain ⟨hb, hblanks⟩ := List.forall_mem_cons.1 h
      cases hascii : isAsciiBlank b with
      | false => exact .inr ⟨b, blanks ++ s, hb, ⟨unlettered_of_isBlank hb, hascii⟩, rfl⟩
      | true =>
          have hskip : skipBlanks (b :: (blanks ++ s)) = skipBlanks (blanks ++ s) :=
            skipBlanks_append (List.forall_mem_singleton.2 hascii) _
          rw [List.cons_append, hskip]
          exact ih hblanks

theorem isAlpha_iff_toNat {c : Char} : c.isAlpha = true ↔
    (0x41 ≤ c.toNat ∧ c.toNat ≤ 0x5A) ∨ (0x61 ≤ c.toNat ∧ c.toNat ≤ 0x7A) := by
  change (c.isUpper || c.isLower) = true ↔ _
  rw [Bool.or_eq_true, isLower_iff_toNat]
  refine or_congr_left ?_
  change decide (_ ∧ _) = true ↔ _
  rw [decide_eq_true_iff]
  exact and_congr UInt32.le_iff_toNat_le UInt32.le_iff_toNat_le

theorem isAlpha_ignoresCase : IgnoresCase Char.isAlpha :=
  ignoresCase_of_letters true fun _ hc => isAlpha_iff_toNat.2 hc

theorem isNumberChar_ignoresCase : IgnoresCase isNumberChar := by
  refine ignoresCase_of_letters false fun c hc => Bool.eq_false_iff.2 fun hnumber => ?_
  rcases Bool.or_eq_true_iff.1 hnumber with hdigit | hpoint
  · rw [isDigit_iff_toNat] at hdigit
    omega
  · rw [beq_iff_eq.1 hpoint] at hc
    revert hc
    decide

theorem any_head?_of_sameLetters {p : Char → Bool} (hp : IgnoresCase p) {chars word : List Char}
    (h : sameLetters chars word = true) : chars.head?.any p = word.head?.any p := by
  have hletters := sameLetters_iff.1 h
  cases chars with
  | nil =>
      rw [folded_nil, eq_comm, folded, List.map_eq_nil_iff] at hletters
      rw [hletters]
  | cons c chars =>
      cases word with
      | nil => cases hletters
      | cons d word =>
          have hhead : c.toLower = d.toLower := (List.cons.inj hletters).1
          change p c = p d
          rw [← hp c, hhead, hp d]

end Boundary

section Words

variable {table words : List String} {chars s t : List Char} {word name : String}

def Stands (word : String) (s : List Char) : Prop :=
  ∃ rest, dropWord? word.toList s = some rest ∧ endsWord rest = true

theorem Stands.keywordHere?_eq_none (h : Stands word s) (htable : Unambiguous table)
    (hmem : word ∈ table) (hsub : words ⊆ table) (hword : word ∉ words) :
    keywordHere? words s = none := by
  obtain ⟨rest, hdrop, hend⟩ := h
  rw [Option.eq_none_iff_forall_ne_some]
  rintro ⟨other, otherRest⟩ hread
  obtain ⟨hother, hotherDrop, hotherEnd⟩ := of_keywordHere? hread
  have heq : word = other := htable.eq hmem (hsub hother) hdrop hend hotherDrop hotherEnd
  exact hword (heq ▸ hother)

theorem Stands.startsWithWord_eq_false (h : Stands word s) (htable : Unambiguous table)
    (hmem : word ∈ table) (front : String) (hfront : front ∈ table)
    (hword : startsWithWord front.toList word.toList = false) :
    startsWithWord front.toList s = false := by
  rw [Bool.eq_false_iff]
  intro hs
  obtain ⟨rest, hdrop, hend⟩ := h
  obtain ⟨frontRest, hfrontDrop⟩ := Option.isSome_iff_exists.1 hs
  rw [startsWithWord] at hword
  rcases Nat.le_total front.toList.length word.toList.length with hle | hle
  · obtain ⟨tail, htail, -⟩ := dropWord?_of_length_le hfrontDrop hdrop hle
    rw [htail] at hword
    cases hword
  · obtain rfl := htable.eq_of_length_le hmem hfront hdrop hend hfrontDrop hle
    rw [dropWord?_self] at hword
    cases hword

def Initial (s : List Char) : Prop := s.head?.any Char.isAlpha = true

instance (s : List Char) : Decidable (Initial s) := inferInstanceAs (Decidable (_ = _))

theorem initial_of_small (hne : s ≠ []) (hs : Small s) : Initial s := by
  obtain ⟨c, s, rfl⟩ := List.exists_cons_of_ne_nil hne
  exact isAlpha_of_isLower (hs c List.mem_cons_self)

theorem Initial.append (h : Initial s) (t : List Char) : Initial (s ++ t) := by
  cases s with
  | nil => cases h
  | cons c s => exact h

theorem Stands.initial (h : Stands word s) (hword : Initial word.toList) : Initial s := by
  obtain ⟨rest, hdrop, -⟩ := h
  obtain ⟨front, hfront, rfl⟩ := dropWord?_eq_some_iff.1 hdrop
  rw [Initial, ← any_head?_of_sameLetters isAlpha_ignoresCase (sameLetters_iff.2 hfront)] at hword
  cases front with
  | nil => cases hword
  | cons c front => exact hword

theorem Initial.exists_cons (h : Initial s) : ∃ c rest, s = c :: rest ∧ c.isAlpha = true := by
  cases s with
  | nil => cases h
  | cons c rest => exact ⟨c, rest, rfl, h⟩

theorem isAsciiBlank_of_isAlpha {c : Char} (h : c.isAlpha = true) : isAsciiBlank c = false := by
  rw [Bool.eq_false_iff]
  intro hblank
  have hkey := isKeywordChar_of_isBlank (isBlank_of_isAsciiBlank hblank)
  rw [isKeywordChar, Char.isAlphanum, h] at hkey
  cases hkey

theorem isNumberChar_of_isAlpha {c : Char} (h : c.isAlpha = true) : isNumberChar c = false := by
  rw [isAlpha_iff_toNat] at h
  rw [isNumberChar, Bool.or_eq_false_iff, beq_eq_false_iff_ne]
  constructor
  · rw [Bool.eq_false_iff]
    intro hdigit
    rw [isDigit_iff_toNat] at hdigit
    omega
  · rintro rfl
    revert h
    decide

theorem Initial.skipBlanks (h : Initial s) : skipBlanks s = s := by
  obtain ⟨c, rest, rfl, hc⟩ := h.exists_cons
  exact skipBlanks_cons (isAsciiBlank_of_isAlpha hc) rest

theorem Initial.keyword? (h : Initial s) (words : List String) :
    keyword? words s = keywordHere? words s := by
  rw [Grammar.keyword?, h.skipBlanks]

/-- A word of the table in any case. -/
structure Spelled (table : List String) (chars : List Char) (word : String) : Prop where
  mem : word ∈ table
  letters : sameLetters chars word.toList = true

theorem Spelled.dropWord? (h : Spelled table chars word) :
    dropWord? word.toList (chars ++ t) = some t :=
  dropWord?_eq_some_iff.2 ⟨chars, sameLetters_iff.1 h.letters, rfl⟩

theorem Spelled.stands (h : Spelled table chars word) (ht : Spaced t) : Stands word (chars ++ t) :=
  ⟨t, h.dropWord?, ht.endsWord⟩

theorem Spelled.keywordHere? (h : Spelled table chars word) (htable : Unambiguous table)
    (ht : Spaced t) : keywordHere? table (chars ++ t) = some (word, t) :=
  htable.keywordHere?_eq_some_iff.2 ⟨h.mem, h.dropWord?, ht.endsWord⟩

/-- The name in any case, and anything in parentheses after it. -/
def Called (name : String) (chars : List Char) : Prop :=
  ∃ mark inner, sameLetters mark name.toList = true ∧ ')' ∉ inner ∧
    chars = mark ++ '(' :: (inner ++ [')'])

theorem Called.stands (h : Called name chars) : Stands name (chars ++ t) := by
  obtain ⟨mark, inner, hmark, -, rfl⟩ := h
  refine ⟨'(' :: (inner ++ [')']) ++ t, ?_, rfl⟩
  exact dropWord?_eq_some_iff.2 ⟨mark, sameLetters_iff.1 hmark, List.append_assoc _ _ _⟩

theorem Called.startsWithWord (h : Called name chars) :
    startsWithWord (name.toList ++ ['(']) (chars ++ t) = true := by
  obtain ⟨mark, inner, hmark, -, rfl⟩ := h
  refine Option.isSome_iff_exists.2 ⟨inner ++ [')'] ++ t, ?_⟩
  refine dropWord?_eq_some_iff.2 ⟨mark ++ ['('], ?_, by simp⟩
  rw [folded_append, folded_append, sameLetters_iff.1 hmark]

theorem Called.skipPast (h : Called name chars) (hname : ')' ∉ folded name.toList) :
    skipPast ')' (chars ++ t) = t := by
  obtain ⟨mark, inner, hmark, hinner, rfl⟩ := h
  have hopen : ∀ c ∈ mark ++ '(' :: inner, (c != ')') = true := by
    intro c hc
    rw [bne_iff_ne]
    rintro rfl
    simp only [List.mem_append, List.mem_cons, hinner, or_false] at hc
    rcases hc with hc | hc
    · have hfolded : ')' ∈ folded mark := List.mem_map_of_mem hc
      rw [sameLetters_iff.1 hmark] at hfolded
      exact hname hfolded
    · cases hc
  have hsplit : mark ++ '(' :: (inner ++ [')']) ++ t = (mark ++ '(' :: inner) ++ ')' :: t := by
    simp
  have hclose : ∀ c ∈ (')' :: t).head?, (c != ')') = false := by
    rintro c ⟨⟩
    rfl
  rw [Grammar.skipPast, hsplit, dropWhile_run hopen hclose]
  rfl

/-- A word of small letters that the table does not have. -/
structure Unknown (table : List String) (word : List Char) : Prop where
  ne_nil : word ≠ []
  small : Small word
  not_mem : String.ofList word ∉ table

theorem Unknown.initial (h : Unknown table s) (t : List Char) : Initial (s ++ t) :=
  (initial_of_small h.ne_nil h.small).append t

/-- The letters of an unknown word make no shorter word end, and what follows it cannot complete
one. -/
theorem Unknown.keywordHere?_eq_none (h : Unknown table s) (hsub : words ⊆ table)
    {p : Char → Bool} (hp : IgnoresCase p)
    (hwords : ∀ word ∈ words, (∀ c ∈ word.toList, p c = true) ∧ folded word.toList = word.toList)
    (ht : ∀ c ∈ t.head?, p c = false) : keywordHere? words (s ++ t) = none := by
  rw [Option.eq_none_iff_forall_ne_some]
  rintro ⟨word, rest⟩ hread
  obtain ⟨hword, hdrop, hend⟩ := of_keywordHere? hread
  obtain ⟨hchars, hfolded⟩ := hwords word hword
  rw [dropWord?_append hp hchars ht] at hdrop
  obtain ⟨tail, htail, rfl⟩ := Option.map_eq_some_iff.1 hdrop
  obtain ⟨front, hfront, rfl⟩ := dropWord?_eq_some_iff.1 htail
  obtain ⟨hfrontSmall, htailSmall⟩ := List.forall_mem_append.1 h.small
  cases tail with
  | nil =>
      have hunknown := h.not_mem
      rw [folded_small hfrontSmall, hfolded] at hfront
      rw [List.append_nil, hfront, String.ofList_toList] at hunknown
      exact hunknown (hsub hword)
  | cons c tail =>
      rw [List.cons_append, endsWord_cons,
        isAlphanum_of_isLower (htailSmall c List.mem_cons_self)] at hend
      cases hend

theorem startsWithWord_small {p : Char → Bool} (hp : IgnoresCase p) {front : List Char}
    (hfront : ∀ c ∈ front, p c = true) (hfolded : folded front = front) (hs : Small s)
    (hnot : ¬ front <+: s) (ht : ∀ c ∈ t.head?, p c = false) :
    startsWithWord front (s ++ t) = false := by
  rw [startsWithWord, dropWord?_append hp hfront ht, Option.isSome_map,
    Option.isSome_eq_false_iff, Option.isNone_iff_eq_none, Option.eq_none_iff_forall_ne_some]
  intro tail hdrop
  obtain ⟨word, hword, rfl⟩ := dropWord?_eq_some_iff.1 hdrop
  have hsmall : Small word := (List.forall_mem_append.1 hs).1
  rw [folded_small hsmall, hfolded] at hword
  exact hnot (hword ▸ List.prefix_append word tail)

end Words

end FlatStyle.Grammar
