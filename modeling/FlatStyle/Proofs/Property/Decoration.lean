import FlatStyle.Proofs.Grammar.Spelling
import FlatStyle.Proofs.Property.Consumption

namespace FlatStyle

open Text Grammar

namespace Grammar.Decoration

/-- A word of letters and digits, or the line whose name has a hyphen, after blanks. -/
structure Token extends Word where
  plain : (chars ≠ [] ∧ ∀ c ∈ chars, c.isAlphanum = true) ∨
    sameLetters chars "line-through".toList = true

def words (tokens : List Token) : List Word := tokens.map (·.toWord)

structure Value where
  tokens : List Token
  gap : List Char
  apart : Word.Apart (words tokens)
  gap_blank : ∀ c ∈ gap, isAsciiBlank c = true

def Value.chars (value : Value) : List Char := Word.text (words value.tokens) ++ value.gap

def Names (chars : List Char) (line : String) : Prop := sameLetters chars line.toList = true

instance (chars : List Char) (line : String) : Decidable (Names chars line) :=
  inferInstanceAs (Decidable (_ = true))

def leading (tokens : List Token) : List Token :=
  tokens.takeWhile fun token => decide (∃ line ∈ decorationLines, Names token.chars line)

/-- Whether the line is named before the words stop. -/
def Named (tokens : List Token) (line : String) : Prop :=
  ∃ token ∈ leading tokens, Names token.chars line

instance (tokens : List Token) (line : String) : Decidable (Named tokens line) :=
  inferInstanceAs (Decidable (∃ token ∈ leading tokens, _))

section Words

variable {chars rest s t : List Char} {line other word : String}

theorem Names.eq (h : Names chars line) (hline : line ∈ decorationLines)
    (hother : Names chars other) (hmem : other ∈ decorationLines) : line = other := by
  have hall : ∀ line ∈ decorationLines, ∀ other ∈ decorationLines,
      folded line.toList = folded other.toList → line = other := by
    decide
  apply hall line hline other hmem
  exact (sameLetters_iff.1 h).symm.trans (sameLetters_iff.1 hother)

theorem decorationWords_line (h : keyword? decorations s = some (line, t))
    (hline : line ∈ decorationLines) : (decorationWords s).1 = line :: (decorationWords t).1 := by
  have hnone : line ≠ "none" := by
    rintro rfl
    exact absurd hline (by decide)
  simp [decorationWords_eq s, h, hnone]

theorem decorationWords_stop
    (h : ∀ line ∈ decorationLines, ∀ t, keyword? decorations s ≠ some (line, t)) :
    (decorationWords s).1 = [] := by
  rw [decorationWords_eq]
  cases hread : keyword? decorations s with
  | none => rfl
  | some read =>
      have hnone : read.1 = "none" := by
        apply (List.mem_cons.1 (of_keyword? hread).1).resolve_right
        intro hline
        exact h read.1 hline read.2 hread
      simp [hnone]

namespace Token

variable (token : Token)

theorem read_line (hline : line ∈ decorationLines) (hnames : Names token.chars line)
    (hrest : Spaced rest) :
    keyword? decorations (token.before ++ token.chars ++ rest) = some (line, rest) := by
  have hinitial : ∀ word ∈ decorations, Initial word.toList := by decide
  have hspelled : Spelled decorations token.chars line :=
    ⟨List.mem_cons_of_mem _ hline, hnames⟩
  have hfront := (hspelled.stands hrest).initial (hinitial line hspelled.mem)
  rw [List.append_assoc, keyword?_congr (skipBlanks_append token.before_blank _),
    hfront.keyword?]
  exact hspelled.keywordHere? (unambiguous_of_mem_keywordTables _ (by decide)) hrest

theorem names_of_read (hline : line ∈ decorationLines) (hrest : Spaced rest)
    (hread : keyword? decorations (token.before ++ token.chars ++ rest) = some (line, t)) :
    ∃ line ∈ decorationLines, Names token.chars line := by
  rcases token.plain with ⟨hne, hchars⟩ | hhyphen
  · have htable : decorations ∈ keywordTables := by decide
    have hidentifier : Identifier token.chars := by
      constructor
      · exact hne
      · intro c hc
        simp [isIdentifierChar, hchars c hc]
    have happend := hidentifier.solid.keyword?_append
      (isKeywordChar_of_mem_keywordTables decorations htable) hrest.not_isKeywordChar
    rw [List.append_assoc, keyword?_congr (skipBlanks_append token.before_blank _), happend]
      at hread
    obtain ⟨⟨word, tail⟩, hhere, heq⟩ := Option.map_eq_some_iff.1 hread
    cases heq
    obtain ⟨-, front, hfront, hopens⟩ := (keywordHere?_identifier_iff
      (unambiguous_of_mem_keywordTables _ htable) hidentifier).1 hhere
    cases tail with
    | nil =>
        rw [List.append_nil] at hfront
        exact ⟨line, hline, hfront ▸ hopens.letters⟩
    | cons c tail =>
        have hc := hchars c (by simp [hfront])
        rcases hopens.boundary c rfl with rfl | rfl
        · exact absurd hc (by decide)
        · exact absurd hc (by decide)
  · exact ⟨"line-through", by decide, hhyphen⟩

end Token

theorem mem_decorationWords (value : Value) (hline : line ∈ decorationLines) :
    line ∈ (decorationWords value.chars).1 ↔ Named value.tokens line := by
  obtain ⟨tokens, gap, hapart, hgap⟩ := value
  have hspaced : Spaced gap := by
    intro c hc
    exact isBlank_of_isAsciiBlank (hgap c (List.mem_of_mem_head? hc))
  simp only [Value.chars]
  induction tokens with
  | nil =>
      have hskip : skipBlanks gap = [] := List.dropWhile_eq_nil_iff.2 hgap
      have hstop : (decorationWords gap).1 = [] := by
        apply decorationWords_stop
        intro line _ t hread
        rw [keyword?, hskip] at hread
        cases hread
      change line ∈ (decorationWords gap).1 ↔ _
      simp [hstop, Named, leading]
  | cons token tokens ih =>
      have hrest : Spaced (Word.text (words tokens) ++ gap) := spaced_text hapart hspaced
      change line ∈ (decorationWords
        (token.before ++ token.chars ++ Word.text (words tokens) ++ gap)).1 ↔ _
      rw [List.append_assoc]
      by_cases hnames : ∃ first ∈ decorationLines, Names token.chars first
      · obtain ⟨first, hfirst, hfirstNames⟩ := hnames
        have hread := token.read_line hfirst hfirstNames hrest
        have hleading : leading (token :: tokens) = token :: leading tokens := by
          apply List.takeWhile_cons_of_pos
          exact decide_eq_true ⟨first, hfirst, hfirstNames⟩
        have hhere : line = first ↔ Names token.chars line := by
          constructor
          · rintro rfl
            exact hfirstNames
          · intro hlineNames
            exact hlineNames.eq hline hfirstNames hfirst
        simp only [decorationWords_line hread hfirst, List.mem_cons, ih hapart.tail, Named,
          hleading, exists_eq_or_imp, hhere]
      · have hstop := decorationWords_stop fun line hline t hread =>
          hnames (token.names_of_read hline hrest hread)
        have hleading : leading (token :: tokens) = [] := by
          apply List.takeWhile_cons_of_neg
          simpa using hnames
        simp only [hstop, Named, hleading, List.not_mem_nil, false_and, exists_false]

end Words

end Grammar.Decoration

namespace Property

open Decoration

theorem get?_textDecoration (s : List Char) (map : PropertyMap) (key : String) :
    (map.insertAll (textDecoration.grammar s).writes).get? key =
      if key ∈ (decorationWords s).1.map decorationKey then some "true"
      else if key ∈ decorationLines.map decorationKey then some "false"
      else map.get? key := by
  have hwrites : (textDecoration.grammar s).writes =
      (decorationLines.map decorationKey).map (·, "false") ++
        ((decorationWords s).1.map decorationKey).map (·, "true") := by
    simp only [List.map_map]
    rfl
  rw [hwrites, SortedMap.insertAll_append, SortedMap.get?_insertAll_map,
    SortedMap.get?_insertAll_map]

theorem decorationKey_mem_iff {line : String} (hline : line ∈ decorationLines) {words : List String}
    (hwords : words ⊆ decorationLines) :
    decorationKey line ∈ words.map decorationKey ↔ line ∈ words := by
  have hall : ∀ line ∈ decorationLines, ∀ other ∈ decorationLines,
      decorationKey other = decorationKey line → other = line := by
    decide
  constructor
  · intro h
    obtain ⟨other, hother, hkey⟩ := List.mem_map.1 h
    exact hall line hline other (hwords hother) hkey ▸ hother
  · exact List.mem_map_of_mem

theorem get?_apply_line (value : Value) (map : PropertyMap) {line : String}
    (hline : line ∈ decorationLines) :
    (textDecoration.apply (String.ofList value.chars) map).2.get? (decorationKey line) =
      some (if Named value.tokens line then "true" else "false") := by
  rw [apply, String.toList_ofList, get?_textDecoration,
    if_pos (List.mem_map_of_mem hline)]
  simp only [decorationKey_mem_iff hline (decorationWords_subset _),
    mem_decorationWords value hline]
  split <;> rfl

theorem get?_apply_other (value : Value) (map : PropertyMap) {key : String}
    (hkey : key ∉ decorationLines.map decorationKey) :
    (textDecoration.apply (String.ofList value.chars) map).2.get? key = map.get? key :=
  textDecoration.get?_insertAll_writes map hkey _

/-- A line is switched on if a word names it before the first word that names no line, and off
otherwise. No other key is touched, and values that name the same lines before they stop have the
same effect. -/
theorem textDecoration_apply (value : Decoration.Value) (map : PropertyMap) :
    let outcome := textDecoration.apply (String.ofList value.chars) map
    (∀ line ∈ decorationLines, outcome.2.get? (decorationKey line) =
      some (if Named value.tokens line then "true" else "false")) ∧
    (∀ key, key ∉ decorationLines.map decorationKey → outcome.2.get? key = map.get? key) ∧
    ∀ other : Decoration.Value,
      (∀ line ∈ decorationLines, Named other.tokens line ↔ Named value.tokens line) →
      textDecoration.apply (String.ofList other.chars) map = outcome := by
  intro outcome
  refine ⟨fun line hline => get?_apply_line value map hline,
    fun key hkey => get?_apply_other value map hkey, ?_⟩
  intro other hnamed
  apply Prod.ext
  · rfl
  · apply SortedMap.ext_get?
    intro key
    by_cases hkey : key ∈ decorationLines.map decorationKey
    · obtain ⟨line, hline, rfl⟩ := List.mem_map.1 hkey
      simp only [outcome, get?_apply_line _ map hline, hnamed line hline]
    · simp only [outcome, get?_apply_other _ map hkey]

/-- One line is named twice, the order is another, and the last line comes too late. -/
theorem textDecoration_repeated : ∃ value other : Decoration.Value,
    String.ofList value.chars = "UNDERLINE\tLine-Through underline wavy blink " ∧
      String.ofList other.chars = " line-through underline" ∧
      (∀ line ∈ decorationLines, Named other.tokens line ↔ Named value.tokens line) ∧
      ∀ map, textDecoration.apply (String.ofList other.chars) map =
        textDecoration.apply (String.ofList value.chars) map := by
  let value : Decoration.Value := ⟨[
    ⟨⟨[], "UNDERLINE".toList, List.forall_mem_nil _⟩, .inl ⟨by decide, List.all_eq_true.1 rfl⟩⟩,
    ⟨⟨['\t'], "Line-Through".toList, List.all_eq_true.1 rfl⟩, .inr (by decide)⟩,
    ⟨⟨[' '], "underline".toList, List.all_eq_true.1 rfl⟩,
      .inl ⟨by decide, List.all_eq_true.1 rfl⟩⟩,
    ⟨⟨[' '], "wavy".toList, List.all_eq_true.1 rfl⟩, .inl ⟨by decide, List.all_eq_true.1 rfl⟩⟩,
    ⟨⟨[' '], "blink".toList, List.all_eq_true.1 rfl⟩, .inl ⟨by decide, List.all_eq_true.1 rfl⟩⟩],
    [' '], by decide, List.all_eq_true.1 rfl⟩
  let other : Decoration.Value := ⟨[
    ⟨⟨[' '], "line-through".toList, List.all_eq_true.1 rfl⟩, .inr (by decide)⟩,
    ⟨⟨[' '], "underline".toList, List.all_eq_true.1 rfl⟩,
      .inl ⟨by decide, List.all_eq_true.1 rfl⟩⟩],
    [], by decide, List.forall_mem_nil _⟩
  have hnamed : ∀ line ∈ decorationLines, Named other.tokens line ↔ Named value.tokens line := by
    decide
  refine ⟨value, other, rfl, rfl, hnamed, ?_⟩
  exact fun map => (textDecoration_apply value map).2.2 other hnamed

end Property

end FlatStyle
