import FlatStyle.Proofs.Grammar.Spelling
import FlatStyle.Proofs.Property.Consumption
import Mathlib.Data.List.Induction

namespace FlatStyle

open Text Grammar

namespace Grammar

inductive Marker where
  | type (name : String)
  | position (name : String)
  | image

namespace Marker

def type? : Marker → Option String
  | type name => some name
  | _ => none

def position? : Marker → Option String
  | position name => some name
  | _ => none

def writes (marker : Marker) : List (String × String) :=
  entry "list-style-type" marker.type? ++ entry "list-style-position" marker.position?

def word : Marker → String
  | type name | position name => name
  | image => "url"

inductive Spells : Marker → List Char → Prop where
  | type {chars : List Char} {name : String} (h : Spelled listStyleTypes chars name) :
      Spells (type name) chars
  | position {chars : List Char} {name : String} (h : Spelled listStylePositions chars name) :
      Spells (position name) chars
  | image {chars : List Char} (h : Called "url" chars) : Spells image chars

structure Token extends Word where
  marker : Marker
  spells : marker.Spells chars

def words (tokens : List Token) : List Word := tokens.map (·.toWord)

/-- What the list comes to: the last type and the last position in it. -/
def outcome (markers : List Marker) : List (String × String) :=
  entry "list-style-type" (markers.filterMap type?).getLast? ++
    entry "list-style-position" (markers.filterMap position?).getLast?

end Marker

def markerWords : List String := "url" :: (listStyleTypes ++ listStylePositions)

def markerGrammar : Grammar := orElse listStyleType (orElse listStylePosition listStyleImage)

theorem listStyle_eq : listStyle = repeated markerGrammar := rfl

section Alternatives

variable {key : String} {token : TokenReader} {g : Grammar} {s t : List Char}

theorem orElse_single (key : String) (token : TokenReader) (g : Grammar) (s : List Char) :
    orElse (single key token) g s = match token s with
      | some (value, rest) => ⟨true, [(key, value)], rest⟩
      | none => g s := by
  rw [orElse, single]
  cases token s <;> rfl

theorem repeated_eq_refused (h : g s = .refused s) : repeated g s = .refused s := by
  rw [repeated, h]
  exact dif_neg fun hround => Bool.false_ne_true hround.1

theorem repeated_of_accepted {writes : List (String × String)} (h : g s = ⟨true, writes, t⟩)
    (hlength : t.length < s.length) :
    repeated g s = ⟨true, writes ++ (repeated g t).writes, (repeated g t).rest⟩ := by
  rw [repeated, h]
  exact dif_pos ⟨rfl, hlength⟩

end Alternatives

section Markers

variable {marker : Marker} {chars s t : List Char}

theorem markerWords_unambiguous : Unambiguous markerWords := by
  decide

theorem markerWords_initial : ∀ word ∈ markerWords, Initial word.toList := by
  decide

theorem listStylePositions_apart : ∀ name ∈ listStylePositions, name ∉ listStyleTypes := by
  decide

theorem listStyleTypes_subset : listStyleTypes ⊆ markerWords := fun _ h =>
  List.mem_cons_of_mem _ (List.mem_append_left _ h)

theorem listStylePositions_subset : listStylePositions ⊆ markerWords := fun _ h =>
  List.mem_cons_of_mem _ (List.mem_append_right _ h)

theorem markerGrammar_consumes : Consumes markerGrammar := by
  apply orElse_consumes
  · exact single_consumes _ (keyword?_advances (by decide))
  · apply orElse_consumes
    · exact single_consumes _ (keyword?_advances (by decide))
    · exact listStyleImage_consumes

namespace Marker

theorem Spells.word_mem (h : marker.Spells chars) : marker.word ∈ markerWords := by
  cases h with
  | type h => exact listStyleTypes_subset h.mem
  | position h => exact listStylePositions_subset h.mem
  | image h => exact List.mem_cons_self

theorem Spells.stands (h : marker.Spells chars) (ht : Spaced t) :
    Stands marker.word (chars ++ t) := by
  cases h with
  | type h => exact h.stands ht
  | position h => exact h.stands ht
  | image h => exact h.stands

theorem Spells.initial (h : marker.Spells chars) (ht : Spaced t) : Initial (chars ++ t) :=
  (h.stands ht).initial (markerWords_initial _ h.word_mem)

theorem Spells.read (h : marker.Spells chars) (ht : Spaced t)
    (hs : skipBlanks s = chars ++ t) : markerGrammar s = ⟨true, marker.writes, t⟩ := by
  have hstands := h.stands ht
  have hmem := h.word_mem
  rw [markerGrammar, listStyleType, orElse_single, listStylePosition, orElse_single, keyword?,
    keyword?, hs]
  cases h with
  | type h =>
      rw [h.keywordHere? (unambiguous_of_mem_keywordTables _ (by decide)) ht]
      rfl
  | position h =>
      rw [hstands.keywordHere?_eq_none markerWords_unambiguous hmem listStyleTypes_subset
        (listStylePositions_apart _ h.mem),
        h.keywordHere? (unambiguous_of_mem_keywordTables _ (by decide)) ht]
      rfl
  | image h =>
      have hopen : startsWithWord ['u', 'r', 'l', '('] (chars ++ t) = true := h.startsWithWord
      rw [hstands.keywordHere?_eq_none markerWords_unambiguous hmem listStyleTypes_subset
        (by decide), hstands.keywordHere?_eq_none markerWords_unambiguous hmem
        listStylePositions_subset (by decide)]
      simp only [listStyleImage, hs, hopen, if_true, h.skipPast (by decide)]
      rfl

theorem Token.read (token : Token) (ht : Spaced t) :
    markerGrammar (token.before ++ token.chars ++ t) = ⟨true, token.marker.writes, t⟩ := by
  refine token.spells.read ht ?_
  rw [List.append_assoc, skipBlanks_append token.before_blank]
  exact (token.spells.initial ht).skipBlanks

theorem repeated_tokens {tokens : List Token} (hapart : Word.Apart (words tokens)) (ht : Spaced t)
    (hstop : markerGrammar t = .refused t) :
    repeated markerGrammar (Word.text (words tokens) ++ t) =
      ⟨!tokens.isEmpty, tokens.flatMap (·.marker.writes), t⟩ := by
  induction tokens with
  | nil => exact repeated_eq_refused hstop
  | cons token tokens ih =>
      have hrest : Spaced (Word.text (words tokens) ++ t) := spaced_text hapart ht
      have hread := token.read hrest
      have hlength := (markerGrammar_consumes (token.before ++ token.chars ++ _)).advances
        (congrArg Reading.accepted hread)
      rw [hread] at hlength
      change repeated markerGrammar
        (token.before ++ token.chars ++ Word.text (words tokens) ++ t) = _
      rw [List.append_assoc, repeated_of_accepted hread hlength, ih hapart.tail]
      rfl

end Marker

/-- A word of small letters that is no type and no position, and what stands after it. -/
structure StrayMarker (word rest : List Char) : Prop
    extends Unknown (listStyleTypes ++ listStylePositions) word where
  spaced : Spaced rest

theorem markerNames_chars : ∀ name ∈ listStyleTypes ++ listStylePositions,
    name.toList.all isKeywordChar = true ∧ folded name.toList = name.toList := by
  decide

namespace StrayMarker

variable {word rest gap : List Char}

theorem keywordHere?_eq_none (h : StrayMarker word rest) {table : List String}
    (hsub : table ⊆ listStyleTypes ++ listStylePositions) :
    keywordHere? table (word ++ rest) = none :=
  h.toUnknown.keywordHere?_eq_none hsub isKeywordChar_ignoresCase
    (fun name hname => (markerNames_chars name (hsub hname)).imp_left List.all_eq_true.1)
    h.spaced.not_isKeywordChar

theorem startsWithWord_url (h : StrayMarker word rest) :
    startsWithWord ['u', 'r', 'l', '('] (word ++ rest) = false := by
  have hblank : IgnoresCase (!isBlank ·) := fun c => congrArg (!·) (isBlank_ignoresCase c)
  have hrest : ∀ c ∈ rest.head?, (!isBlank c) = false := fun c hc => by rw [h.spaced c hc]; rfl
  have hnot : ¬ ['u', 'r', 'l', '('] <+: word := fun hopen => by
    cases h.small '(' (hopen.subset (by decide))
  exact startsWithWord_small hblank (List.all_eq_true.1 rfl) rfl h.small hnot hrest

theorem markerGrammar_eq_refused (h : StrayMarker word rest) (hgap : Blank gap) :
    markerGrammar (gap ++ (word ++ rest)) = .refused (gap ++ (word ++ rest)) := by
  have hnone : keyword? listStyleTypes (gap ++ (word ++ rest)) = none ∧
      keyword? listStylePositions (gap ++ (word ++ rest)) = none ∧
      startsWithWord ['u', 'r', 'l', '('] (skipBlanks (gap ++ (word ++ rest))) = false := by
    rcases skipBlanks_append_blank hgap (word ++ rest) with hskip | ⟨b, others, -, hbare, hskip⟩
    · have hinitial := h.initial rest
      rw [keyword?_congr hskip, keyword?_congr hskip, hskip, hinitial.skipBlanks,
        hinitial.keyword?, hinitial.keyword?]
      exact ⟨h.keywordHere?_eq_none (List.subset_append_left _ _),
        h.keywordHere?_eq_none (List.subset_append_right _ _), h.startsWithWord_url⟩
    · rw [keyword?_congr hskip, keyword?_congr hskip, hskip, skipBlanks_cons hbare.unblank,
        startsWithWord, hbare.dropWord?_eq_none (by decide)]
      exact ⟨keyword?_eq_none (by decide) hbare _, keyword?_eq_none (by decide) hbare _, rfl⟩
  obtain ⟨htype, hposition, hurl⟩ := hnone
  rw [markerGrammar, listStyleType, orElse_single, listStylePosition, orElse_single, htype,
    hposition]
  simp only [listStyleImage, hurl, Bool.false_eq_true, if_false]

end StrayMarker

end Markers

section Outcome

theorem lookup_entries {first second : String} (hne : first ≠ second) (a b : Option String)
    (key : String) : (entry first a ++ entry second b).reverse.lookup key =
      if key = first then a else if key = second then b else none := by
  have hone : ∀ (name : String) (value : Option String),
      (entry name value).reverse.lookup key = if key = name then value else none := by
    intro name value
    cases value with
    | none => exact (ite_self none).symm
    | some value => exact SortedMap.lookup_cons_eq_ite (name, value) [] key
  rw [List.reverse_append, List.lookup_append, hone, hone]
  by_cases hfirst : key = first
  · rw [if_pos hfirst, if_neg fun hsecond => hne (hfirst.symm.trans hsecond), Option.none_or,
      if_pos hfirst]
  · rw [if_neg hfirst, if_neg hfirst, Option.or_none]

namespace Marker

theorem lookup_writes (markers : List Marker) (key : String) :
    (markers.flatMap writes).reverse.lookup key = (outcome markers).reverse.lookup key := by
  have hne : "list-style-type" ≠ "list-style-position" := by decide
  induction markers using List.reverseRecOn with
  | nil => rfl
  | append_singleton markers marker ih =>
      have hlast : ∀ f : Marker → Option String, ([marker].filterMap f).getLast? = f marker := by
        intro f
        rw [List.filterMap_cons]
        cases f marker <;> rfl
      rw [List.flatMap_append, List.reverse_append, List.lookup_append, ih, List.flatMap_singleton,
        writes, outcome, outcome, lookup_entries hne, lookup_entries hne, lookup_entries hne,
        List.filterMap_append, List.filterMap_append, List.getLast?_append, List.getLast?_append,
        hlast, hlast]
      split
      · rfl
      · split <;> rfl

theorem insertAll_writes (markers : List Marker) (map : PropertyMap) :
    map.insertAll (markers.flatMap writes) = map.insertAll (outcome markers) := by
  apply SortedMap.ext_get?
  intro key
  rw [SortedMap.get?_insertAll, SortedMap.get?_insertAll map, SortedMap.get?_ofList,
    SortedMap.get?_ofList, lookup_writes]

end Marker

end Outcome

end Grammar

open Marker in
/-- A list style is read up to its end or to the first unknown word. The last type and the last
position are written, and whatever comes after an unknown word makes no difference. -/
theorem Property.listStyle_read {tokens : List Marker.Token} (hne : tokens ≠ [])
    (hapart : Word.Apart (Marker.words tokens)) {tail : List Char}
    (htail : tail = [] ∨ ∃ gap word rest, gap ≠ [] ∧ Blank gap ∧ StrayMarker word rest ∧
      tail = gap ++ (word ++ rest)) (map : PropertyMap) :
    listStyle.read (.start (String.ofList (Word.text (Marker.words tokens) ++ tail))) map =
      ⟨true, ⟨Word.text (Marker.words tokens), tail⟩,
        map.insertAll (outcome (tokens.map (·.marker)))⟩ := by
  have hstop : Spaced tail ∧ markerGrammar tail = .refused tail := by
    rcases htail with rfl | ⟨gap, word, rest, hgap, hblank, hword, rfl⟩
    · exact ⟨spaced_nil, rfl⟩
    · exact ⟨spaced_of_blank hblank hgap, hword.markerGrammar_eq_refused hblank⟩
  have hread := repeated_tokens hapart hstop.1 hstop.2
  obtain ⟨token, others, rfl⟩ := List.exists_cons_of_ne_nil hne
  rw [← listStyle_eq, List.isEmpty_cons, ← List.flatMap_map] at hread
  rw [← insertAll_writes]
  exact read_start (p := .listStyle) hread map

/-- An image, a type, a position and another type, and then a word that opens no image. -/
theorem listStyle_fourMarkers : ∃ tokens : List Marker.Token,
    tokens ≠ [] ∧ Word.Apart (Marker.words tokens) ∧
      StrayMarker "url".toList " (x) outside".toList ∧
      Word.text (Marker.words tokens) = "URL(a b.png) disc\tINSIDE  Lower-Roman".toList ∧
      Property.listStyle.read (.start
          (String.ofList (Word.text (Marker.words tokens) ++ " url (x) outside".toList))) ∅ =
        ⟨true, ⟨"URL(a b.png) disc\tINSIDE  Lower-Roman".toList, " url (x) outside".toList⟩,
          .ofList [("list-style-type", "lower-roman"), ("list-style-position", "inside")]⟩ := by
  have hword : StrayMarker "url".toList " (x) outside".toList :=
    ⟨⟨by decide, by decide, by decide⟩, by rintro c ⟨⟩; rfl⟩
  refine ⟨[⟨⟨[], "URL(a b.png)".toList, List.forall_mem_nil _⟩, .image,
      .image ⟨"URL".toList, "a b.png".toList, by decide, by decide, rfl⟩⟩,
    ⟨⟨[' '], "disc".toList, List.all_eq_true.1 rfl⟩, .type "disc",
      .type ⟨by decide, by decide⟩⟩,
    ⟨⟨['\t'], "INSIDE".toList, List.all_eq_true.1 rfl⟩, .position "inside",
      .position ⟨by decide, by decide⟩⟩,
    ⟨⟨[' ', ' '], "Lower-Roman".toList, List.all_eq_true.1 rfl⟩, .type "lower-roman",
      .type ⟨by decide, by decide⟩⟩], ?_, ?_, hword, rfl, ?_⟩
  · exact List.cons_ne_nil _ _
  · decide
  · exact Property.listStyle_read (List.cons_ne_nil _ _) (by decide)
      (.inr ⟨[' '], _, _, by decide, List.all_eq_true.1 rfl, hword, rfl⟩) ∅

end FlatStyle
