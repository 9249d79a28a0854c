import FlatStyle.Proofs.Grammar.Component
import Mathlib.Data.List.MinMax
import Mathlib.Data.List.Pairwise
import Mathlib.Data.String.Basic

namespace FlatStyle

open Text Grammar

namespace Grammar

structure Exclusive (words : List String) : Prop where
  caseless : words.Pairwise fun word other => sameLetters word.toList other.toList = false
  boundary : ∀ word ∈ words, ∀ other ∈ words, ∀ rest,
    dropWord? word.toList other.toList = some rest → rest ≠ [] → endsWord rest = false

def standing? (s : List Char) (word : String) : Option (String × List Char) :=
  (dropWord? word.toList s).bind fun rest => if endsWord rest then some (word, rest) else none

def standing (words : List String) (s : List Char) : List (String × List Char) :=
  words.filterMap (standing? s)

def longestHere? (words : List String) : TokenReader := fun s =>
  (standing words s).argmax fun (word, _) => word.utf8ByteSize

section Single

variable {α : Type} {l l' : List α}

theorem length_le_one_iff_pairwise : l.length ≤ 1 ↔ l.Pairwise fun _ _ => False := by
  rcases l with _ | ⟨a, _ | ⟨b, l⟩⟩
  · exact iff_of_true (Nat.zero_le _) .nil
  · exact iff_of_true (Nat.le_refl _) (List.pairwise_singleton _ a)
  · refine iff_of_false (by simp) fun h => ?_
    exact List.rel_of_pairwise_cons h List.mem_cons_self

theorem eq_of_perm_of_length_le_one (h : l.Perm l') (hl : l'.length ≤ 1) : l = l' := by
  rcases l' with _ | ⟨a, _ | ⟨b, l'⟩⟩
  · exact List.perm_nil.1 h
  · exact List.perm_singleton.1 h
  · simp at hl

theorem argmax_eq_head? (f : α → Nat) (hl : l.length ≤ 1) : l.argmax f = l.head? := by
  rcases l with _ | ⟨a, _ | ⟨b, l⟩⟩
  · rfl
  · rfl
  · simp at hl

end Single

section Standing

variable {words : List String} {word other : String} {s : List Char}

theorem keywordHere?_eq_head? : keywordHere? words s = (standing words s).head? :=
  List.head?_filterMap.symm

theorem exists_standing?_iff : (∃ read, standing? s word = some read) ↔ Stands word s := by
  constructor
  · rintro ⟨read, hread⟩
    obtain ⟨rest, hdrop, hread⟩ := Option.bind_eq_some_iff.1 hread
    split at hread
    · exact ⟨rest, hdrop, ‹_›⟩
    · cases hread
  · rintro ⟨rest, hdrop, hend⟩
    refine ⟨(word, rest), ?_⟩
    rw [standing?, hdrop, Option.bind_some, if_pos hend]

theorem length_standing_le_one_iff : (standing words s).length ≤ 1 ↔
    words.Pairwise fun word other => ¬ (Stands word s ∧ Stands other s) := by
  rw [length_le_one_iff_pairwise, standing, List.pairwise_filterMap]
  refine List.Pairwise.iff fun word other => ?_
  rw [← exists_standing?_iff, ← exists_standing?_iff]
  constructor
  · rintro h ⟨⟨read, hread⟩, otherRead, hother⟩
    exact h read hread otherRead hother
  · intro h read hread otherRead hother
    exact h ⟨⟨read, hread⟩, otherRead, hother⟩

theorem stands_of_sameLetters (h : sameLetters word.toList other.toList = true) :
    Stands word other.toList :=
  ⟨[], dropWord?_of_sameLetters h, rfl⟩

theorem stands_self (word : String) : Stands word word.toList := ⟨[], dropWord?_self _, rfl⟩

end Standing

namespace Exclusive

variable {words shuffled : List String} {s : List Char}

theorem iff_unambiguous : Exclusive words ↔ Unambiguous words ∧ words.Nodup := by
  constructor
  · intro h
    refine ⟨?_, ?_⟩
    · intro word hword other hother hany
      obtain ⟨rest, hdrop, hend⟩ := (Option.any_eq_true _ _).1 hany
      -- What follows the front is empty, so that the two words differ in case at most.
      have hrest : rest = [] := by
        by_contra hrest
        rw [h.boundary word hword other hother rest hdrop hrest] at hend
        cases hend
      obtain ⟨front, hfront, hother'⟩ := dropWord?_eq_some_iff.1 hdrop
      rw [hrest, List.append_nil] at hother'
      have hletters : sameLetters word.toList other.toList = true := by
        rw [hother']
        exact sameLetters_iff.2 hfront.symm
      have : Std.Symm fun word other : String => sameLetters word.toList other.toList = false :=
        ⟨fun word other hdiffer => by rwa [sameLetters_comm]⟩
      by_contra hne
      rw [h.caseless.forall hword hother hne] at hletters
      cases hletters
    · refine h.caseless.imp fun {word other} hletters => ?_
      rintro rfl
      rw [sameLetters_iff.2 rfl] at hletters
      cases hletters
  · rintro ⟨hunambiguous, hnodup⟩
    refine ⟨?_, ?_⟩
    · refine hnodup.imp_of_mem fun {word other} hword hother hne => ?_
      rw [Bool.eq_false_iff]
      intro hletters
      obtain ⟨rest, hdrop, hend⟩ := stands_of_sameLetters hletters
      refine hne (hunambiguous word hword other hother ?_)
      rw [hdrop]
      exact hend
    · intro word hword other hother rest hdrop hrest
      rw [Bool.eq_false_iff]
      intro hend
      have hany : (dropWord? word.toList other.toList).any endsWord = true := by
        rw [hdrop]
        exact hend
      obtain rfl := hunambiguous word hword other hother hany
      rw [dropWord?_self] at hdrop
      cases hdrop
      exact hrest rfl

theorem iff_forall_standing : Exclusive words ↔ ∀ s, (standing words s).length ≤ 1 := by
  simp only [iff_unambiguous, length_standing_le_one_iff]
  constructor
  · rintro ⟨hunambiguous, hnodup⟩ s
    refine hnodup.imp_of_mem fun {word other} hword hother hne => ?_
    rintro ⟨⟨rest, hdrop, hend⟩, otherRest, hotherDrop, hotherEnd⟩
    exact hne (hunambiguous.eq hword hother hdrop hend hotherDrop hotherEnd)
  · intro h
    refine ⟨?_, List.pairwise_iff_forall_sublist.2 fun {word other} hsub => ?_⟩
    · intro word hword other hother hany
      obtain ⟨rest, hdrop, hend⟩ := (Option.any_eq_true _ _).1 hany
      have : Std.Symm fun word name : String =>
        ¬ (Stands word other.toList ∧ Stands name other.toList) := ⟨fun _ _ => mt And.symm⟩
      by_contra hne
      exact (h other.toList).forall hword hother hne ⟨⟨rest, hdrop, hend⟩, stands_self other⟩
    · rintro rfl
      exact List.pairwise_iff_forall_sublist.1 (h word.toList) hsub
        ⟨stands_self word, stands_self word⟩

/-- Every order of an exclusive table reads the word that is the longest one in any order. -/
theorem keywordHere?_eq_longestHere? (h : Exclusive words) (hperm : shuffled.Perm words)
    (s : List Char) : keywordHere? shuffled s = longestHere? words s := by
  have hone := iff_forall_standing.1 h s
  rw [keywordHere?_eq_head?, longestHere?, argmax_eq_head? _ hone]
  exact congrArg _ (eq_of_perm_of_length_le_one (hperm.filterMap _) hone)

end Exclusive

theorem namedColors_nodup : namedColors.Nodup := by
  have hascending : namedColors.IsChain (· < ·) := by
    decide +kernel
  exact (List.isChain_iff_pairwise.1 hascending).imp ne_of_lt

theorem exclusive_of_mem_tables : ∀ table ∈ units :: keywordTables, Exclusive table := by
  have hothers : ∀ table ∈ keywordTables.tail, table.Nodup := by
    decide +kernel
  have hnodup : ∀ table ∈ keywordTables, table.Nodup :=
    List.forall_mem_cons.2 ⟨namedColors_nodup, hothers⟩
  refine List.forall_mem_cons.2 ⟨?_, fun table htable => ?_⟩
  · exact Exclusive.iff_unambiguous.2 ⟨units_unambiguous, by decide⟩
  · exact Exclusive.iff_unambiguous.2
      ⟨unambiguous_of_mem_keywordTables table htable, hnodup table htable⟩

end Grammar

namespace Cursor

/-- A table is exclusive exactly if at most one of its words stands at any place of any text. A
cursor then takes the same step with every order of the table, to the longest word that stands
there, and the tables of all value grammars are exclusive. -/
theorem step_keyword_perm :
    (∀ words, (Exclusive words ↔ ∀ s, (standing words s).length ≤ 1) ∧
      (Exclusive words → ∀ shuffled : List String, shuffled.Perm words → ∀ cursor : Cursor,
        cursor.step (.keyword shuffled) = cursor.step (.keyword words) ∧
        cursor.step (.keyword words) =
          cursor.token (fun s => longestHere? words (skipBlanks s)) ∧
        cursor.step (.keywordHere shuffled) = cursor.step (.keywordHere words) ∧
        cursor.step (.keywordHere words) = cursor.token (longestHere? words))) ∧
    ∀ table ∈ units :: keywordTables, Exclusive table := by
  refine ⟨fun words => ⟨Exclusive.iff_forall_standing, ?_⟩, exclusive_of_mem_tables⟩
  intro h shuffled hperm cursor
  have hlongest : ∀ {table : List String}, table.Perm words →
      keywordHere? table = longestHere? words :=
    fun htable => funext (h.keywordHere?_eq_longestHere? htable)
  have hsame : keywordHere? shuffled = keywordHere? words :=
    (hlongest hperm).trans (hlongest (.refl words)).symm
  refine ⟨?_, ?_, ?_, ?_⟩
  · rw [step, step, token, token, keyword?, keyword?, hsame]
  · rw [step, token, token, keyword?, hlongest (.refl words)]
  · rw [step, step, hsame]
  · rw [step, hlongest (.refl words)]

/-- Of two words one may be the front of the other if a letter or a digit follows, and even the empty
word may be in the table; where a hyphen follows, the first word that is tried is read. -/
theorem step_keyword_perm_accented :
    Exclusive ["", "ab-é", "Abé"] ∧
      (start " AB-é,").step (.keyword ["Abé", "ab-é", ""]) =
        (.text (some "ab-é"), ⟨" AB-é".toList, [',']⟩) ∧
      ¬ Exclusive ["ab", "ab-é"] ∧
      (start "AB-é").step (.keyword ["ab", "ab-é"]) = (.text (some "ab"), ⟨['A', 'B'], ['-', 'é']⟩) ∧
      (start "AB-é").step (.keyword ["ab-é", "ab"]) = (.text (some "ab-é"), ⟨"AB-é".toList, []⟩) := by
  have hexclusive : Exclusive ["", "ab-é", "Abé"] := Exclusive.iff_unambiguous.2 (by decide)
  have hperm : List.Perm ["Abé", "ab-é", ""] ["", "ab-é", "Abé"] := by
    decide
  refine ⟨hexclusive, ?_, ?_, rfl, rfl⟩
  · exact ((step_keyword_perm.1 _).2 hexclusive _ hperm _).1
  · exact fun h => absurd (Exclusive.iff_unambiguous.1 h) (by decide)

end Cursor

end FlatStyle
