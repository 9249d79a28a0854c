import FlatStyle.Cursor
import FlatStyle.Proofs.Grammar.Component

namespace FlatStyle

open Text Grammar

namespace Grammar

/-- Blanks, a sign, digits and points with at least one digit, and a text that does not go on with
digits or points. -/
structure Amount where
  blanks : List Char
  negative : Bool
  digits : List Char
  rest : List Char
  blank : ∀ c ∈ blanks, isAsciiBlank c = true
  isNumber : IsNumber digits
  ended : ∀ c ∈ rest.head?, isNumberChar c = false

namespace Amount

variable (a : Amount)

def number : List Char := if a.negative then '-' :: a.digits else a.digits

def front : List Char := a.blanks ++ a.number

def text : List Char := a.front ++ a.rest

/-- The size that the number makes with a unit; a negative one is clamped where none is allowed. -/
def size (nonNegative : Bool) (unit : String) : String :=
  if nonNegative && a.negative then "0" else String.ofList a.number ++ unit

/-- `chars` right behind the number spell a unit, which ends there. -/
structure HasUnit (chars : List Char) (unit : String) (tail : List Char) : Prop
    extends Spelled units chars unit where
  rest_eq : a.rest = chars ++ tail
  boundary : endsWord tail = true

end Amount

section Number

variable {s rest : List Char} {number : String}

theorem ended_of_number? (h : number? s = some (number, rest)) :
    ∀ c ∈ rest.head?, isNumberChar c = false := by
  unfold number? at h
  split at h
  simp only at h
  split at h
  · cases h
    exact fun c hc => of_mem_head?_dropWhile hc
  · cases h

theorem exists_amount (h : number? (skipBlanks s) = some (number, rest)) :
    ∃ a : Amount, s = a.text := by
  obtain ⟨hsplit, hnumber⟩ := of_number? h
  have hended := ended_of_number? h
  have htext : s = s.takeWhile isAsciiBlank ++ number.toList ++ rest := by
    rw [List.append_assoc, ← hsplit]
    exact List.takeWhile_append_dropWhile.symm
  rcases hnumber with hnumber | ⟨digits, hsign, hnumber⟩
  · exact ⟨⟨s.takeWhile isAsciiBlank, false, number.toList, rest, of_mem_takeWhile, hnumber,
      hended⟩, htext⟩
  · rw [hsign] at htext
    exact ⟨⟨s.takeWhile isAsciiBlank, true, digits, rest, of_mem_takeWhile, hnumber, hended⟩,
      htext⟩

end Number

namespace Amount

variable (a : Amount)

theorem skipBlanks_text : skipBlanks a.text = a.number ++ a.rest := by
  rw [text, front, List.append_assoc, skipBlanks_append a.blank, number]
  split
  · exact skipBlanks_cons (by decide) _
  · exact (numeral_of_isNumber a.isNumber).solid.skipBlanks_append _

theorem number?_text : number? (skipBlanks a.text) = some (String.ofList a.number, a.rest) := by
  rw [skipBlanks_text, number]
  split
  · exact number?_minus_append a.isNumber a.ended
  · exact number?_append a.isNumber a.ended

theorem head?_number : (a.number.head? == some '-') = a.negative := by
  cases hsign : a.negative with
  | true => rw [number, hsign]; rfl
  | false =>
      rw [number, hsign, beq_eq_false_iff_ne]
      intro hhead
      cases a.isNumber.1 '-' (List.mem_of_mem_head? hhead)

theorem size?_text (nonNegative : Bool) : size? nonNegative a.text =
    let (unit, rest) := (keywordHere? units a.rest).getD ("px", a.rest)
    some (a.size nonNegative unit, rest) := by
  rw [size?, number?_text, Option.map_some]
  simp only [String.toList_ofList, head?_number]
  rfl

variable {a} {chars tail : List Char} {unit : String}

theorem HasUnit.keywordHere? (h : a.HasUnit chars unit tail) :
    keywordHere? units a.rest = some (unit, tail) := by
  rw [units_unambiguous.keywordHere?_eq_some_iff, h.rest_eq]
  exact ⟨h.mem, h.dropWord?, h.boundary⟩

theorem exists_hasUnit (h : keywordHere? units a.rest = some (unit, tail)) :
    ∃ chars, a.HasUnit chars unit tail := by
  obtain ⟨hmem, hdrop, hend⟩ := of_keywordHere? h
  obtain ⟨chars, hchars, hrest⟩ := dropWord?_eq_some_iff.1 hdrop
  exact ⟨chars, ⟨hmem, sameLetters_iff.2 hchars⟩, hrest, hend⟩

theorem keywordHere?_eq_none_iff : keywordHere? units a.rest = none ↔
    ∀ chars unit tail, ¬ a.HasUnit chars unit tail := by
  constructor
  · intro hnone chars unit tail h
    rw [h.keywordHere?] at hnone
    cases hnone
  · intro h
    rw [Option.eq_none_iff_forall_ne_some]
    rintro ⟨unit, tail⟩ hread
    obtain ⟨chars, hunit⟩ := exists_hasUnit hread
    exact h chars unit tail hunit

end Amount

theorem size?_eq_none_iff {nonNegative : Bool} {s : List Char} :
    size? nonNegative s = none ↔ ∀ a : Amount, s ≠ a.text := by
  constructor
  · rintro hnone a rfl
    rw [a.size?_text] at hnone
    cases hnone
  · intro h
    rw [size?, Option.map_eq_none_iff, Option.eq_none_iff_forall_ne_some]
    rintro ⟨number, rest⟩ hnumber
    obtain ⟨a, ha⟩ := exists_amount hnumber
    exact h a ha

end Grammar

namespace Cursor

/-- An amount is read up to the end of its unit if it has one, and up to the end of its number as
pixels if it has none. On any other text the cursor stays where it is. -/
theorem step_size (nonNegative : Bool) (c : Cursor) :
    (∀ a : Amount, c.ahead = a.text →
      (∀ chars unit tail, a.HasUnit chars unit tail → c.step (.size nonNegative) =
        (.text (some (a.size nonNegative unit)), ⟨c.behind ++ a.front ++ chars, tail⟩)) ∧
      ((∀ chars unit tail, ¬ a.HasUnit chars unit tail) → c.step (.size nonNegative) =
        (.text (some (a.size nonNegative "px")), ⟨c.behind ++ a.front, a.rest⟩))) ∧
    ((∀ a : Amount, c.ahead ≠ a.text) → c.step (.size nonNegative) = (.text none, c)) := by
  obtain ⟨behind, ahead⟩ := c
  refine ⟨?_, fun h => ?_⟩
  · rintro a rfl
    refine ⟨fun chars unit tail h => ?_, fun h => ?_⟩
    · have hread : size? nonNegative a.text = some (a.size nonNegative unit, tail) := by
        rw [a.size?_text, h.keywordHere?]
        rfl
      rw [step, token, hread, Amount.text, h.rest_eq, ← List.append_assoc]
      exact congrArg _ ((moveTo_append _ _ _).trans (by rw [List.append_assoc]))
    · have hread : size? nonNegative a.text = some (a.size nonNegative "px", a.rest) := by
        rw [a.size?_text, Amount.keywordHere?_eq_none_iff.2 h]
        rfl
      rw [step, token, hread]
      exact congrArg _ (moveTo_append _ _ _)
  · rw [step, token, size?_eq_none_iff.2 h]

/-- A unit in capitals behind a number with two points, one that a digit goes on with, and a sign
without a digit. -/
theorem step_size_signs :
    (∃ a : Amount, a.text = " \t-1..5EM;3".toList ∧ a.HasUnit ['E', 'M'] "em" [';', '3'] ∧
      (⟨['é'], a.text⟩ : Cursor).step (.size false) =
        (.text (some "-1..5em"), ⟨"é \t-1..5EM".toList, [';', '3']⟩)) ∧
    (∃ a : Amount, a.text = "-.5%2".toList ∧ (∀ chars unit tail, ¬ a.HasUnit chars unit tail) ∧
      (⟨[], a.text⟩ : Cursor).step (.size true) =
        (.text (some "0"), ⟨['-', '.', '5'], ['%', '2']⟩)) ∧
    (∀ a : Amount, " -.em".toList ≠ a.text) ∧
      (start " -.em").step (.size true) = (.text none, start " -.em") := by
  refine ⟨?_, ?_, ?_⟩
  · let a : Amount := ⟨[' ', '\t'], true, "1..5".toList, "EM;3".toList,
      List.all_eq_true.1 rfl, by decide, by rintro c ⟨⟩; rfl⟩
    have hunit : a.HasUnit ['E', 'M'] "em" [';', '3'] := ⟨⟨by decide, by decide⟩, rfl, rfl⟩
    exact ⟨a, rfl, hunit, ((step_size false ⟨['é'], a.text⟩).1 a rfl).1 _ _ _ hunit⟩
  · let a : Amount := ⟨[], true, ['.', '5'], ['%', '2'], List.forall_mem_nil _, by decide,
      by rintro c ⟨⟩; rfl⟩
    have hunit := (Amount.keywordHere?_eq_none_iff (a := a)).1 (by decide)
    exact ⟨a, rfl, hunit, ((step_size true ⟨[], a.text⟩).1 a rfl).2 hunit⟩
  · have hread : size? true " -.em".toList = none := by decide
    have hnone := size?_eq_none_iff.1 hread
    exact ⟨hnone, (step_size true (start " -.em")).2 hnone⟩

end Cursor

end FlatStyle
