import FlatStyle.Proofs.Declaration.Normalization
import FlatStyle.Proofs.Text.Folding

namespace FlatStyle.Declaration

open Text

theorem stripQuote?_folded {quote : Char} (hq : Unlettered quote) (s : List Char) :
    stripQuote? quote (folded s) = (stripQuote? quote s).map folded := by
  cases s with
  | nil => rfl
  | cons c s =>
      have hlast : (folded s).getLast? = some quote ↔ s.getLast? = some quote := by
        rw [folded, List.getLast?_map, Option.map_eq_some_iff]
        simp only [hq.toLower_eq_iff, exists_eq_right]
      simp only [folded_cons, stripQuote?, hq.toLower_eq_iff, hlast]
      split
      · exact congrArg some List.map_dropLast.symm
      · rfl

theorem unquote_folded (s : List Char) : unquote (folded s) = folded (unquote s) := by
  have hdouble : Unlettered '"' := by decide
  have hsingle : Unlettered '\'' := by decide
  rw [unquote, unquote, stripQuote?_folded hdouble, stripQuote?_folded hsingle]
  cases stripQuote? '"' s with
  | some inner => rfl
  | none => cases stripQuote? '\'' s <;> rfl

theorem ofParts?_folded (parts : List (List Char)) :
    ofParts? (parts.map folded) = ofParts? parts := by
  rcases parts with _ | ⟨name, _ | ⟨value, _ | ⟨other, rest⟩⟩⟩
  · rfl
  · rfl
  · simp only [List.map_cons, List.map_nil, ofParts?, unquote_folded, lower_folded]
  · rfl

theorem ofCandidate?_folded (s : List Char) : ofCandidate? (folded s) = ofCandidate? s := by
  have hcolon : IgnoresCase (· == ':') := Unlettered.beq_ignoresCase (by decide)
  have hparts : parts (folded s) = (parts s).map folded := by
    rw [parts, fields_folded hcolon, parts, List.map_map, List.map_map]
    exact List.map_congr_left fun field _ => trim_folded field
  rw [ofCandidate?_eq, hparts, ofParts?_folded, ofCandidate?_eq]

theorem ofChars_folded (s : List Char) : ofChars (folded s) = ofChars s := by
  have hsemicolon : IgnoresCase (· == ';') := Unlettered.beq_ignoresCase (by decide)
  rw [ofChars, fields_folded hsemicolon, List.filterMap_map, ofChars]
  exact List.filterMap_congr fun candidate _ => ofCandidate?_folded candidate

theorem ofText_eq_of_sameLetters {s t : String} (h : sameLetters s.toList t.toList = true) :
    ofText s = ofText t := by
  rw [ofText, ← ofChars_folded, sameLetters_iff.1 h, ofChars_folded, ofText]

end FlatStyle.Declaration
