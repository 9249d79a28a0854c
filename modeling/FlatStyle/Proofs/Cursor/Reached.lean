import FlatStyle.Proofs.Cursor.Offsets

namespace FlatStyle

open Text Grammar

namespace Cursor

section Step

def text (c : Cursor) : List Char := c.behind ++ c.ahead

def Answer.Fails : Answer → Prop
  | .none => False
  | .flag value => value = false
  | .char value => value = Option.none
  | .text value => value = Option.none

def Step.scans : Step → Bool
  | .scanUntil _ | .hexDigits | .number => true
  | _ => false

/-- What a step does, at its cursor and at its offset: it leaves `rest` ahead. -/
structure Moves (c : Cursor) (step : Step) (answer : Answer) (rest : List Char) : Prop where
  suffix : rest <:+ c.ahead
  step_eq : c.step step = (answer, c.moveTo rest)
  stepAt_eq : stepAt? c.text c.position step = some (answer, tailOffset c.text rest)
  fails : answer.Fails → rest = c.ahead
  scans : step.scans = true → ∀ piece, answer = .text (some piece) → c.ahead = piece.toList ++ rest

variable {c : Cursor} {step : Step}

theorem ahead_suffix (c : Cursor) : c.ahead <:+ c.text := List.suffix_append _ _

theorem position_eq_tailOffset (c : Cursor) : c.position = tailOffset c.text c.ahead :=
  (tailOffset_append c.behind c.ahead).symm

theorem moves_stay {answer : Answer} (hstep : c.step step = (answer, c))
    (hstepAt : stepAt? c.text c.position step = some (answer, c.position))
    (hscans : step.scans = false) : Moves c step answer c.ahead where
  suffix := List.suffix_refl _
  step_eq := by rw [hstep, moveTo_ahead]
  stepAt_eq := by rw [hstepAt, position_eq_tailOffset]
  fails _ := rfl
  scans h := by rw [hscans] at h; cases h

theorem moves_run {p : Char → Bool} (answer : List Char → Answer)
    (hstep : c.step step = (answer (c.ahead.takeWhile p), c.moveTo (c.ahead.dropWhile p)))
    (hstepAt : stepAt? c.text c.position step =
      (runAt? c.text p c.position).map (Prod.map answer id))
    (hfound : ∀ piece, ¬ (answer piece).Fails)
    (hscans : step.scans = true → answer = Answer.piece) :
    Moves c step (answer (c.ahead.takeWhile p)) (c.ahead.dropWhile p) where
  suffix := List.dropWhile_suffix p
  step_eq := hstep
  stepAt_eq := by
    rw [hstepAt, position_eq_tailOffset, runAt?_tailOffset (ahead_suffix c)]
    rfl
  fails h := absurd h (hfound _)
  scans h piece hpiece := by
    rw [hscans h] at hpiece
    cases hpiece
    rw [String.toList_ofList, List.takeWhile_append_dropWhile]

theorem exists_moves_token (read : TokenReader)
    (hsuffix : ∀ {s value rest}, read s = some (value, rest) → rest <:+ s)
    (hstep : c.step step = c.token read)
    (hstepAt : stepAt? c.text c.position step =
      (some (found c.text c.ahead (read c.ahead))).map (Prod.map .text id))
    (hscans : step.scans = true → ∀ value rest, read c.ahead = some (value, rest) →
      c.ahead = value.toList ++ rest) : ∃ answer rest, Moves c step answer rest := by
  cases hread : read c.ahead with
  | none =>
      refine ⟨.text none, c.ahead, List.suffix_refl _, ?_, ?_, fun _ => rfl, ?_⟩
      · rw [hstep, token, hread, moveTo_ahead]
      · rw [hstepAt, hread]
        rfl
      · intro _ piece hpiece
        cases hpiece
  | some result =>
      obtain ⟨value, rest⟩ := result
      refine ⟨.text (some value), rest, hsuffix hread, ?_, ?_, ?_, ?_⟩
      · rw [hstep, token, hread]
      · rw [hstepAt, hread]
        rfl
      · intro hfails
        cases hfails
      · intro h piece hpiece
        cases hpiece
        exact hscans h value rest hread

theorem exists_moves (c : Cursor) (step : Step) : ∃ answer rest, Moves c step answer rest := by
  have hposition := position_eq_tailOffset c
  have hahead := ahead_suffix c
  cases step with
  | peek =>
      refine ⟨_, _, moves_stay rfl ?_ rfl⟩
      rw [stepAt?, hposition, aheadAt?_tailOffset hahead]
      rfl
  | advance =>
      refine ⟨.char c.ahead.head?, c.ahead.tail, List.tail_suffix _, rfl, ?_, ?_, nofun⟩
      · rw [stepAt?, hposition, advanceAt?_tailOffset hahead]
        rfl
      · intro h
        rw [List.head?_eq_none_iff.1 h]
        rfl
  | eat expected =>
      have hstepAt := eatAt?_tailOffset hahead expected
      by_cases hhead : c.ahead.head? = some expected
      · refine ⟨.flag true, c.ahead.tail, List.tail_suffix _, if_pos hhead, ?_, nofun, nofun⟩
        rw [stepAt?, hposition, hstepAt, if_pos hhead]
        rfl
      · refine ⟨_, _, moves_stay (if_neg hhead) ?_ rfl⟩
        rw [stepAt?, hposition, hstepAt, if_neg hhead]
        rfl
  | skipBlanks => exact ⟨_, _, moves_run (fun _ => .none) rfl rfl (fun _ => id) nofun⟩
  | scanUntil stops => exact ⟨_, _, moves_run .piece rfl rfl (fun _ => nofun) fun _ => rfl⟩
  | hexDigits => exact ⟨_, _, moves_run .piece rfl rfl (fun _ => nofun) fun _ => rfl⟩
  | startsWith word =>
      refine ⟨_, _, moves_stay rfl ?_ rfl⟩
      rw [stepAt?, hposition, opensAt?_tailOffset hahead]
      rfl
  | keyword words =>
      refine exists_moves_token (keyword? words) keyword?_suffix rfl ?_ nofun
      rw [stepAt?, hposition, keywordAt?_tailOffset hahead]
  | keywordHere words =>
      refine exists_moves_token (keywordHere? words) keywordHere?_suffix rfl ?_ nofun
      rw [stepAt?, hposition, keywordHereAt?_tailOffset hahead]
  | number =>
      refine exists_moves_token number? (fun h => ⟨_, (of_number? h).1.symm⟩) rfl ?_ ?_
      · rw [stepAt?, hposition, numberAt?_tailOffset hahead]
      · exact fun _ value rest h => (of_number? h).1
  | rest =>
      refine ⟨_, _, moves_stay rfl ?_ rfl⟩
      rw [stepAt?, hposition, aheadAt?_tailOffset hahead]
      rfl
  | color =>
      refine exists_moves_token color? color?_suffix rfl ?_ nofun
      rw [stepAt?, hposition, colorAt?_tailOffset hahead]
  | size nonNegative =>
      refine exists_moves_token (size? nonNegative) size?_suffix rfl ?_ nofun
      rw [stepAt?, hposition, sizeAt?_tailOffset hahead]

end Step

/-- The offset is reached from the front of the text by steps and by going back to an offset at which
the text has been read before; `visited` are the offsets so far. -/
inductive Reached (s : List Char) : Nat → List Nat → Prop where
  | start : Reached s 0 [0]
  | step {n stop : Nat} {visited : List Nat} {answer : Answer} (step : Step)
      (before : Reached s n visited) (hstep : stepAt? s n step = some (answer, stop)) :
      Reached s stop (stop :: visited)
  | reset {n earlier stop : Nat} {visited : List Nat} (before : Reached s n visited)
      (hearlier : earlier ∈ visited) (hreset : resetAt? s earlier = some stop) :
      Reached s stop (stop :: visited)

def at? (s : List Char) (n : Nat) : Option Cursor :=
  (cutAt? n s).map fun (behind, ahead) => ⟨behind, ahead⟩

section Reached

variable {s rest : List Char} {n stop : Nat} {visited : List Nat} {c : Cursor} {step : Step}
  {answer : Answer}

theorem at?_eq_some_iff : at? s n = some c ↔ c.text = s ∧ c.position = n := by
  simp only [at?, Option.map_eq_some_iff, Prod.exists, cutAt?_eq_some_iff]
  constructor
  · rintro ⟨behind, ahead, ⟨hs, hn⟩, rfl⟩
    exact ⟨hs.symm, hn⟩
  · rintro ⟨hs, hn⟩
    exact ⟨c.behind, c.ahead, ⟨hs.symm, hn⟩, rfl⟩

theorem isOffset_iff_exists_at? : IsOffset s n ↔ ∃ c, at? s n = some c := by
  simp only [at?_eq_some_iff]
  constructor
  · rintro ⟨before, after, rfl, rfl⟩
    exact ⟨⟨before, after⟩, rfl, rfl⟩
  · rintro ⟨c, rfl, rfl⟩
    exact ⟨c.behind, c.ahead, rfl, rfl⟩

theorem moveTo_suffix (h : rest <:+ c.ahead) :
    (c.moveTo rest).text = c.text ∧ (c.moveTo rest).position = tailOffset c.text rest := by
  obtain ⟨behind, ahead⟩ := c
  obtain ⟨piece, rfl⟩ := h
  rw [moveTo_append]
  refine ⟨List.append_assoc _ _ _, ?_⟩
  rw [text, ← List.append_assoc, tailOffset_append, position]

namespace Moves

variable (h : Moves c step answer rest)

include h

theorem next_text : (c.step step).2.text = c.text := by
  rw [h.step_eq]
  exact (moveTo_suffix h.suffix).1

theorem next_position : (c.step step).2.position = tailOffset c.text rest := by
  rw [h.step_eq]
  exact (moveTo_suffix h.suffix).2

theorem exists_piece : ∃ piece, c.ahead = piece ++ rest ∧
    slice? c.text c.position (tailOffset c.text rest) = some piece := by
  obtain ⟨piece, hpiece⟩ := h.suffix
  refine ⟨piece, hpiece.symm, ?_⟩
  rw [position_eq_tailOffset, ← hpiece]
  apply slice?_tailOffset
  rw [hpiece]
  exact ahead_suffix c

theorem position_le : c.position ≤ tailOffset c.text rest := by
  obtain ⟨piece, -, hslice⟩ := h.exists_piece
  exact (slice?_isSome_iff.1 (Option.isSome_iff_exists.2 ⟨piece, hslice⟩)).1

end Moves

namespace Reached

theorem mem_visited (h : Reached s n visited) : n ∈ visited := by
  cases h <;> exact List.mem_cons_self

theorem isOffset (h : Reached s n visited) : ∀ m ∈ visited, IsOffset s m := by
  induction h with
  | start => exact List.forall_mem_singleton.2 ⟨[], s, rfl, rfl⟩
  | step step before hstep ih =>
      obtain ⟨c, hc⟩ := isOffset_iff_exists_at?.1 (ih _ before.mem_visited)
      obtain ⟨rfl, rfl⟩ := at?_eq_some_iff.1 hc
      obtain ⟨answer, rest, hmoves⟩ := exists_moves c step
      rw [hmoves.stepAt_eq] at hstep
      cases hstep
      refine List.forall_mem_cons.2 ⟨isOffset_iff_exists_at?.2 ⟨(c.step step).2, ?_⟩, ih⟩
      exact at?_eq_some_iff.2 ⟨hmoves.next_text, hmoves.next_position⟩
  | reset before hearlier hreset ih =>
      rw [resetAt?_of_isOffset (ih _ hearlier)] at hreset
      cases hreset
      exact List.forall_mem_cons.2 ⟨ih _ hearlier, ih⟩

end Reached

end Reached

/-- Every offset that is reached lies within the text, between two characters, and so does every one
that is gone back to. No step fails there. It goes forward or stays where it is, as it does if it
finds nothing; a step that answers with what it passes over answers with the text between the two
offsets; and it does the same as the step of the cursor at that offset. -/
theorem step_offsets {text : String} {n : Nat} {visited : List Nat}
    (h : Reached text.toList n visited) :
    n ≤ text.utf8ByteSize ∧ String.Pos.Raw.IsValid text ⟨n⟩ ∧
    (∀ earlier ∈ visited, resetAt? text.toList earlier = some earlier) ∧
    ∃ cursor, at? text.toList n = some cursor ∧ ∀ step, ∃ answer stop,
      stepAt? text.toList n step = some (answer, stop) ∧ n ≤ stop ∧ (answer.Fails → stop = n) ∧
      (step.scans = true → ∀ piece, answer = .text (some piece) →
        slice? text.toList n stop = some piece.toList) ∧
      (cursor.step step).1 = answer ∧ at? text.toList stop = some (cursor.step step).2 := by
  have hoffset := h.isOffset n h.mem_visited
  have hvalid : String.Pos.Raw.IsValid text ⟨n⟩ := by
    rwa [isOffset_iff_isValid, String.ofList_toList] at hoffset
  refine ⟨hvalid.le_utf8ByteSize, hvalid,
    fun earlier hearlier => resetAt?_of_isOffset (h.isOffset earlier hearlier), ?_⟩
  obtain ⟨c, hc⟩ := isOffset_iff_exists_at?.1 hoffset
  obtain ⟨htext, rfl⟩ := at?_eq_some_iff.1 hc
  refine ⟨c, hc, fun step => ?_⟩
  obtain ⟨answer, rest, hmoves⟩ := exists_moves c step
  rw [← htext]
  refine ⟨answer, _, hmoves.stepAt_eq, hmoves.position_le, ?_, ?_, ?_, ?_⟩
  · intro hfails
    rw [hmoves.fails hfails, position_eq_tailOffset]
  · intro hscans piece hpiece
    obtain ⟨passed, hpassed, hslice⟩ := hmoves.exists_piece
    rw [hmoves.scans hscans piece hpiece] at hpassed
    rw [hslice, List.append_cancel_right hpassed]
  · rw [hmoves.step_eq]
  · exact at?_eq_some_iff.2 ⟨hmoves.next_text, hmoves.next_position⟩

/-- A number behind characters of two bytes, and back to the offset between these. -/
theorem step_offsets_accents :
    Reached "Éé -1é".toList 2 [2, 7, 5, 4, 2, 0] ∧
      2 ≤ "Éé -1é".utf8ByteSize ∧ String.Pos.Raw.IsValid "Éé -1é" ⟨2⟩ ∧
      ¬ String.Pos.Raw.IsValid "Éé -1é" ⟨3⟩ ∧ resetAt? "Éé -1é".toList 3 = none := by
  have hword : Reached "Éé -1é".toList 4 [4, 2, 0] :=
    .step (.keywordHere ["-", "é"]) (.step .advance .start rfl) rfl
  have hnumber : Reached "Éé -1é".toList 7 [7, 5, 4, 2, 0] :=
    .step .number (.step .skipBlanks hword rfl) rfl
  have hmem : 2 ∈ [7, 5, 4, 2, 0] := by decide
  have hreset : Reached "Éé -1é".toList 2 [2, 7, 5, 4, 2, 0] := .reset hnumber hmem rfl
  obtain ⟨hle, hvalid, -⟩ := step_offsets hreset
  exact ⟨hreset, hle, hvalid, by decide, rfl⟩

namespace Session

structure Placed (text : String) (s : Session) (visited : List Nat) : Prop where
  cursor : s.cursor.text = text.toList
  marked : s.marked.text = text.toList
  reached : Reached text.toList s.cursor.position visited
  mem_visited : s.marked.position ∈ visited

variable {text : String} {s : Session} {visited : List Nat}

theorem Placed.obey (h : Placed text s visited) (command : Command) :
    ∃ visited, Placed text (s.obey command).2 visited := by
  cases command with
  | step step =>
      obtain ⟨answer, rest, hmoves⟩ := exists_moves s.cursor step
      have hstep : stepAt? text.toList s.cursor.position step =
          some (answer, (s.cursor.step step).2.position) := by
        rw [hmoves.next_position, ← h.cursor]
        exact hmoves.stepAt_eq
      exact ⟨(s.cursor.step step).2.position :: visited, hmoves.next_text.trans h.cursor, h.marked,
        .step step h.reached hstep, List.mem_cons_of_mem _ h.mem_visited⟩
  | mark => exact ⟨visited, h.cursor, h.cursor, h.reached, h.reached.mem_visited⟩
  | reset =>
      refine ⟨s.marked.position :: visited, h.marked, h.marked,
        .reset h.reached h.mem_visited ?_, List.mem_cons_self⟩
      exact resetAt?_of_isOffset (h.reached.isOffset _ h.mem_visited)

theorem Placed.run (h : Placed text s visited) (commands : List Command) :
    ∀ outcome ∈ s.run commands, ∃ visited, Reached text.toList outcome.2.position visited := by
  induction commands generalizing s visited with
  | nil => exact nofun
  | cons command commands ih =>
      obtain ⟨visited, hplaced⟩ := h.obey command
      exact List.forall_mem_cons.2 ⟨⟨visited, hplaced.reached⟩, ih hplaced⟩

theorem run_reached (text : String) (commands : List Command) :
    ∀ outcome ∈ (start text).run commands, ∃ visited,
      Reached text.toList outcome.2.position visited :=
  Placed.run ⟨rfl, rfl, .start, List.mem_cons_self⟩ commands

end Session

end Cursor

end FlatStyle
