import FlatStyle.Proofs.Stylesheet.Block
import FlatStyle.Proofs.Stylesheet.Reading
import FlatStyle.Proofs.Text.Offset
import Mathlib.Logic.Relation

namespace FlatStyle

open Relation Text

namespace Stylesheet

/-- Offsets of the reading: where the round began that ends with a block, where the selector of that
block begins, and the byte to be looked at. -/
structure Position where
  round : Nat
  selector : Nat
  here : Nat

def Position.begin (n : Nat) : Position := ⟨n, n, n⟩

inductive Move where
  | stop
  | next (position : Position) (found : Sheet)

def skipAtRule (s : List Char) (p : Position) : Option Move := do
  let rest ← slice? s p.here (utf8Length s)
  let stop := (offsetOf? ';' rest).elim (utf8Length s) (p.here + ·)
  let text ← slice? s p.here stop
  let after := min (stop + 1) (utf8Length s)
  some (.next ⟨p.round, after, after⟩ (Sheet.ofItem (.atRule text)))

def rulesOf? (s : List Char) (p : Position) (block : List Char) : Option (List Rule) :=
  if utf8Length block > 2 then (slice? s p.selector p.here).map (Rule.ofBlock · block) else some []

def readBlock (s : List Char) (p : Position) : Option Move := do
  let rest ← slice? s (p.here + 1) (utf8Length s)
  let close := (offsetOf? '}' rest).elim (utf8Length s) (p.here + 1 + ·)
  let block ← slice? s (p.here + 1) close
  let rules ← rulesOf? s p block
  some (.next (.begin (close + 1)) ⟨rules, []⟩)

def step (s : List Char) (p : Position) : Option Move :=
  if p.here < utf8Length s then
    (byteAt? s p.here).bind fun byte =>
      if byte = '{'.toUInt8 then readBlock s p
      else if byte = '@'.toUInt8 then skipAtRule s p
      else some (.next { p with here := p.here + 1 } ∅)
  else some .stop

section Progress

variable {s : List Char} {p q : Position} {found : Sheet}

/-- A step goes forward, within its round or to a new round behind the byte it looked at. -/
structure Advances (p q : Position) : Prop where
  here : p.here < q.here
  round : q.round = p.round ∨ p.here < q.round ∧ q = .begin q.round

theorem skipAtRule_advances (hp : p.here < utf8Length s)
    (h : skipAtRule s p = some (.next q found)) : Advances p q := by
  simp only [skipAtRule, Option.bind_eq_bind, Option.bind_eq_some_iff] at h
  obtain ⟨rest, -, text, -, h⟩ := h
  cases h
  refine ⟨?_, .inl rfl⟩
  cases offsetOf? ';' rest with
  | none => exact Nat.lt_min.2 ⟨Nat.lt_succ_of_lt hp, hp⟩
  | some n => exact Nat.lt_min.2 ⟨Nat.lt_succ_of_le (Nat.le_add_right _ _), hp⟩

theorem readBlock_advances (hp : p.here < utf8Length s)
    (h : readBlock s p = some (.next q found)) : Advances p q := by
  simp only [readBlock, Option.bind_eq_bind, Option.bind_eq_some_iff] at h
  obtain ⟨rest, -, block, -, rules, -, h⟩ := h
  cases h
  have hclose : p.here < (offsetOf? '}' rest).elim (utf8Length s) (p.here + 1 + ·) + 1 := by
    cases offsetOf? '}' rest with
    | none => exact Nat.lt_succ_of_lt hp
    | some n => simp only [Option.elim_some]; omega
  exact ⟨hclose, .inr ⟨hclose, rfl⟩⟩

theorem step_advances (h : step s p = some (.next q found)) :
    p.here < utf8Length s ∧ Advances p q := by
  unfold step at h
  split at h
  · rename_i hp
    obtain ⟨byte, -, h⟩ := Option.bind_eq_some_iff.1 h
    refine ⟨hp, ?_⟩
    split at h
    · exact readBlock_advances hp h
    · split at h
      · exact skipAtRule_advances hp h
      · cases h
        exact ⟨Nat.lt_succ_self _, .inl rfl⟩
  · cases h

end Progress

def run (s : List Char) (p : Position) : Option Sheet :=
  match _step : step s p with
  | none => none
  | some .stop => some ∅
  | some (.next q found) => (run s q).map (found ++ ·)
termination_by utf8Length s - p.here
decreasing_by
  obtain ⟨hp, hadvances⟩ := step_advances _step
  have := hadvances.here
  omega

def MarkAt (s : List Char) (n : Nat) : Prop :=
  ∃ before c after, s = before ++ c :: after ∧ utf8Length before = n ∧ isItemMark c = true

/-- The text from the selector on is `left`, and no item begins between there and here. -/
structure Sound (s : List Char) (p : Position) (left : List Char) : Prop where
  round_le : p.round ≤ p.selector
  selector_le : p.selector ≤ p.here
  cut : (∃ before, s = before ++ left ∧ utf8Length before = p.selector) ∨
    left = [] ∧ utf8Length s < p.selector
  unmarked : ∀ n, p.selector ≤ n → n < p.here → ¬ MarkAt s n

section Sound

variable {s left before front back a b : List Char} {c : Char} {p : Position}

theorem sound_begin (s : List Char) : Sound s (.begin 0) s where
  round_le := Nat.le_refl 0
  selector_le := Nat.le_refl 0
  cut := .inl ⟨[], rfl, rfl⟩
  unmarked := nofun

theorem Sound.unmarked_front (h : Sound s p left) (hs : s = before ++ (front ++ back))
    (hbefore : utf8Length before = p.selector) (hfront : utf8Length (before ++ front) ≤ p.here) :
    Unmarked front := by
  rw [unmarked_iff]
  intro c hc
  rw [Bool.not_eq_true', Bool.eq_false_iff]
  intro hmark
  obtain ⟨first, last, rfl⟩ := List.append_of_mem hc
  have hpos := c.utf8Size_pos
  simp only [utf8Length_append, utf8Length_cons] at hfront
  refine h.unmarked (utf8Length (before ++ first)) ?_ ?_
    ⟨before ++ first, c, last ++ back, by simp [hs], rfl, hmark⟩
  · rw [utf8Length_append]
    omega
  · rw [utf8Length_append]
    omega

theorem Sound.exists_front (h : Sound s p left) (hs : s = a ++ c :: b)
    (ha : utf8Length a = p.here) :
    ∃ before front, a = before ++ front ∧ left = front ++ c :: b ∧
      utf8Length before = p.selector ∧ Unmarked front := by
  have hpos := c.utf8Size_pos
  have hselector := h.selector_le
  rcases h.cut with ⟨before, hleft, hbefore⟩ | ⟨-, hend⟩
  · have htext : before ++ left = a ++ c :: b := hleft.symm.trans hs
    obtain ⟨front, rfl⟩ := prefix_of_utf8Length_le htext (by omega)
    rw [List.append_assoc, List.append_cancel_left_eq] at htext
    rw [htext] at hleft
    exact ⟨before, front, rfl, htext, hbefore, h.unmarked_front hleft hbefore (Nat.le_of_eq ha)⟩
  · rw [hs, utf8Length_append, utf8Length_cons] at hend
    omega

theorem Sound.unmarked_left (h : Sound s p left) (hp : utf8Length s ≤ p.here) : Unmarked left := by
  rcases h.cut with ⟨before, hleft, hbefore⟩ | ⟨rfl, -⟩
  · rw [hleft] at hp
    exact h.unmarked_front (hleft.trans (by rw [List.append_nil])) hbefore hp
  · exact ⟨List.not_mem_nil, List.not_mem_nil⟩

end Sound

section Items

variable {s left front a b : List Char} {p : Position}

theorem nextItem?_atRule (hfront : Unmarked front) (b : List Char) :
    nextItem? (front ++ '@' :: b) =
      some (.atRule ('@' :: b.takeWhile (· != ';')), (b.dropWhile (· != ';')).drop 1) := by
  rw [nextItem?, dropWhile_run (unmarked_iff.1 hfront) (by rintro c ⟨⟩; rfl)]
  rfl

theorem nextItem?_block (hfront : Unmarked front) (b : List Char) :
    nextItem? (front ++ '{' :: b) =
      some (.rule front (b.takeWhile (· != '}')), (b.dropWhile (· != '}')).drop 1) := by
  rw [nextItem?, dropWhile_run (unmarked_iff.1 hfront) (by rintro c ⟨⟩; rfl),
    takeWhile_run (unmarked_iff.1 hfront) (by rintro c ⟨⟩; rfl)]
  rfl

theorem ofBare_of_nextItem? {item : Item} {rest : List Char}
    (h : nextItem? s = some (item, rest)) :
    Sheet.ofBare s = Sheet.ofItem item ++ Sheet.ofBare rest := by
  rw [Sheet.ofBare, items_eq_cons h]
  rfl

theorem sound_of_cut {round n : Nat} (hround : round ≤ n)
    (hcut : (∃ before, s = before ++ left ∧ utf8Length before = n) ∨
      left = [] ∧ utf8Length s < n) : Sound s ⟨round, n, n⟩ left where
  round_le := hround
  selector_le := Nat.le_refl n
  cut := hcut
  unmarked _ hle hlt := absurd hle (Nat.not_le.2 hlt)

theorem Sound.skipAtRule (h : Sound s p left) (hs : s = a ++ '@' :: b)
    (ha : utf8Length a = p.here) :
    ∃ q found rest, skipAtRule s p = some (.next q found) ∧ Sound s q rest ∧
      Sheet.ofBare left = found ++ Sheet.ofBare rest := by
  obtain ⟨before, front, -, rfl, -, hfront⟩ := h.exists_front hs ha
  have hskip : skipAtRule s p = some (.next
      ⟨p.round, min (utf8Length (a ++ '@' :: b.takeWhile (· != ';')) + 1) (utf8Length s),
        min (utf8Length (a ++ '@' :: b.takeWhile (· != ';')) + 1) (utf8Length s)⟩
      (Sheet.ofItem (.atRule ('@' :: b.takeWhile (· != ';'))))) := by
    rw [Stylesheet.skipAtRule, hs, ← ha, slice?_back, Option.bind_eq_bind, Option.bind_some]
    dsimp only
    rw [slice?_search, offsetOf?_elim]
    rfl
  refine ⟨_, _, _, hskip, sound_of_cut ?_ (.inl ?_),
    ofBare_of_nextItem? (nextItem?_atRule hfront b)⟩
  · have hround := h.round_le.trans h.selector_le
    simp only [hs, utf8Length_append, utf8Length_cons] at *
    omega
  · rcases exists_cut_dropWhile (c := ';') rfl a ('@' :: b) with
      ⟨first, hfirst, hlength⟩ | ⟨hnil, hall⟩
    · refine ⟨first, hs.trans hfirst, hlength.trans (Nat.min_eq_left ?_).symm⟩
      rw [← hlength, hs, hfirst, utf8Length_append]
      exact Nat.le_add_right _ _
    · refine ⟨s, ?_, ?_⟩
      · exact (List.append_nil s).symm.trans (congrArg (s ++ ·) hnil.symm)
      · have hend : utf8Length (a ++ '@' :: b.takeWhile (· != ';')) = utf8Length s := by
          rw [hs]
          exact congrArg (fun t => utf8Length (a ++ t)) hall
        rw [hend]
        exact (Nat.min_eq_right (Nat.le_succ _)).symm

theorem Sound.readBlock (h : Sound s p left) (hs : s = a ++ '{' :: b)
    (ha : utf8Length a = p.here) :
    ∃ q found rest, readBlock s p = some (.next q found) ∧ Sound s q rest ∧
      Sheet.ofBare left = found ++ Sheet.ofBare rest := by
  obtain ⟨before, front, rfl, rfl, hbefore, hfront⟩ := h.exists_front hs ha
  have hopen : p.here + 1 = utf8Length (before ++ front ++ ['{']) := by
    rw [utf8Length_append _ ['{'], ha]
    rfl
  have htext : s = before ++ front ++ ['{'] ++ b := by simp [hs]
  have hselector : slice? s p.selector p.here = some front :=
    slice?_eq_some_iff.2 ⟨before, '{' :: b, hs, hbefore, ha⟩
  have hrules (block : List Char) :
      rulesOf? s p block = some (Item.rules (.rule front block)) := by
    rw [rulesOf?, hselector, Item.rules]
    split
    · rfl
    · rfl
  have hread : readBlock s p = some (.next
      (.begin (utf8Length (before ++ front ++ ['{'] ++ b.takeWhile (· != '}')) + 1))
      (Sheet.ofItem (.rule front (b.takeWhile (· != '}'))))) := by
    rw [Stylesheet.readBlock, hopen, htext, slice?_back, Option.bind_eq_bind, Option.bind_some]
    dsimp only
    rw [slice?_search, offsetOf?_elim, ← htext]
    dsimp only [Option.bind_some]
    rw [hrules]
    rfl
  refine ⟨_, _, _, hread, sound_of_cut (Nat.le_refl _) ?_,
    ofBare_of_nextItem? (nextItem?_block hfront b)⟩
  rcases exists_cut_dropWhile (c := '}') rfl (before ++ front ++ ['{']) b with
    ⟨first, hfirst, hlength⟩ | ⟨hnil, hall⟩
  · exact .inl ⟨first, htext.trans hfirst, hlength⟩
  · right
    rw [hall, ← htext]
    exact ⟨hnil, Nat.lt_succ_self _⟩

theorem not_isItemMark_of_byte {n : Nat} {byte : UInt8} (h : byteAt? s n = some byte)
    (hbrace : byte ≠ '{'.toUInt8) (hat : byte ≠ '@'.toUInt8) : ¬ MarkAt s n := by
  rintro ⟨before, c, after, rfl, rfl, hmark⟩
  obtain ⟨kind, rfl⟩ := isItemMark_iff.1 hmark
  cases kind with
  | atRule =>
      have hbyte := (byteAt?_eq_some_iff (c := '@') (by decide)).2 ⟨before, after, rfl, rfl⟩
      exact hat (Option.some.inj (h.symm.trans hbyte))
  | rule =>
      have hbyte := (byteAt?_eq_some_iff (c := '{') (by decide)).2 ⟨before, after, rfl, rfl⟩
      exact hbrace (Option.some.inj (h.symm.trans hbyte))

theorem Sound.step (h : Sound s p left) :
    (step s p = some .stop ∧ Sheet.ofBare left = ∅) ∨
      ∃ q found rest, step s p = some (.next q found) ∧ Sound s q rest ∧
        Sheet.ofBare left = found ++ Sheet.ofBare rest := by
  rw [Stylesheet.step]
  split
  · rename_i hp
    right
    obtain ⟨byte, hbyte⟩ := exists_byteAt? hp
    rw [hbyte, Option.bind_some]
    split
    · rename_i hbrace
      rw [hbrace, byteAt?_eq_some_iff (by decide)] at hbyte
      obtain ⟨a, b, hs, ha⟩ := hbyte
      exact h.readBlock hs ha
    · rename_i hbrace
      split
      · rename_i hat
        rw [hat, byteAt?_eq_some_iff (by decide)] at hbyte
        obtain ⟨a, b, hs, ha⟩ := hbyte
        exact h.skipAtRule hs ha
      · rename_i hat
        refine ⟨_, _, left, rfl, ⟨h.round_le, Nat.le_succ_of_le h.selector_le, h.cut, ?_⟩, rfl⟩
        intro n hle hlt
        rcases Nat.lt_succ_iff_lt_or_eq.1 hlt with hlt | rfl
        · exact h.unmarked n hle hlt
        · exact not_isItemMark_of_byte hbyte hbrace hat
  · rename_i hp
    exact .inl ⟨rfl, Sheet.ofBare_unmarked (h.unmarked_left (Nat.le_of_not_lt hp))⟩

theorem Sound.run (h : Sound s p left) : run s p = some (Sheet.ofBare left) := by
  fun_induction Stylesheet.run s p generalizing left with
  | case1 p hfails =>
      rcases h.step with ⟨hstep, -⟩ | ⟨q, found, rest, hstep, -, -⟩
      · rw [hfails] at hstep
        cases hstep
      · rw [hfails] at hstep
        cases hstep
  | case2 p hstops =>
      rcases h.step with ⟨-, hleft⟩ | ⟨q, found, rest, hstep, -, -⟩
      · rw [hleft]
      · rw [hstops] at hstep
        cases hstep
  | case3 p q found hnext ih =>
      rcases h.step with ⟨hstep, -⟩ | ⟨q', found', rest, hstep, hsound, hleft⟩
      · rw [hnext] at hstep
        cases hstep
      · rw [hnext] at hstep
        cases hstep
        rw [ih hsound, hleft]
        rfl

def Follows (s : List Char) (p q : Position) : Prop := ∃ found, step s p = some (.next q found)

theorem Sound.follows {q : Position} (h : Sound s p left) (hfollows : Follows s p q) :
    ∃ rest, Sound s q rest := by
  obtain ⟨found, hnext⟩ := hfollows
  rcases h.step with ⟨hstep, -⟩ | ⟨q', found', rest, hstep, hsound, -⟩
  · rw [hnext] at hstep
    cases hstep
  · rw [hnext] at hstep
    cases hstep
    exact ⟨rest, hsound⟩

theorem exists_sound (h : ReflTransGen (Follows s) (.begin 0) p) : ∃ left, Sound s p left := by
  induction h with
  | refl => exact ⟨s, sound_begin s⟩
  | tail _ hfollows ih =>
      obtain ⟨left, hsound⟩ := ih
      exact hsound.follows hfollows

end Items

end Stylesheet

namespace Session

open Stylesheet

/-- Slices are cut only between characters, and a step that cannot cut one fails. From the first
position on no step fails; each goes forward within the text, and a round begins behind the block
that ends the one before. The steps together read what is added for the text. -/
theorem addText_offsets (css : String) :
    (∀ start stop, (slice? css.toList start stop).isSome = true ↔ start ≤ stop ∧
      String.Pos.Raw.IsValid css ⟨start⟩ ∧ String.Pos.Raw.IsValid css ⟨stop⟩) ∧
    (∀ p, ReflTransGen (Stylesheet.Follows css.toList) (.begin 0) p →
      p.round ≤ p.selector ∧ p.selector ≤ p.here ∧
        ∃ move, Stylesheet.step css.toList p = some move ∧
          ∀ q found, move = .next q found → p.here < css.utf8ByteSize ∧ Advances p q) ∧
    ∃ sheet, Stylesheet.run css.toList (.begin 0) = some sheet ∧
      ∀ s : Session, s.addText css = ⟨s.index.addSheet sheet, s.log.recordAll sheet.warnings⟩ := by
  refine ⟨fun start stop => ?_, fun p hreached => ?_, _, (sound_begin css.toList).run, fun s => rfl⟩
  · rw [slice?_isSome_iff, isOffset_iff_isValid, isOffset_iff_isValid, String.ofList_toList]
  · obtain ⟨left, hsound⟩ := exists_sound hreached
    have hsize := utf8ByteSize_ofList css.toList
    rw [String.ofList_toList] at hsize
    refine ⟨hsound.round_le, hsound.selector_le, ?_⟩
    rcases hsound.step with ⟨hstep, -⟩ | ⟨q, found, rest, hstep, -, -⟩
    · exact ⟨_, hstep, nofun⟩
    · refine ⟨_, hstep, ?_⟩
      rintro q' found' heq
      rw [heq] at hstep
      rw [hsize]
      exact step_advances hstep

/-- The second position is in the midst of a character, the last one past the end of the text. -/
theorem addText_offsets_accents :
    ReflTransGen (Stylesheet.Follows "é\x7bé".toList) (.begin 0) ⟨0, 0, 2⟩ ∧
      (∃ move, Stylesheet.step "é\x7bé".toList ⟨0, 0, 2⟩ = some move ∧
        ∀ q found, move = .next q found →
          2 < "é\x7bé".utf8ByteSize ∧ Advances ⟨0, 0, 2⟩ q) ∧
      Stylesheet.Follows "é\x7bé".toList ⟨0, 0, 2⟩ (.begin 6) ∧ "é\x7bé".utf8ByteSize = 5 := by
  have hfirst : Stylesheet.Follows "é\x7bé".toList (.begin 0) ⟨0, 0, 1⟩ := ⟨∅, rfl⟩
  have hsecond : Stylesheet.Follows "é\x7bé".toList ⟨0, 0, 1⟩ ⟨0, 0, 2⟩ := ⟨∅, rfl⟩
  have hreached := (ReflTransGen.single hfirst).tail hsecond
  exact ⟨hreached, ((addText_offsets "é\x7bé").2.1 _ hreached).2.2, ⟨⟨[], []⟩, rfl⟩, by decide⟩

end Session

end FlatStyle
