import FlatStyle.Proofs.Text.ByteOrder
import FlatStyle.Proofs.Text.Split
import Mathlib.Data.List.TakeWhile

/-!
Offsets into the UTF-8 of a text, and slices between them. A slice fails unless its ends are in
order and a character begins, or the text ends, at each of them. An ASCII byte is never a part of
another character, so that a text can be searched for it byte by byte.
-/

namespace FlatStyle.Text

def byteAt? (s : List Char) (n : Nat) : Option UInt8 := (bytes (String.ofList s))[n]?

/-- What stands before and after an offset at which no character is cut in two. -/
def cutAt? : Nat → List Char → Option (List Char × List Char)
  | 0, s => some ([], s)
  | _ + 1, [] => none
  | n + 1, c :: s =>
      if c.utf8Size ≤ n + 1 then
        (cutAt? (n + 1 - c.utf8Size) s).map fun (before, after) => (c :: before, after)
      else none

def slice? (s : List Char) (start stop : Nat) : Option (List Char) := do
  let (before, _) ← cutAt? stop s
  let (_, piece) ← cutAt? start before
  some piece

def offsetOf? (c : Char) (s : List Char) : Option Nat :=
  if s.contains c then some (utf8Length (s.takeWhile (· != c))) else none

def offsetWhere? (p : Char → Bool) (s : List Char) : Option Nat :=
  if s.any p then some (utf8Length (s.takeWhile (!p ·))) else none

/-- The offset at which a text begins that the other one ends with. -/
def tailOffset (s t : List Char) : Nat := utf8Length s - utf8Length t

/-- At the offset a character begins or the text ends. -/
def IsOffset (s : List Char) (n : Nat) : Prop :=
  ∃ before after, s = before ++ after ∧ utf8Length before = n

section Size

theorem utf8Size_eq_one_iff {c : Char} : c.utf8Size = 1 ↔ c.toNat < 0x80 := by
  rw [Char.utf8Size_eq_one_iff, UInt32.le_iff_toNat_le]
  exact Nat.lt_succ_iff.symm

theorem utf8Size_le_two_iff {c : Char} : c.utf8Size ≤ 2 ↔ c.toNat < 0x800 := by
  have htwo : c.utf8Size = 2 ↔ 0x80 ≤ c.toNat ∧ c.toNat < 0x800 := by
    rw [Char.utf8Size_eq_two_iff, UInt32.lt_iff_toNat_lt, UInt32.le_iff_toNat_le]
    exact and_congr Nat.succ_le_iff.symm Nat.lt_succ_iff.symm
  have hone := utf8Size_eq_one_iff (c := c)
  have hpos := c.utf8Size_pos
  omega

theorem utf8Length_le_two_iff {s : List Char} (h : s.length ≤ 2) :
    utf8Length s ≤ 2 ↔ (∀ c ∈ s, c.toNat < 0x80) ∨ ∃ c, s = [c] ∧ c.toNat < 0x800 := by
  rcases s with _ | ⟨c, _ | ⟨d, _ | ⟨e, s⟩⟩⟩
  · simp
  · have hle := utf8Size_le_two_iff (c := c)
    simp only [utf8Length_cons, utf8Length_nil, List.forall_mem_singleton, List.cons.injEq,
      and_true, exists_eq_left']
    omega
  · have hc := utf8Size_eq_one_iff (c := c)
    have hd := utf8Size_eq_one_iff (c := d)
    have hcpos := c.utf8Size_pos
    have hdpos := d.utf8Size_pos
    simp only [utf8Length_cons, utf8Length_nil, List.forall_mem_cons, List.not_mem_nil,
      List.cons.injEq, reduceCtorEq, and_false, false_and, exists_false, or_false,
      IsEmpty.forall_iff, implies_true, and_true]
    omega
  · simp only [List.length_cons] at h
    omega

end Size

section Cut

variable {s before after piece front back : List Char} {n start stop : Nat}

theorem cutAt?_eq_some_iff :
    cutAt? n s = some (before, after) ↔ s = before ++ after ∧ utf8Length before = n := by
  induction s generalizing n before after with
  | nil =>
      cases n with
      | zero => cases before <;> simp [cutAt?, eq_comm]
      | succ n =>
          simp only [cutAt?, reduceCtorEq, false_iff, not_and]
          intro h
          simp [(List.append_eq_nil_iff.1 h.symm).1]
  | cons c s ih =>
      have hpos := c.utf8Size_pos
      cases n with
      | zero =>
          cases before with
          | nil => simp [cutAt?, eq_comm]
          | cons d before =>
              have hd := d.utf8Size_pos
              simp only [cutAt?, Option.some.injEq, Prod.mk.injEq, utf8Length_cons]
              exact iff_of_false (fun h => nomatch h.1) fun h => by omega
      | succ n =>
          simp only [cutAt?]
          split
          · rename_i hle
            simp only [Option.map_eq_some_iff, Prod.exists, ih, Prod.mk.injEq]
            constructor
            · rintro ⟨before, after, ⟨rfl, hlength⟩, rfl, rfl⟩
              refine ⟨rfl, ?_⟩
              rw [utf8Length_cons]
              omega
            · rintro ⟨hs, hlength⟩
              cases before with
              | nil => cases hlength
              | cons d before =>
                  obtain ⟨rfl, rfl⟩ := List.cons.inj hs
                  rw [utf8Length_cons] at hlength
                  exact ⟨before, after, ⟨rfl, by omega⟩, rfl, rfl⟩
          · rename_i hlt
            simp only [reduceCtorEq, false_iff, not_and]
            intro hs hlength
            cases before with
            | nil => cases hlength
            | cons d before =>
                obtain ⟨rfl, -⟩ := List.cons.inj hs
                rw [utf8Length_cons] at hlength
                omega

theorem slice?_eq_some_iff :
    slice? s start stop = some piece ↔ ∃ before after, s = before ++ piece ++ after ∧
      utf8Length before = start ∧ utf8Length (before ++ piece) = stop := by
  simp only [slice?, Option.bind_eq_bind, Option.bind_eq_some_iff, Prod.exists, cutAt?_eq_some_iff,
    Option.some.injEq]
  constructor
  · rintro ⟨_, after, ⟨rfl, hstop⟩, before, _, ⟨rfl, hstart⟩, rfl⟩
    exact ⟨before, after, rfl, hstart, hstop⟩
  · rintro ⟨before, after, rfl, hstart, hstop⟩
    exact ⟨before ++ piece, after, ⟨rfl, hstop⟩, before, piece, ⟨rfl, hstart⟩, rfl⟩

theorem prefix_of_utf8Length_le (h : before ++ after = front ++ back)
    (hle : utf8Length before ≤ utf8Length front) : before <+: front := by
  rcases List.append_eq_append_iff.1 h with ⟨middle, rfl, -⟩ | ⟨middle, rfl, -⟩
  · exact List.prefix_append before middle
  · have hmiddle := length_le_utf8Length middle
    rw [utf8Length_append] at hle
    have hnil : middle = [] := List.length_eq_zero_iff.1 (by omega)
    exact ⟨[], by simp [hnil]⟩

theorem slice?_back (before after : List Char) :
    slice? (before ++ after) (utf8Length before) (utf8Length (before ++ after)) = some after :=
  slice?_eq_some_iff.2 ⟨before, [], (List.append_nil _).symm, rfl, rfl⟩

theorem offsetWhere?_getD (p : Char → Bool) (s : List Char) :
    (offsetWhere? p s).getD (utf8Length s) = utf8Length (s.takeWhile (!p ·)) := by
  unfold offsetWhere?
  split
  · rfl
  · rename_i hnone
    have hall : ∀ c ∈ s, (!p c) = true := by
      intro c hc
      rw [Bool.not_eq_true', Bool.eq_false_iff]
      exact fun hp => hnone (List.any_eq_true.2 ⟨c, hc, hp⟩)
    rw [List.takeWhile_eq_self_iff.2 hall]
    rfl

theorem offsetOf?_eq_offsetWhere? (c : Char) (s : List Char) :
    offsetOf? c s = offsetWhere? (· == c) s := by
  rw [offsetOf?, offsetWhere?, List.contains_eq_any_beq]
  simp only [bne, Bool.beq_comm]

theorem offsetOf?_elim (c : Char) (before s : List Char) :
    (offsetOf? c s).elim (utf8Length (before ++ s)) (utf8Length before + ·) =
      utf8Length (before ++ s.takeWhile (· != c)) := by
  rw [utf8Length_append, utf8Length_append, offsetOf?_eq_offsetWhere?]
  have hgetD := offsetWhere?_getD (· == c) s
  cases hfound : offsetWhere? (· == c) s with
  | none =>
      rw [hfound] at hgetD
      exact congrArg _ hgetD
  | some n =>
      rw [hfound] at hgetD
      exact congrArg _ hgetD

theorem slice?_search (c : Char) (before s : List Char) :
    slice? (before ++ s) (utf8Length before)
      ((offsetOf? c s).elim (utf8Length (before ++ s)) (utf8Length before + ·)) =
        some (s.takeWhile (· != c)) := by
  rw [offsetOf?_elim]
  refine slice?_eq_some_iff.2 ⟨before, s.dropWhile (· != c), ?_, rfl, rfl⟩
  rw [List.append_assoc, List.takeWhile_append_dropWhile]

theorem exists_cut_dropWhile {c : Char} (hc : c.utf8Size = 1) (before s : List Char) :
    (∃ front, before ++ s = front ++ (s.dropWhile (· != c)).drop 1 ∧
      utf8Length front = utf8Length (before ++ s.takeWhile (· != c)) + 1) ∨
    (s.dropWhile (· != c)).drop 1 = [] ∧ s.takeWhile (· != c) = s := by
  have hs := List.takeWhile_append_dropWhile (p := (· != c)) (l := s)
  rcases dropWhile_bne_cases c s with hdrop | ⟨t, hdrop⟩
  · rw [hdrop, List.append_nil] at hs
    rw [hdrop]
    exact .inr ⟨rfl, hs⟩
  · left
    refine ⟨before ++ (s.takeWhile (· != c) ++ [c]), ?_, ?_⟩
    · conv_lhs => rw [← hs, hdrop]
      rw [hdrop]
      simp
    · simp only [utf8Length_append, utf8Length_cons, utf8Length_nil, hc]
      omega

theorem utf8ByteSize_ofList (s : List Char) : (String.ofList s).utf8ByteSize = utf8Length s := by
  induction s with
  | nil => rfl
  | cons c s ih =>
      rw [← List.singleton_append, String.ofList_append, String.utf8ByteSize_append, ih]
      simp

theorem isOffset_iff_isValid :
    IsOffset s n ↔ String.Pos.Raw.IsValid (String.ofList s) ⟨n⟩ := by
  rw [String.Pos.Raw.isValid_iff_exists_append]
  constructor
  · rintro ⟨before, after, rfl, rfl⟩
    exact ⟨String.ofList before, String.ofList after, String.ofList_append,
      congrArg String.Pos.Raw.mk (utf8ByteSize_ofList before).symm⟩
  · rintro ⟨before, after, hs, hn⟩
    refine ⟨before.toList, after.toList, ?_, ?_⟩
    · rw [← String.toList_append, ← hs, String.toList_ofList]
    · rw [← utf8ByteSize_ofList, String.ofList_toList]
      exact (congrArg String.Pos.Raw.byteIdx hn).symm

theorem slice?_isSome_iff :
    (slice? s start stop).isSome = true ↔ start ≤ stop ∧ IsOffset s start ∧ IsOffset s stop := by
  simp only [Option.isSome_iff_exists, slice?_eq_some_iff]
  constructor
  · rintro ⟨piece, before, after, rfl, rfl, rfl⟩
    refine ⟨?_, ⟨before, piece ++ after, List.append_assoc _ _ _, rfl⟩, ⟨_, after, rfl, rfl⟩⟩
    rw [utf8Length_append]
    omega
  · rintro ⟨hle, ⟨before, back, rfl, rfl⟩, ⟨front, after, hs, rfl⟩⟩
    obtain ⟨piece, rfl⟩ := prefix_of_utf8Length_le hs hle
    exact ⟨piece, before, after, hs, rfl, rfl⟩

example : slice? "né".toList 0 2 = none ∧ slice? "né".toList 1 3 = some ['é'] := by
  decide +kernel

end Cut

section Tail

variable {s t piece : List Char}

theorem utf8Length_le_of_suffix (h : t <:+ s) : utf8Length t ≤ utf8Length s := by
  obtain ⟨before, rfl⟩ := h
  rw [utf8Length_append]
  exact Nat.le_add_left _ _

theorem tailOffset_append (s t : List Char) : tailOffset (s ++ t) t = utf8Length s := by
  rw [tailOffset, utf8Length_append, Nat.add_sub_cancel]

theorem tailOffset_le (s t : List Char) : tailOffset s t ≤ utf8Length s := Nat.sub_le _ _

theorem tailOffset_append_add (h : piece ++ t <:+ s) :
    tailOffset s (piece ++ t) + utf8Length piece = tailOffset s t := by
  obtain ⟨before, rfl⟩ := h
  rw [tailOffset_append, ← List.append_assoc, tailOffset_append, utf8Length_append]

theorem tailOffset_cons_add {c : Char} (h : c :: t <:+ s) :
    tailOffset s (c :: t) + c.utf8Size = tailOffset s t :=
  @tailOffset_append_add s t [c] h

theorem slice?_tailOffset (h : piece ++ t <:+ s) :
    slice? s (tailOffset s (piece ++ t)) (tailOffset s t) = some piece := by
  obtain ⟨before, rfl⟩ := h
  refine slice?_eq_some_iff.2 ⟨before, t, (List.append_assoc _ _ _).symm, ?_, ?_⟩
  · rw [tailOffset_append]
  · rw [← List.append_assoc, tailOffset_append]

theorem slice?_tailOffset_end (h : t <:+ s) :
    slice? s (tailOffset s t) (utf8Length s) = some t := by
  obtain ⟨before, rfl⟩ := h
  rw [tailOffset_append, slice?_back]

theorem cutAt?_tailOffset (before t : List Char) :
    cutAt? (tailOffset (before ++ t) t) (before ++ t) = some (before, t) :=
  cutAt?_eq_some_iff.2 ⟨rfl, (tailOffset_append before t).symm⟩

end Tail

section Byte

variable {c d : Char} {s : List Char} {n : Nat}

theorem eq_of_mem_utf8EncodeChar (hc : c.toNat < 0x80) (h : c.toUInt8 ∈ String.utf8EncodeChar d) :
    d = c := by
  have hbyte : c.toUInt8 = UInt8.ofNat c.toNat := rfl
  have hd : d.val.toNat = d.toNat := rfl
  apply Char.toNat_inj.1
  rw [String.utf8EncodeChar, hd] at h
  simp only [hbyte] at h
  split_ifs at h <;>
    simp (disch := omega) only [List.mem_cons, List.not_mem_nil, or_false, byte_eq_iff] at h <;>
    omega

theorem byteAt?_cons (c : Char) (s : List Char) (n : Nat) :
    byteAt? (c :: s) n =
      if n < c.utf8Size then (String.utf8EncodeChar c)[n]? else byteAt? s (n - c.utf8Size) := by
  simp only [byteAt?, bytes_eq_flatMap, String.toList_ofList, List.flatMap_cons,
    List.getElem?_append, String.length_utf8EncodeChar]

theorem exists_byteAt? (h : n < utf8Length s) : ∃ byte, byteAt? s n = some byte := by
  induction s generalizing n with
  | nil => simp at h
  | cons c s ih =>
      rw [byteAt?_cons]
      split
      · rename_i hlt
        rw [← String.length_utf8EncodeChar] at hlt
        exact ⟨_, List.getElem?_eq_getElem hlt⟩
      · apply ih
        rw [utf8Length_cons] at h
        omega

theorem byteAt?_eq_some_iff (hc : c.toNat < 0x80) :
    byteAt? s n = some c.toUInt8 ↔ ∃ before after, s = before ++ c :: after ∧
      utf8Length before = n := by
  constructor
  · intro h
    induction s generalizing n with
    | nil => simp [byteAt?, bytes_eq_flatMap] at h
    | cons d s ih =>
        rw [byteAt?_cons] at h
        split at h
        · rename_i hlt
          obtain rfl := eq_of_mem_utf8EncodeChar hc (List.mem_of_getElem? h)
          rw [utf8Size_eq_one_iff.2 hc] at hlt
          exact ⟨[], s, rfl, (Nat.lt_one_iff.1 hlt).symm⟩
        · obtain ⟨before, after, rfl, hn⟩ := ih h
          exact ⟨d :: before, after, rfl, by rw [utf8Length_cons]; omega⟩
  · rintro ⟨before, after, rfl, rfl⟩
    induction before with
    | nil =>
        rw [List.nil_append, byteAt?_cons, if_pos (by exact c.utf8Size_pos),
          String.utf8EncodeChar_eq_singleton (utf8Size_eq_one_iff.2 hc)]
        rfl
    | cons d before ih =>
        rw [List.cons_append, byteAt?_cons, utf8Length_cons, if_neg (by omega),
          Nat.add_sub_cancel_left, ih]

end Byte

end FlatStyle.Text
