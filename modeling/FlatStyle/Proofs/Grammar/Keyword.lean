import FlatStyle.Cursor
import FlatStyle.Proofs.Grammar.Reread

namespace FlatStyle

open Text Grammar

namespace Grammar

/-- No word of the table stands at the front of another one and ends there. -/
def Unambiguous (words : List String) : Prop :=
  ∀ word ∈ words, ∀ other ∈ words,
    (dropWord? word.toList other.toList).any endsWord = true → word = other

instance (words : List String) : Decidable (Unambiguous words) :=
  inferInstanceAs (Decidable (∀ word ∈ words, ∀ other ∈ words, _))

/-- The tables of the value grammars, the units apart. -/
def keywordTables : List (List String) :=
  [namedColors, systemColors, ["transparent"], fontStyles, fontVariants, fontWeights, fontSizes,
    ["normal"], genericFamilies, decorations, textAligns, textTransforms, verticalAligns,
    whiteSpaces, borderStyles, ["auto"], floats, clears, listStyleTypes, listStylePositions]

def isKeywordChar (c : Char) : Bool := c.isAlphanum || c == '-' || c == '%'

section Boundary

variable {words : List String} {s rest : List Char}

theorem isAlpha_of_isLower {c : Char} (h : c.isLower = true) : c.isAlpha = true := by
  change (c.isUpper || c.isLower) = true
  rw [h, Bool.or_true]

theorem isAlphanum_of_isLower {c : Char} (h : c.isLower = true) : c.isAlphanum = true := by
  rw [Char.isAlphanum, isAlpha_of_isLower h, Bool.true_or]

theorem isAlphanum_ignoresCase : IgnoresCase Char.isAlphanum := by
  refine ignoresCase_of_letters true fun c hc => ?_
  change (c.isUpper || c.isLower || c.isDigit) = true
  rcases hc with hupper | hlower
  · have hc : c.isUpper = true :=
      decide_eq_true ⟨UInt32.le_iff_toNat_le.2 hupper.1, UInt32.le_iff_toNat_le.2 hupper.2⟩
    rw [hc, Bool.true_or, Bool.true_or]
  · rw [isLower_iff_toNat.2 hlower, Bool.or_true, Bool.true_or]

theorem isKeywordChar_ignoresCase : IgnoresCase isKeywordChar := by
  intro c
  have hhyphen : (c.toLower == '-') = (c == '-') := Unlettered.beq_ignoresCase (by decide) c
  have hpercent : (c.toLower == '%') = (c == '%') := Unlettered.beq_ignoresCase (by decide) c
  rw [isKeywordChar, isKeywordChar, isAlphanum_ignoresCase c, hhyphen, hpercent]

theorem endsWord_cons (c : Char) (s : List Char) : endsWord (c :: s) = !c.isAlphanum := rfl

theorem endsWord_of_not_isKeywordChar (h : ∀ c ∈ s.head?, isKeywordChar c = false) :
    endsWord s = true := by
  cases s with
  | nil => rfl
  | cons c s =>
      have hc := h c rfl
      rw [isKeywordChar, Bool.or_eq_false_iff, Bool.or_eq_false_iff] at hc
      rw [endsWord_cons, hc.1.1]
      rfl

theorem endsWord_of_dropWord? {tail : List Char} (h : dropWord? tail s = some rest)
    (hs : endsWord s = true) : endsWord tail = true := by
  cases tail with
  | nil => rfl
  | cons c tail =>
      cases s with
      | nil => cases h
      | cons d s =>
          rw [dropWord?] at h
          split at h
          · rename_i hletter
            have hsame : c.toLower = d.toLower := beq_iff_eq.1 hletter
            rw [endsWord_cons, ← isAlphanum_ignoresCase c, hsame, isAlphanum_ignoresCase d]
            exact hs
          · cases h

theorem dropWord?_append {p : Char → Bool} (hp : IgnoresCase p) {word : List Char}
    (hword : ∀ c ∈ word, p c = true) (hrest : ∀ c ∈ rest.head?, p c = false) :
    dropWord? word (s ++ rest) = (dropWord? word s).map (· ++ rest) := by
  fun_induction dropWord? word s with
  | case1 s => rw [dropWord?_nil, Option.map_some]
  | case2 c word =>
      cases rest with
      | nil => rfl
      -- The word would have to go on beyond the text.
      | cons d rest =>
          have hother : sameLetter c d = false := by
            rw [sameLetter, beq_eq_false_iff_ne]
            intro hsame
            have hd := hrest d rfl
            rw [← hp d, ← hsame, hp c, hword c List.mem_cons_self] at hd
            cases hd
          rw [List.nil_append, dropWord?, if_neg (Bool.eq_false_iff.1 hother), Option.map_none]
  | case3 c word d s hletter ih =>
      rw [List.cons_append, dropWord?, if_pos hletter, ih (List.forall_mem_cons.1 hword).2]
  | case4 c word d s hletter =>
      rw [List.cons_append, dropWord?, if_neg hletter, Option.map_none]

theorem keywordHere?_append (hwords : ∀ word ∈ words, ∀ c ∈ word.toList, isKeywordChar c = true)
    (hrest : ∀ c ∈ rest.head?, isKeywordChar c = false) :
    keywordHere? words (s ++ rest) =
      (keywordHere? words s).map fun (word, tail) => (word, tail ++ rest) := by
  have hend : ∀ tail, endsWord (tail ++ rest) = endsWord tail := by
    intro tail
    cases tail with
    | nil => exact endsWord_of_not_isKeywordChar hrest
    | cons c tail => rfl
  rw [keywordHere?, keywordHere?]
  induction words with
  | nil => rfl
  | cons word words ih =>
      obtain ⟨hword, hwords⟩ := List.forall_mem_cons.1 hwords
      rw [List.findSome?_cons, List.findSome?_cons,
        dropWord?_append isKeywordChar_ignoresCase hword hrest, ih hwords]
      cases dropWord? word.toList s with
      | none => rfl
      | some tail =>
          simp only [Option.map_some, Option.bind_some, hend]
          cases endsWord tail <;> rfl

theorem isKeywordChar_of_isLower {c : Char} (h : c.isLower = true) : isKeywordChar c = true := by
  rw [isKeywordChar, isAlphanum_of_isLower h, Bool.true_or, Bool.true_or]

theorem systemColors_small : ∀ name ∈ systemColors, Small name.toList := by
  decide +kernel

theorem isKeywordChar_of_mem_keywordTables : ∀ table ∈ keywordTables, ∀ word ∈ table,
    ∀ c ∈ word.toList, isKeywordChar c = true := by
  have hothers : ∀ table ∈ keywordTables.drop 2, ∀ word ∈ table,
      word.toList.all isKeywordChar = true := by
    decide +kernel
  rw [keywordTables, List.forall_mem_cons, List.forall_mem_cons]
  refine ⟨?_, ?_, ?_⟩
  · exact fun name hname c hc => isKeywordChar_of_isLower ((namedColors_small name hname).1 c hc)
  · exact fun name hname c hc => isKeywordChar_of_isLower (systemColors_small name hname c hc)
  · exact fun table htable word hword => List.all_eq_true.1 (hothers table htable word hword)

end Boundary

section Order

variable {words : List String} {s rest : List Char}

theorem dropWord?_of_length_le {word other otherRest : List Char}
    (hword : dropWord? word s = some rest) (hother : dropWord? other s = some otherRest)
    (hle : word.length ≤ other.length) :
    ∃ tail, dropWord? word other = some tail ∧ dropWord? tail rest = some otherRest := by
  induction word generalizing other s with
  | nil =>
      rw [dropWord?_nil] at hword
      cases hword
      exact ⟨other, dropWord?_nil other, hother⟩
  | cons c word ih =>
      cases other with
      | nil => cases hle
      | cons e other =>
          cases s with
          | nil => cases hword
          | cons d s =>
              rw [dropWord?] at hword hother
              split at hword
              · rename_i hletter
                split at hother
                · rename_i hotherLetter
                  obtain ⟨tail, htail, hrest⟩ := ih hword hother (Nat.le_of_succ_le_succ hle)
                  have hsame : sameLetter c e = true :=
                    beq_iff_eq.2 ((beq_iff_eq.1 hletter).trans (beq_iff_eq.1 hotherLetter).symm)
                  refine ⟨tail, ?_, hrest⟩
                  rw [dropWord?, if_pos hsame, htail]
                · cases hother
              · cases hword

namespace Unambiguous

theorem eq_of_length_le (h : Unambiguous words) {word other : String} {otherRest : List Char}
    (hword : word ∈ words) (hother : other ∈ words)
    (hdrop : dropWord? word.toList s = some rest) (hend : endsWord rest = true)
    (hotherDrop : dropWord? other.toList s = some otherRest)
    (hle : word.toList.length ≤ other.toList.length) : word = other := by
  obtain ⟨tail, htail, hrest⟩ := dropWord?_of_length_le hdrop hotherDrop hle
  refine h word hword other hother ?_
  rw [htail]
  exact endsWord_of_dropWord? hrest hend

theorem eq (h : Unambiguous words) {word other : String} {otherRest : List Char}
    (hword : word ∈ words) (hother : other ∈ words)
    (hdrop : dropWord? word.toList s = some rest) (hend : endsWord rest = true)
    (hotherDrop : dropWord? other.toList s = some otherRest)
    (hotherEnd : endsWord otherRest = true) : word = other := by
  rcases Nat.le_total word.toList.length other.toList.length with hle | hle
  · exact h.eq_of_length_le hword hother hdrop hend hotherDrop hle
  · exact (h.eq_of_length_le hother hword hotherDrop hotherEnd hdrop hle).symm

theorem keywordHere?_eq_some_iff (h : Unambiguous words) {word : String} :
    keywordHere? words s = some (word, rest) ↔
      word ∈ words ∧ dropWord? word.toList s = some rest ∧ endsWord rest = true := by
  refine ⟨of_keywordHere?, fun ⟨hword, hdrop, hend⟩ => ?_⟩
  cases hread : keywordHere? words s with
  | none =>
      have hnone := List.findSome?_eq_none_iff.1 hread word hword
      rw [hdrop, Option.bind_some, if_pos hend] at hnone
      cases hnone
  | some read =>
      obtain ⟨other, otherRest⟩ := read
      obtain ⟨hother, hotherDrop, hotherEnd⟩ := of_keywordHere? hread
      obtain rfl := h.eq hword hother hdrop hend hotherDrop hotherEnd
      rw [hdrop] at hotherDrop
      cases hotherDrop
      rfl

end Unambiguous

theorem unambiguous_of_small (hwords : ∀ word ∈ words, Small word.toList) : Unambiguous words := by
  intro word hword other hother h
  obtain ⟨rest, hdrop, hend⟩ := (Option.any_eq_true _ _).1 h
  have hread : keywordHere? [word] other.toList = some (word, rest) := by
    rw [keywordHere?, List.findSome?_singleton, hdrop, Option.bind_some, if_pos hend]
  rw [← skipBlanks_small (hwords other hother)] at hread
  -- The front would have to end where the longer word goes on with a letter.
  have hone : ∀ w ∈ [word], Small w.toList :=
    List.forall_mem_singleton.2 (hwords word hword)
  exact (eq_of_keyword?_small hone (hwords other hother) hread).1

theorem unambiguous_of_mem_keywordTables : ∀ table ∈ keywordTables, Unambiguous table := by
  rw [keywordTables, List.forall_mem_cons, List.forall_mem_cons]
  refine ⟨?_, ?_, by decide +kernel⟩
  · exact unambiguous_of_small fun name hname => (namedColors_small name hname).1
  · exact unambiguous_of_small systemColors_small

end Order

def isIdentifierChar (c : Char) : Bool := c.isAlphanum || c == '-' || c == '_'

structure Identifier (s : List Char) : Prop where
  ne_nil : s ≠ []
  chars : ∀ c ∈ s, isIdentifierChar c = true

instance (s : List Char) : Decidable (Identifier s) :=
  decidable_of_iff (s ≠ [] ∧ s.all isIdentifierChar = true)
    ⟨fun h => ⟨h.1, List.all_eq_true.1 h.2⟩, fun h => ⟨h.1, List.all_eq_true.2 h.2⟩⟩

/-- The word is the front of an identifier in any case, and the front is all of it, or a hyphen or
an underscore follows. -/
structure Opens (word : String) (front tail : List Char) : Prop where
  letters : sameLetters front word.toList = true
  boundary : ∀ c ∈ tail.head?, c = '-' ∨ c = '_'

theorem endsWord_iff_of_identifier {tail : List Char}
    (htail : ∀ c ∈ tail, isIdentifierChar c = true) :
    endsWord tail = true ↔ ∀ c ∈ tail.head?, c = '-' ∨ c = '_' := by
  cases tail with
  | nil => exact iff_of_true rfl nofun
  | cons c tail =>
      have hc := htail c List.mem_cons_self
      simp only [isIdentifierChar, Bool.or_eq_true, beq_iff_eq, or_assoc] at hc
      rw [endsWord_cons, List.head?_cons, Bool.not_eq_true']
      constructor
      · intro hend d hd
        cases hd
        rw [hend] at hc
        exact hc.resolve_left nofun
      · intro h
        rcases h c rfl with rfl | rfl <;> rfl

section Identifier

variable {words : List String} {w blanks rest : List Char}

theorem keywordHere?_identifier_iff (h : Unambiguous words) (hw : Identifier w) {word : String}
    {tail : List Char} : keywordHere? words w = some (word, tail) ↔
      word ∈ words ∧ ∃ front, w = front ++ tail ∧ Opens word front tail := by
  rw [h.keywordHere?_eq_some_iff, dropWord?_eq_some_iff]
  refine and_congr_right fun _ => ?_
  constructor
  · rintro ⟨⟨front, hfront, rfl⟩, hend⟩
    have htail := (List.forall_mem_append.1 hw.chars).2
    exact ⟨front, rfl, sameLetters_iff.2 hfront, (endsWord_iff_of_identifier htail).1 hend⟩
  · rintro ⟨front, rfl, hopens⟩
    have htail := (List.forall_mem_append.1 hw.chars).2
    exact ⟨⟨front, sameLetters_iff.1 hopens.letters, rfl⟩,
      (endsWord_iff_of_identifier htail).2 hopens.boundary⟩

theorem isKeywordChar_of_isBlank {c : Char} (h : isBlank c = true) : isKeywordChar c = false := by
  rw [Bool.eq_false_iff]
  intro hc
  change (c.isUpper || c.isLower || c.isDigit || c == '-' || c == '%') = true at hc
  simp only [Bool.or_eq_true, beq_iff_eq] at hc
  rcases hc with (((hupper | hlower) | hdigit) | rfl) | rfl
  · have hrange : 0x41 ≤ c.toNat ∧ c.toNat ≤ 0x5A :=
      (of_decide_eq_true hupper).imp UInt32.le_iff_toNat_le.1 UInt32.le_iff_toNat_le.1
    rw [isBlank_eq_false_of_letter hrange.1 (by omega)] at h
    cases h
  · rw [isBlank_eq_false_of_isLower hlower] at h
    cases h
  · rw [isDigit_iff_toNat] at hdigit
    simp [isBlank] at h
    omega
  · cases h
  · cases h

theorem skipBlanks_append (hblanks : ∀ c ∈ blanks, isAsciiBlank c = true) (s : List Char) :
    skipBlanks (blanks ++ s) = skipBlanks s :=
  List.dropWhile_append_of_pos hblanks

def Solid (s : List Char) : Prop := s.head?.any (!isAsciiBlank ·) = true

instance (s : List Char) : Decidable (Solid s) := inferInstanceAs (Decidable (_ = _))

theorem solid_cons_iff {c : Char} {s : List Char} : Solid (c :: s) ↔ isAsciiBlank c = false := by
  simp [Solid]

theorem Identifier.solid (hw : Identifier w) : Solid w := by
  obtain ⟨c, w, rfl⟩ := List.exists_cons_of_ne_nil hw.ne_nil
  refine solid_cons_iff.2 (Bool.eq_false_iff.2 fun hblank => ?_)
  have hc := hw.chars c List.mem_cons_self
  have hkey := isKeywordChar_of_isBlank (isBlank_of_isAsciiBlank hblank)
  rw [isKeywordChar, Bool.or_eq_false_iff, Bool.or_eq_false_iff] at hkey
  rw [isIdentifierChar, hkey.1.1, hkey.1.2, Bool.or_false, Bool.false_or, beq_iff_eq] at hc
  subst hc
  cases hblank

theorem Solid.skipBlanks_append (hw : Solid w) (rest : List Char) :
    skipBlanks (w ++ rest) = w ++ rest := by
  cases w with
  | nil => cases hw
  | cons c w => exact skipBlanks_cons (solid_cons_iff.1 hw) (w ++ rest)

theorem Solid.keyword?_append (hw : Solid w)
    (hwords : ∀ word ∈ words, ∀ c ∈ word.toList, isKeywordChar c = true)
    (hrest : ∀ c ∈ rest.head?, isKeywordChar c = false) :
    keyword? words (w ++ rest) =
      (keywordHere? words w).map fun (word, tail) => (word, tail ++ rest) := by
  rw [keyword?, hw.skipBlanks_append]
  exact keywordHere?_append hwords hrest

theorem keyword?_congr {s t : List Char} (h : skipBlanks s = skipBlanks t) :
    keyword? words s = keyword? words t := by
  rw [keyword?, keyword?, h]

end Identifier

end Grammar

namespace Cursor

/-- An identifier is read as a keyword exactly if a word of the table is the whole of it, or the
front of it before a hyphen or an underscore, up to the case of letters. Then the cursor passes over
the blanks and this front, which is all of the identifier if that is in the table; otherwise it
stays where it is. -/
theorem step_keyword_identifier {table : List String} (htable : table ∈ keywordTables)
    (behind : List Char) {blanks w rest : List Char}
    (hblanks : ∀ c ∈ blanks, isAsciiBlank c = true) (hw : Identifier w)
    (hrest : ∀ c ∈ rest.head?, isBlank c = true) :
    let cursor : Cursor := ⟨behind, blanks ++ w ++ rest⟩
    (∀ word ∈ table, ∀ front tail, w = front ++ tail → Opens word front tail →
      cursor.step (.keyword table) =
        (.text (some word), ⟨behind ++ (blanks ++ front), tail ++ rest⟩)) ∧
    ((∀ word ∈ table, ∀ front tail, w = front ++ tail → ¬ Opens word front tail) →
      cursor.step (.keyword table) = (.text none, cursor)) := by
  intro cursor
  have hread : keyword? table cursor.ahead =
      (keywordHere? table w).map fun (word, tail) => (word, tail ++ rest) := by
    have hahead : skipBlanks (blanks ++ w ++ rest) = skipBlanks (w ++ rest) := by
      rw [List.append_assoc, skipBlanks_append hblanks]
    rw [keyword?_congr hahead]
    exact hw.solid.keyword?_append (isKeywordChar_of_mem_keywordTables table htable)
      fun c hc => isKeywordChar_of_isBlank (hrest c hc)
  have hiff := @keywordHere?_identifier_iff table w (unambiguous_of_mem_keywordTables table htable)
    hw
  constructor
  · rintro word hword front tail rfl hopens
    rw [hiff.2 ⟨hword, front, rfl, hopens⟩] at hread
    have hsplit : cursor = ⟨behind, (blanks ++ front) ++ (tail ++ rest)⟩ := by
      simp [cursor]
    rw [step, token, hread, hsplit]
    exact congrArg _ (moveTo_append behind (blanks ++ front) (tail ++ rest))
  · intro hnone
    have hhere : keywordHere? table w = none := by
      rw [Option.eq_none_iff_forall_ne_some]
      rintro ⟨word, tail⟩ hsome
      obtain ⟨hword, front, hfront, hopens⟩ := hiff.1 hsome
      exact hnone word hword front tail hfront hopens
    rw [hhere] at hread
    rw [step, token, hread]
    rfl

/-- A font variant is read whole, as no word of its table stands before its hyphen. -/
theorem smallCaps_variant :
    fontVariants ∈ keywordTables ∧ (∀ c ∈ [' '], isAsciiBlank c = true) ∧
      Identifier "Small-Caps".toList ∧ (∀ c ∈ " bold".toList.head?, isBlank c = true) ∧
      (start " Small-Caps bold").step (.keyword fontVariants) =
        (.text (some "small-caps"), ⟨" Small-Caps".toList, " bold".toList⟩) := by
  have htable : fontVariants ∈ keywordTables := by decide
  have hblanks : ∀ c ∈ [' '], isAsciiBlank c = true := List.forall_mem_singleton.2 rfl
  have hw : Identifier "Small-Caps".toList := by decide
  have hrest : ∀ c ∈ " bold".toList.head?, isBlank c = true := by
    rintro c ⟨⟩
    rfl
  refine ⟨htable, hblanks, hw, hrest, ?_⟩
  exact (step_keyword_identifier htable [] hblanks hw hrest).1 "small-caps" (by decide)
    "Small-Caps".toList [] rfl ⟨by decide, nofun⟩

/-- Among the sizes the same word is no entry, and yet an entry is read off it up to the hyphen; so
it is with a word that only begins as a side does. -/
theorem smallCaps_size :
    Identifier "small-caps".toList ∧
      (∀ word ∈ fontSizes, sameLetters "small-caps".toList word.toList = false) ∧
      (start "small-caps").step (.keyword fontSizes) =
        (.text (some "small"), ⟨"small".toList, "-caps".toList⟩) ∧
      Property.fontSize.apply "small-caps" ∅ = (true, .ofList [("font-size", "small")]) ∧
      Identifier "left-ish".toList ∧
      (∀ word ∈ floats, sameLetters "left-ish".toList word.toList = false) ∧
      Property.float.apply "left-ish" ∅ = (true, .ofList [("float", "left")]) :=
  ⟨by decide, by decide, rfl, rfl, by decide, by decide, rfl⟩

end Cursor

end FlatStyle
