import FlatStyle.Proofs.Text.Folding
import FlatStyle.Proofs.Text.Offset

namespace FlatStyle.Text

def lowerByte (b : UInt8) : UInt8 := if 0x41 ≤ b ∧ b ≤ 0x5A then b + 0x20 else b

def isAlphanumByte (b : UInt8) : Bool :=
  (0x30 ≤ b && b ≤ 0x39) || (0x41 ≤ b && b ≤ 0x5A) || (0x61 ≤ b && b ≤ 0x7A)

def opensBytes (word text : List UInt8) : Bool :=
  word.length ≤ text.length && (text.take word.length).map lowerByte == word.map lowerByte

/-- The word stands at the front of the text, and neither a letter nor a digit follows. -/
def standsInBytes (word text : List UInt8) : Bool :=
  opensBytes word text && !text[word.length]?.any isAlphanumByte

def utf8 (s : List Char) : List UInt8 := s.flatMap String.utf8EncodeChar

theorem bytes_eq_utf8 (s : String) : bytes s = utf8 s.toList := bytes_eq_flatMap s

@[simp] theorem utf8_nil : utf8 [] = [] := rfl

theorem utf8_cons (c : Char) (s : List Char) : utf8 (c :: s) = String.utf8EncodeChar c ++ utf8 s :=
  List.flatMap_cons

theorem utf8_append (s t : List Char) : utf8 (s ++ t) = utf8 s ++ utf8 t := List.flatMap_append

theorem length_utf8 (s : List Char) : (utf8 s).length = utf8Length s := by
  induction s with
  | nil => rfl
  | cons c s ih =>
      rw [utf8_cons, List.length_append, String.length_utf8EncodeChar, ih, utf8Length_cons]

section Byte

variable {c : Char} {b : UInt8}

theorem exists_ascii (hc : c.toNat < 0x80) : ∃ n < 0x80, c = Char.ofNat n :=
  ⟨c.toNat, hc, (Char.ofNat_toNat c).symm⟩

theorem ascii_of_isAlphanum (h : c.isAlphanum = true) : c.toNat < 0x80 := by
  change (c.isUpper || c.isLower || c.isDigit) = true at h
  rw [Bool.or_eq_true, Bool.or_eq_true, isLower_iff_toNat, isDigit_iff_toNat] at h
  rcases h with (hupper | hlower) | hdigit
  · have hle : c.toNat ≤ 0x5A := UInt32.le_iff_toNat_le.1 (of_decide_eq_true hupper).2
    omega
  · omega
  · omega

theorem le_of_mem_utf8EncodeChar (hc : ¬ c.toNat < 0x80) (hb : b ∈ String.utf8EncodeChar c) :
    0x80 ≤ b := by
  by_contra hlow
  have hlow : b.toNat < 0x80 := UInt8.lt_iff_toNat_lt.1 (UInt8.not_le.1 hlow)
  have hchars : ∀ n < 0x80, (Char.ofNat n).toNat < 0x80 ∧ (Char.ofNat n).toUInt8 = UInt8.ofNat n := by
    decide
  obtain ⟨hascii, hbyte⟩ := hchars b.toNat hlow
  rw [UInt8.ofNat_toNat] at hbyte
  rw [← hbyte] at hb
  exact hc (eq_of_mem_utf8EncodeChar hascii hb ▸ hascii)

theorem lowerByte_eq_self (hb : 0x80 ≤ b) : lowerByte b = b := by
  rw [lowerByte, if_neg]
  rintro ⟨-, hle⟩
  exact absurd (UInt8.le_trans hb hle) (by decide)

theorem isAlphanumByte_eq_false (hb : 0x80 ≤ b) : isAlphanumByte b = false := by
  rw [UInt8.le_iff_toNat_le] at hb
  change 128 ≤ _ at hb
  simp only [isAlphanumByte, UInt8.le_iff_toNat_le, UInt8.reduceToNat, Bool.or_eq_false_iff,
    Bool.and_eq_false_iff, decide_eq_false_iff_not]
  omega

theorem map_lowerByte_utf8EncodeChar (c : Char) :
    (String.utf8EncodeChar c).map lowerByte = String.utf8EncodeChar c.toLower := by
  by_cases hc : c.toNat < 0x80
  · have hascii : ∀ n < 0x80, (String.utf8EncodeChar (Char.ofNat n)).map lowerByte =
        String.utf8EncodeChar (Char.ofNat n).toLower := by
      decide
    obtain ⟨n, hn, rfl⟩ := exists_ascii hc
    exact hascii n hn
  · have hlower : c.toLower = c := (toLower_eq_or_isUpper c).resolve_right (by omega)
    rw [hlower]
    conv_rhs => rw [← List.map_id (String.utf8EncodeChar c)]
    exact List.map_congr_left fun b hb => lowerByte_eq_self (le_of_mem_utf8EncodeChar hc hb)

theorem any_isAlphanumByte_utf8EncodeChar (c : Char) :
    (String.utf8EncodeChar c).head?.any isAlphanumByte = c.isAlphanum := by
  by_cases hc : c.toNat < 0x80
  · have hascii : ∀ n < 0x80, (String.utf8EncodeChar (Char.ofNat n)).head?.any isAlphanumByte =
        (Char.ofNat n).isAlphanum := by
      decide
    obtain ⟨n, hn, rfl⟩ := exists_ascii hc
    exact hascii n hn
  · rw [Bool.eq_false_iff.2 (mt ascii_of_isAlphanum hc)]
    refine (Option.any_eq_false _ _).2 fun b hb => ?_
    exact isAlphanumByte_eq_false (le_of_mem_utf8EncodeChar hc (List.mem_of_head? hb))

end Byte

section Word

variable {word s rest : List Char}

theorem map_lowerByte_utf8 (s : List Char) : (utf8 s).map lowerByte = utf8 (folded s) := by
  rw [utf8, List.map_flatMap, utf8, folded, List.flatMap_map]
  exact List.flatMap_congr fun c _ => map_lowerByte_utf8EncodeChar c

theorem any_isAlphanumByte_utf8 (s : List Char) :
    (utf8 s).head?.any isAlphanumByte = s.head?.any Char.isAlphanum := by
  cases s with
  | nil => rfl
  | cons c s =>
      rw [utf8_cons, List.head?_append_of_ne_nil _ String.utf8EncodeChar_ne_nil,
        any_isAlphanumByte_utf8EncodeChar]
      rfl

theorem utf8_prefix_iff : utf8 word <+: utf8 s ↔ word <+: s := by
  constructor
  · intro h
    induction word generalizing s with
    | nil => exact List.nil_prefix
    | cons c word ih =>
        obtain ⟨t, ht⟩ := h
        cases s with
        | nil => simp [utf8_cons] at ht
        | cons d s =>
            rw [utf8_cons, utf8_cons, List.append_assoc] at ht
            rcases lt_trichotomy c d with hlt | rfl | hlt
            · exact absurd (ht ▸ utf8EncodeChar_append_lt hlt _ _) (List.lt_irrefl _)
            · exact List.prefix_cons_inj c |>.2 (ih ⟨t, List.append_cancel_left ht⟩)
            · exact absurd (ht ▸ utf8EncodeChar_append_lt hlt _ _) (List.lt_irrefl _)
  · rintro ⟨rest, rfl⟩
    rw [utf8_append]
    exact List.prefix_append _ _

theorem opensBytes_utf8 (word s : List Char) :
    opensBytes (utf8 word) (utf8 s) = (dropWord? word s).isSome := by
  have hprefix : opensBytes (utf8 word) (utf8 s) = true ↔ folded word <+: folded s := by
    rw [← utf8_prefix_iff, ← map_lowerByte_utf8, ← map_lowerByte_utf8, List.prefix_iff_eq_take,
      opensBytes, Bool.and_eq_true, decide_eq_true_iff, beq_iff_eq, List.length_map, List.map_take]
    constructor
    · rintro ⟨-, htake⟩
      exact htake.symm
    · intro htake
      refine ⟨?_, htake.symm⟩
      have hlength := congrArg List.length htake
      rw [List.length_take, List.length_map, List.length_map] at hlength
      omega
  rw [Bool.eq_iff_iff, hprefix, Option.isSome_iff_exists]
  simp only [dropWord?_eq_some_iff]
  constructor
  · rintro ⟨rest, hrest⟩
    obtain ⟨front, rest, rfl, hfront, -⟩ := List.map_eq_append_iff.1 hrest.symm
    exact ⟨rest, front, hfront, rfl⟩
  · rintro ⟨rest, front, hfront, rfl⟩
    rw [folded_append, hfront]
    exact List.prefix_append _ _

theorem getElem?_utf8_of_dropWord? (h : dropWord? word s = some rest) :
    (utf8 s)[(utf8 word).length]? = (utf8 rest).head? := by
  obtain ⟨front, hfront, rfl⟩ := dropWord?_eq_some_iff.1 h
  have hlength : (utf8 word).length = (utf8 front).length := by
    rw [length_utf8, length_utf8, ← utf8Length_folded word, ← hfront, utf8Length_folded]
  rw [hlength, utf8_append, List.getElem?_append_right (Nat.le_refl _), Nat.sub_self,
    List.head?_eq_getElem?]

theorem standsInBytes_utf8 (word s : List Char) : standsInBytes (utf8 word) (utf8 s) =
    (dropWord? word s).any fun rest => !rest.head?.any Char.isAlphanum := by
  rw [standsInBytes, opensBytes_utf8]
  cases hdrop : dropWord? word s with
  | none => rfl
  | some rest =>
      rw [getElem?_utf8_of_dropWord? hdrop, any_isAlphanumByte_utf8]
      rfl

end Word

end FlatStyle.Text
