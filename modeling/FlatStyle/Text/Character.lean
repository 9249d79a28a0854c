/-!
Character classes, comparison of texts up to case, and the size of a text in UTF-8.

Two notions of blank are kept apart: the five ASCII blanks that separate tokens inside a value,
and the Unicode white space that trimming and word splitting remove.
-/

namespace FlatStyle.Text

def isAsciiBlank (c : Char) : Bool :=
  c == ' ' || c == '\t' || c == '\n' || c == '\x0c' || c == '\r'

/-- The characters with the Unicode property `White_Space`. -/
def isBlank (c : Char) : Bool :=
  let n := c.toNat
  (0x9 ≤ n && n ≤ 0xD) || n == 0x20 || n == 0x85 || n == 0xA0 || n == 0x1680 ||
    (0x2000 ≤ n && n ≤ 0x200A) || n == 0x2028 || n == 0x2029 || n == 0x202F ||
    n == 0x205F || n == 0x3000

def isHexDigit (c : Char) : Bool :=
  c.isDigit || ('a' ≤ c && c ≤ 'f') || ('A' ≤ c && c ≤ 'F')

def sameLetter (c d : Char) : Bool := c.toLower == d.toLower

def sameLetters : List Char → List Char → Bool
  | [], [] => true
  | c :: s, d :: t => sameLetter c d && sameLetters s t
  | _, _ => false

/-- What follows `word` at the front of a text, in any case of ASCII letters. -/
def dropWord? : List Char → List Char → Option (List Char)
  | [], s => some s
  | _ :: _, [] => none
  | c :: word, d :: s => if sameLetter c d then dropWord? word s else none

@[simp] theorem dropWord?_nil (s : List Char) : dropWord? [] s = some s := by cases s <;> rfl

theorem length_of_dropWord? {word s rest : List Char} (h : dropWord? word s = some rest) :
    rest.length + word.length = s.length := by
  fun_induction dropWord? word s with
  | case1 s => simp_all
  | case2 => cases h
  | case3 c word d s _ ih =>
      have := ih h
      simp only [List.length_cons]
      omega
  | case4 => cases h

theorem length_dropWhile_le (p : Char → Bool) (s : List Char) :
    (s.dropWhile p).length ≤ s.length := (List.dropWhile_suffix p).length_le

def utf8Length : List Char → Nat
  | [] => 0
  | c :: s => c.utf8Size + utf8Length s

@[simp] theorem utf8Length_nil : utf8Length [] = 0 := rfl

@[simp] theorem utf8Length_cons (c : Char) (s : List Char) :
    utf8Length (c :: s) = c.utf8Size + utf8Length s := rfl

@[simp] theorem utf8Length_append (s t : List Char) :
    utf8Length (s ++ t) = utf8Length s + utf8Length t := by
  induction s with
  | nil => simp
  | cons c s ih => simp [ih, Nat.add_assoc]

theorem length_le_utf8Length (s : List Char) : s.length ≤ utf8Length s := by
  induction s with
  | nil => simp
  | cons c s ih =>
      have := c.utf8Size_pos
      simp only [List.length_cons, utf8Length_cons]
      omega

theorem isBlank_of_isAsciiBlank {c : Char} (h : isAsciiBlank c = true) : isBlank c = true := by
  simp only [isAsciiBlank, Bool.or_eq_true, beq_iff_eq] at h
  rcases h with (((rfl | rfl) | rfl) | rfl) | rfl <;> rfl

end FlatStyle.Text
