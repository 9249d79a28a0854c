import FlatStyle.Text.CaseTable

/-!
Unicode lower case of a text. Every character is mapped on its own, except the capital sigma,
whose lower case depends on whether it ends a word.
-/

namespace FlatStyle.Text

private def inRanges (ranges : List (Nat × Nat)) (c : Char) : Bool :=
  ranges.any fun r => r.1 ≤ c.toNat && c.toNat ≤ r.2

def isCased (c : Char) : Bool := inRanges casedRanges c

def isCaseIgnorable (c : Char) : Bool := inRanges caseIgnorableRanges c

/-- The lower case of a character that is not a capital sigma. -/
def lowerChar (c : Char) : List Char :=
  if c.toNat < 0x80 then [c.toLower]
  else if c = 'İ' then ['i', '\u0307']
  else
    match caseRuns.find? (·.contains c.toNat) with
    | some run => [Char.ofNat (run.lower c.toNat)]
    | none => [c]

def meetsCased (s : List Char) : Bool :=
  (s.dropWhile isCaseIgnorable).head?.any isCased

/-- The lower case of a capital sigma with the text before it, read backwards, and after it. -/
def lowerSigma (before after : List Char) : Char :=
  if meetsCased before && !meetsCased after then 'ς' else 'σ'

/-- The lower case of `s` where `before`, read backwards, precedes it. -/
def lowerAfter (before : List Char) : List Char → List Char
  | [] => []
  | c :: s =>
      (if c = 'Σ' then [lowerSigma before s] else lowerChar c) ++ lowerAfter (c :: before) s

def lower (s : List Char) : List Char := lowerAfter [] s

@[simp] theorem lower_nil : lower [] = [] := rfl

end FlatStyle.Text
