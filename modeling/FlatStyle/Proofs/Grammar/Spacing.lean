import FlatStyle.Proofs.Grammar.Consumption
import FlatStyle.Proofs.Grammar.FontComponents
import FlatStyle.Proofs.Text.Spacing

namespace FlatStyle.Grammar

open Text

/-- The reader finds the same token before and after squeezing. -/
def TokenReader.IgnoresSpacing (token : TokenReader) : Prop :=
  ∀ s, token (squeezed s) = (token s).map (Prod.map id squeezed)

section Token

variable {words : List String} {s : List Char} {c : Char}

theorem skipBlanks_squeezed (s : List Char) : skipBlanks (squeezed s) = squeezed (skipBlanks s) :=
  dropWhile_squeezed (by decide) s

theorem endsWord_squeezed (s : List Char) : endsWord (squeezed s) = endsWord s := by
  rw [endsWord, any_head?_squeezed (by decide), endsWord]

theorem isAsciiBlank_of_isKeywordChar (h : isKeywordChar c = true) : isAsciiBlank c = false := by
  apply Bool.eq_false_iff.2
  intro hblank
  simp [isKeywordChar_of_isBlank (isBlank_of_isAsciiBlank hblank)] at h

theorem dropWord?_blank (hc : isAsciiBlank c = true) {d : Char} (hd : isAsciiBlank d = false)
    (word s : List Char) : dropWord? (d :: word) (c :: s) = none := by
  have hignores : IgnoresCase isAsciiBlank :=
    ignoresCase_of_letters false fun c hc => isAsciiBlank_eq_false
      (isBlank_eq_false_of_letter (by omega) (by omega))
  have hletter : sameLetter d c = false := by
    apply beq_eq_false_iff_ne.2
    intro hsame
    have hlower := hignores d
    rw [hsame, hignores c, hc, hd] at hlower
    cases hlower
  simp [dropWord?, hletter]

theorem dropWord?_squeezed {word : List Char} (hword : ∀ c ∈ word, isAsciiBlank c = false)
    (s : List Char) : dropWord? word (squeezed s) = (dropWord? word s).map squeezed := by
  induction s using spacing_induction generalizing word with
  | nil => cases word <;> rfl
  | inner c d s hc hd ih =>
      cases word with
      | nil => simp
      | cons e word =>
          have he := (List.forall_mem_cons.1 hword).1
          rw [squeezed_inner hc hd, ih hword, dropWord?_blank hc he, dropWord?_blank hd he]
  | kept c s h ih =>
      cases word with
      | nil => simp
      | cons e word =>
          obtain ⟨he, hword⟩ := List.forall_mem_cons.1 hword
          cases hc : isAsciiBlank c with
          | true =>
              rw [squeezed_kept h, asSpace_of_blank hc, dropWord?_blank rfl he,
                dropWord?_blank hc he, Option.map_none]
          | false =>
              rw [squeezed_other hc, dropWord?, dropWord?, ih hword]
              split <;> rfl

theorem startsWithWord_squeezed {word : List Char} (hword : ∀ c ∈ word, isAsciiBlank c = false)
    (s : List Char) : startsWithWord word (squeezed s) = startsWithWord word s := by
  rw [startsWithWord, dropWord?_squeezed hword, Option.isSome_map, startsWithWord]

theorem keywordHere?_ignoresSpacing
    (hwords : ∀ word ∈ words, ∀ c ∈ word.toList, isKeywordChar c = true) :
    (keywordHere? words).IgnoresSpacing := by
  intro s
  rw [keywordHere?, keywordHere?]
  induction words with
  | nil => rfl
  | cons word words ih =>
      obtain ⟨hword, hwords⟩ := List.forall_mem_cons.1 hwords
      have hunblank : ∀ c ∈ word.toList, isAsciiBlank c = false :=
        fun c hc => isAsciiBlank_of_isKeywordChar (hword c hc)
      rw [List.findSome?_cons, List.findSome?_cons, dropWord?_squeezed hunblank, ih hwords]
      cases dropWord? word.toList s with
      | none => rfl
      | some rest =>
          simp only [Option.map_some, Option.bind_some, endsWord_squeezed]
          cases endsWord rest <;> rfl

theorem keyword?_ignoresSpacing
    (hwords : ∀ word ∈ words, ∀ c ∈ word.toList, isKeywordChar c = true) :
    (keyword? words).IgnoresSpacing := by
  intro s
  rw [keyword?, keyword?, skipBlanks_squeezed, keywordHere?_ignoresSpacing hwords]

theorem table_ignoresSpacing (h : words ∈ keywordTables) : (keyword? words).IgnoresSpacing :=
  keyword?_ignoresSpacing (isKeywordChar_of_mem_keywordTables words h)

theorem number?_minus (s : List Char) : number? ('-' :: s) =
    if (s.takeWhile isNumberChar).any Char.isDigit then
      some (String.ofList ('-' :: s.takeWhile isNumberChar), s.dropWhile isNumberChar)
    else none := rfl

theorem number?_unsigned (h : s.head? ≠ some '-') : number? s =
    if (s.takeWhile isNumberChar).any Char.isDigit then
      some (String.ofList (s.takeWhile isNumberChar), s.dropWhile isNumberChar)
    else none := by
  unfold number?
  split
  rename_i sign body hsplit
  split at hsplit
  · exact absurd rfl h
  · cases hsplit
    rfl

theorem number?_ignoresSpacing : TokenReader.IgnoresSpacing number? := by
  intro s
  have huniform : UniformOnBlanks isNumberChar := by decide
  by_cases hminus : s.head? = some '-'
  · obtain ⟨t, rfl⟩ := List.head?_eq_some_iff.1 hminus
    rw [squeezed_other rfl, number?_minus, number?_minus, takeWhile_squeezed huniform t rfl,
      dropWhile_squeezed huniform]
    split <;> rfl
  · have hsqueezed : (squeezed s).head? ≠ some '-' := by
      intro h
      exact hminus ((head?_squeezed_eq_some_iff rfl).1 h)
    rw [number?_unsigned hminus, number?_unsigned hsqueezed, takeWhile_squeezed huniform s rfl,
      dropWhile_squeezed huniform]
    split <;> rfl

theorem size?_ignoresSpacing (nonNegative : Bool) : (size? nonNegative).IgnoresSpacing := by
  intro s
  rw [size?, size?, skipBlanks_squeezed, number?_ignoresSpacing]
  cases number? (skipBlanks s) with
  | none => rfl
  | some read =>
      have hunit := keywordHere?_ignoresSpacing isKeywordChar_of_mem_units read.2
      simp only [Option.map_some, Prod.map, id, hunit]
      cases keywordHere? units read.2 <;> rfl

theorem skipPast_squeezed {close : Char} (hclose : isAsciiBlank close = false) (s : List Char) :
    skipPast close (squeezed s) = squeezed (skipPast close s) := by
  have hother : ∀ c ∈ asciiBlanks, (c != close) = true := by
    intro c hc
    apply bne_iff_ne.2
    rintro rfl
    simp [isAsciiBlank_iff_mem.2 hc] at hclose
  have huniform : UniformOnBlanks (· != close) := by
    intro c hc
    exact (hother c hc).trans (hother ' ' (by decide)).symm
  rw [skipPast, dropWhile_squeezed huniform, skipPast]
  rcases dropWhile_bne_cases close s with hdrop | ⟨t, hdrop⟩
  · rw [hdrop]
    rfl
  · rw [hdrop, squeezed_other hclose]
    rfl

theorem color?_word (h : (skipBlanks s).head? ≠ some '#') : color? s =
    if startsWithWord ['r', 'g', 'b'] (skipBlanks s) then
      some (rgbColorName, skipPast ')' (skipBlanks s))
    else (keyword? namedColors (skipBlanks s)).or
      ((keyword? systemColors (skipBlanks s)).map fun (_, rest) => (systemColorName, rest)) := by
  unfold color?
  split
  · rename_i t hskip
    rw [hskip] at h
    exact absurd rfl h
  · rfl

theorem color?_hash {t : List Char} (h : skipBlanks s = '#' :: t) : color? s =
    if (t.takeWhile isHexDigit).isEmpty then none
    else some (String.ofList ('#' :: t.takeWhile isHexDigit), t.dropWhile isHexDigit) := by
  simp only [color?, h]

theorem color?_ignoresSpacing : color?.IgnoresSpacing := by
  intro s
  have hskip := skipBlanks_squeezed s
  by_cases hhash : (skipBlanks s).head? = some '#'
  · obtain ⟨t, ht⟩ := List.head?_eq_some_iff.1 hhash
    have huniform : UniformOnBlanks isHexDigit := by decide
    rw [ht, squeezed_other rfl] at hskip
    rw [color?_hash ht, color?_hash hskip, takeWhile_squeezed huniform t rfl,
      dropWhile_squeezed huniform]
    split <;> rfl
  · have hsqueezed : (skipBlanks (squeezed s)).head? ≠ some '#' := by
      intro h
      rw [hskip] at h
      exact hhash ((head?_squeezed_eq_some_iff rfl).1 h)
    have hnamed : (keyword? namedColors).IgnoresSpacing :=
      table_ignoresSpacing (by simp [keywordTables])
    have hsystem : (keyword? systemColors).IgnoresSpacing :=
      table_ignoresSpacing (by simp [keywordTables])
    have hrgb : ∀ c ∈ ['r', 'g', 'b'], isAsciiBlank c = false := by simp [isAsciiBlank]
    rw [color?_word hhash, color?_word hsqueezed, hskip, startsWithWord_squeezed hrgb,
      skipPast_squeezed rfl, hnamed, hsystem]
    split
    · rfl
    · cases keyword? namedColors (skipBlanks s) with
      | some read => rfl
      | none => cases keyword? systemColors (skipBlanks s) <;> rfl

theorem TokenReader.IgnoresSpacing.orElse {first second : TokenReader}
    (hfirst : first.IgnoresSpacing) (hsecond : second.IgnoresSpacing) :
    (first.orElse second).IgnoresSpacing := by
  intro s
  rw [TokenReader.orElse, hfirst, hsecond, TokenReader.orElse, Option.map_or]

theorem upTo_squeezed {token : TokenReader} (htoken : token.IgnoresSpacing) (limit : Nat)
    (s : List Char) : upTo limit token (squeezed s) = (upTo limit token s).map id squeezed := by
  induction limit generalizing s with
  | zero => rfl
  | succ limit ih =>
      have hsqueezed := htoken s
      cases hread : token s with
      | none =>
          rw [hread] at hsqueezed
          rw [upTo_of_none hsqueezed, upTo_of_none hread]
          rfl
      | some read =>
          rw [hread] at hsqueezed
          rw [upTo_of_some hsqueezed, upTo_of_some hread, ih]
          rfl

end Token

def Reading.squeezed (r : Reading) : Reading := { r with rest := Text.squeezed r.rest }

@[simp] theorem Reading.squeezed_accepted (r : Reading) : r.squeezed.accepted = r.accepted := rfl

@[simp] theorem Reading.squeezed_writes (r : Reading) : r.squeezed.writes = r.writes := rfl

@[simp] theorem Reading.squeezed_rest (r : Reading) :
    r.squeezed.rest = Text.squeezed r.rest := rfl

def IgnoresSpacing (g : Grammar) : Prop := ∀ s, g (squeezed s) = (g s).squeezed

section Grammar

theorem refused_ignoresSpacing : IgnoresSpacing Reading.refused := fun _ => rfl

theorem single_ignoresSpacing (key : String) {token : TokenReader}
    (htoken : token.IgnoresSpacing) : IgnoresSpacing (single key token) := by
  intro s
  rw [single, htoken, single]
  cases token s <;> rfl

theorem orElse_ignoresSpacing {first second : Grammar} (hfirst : IgnoresSpacing first)
    (hsecond : IgnoresSpacing second) : IgnoresSpacing (orElse first second) := by
  intro s
  simp only [orElse, hfirst s, Reading.squeezed_accepted, Reading.squeezed_rest,
    hsecond (first s).rest]
  split <;> rfl

theorem repeated_ignoresSpacing {round : Grammar} (hround : IgnoresSpacing round)
    (hconsumes : Consumes round) : IgnoresSpacing (repeated round) := by
  intro s
  fun_induction repeated round s with
  | case1 s r hr more ih =>
      have hread : (round (squeezed s)).accepted = true := by rw [hround s]; exact hr.1
      rw [repeated, dif_pos ⟨hread, (hconsumes (squeezed s)).advances hread⟩]
      simp only [hround s, Reading.squeezed_rest]
      rw [ih]
      rfl
  | case2 s r hr =>
      have hrefused : r.accepted ≠ true := fun h => hr ⟨h, (hconsumes s).advances h⟩
      rw [repeated, dif_neg]
      · exact hround s
      · rw [hround s]
        exact fun h => hrefused h.1

theorem firstAccepting_squeezed {gs : List Grammar} (hgs : ∀ g ∈ gs, IgnoresSpacing g)
    (s : List Char) : firstAccepting gs (squeezed s) =
      (firstAccepting gs s).map (Prod.map Reading.squeezed id) := by
  induction gs with
  | nil => rfl
  | cons g gs ih =>
      obtain ⟨hg, hgs⟩ := List.forall_mem_cons.1 hgs
      simp only [firstAccepting, hg s, Reading.squeezed_accepted, ih hgs]
      split
      · rfl
      · cases firstAccepting gs s <;> rfl

theorem eachOnce_eq (gs : List Grammar) (s : List Char) : eachOnce gs s =
    match firstAccepting gs s with
    | none => .refused s
    | some (r, others) =>
        ⟨true, r.writes ++ (eachOnce others r.rest).writes, (eachOnce others r.rest).rest⟩ := by
  rw [eachOnce]
  split <;> simp_all

theorem eachOnce_ignoresSpacing {gs : List Grammar} (hgs : ∀ g ∈ gs, IgnoresSpacing g) :
    IgnoresSpacing (eachOnce gs) := by
  intro s
  fun_induction eachOnce gs s with
  | case1 gs s h => rw [eachOnce_eq, firstAccepting_squeezed hgs, h]; rfl
  | case2 gs s r others h more ih =>
      have hothers : ∀ g ∈ others, IgnoresSpacing g :=
        fun g hg => hgs g ((of_firstAccepting h).2 hg)
      rw [eachOnce_eq, firstAccepting_squeezed hgs, h]
      simp only [Option.map_some, Prod.map, id, Reading.squeezed_rest, ih hothers]
      rfl

theorem rectangle_ignoresSpacing (property : String) {token : TokenReader}
    (htoken : token.IgnoresSpacing) : IgnoresSpacing (rectangle property token) := by
  intro s
  rw [rectangle, upTo_squeezed htoken, rectangle]
  cases upTo 4 token s with
  | mk values rest => cases values <;> rfl

theorem listStyleImage_ignoresSpacing : IgnoresSpacing listStyleImage := by
  intro s
  simp only [listStyleImage, skipBlanks_squeezed]
  rw [startsWithWord_squeezed (by simp [isAsciiBlank]), skipPast_squeezed rfl]
  split <;> rfl

theorem decorationWords_squeezed (s : List Char) :
    decorationWords (squeezed s) = (decorationWords s).map id squeezed := by
  have hkeyword : (keyword? decorations).IgnoresSpacing :=
    table_ignoresSpacing (by simp [keywordTables])
  fun_induction decorationWords s with
  | case1 s h => rw [decorationWords_eq, hkeyword, h]; rfl
  | case2 s t h => rw [decorationWords_eq, hkeyword, h]; rfl
  | case3 s word t h hne words rest hmore ih =>
      rw [decorationWords_eq, hkeyword, h]
      simp only [Option.map_some, Prod.map, id, if_neg hne, ih, hmore]

theorem textDecoration_ignoresSpacing : IgnoresSpacing textDecoration := by
  intro s
  simp only [textDecoration, decorationWords_squeezed]
  rfl

end Grammar

end FlatStyle.Grammar
