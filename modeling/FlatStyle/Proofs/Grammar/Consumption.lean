import FlatStyle.Proofs.Grammar.Language
import FlatStyle.Proofs.Grammar.Shorthand

/-!
What grammars read. A grammar of this kind accepts exactly where it has read a part of its text, and
where it refuses it has written nothing and is at the front of the text again. Every way of putting
readers and grammars together keeps this, the shorthands included.
-/

namespace FlatStyle.Grammar

open Text

/-- The reader passes over a part of its text with every token. -/
def TokenReader.Advances (token : TokenReader) : Prop :=
  ∀ ⦃s value rest⦄, token s = some (value, rest) → rest.length < s.length

section Token

theorem TokenReader.Advances.orElse {first second : TokenReader} (hfirst : first.Advances)
    (hsecond : second.Advances) : (first.orElse second).Advances := by
  intro s value rest h
  rcases Option.or_eq_some_iff.1 h with h | ⟨-, h⟩
  · exact hfirst h
  · exact hsecond h

theorem keyword?_advances {words : List String} (hwords : "" ∉ words) :
    (keyword? words).Advances := by
  intro s word rest h
  have hlength := length_of_keyword? h
  have hne : word.toList ≠ [] := by
    intro hnil
    have hempty : word = "" := String.toList_inj.1 hnil
    exact hwords (hempty ▸ (of_keyword? h).1)
  have hword := List.length_pos_iff.2 hne
  omega

theorem length_lt_of_number? {s rest : List Char} {number : String}
    (h : number? s = some (number, rest)) : rest.length < s.length := by
  obtain ⟨rfl, hnumber⟩ := of_number? h
  have hne : number.toList ≠ [] := by
    rcases hnumber with ⟨-, digit, hdigit, -⟩ | ⟨digits, hsign, -⟩
    · exact List.ne_nil_of_mem hdigit
    · rw [hsign]
      exact List.cons_ne_nil _ _
  have hlength := List.length_pos_iff.2 hne
  rw [List.length_append]
  omega

theorem size?_advances (nonNegative : Bool) : (size? nonNegative).Advances := by
  intro s value rest h
  obtain ⟨number, numberRest, hnumber, hrest, -⟩ := of_size? h
  calc rest.length
    _ ≤ numberRest.length := hrest.length_le
    _ < (skipBlanks s).length := length_lt_of_number? hnumber
    _ ≤ s.length := length_skipBlanks_le s

theorem length_skipPast_lt (close : Char) {s : List Char} (h : s ≠ []) :
    (skipPast close s).length < s.length := by
  have hdrop := length_dropWhile_le (· != close) s
  have hpos := List.length_pos_iff.2 h
  simp only [skipPast, List.length_drop]
  omega

theorem ne_nil_of_startsWithWord {word s : List Char} (hword : word ≠ [])
    (h : startsWithWord word s = true) : s ≠ [] := by
  rintro rfl
  obtain ⟨c, word, rfl⟩ := List.exists_cons_of_ne_nil hword
  cases h

theorem color?_advances : color?.Advances := by
  intro s value rest h
  refine Nat.lt_of_lt_of_le ?_ (length_skipBlanks_le s)
  unfold color? at h
  split at h
  · rename_i t heq
    simp only at h
    split at h
    · cases h
    · cases h
      rw [heq, List.length_cons]
      exact Nat.lt_succ_of_le (length_dropWhile_le _ _)
  · split at h
    · rename_i hrgb
      cases h
      exact length_skipPast_lt ')' (ne_nil_of_startsWithWord (List.cons_ne_nil _ _) hrgb)
    · have hnamed : "" ∉ namedColors := by decide +kernel
      have hsystem : "" ∉ systemColors := by decide +kernel
      rcases Option.or_eq_some_iff.1 h with h | ⟨-, h⟩
      · exact keyword?_advances hnamed h
      · obtain ⟨⟨word, wordRest⟩, hword, heq⟩ := Option.map_eq_some_iff.1 h
        cases heq
        exact keyword?_advances hsystem hword

theorem writtenName?_advances : TokenReader.Advances writtenName? := by
  intro s name rest h
  refine Nat.lt_of_lt_of_le ?_ (length_skipBlanks_le s)
  unfold writtenName? at h
  split at h
  · rename_i t heq
    cases h
    rw [heq]
    exact Nat.lt_succ_of_le (length_skipPast_le '"' t)
  · rename_i t heq
    cases h
    rw [heq]
    exact Nat.lt_succ_of_le (length_skipPast_le '\'' t)
  · simp only at h
    split at h
    · cases h
    · rename_i hname
      cases h
      have hparts := congrArg List.length
        (List.takeWhile_append_dropWhile (p := isNameChar) (l := skipBlanks s))
      have hpos : 0 < ((skipBlanks s).takeWhile isNameChar).length := by
        rw [List.length_pos_iff]
        intro hnil
        rw [hnil] at hname
        exact hname rfl
      rw [List.length_append] at hparts
      omega

theorem familyName?_advances : familyName?.Advances := by
  have hgeneric : "" ∉ genericFamilies := by decide
  exact TokenReader.Advances.orElse (keyword?_advances hgeneric) writtenName?_advances

theorem firstFamily?_advances : firstFamily?.Advances := by
  intro s name rest h
  unfold firstFamily? families at h
  split at h
  · cases h
  · rename_i first names after heq
    cases h
    split at heq
    · cases heq
    · rename_i t hname
      have ht := familyName?_advances hname
      split at heq
      · rename_i u hcomma
        cases heq
        have hu := (suffix_of_skipBlanks hcomma).length_le
        have hmore := (families_suffix u).length_le
        omega
      · cases heq
        have hblank := length_skipBlanks_le t
        omega

theorem length_upTo_le {token : TokenReader} (htoken : token.Advances) (limit : Nat)
    (s : List Char) : (upTo limit token s).2.length ≤ s.length := by
  induction limit generalizing s with
  | zero => exact Nat.le_refl _
  | succ limit ih =>
      cases hread : token s with
      | none => simp [upTo_of_none hread]
      | some read =>
          rw [upTo_of_some hread]
          exact Nat.le_of_lt (Nat.lt_of_le_of_lt (ih read.2) (htoken hread))

theorem length_upTo_lt {token : TokenReader} (htoken : token.Advances) {limit : Nat}
    {s : List Char} (h : (upTo limit token s).1 ≠ []) :
    (upTo limit token s).2.length < s.length := by
  cases limit with
  | zero => exact absurd rfl h
  | succ limit =>
      cases hread : token s with
      | none =>
          rw [upTo_of_none hread] at h
          exact absurd rfl h
      | some read =>
          rw [upTo_of_some hread]
          exact Nat.lt_of_le_of_lt (length_upTo_le htoken limit read.2) (htoken hread)

end Token

/-- The reading of `s` accepts exactly if it has read something; if not it has written nothing. -/
structure Reading.Consumes (r : Reading) (s : List Char) : Prop where
  withdraws : r.accepted = false → r = .refused s
  advances : r.accepted = true → r.rest.length < s.length

theorem Reading.Consumes.of_accepted {r : Reading} {s : List Char} (hr : r.accepted = true)
    (h : r.rest.length < s.length) : r.Consumes s where
  withdraws := fun hrefused => absurd (hr.symm.trans hrefused) (by decide)
  advances := fun _ => h

theorem Reading.Consumes.length_le {r : Reading} {s : List Char} (h : r.Consumes s) :
    r.rest.length ≤ s.length := by
  cases hr : r.accepted with
  | false =>
      rw [h.withdraws hr]
      exact Nat.le_refl _
  | true => exact Nat.le_of_lt (h.advances hr)

theorem Reading.Consumes.eq_refused {r : Reading} {s : List Char} (h : r.Consumes s)
    (hlength : s.length ≤ r.rest.length) : r = .refused s := by
  cases hr : r.accepted with
  | false => exact h.withdraws hr
  | true => exact absurd (h.advances hr) (Nat.not_lt.2 hlength)

def Consumes (g : Grammar) : Prop := ∀ s, (g s).Consumes s

section Grammar

theorem refused_consumes : Consumes Reading.refused := fun _ => ⟨fun _ => rfl, nofun⟩

theorem single_consumes (key : String) {token : TokenReader} (htoken : token.Advances) :
    Consumes (single key token) := by
  intro s
  unfold single
  cases hread : token s with
  | none => exact refused_consumes s
  | some read => exact .of_accepted rfl (htoken hread)

theorem orElse_consumes {first second : Grammar} (hfirst : Consumes first)
    (hsecond : Consumes second) : Consumes (orElse first second) := by
  intro s
  simp only [orElse]
  split
  · exact hfirst s
  · rename_i hrefused
    rw [(hfirst s).withdraws (Bool.eq_false_iff.2 hrefused)]
    exact hsecond s

theorem repeated_consumes {round : Grammar} (hround : Consumes round) :
    Consumes (repeated round) := by
  intro s
  fun_induction repeated round s with
  | case1 s r hr more ih => exact .of_accepted rfl (Nat.lt_of_le_of_lt ih.length_le hr.2)
  | case2 s r _ => exact hround s

theorem accepted_of_firstAccepting {gs others : List Grammar} {s : List Char} {r : Reading}
    (h : firstAccepting gs s = some (r, others)) : r.accepted = true := by
  induction gs generalizing others with
  | nil => cases h
  | cons g gs ih =>
      simp only [firstAccepting] at h
      split at h
      · cases h
        assumption
      · obtain ⟨⟨r', others'⟩, h', heq⟩ := Option.map_eq_some_iff.1 h
        cases heq
        exact ih h'

theorem eachOnce_consumes {gs : List Grammar} (hgs : ∀ g ∈ gs, Consumes g) :
    Consumes (eachOnce gs) := by
  intro s
  fun_induction eachOnce gs s with
  | case1 => exact refused_consumes _
  | case2 gs s r others h more ih =>
      obtain ⟨⟨g, hg, rfl⟩, hothers⟩ := of_firstAccepting h
      have hfirst := (hgs g hg s).advances (accepted_of_firstAccepting h)
      have hmore := (ih fun g hg => hgs g (hothers hg)).length_le
      exact .of_accepted rfl (Nat.lt_of_le_of_lt hmore hfirst)

theorem rectangle_consumes (property : String) {token : TokenReader} (htoken : token.Advances) :
    Consumes (rectangle property token) := by
  intro s
  unfold rectangle
  split
  · exact refused_consumes s
  · rename_i values rest hne heq
    have hlength : (upTo 4 token s).1 ≠ [] → (upTo 4 token s).2.length < s.length :=
      length_upTo_lt htoken
    rw [heq] at hlength
    exact .of_accepted rfl (hlength hne)

theorem listStyleImage_consumes : Consumes listStyleImage := by
  intro s
  simp only [listStyleImage]
  split
  · rename_i hurl
    have hne := ne_nil_of_startsWithWord (List.cons_ne_nil _ _) hurl
    exact .of_accepted rfl
      (Nat.lt_of_lt_of_le (length_skipPast_lt ')' hne) (length_skipBlanks_le s))
  · exact refused_consumes s

theorem sizeOrWord_advances {words : List String} (hwords : "" ∉ words) (nonNegative : Bool) :
    ((keyword? words).orElse (size? nonNegative)).Advances :=
  TokenReader.Advances.orElse (keyword?_advances hwords) (size?_advances nonNegative)

theorem fontSize_consumes : Consumes fontSize :=
  single_consumes _ (sizeOrWord_advances (by decide) true)

theorem lineHeight_consumes : Consumes lineHeight :=
  single_consumes _ (sizeOrWord_advances (by decide) true)

theorem fontFamily_consumes : Consumes fontFamily := single_consumes _ firstFamily?_advances

theorem length_slashLineHeight_le (s : List Char) :
    (slashLineHeight s).rest.length ≤ s.length := by
  unfold slashLineHeight
  split
  · rename_i t heq
    simp only
    split
    · exact Nat.le_trans (lineHeight_consumes t).length_le (suffix_of_skipBlanks heq).length_le
    · exact Nat.le_refl _
  · exact Nat.le_refl _

theorem font_consumes : Consumes font := by
  intro s
  let size := fontSize (weightReading s).rest
  have hstyle : (styleReading s).Consumes s := single_consumes _ (keyword?_advances (by decide)) s
  have hvariant : (variantReading s).Consumes (styleReading s).rest :=
    single_consumes _ (keyword?_advances (by decide)) _
  have hweight : (weightReading s).Consumes (variantReading s).rest :=
    single_consumes _ (keyword?_advances (by decide)) _
  have hsize : size.Consumes (weightReading s).rest := fontSize_consumes _
  have hstyleRest := hstyle.length_le
  have hvariantRest := hvariant.length_le
  have hweightRest := hweight.length_le
  rw [font_eq]
  cases haccepted : size.accepted with
  | true =>
      have hsizeRest := hsize.advances haccepted
      have hheightRest := length_slashLineHeight_le size.rest
      have hfamilyRest := (fontFamily_consumes (slashLineHeight size.rest).rest).length_le
      simp only [size] at haccepted hsizeRest hheightRest hfamilyRest
      simp only [haccepted, if_true]
      refine .of_accepted rfl ?_
      dsimp only
      omega
  | false =>
      have hrefused := hsize.withdraws haccepted
      simp only [size] at hrefused
      rw [hrefused]
      constructor
      -- The components before the size write nothing unless they read something.
      · intro hr
        have hlength : (weightReading s).rest.length = s.length := bne_eq_false_iff_eq.1 hr
        have hnoStyle : styleReading s = .refused s := hstyle.eq_refused (by omega)
        have hnoVariant := hvariant.eq_refused (by omega)
        have hnoWeight := hweight.eq_refused (by omega)
        rw [hnoWeight, hnoVariant, hnoStyle]
        simp [Reading.refused]
      · intro hr
        have hlength : (weightReading s).rest.length ≠ s.length := bne_iff_ne.1 hr
        change (weightReading s).rest.length < s.length
        omega

end Grammar

end FlatStyle.Grammar
