import FlatStyle.Grammar.Box

/-!
What grammars write. A reader yields the values of a language and leaves the end of its text; a
grammar emits entries of one kind and leaves the end of its text too. Every way of putting readers
and grammars together keeps both.
-/

namespace FlatStyle.Grammar

open Text

theorem suffix_of_dropWord? {word s rest : List Char} (h : dropWord? word s = some rest) :
    rest <:+ s := by
  fun_induction dropWord? word s with
  | case1 =>
      cases h
      exact List.suffix_refl _
  | case2 => cases h
  | case3 c word d s _ ih => exact (ih h).trans (List.suffix_cons d s)
  | case4 => cases h

theorem skipBlanks_suffix (s : List Char) : skipBlanks s <:+ s := List.dropWhile_suffix _

theorem suffix_of_skipBlanks {s t : List Char} {c : Char} (h : skipBlanks s = c :: t) :
    t <:+ s := by
  apply List.IsSuffix.trans _ (skipBlanks_suffix s)
  rw [h]
  exact List.suffix_cons c t

theorem skipPast_suffix (close : Char) (s : List Char) : skipPast close s <:+ s :=
  (List.drop_suffix 1 _).trans (List.dropWhile_suffix _)

theorem keywordHere?_suffix {words : List String} {s rest : List Char} {word : String}
    (h : keywordHere? words s = some (word, rest)) : rest <:+ s :=
  suffix_of_dropWord? (of_keywordHere? h).2.1

theorem keyword?_suffix {words : List String} {s rest : List Char} {word : String}
    (h : keyword? words s = some (word, rest)) : rest <:+ s :=
  (keywordHere?_suffix h).trans (skipBlanks_suffix s)

section Permitted

variable {permitted : Char → Prop}

theorem permitted_of_suffix {s rest : List Char} (h : rest <:+ s) (hs : ∀ c ∈ s, permitted c) :
    ∀ c ∈ rest, permitted c :=
  fun c hc => hs c (h.subset hc)

/-- From permitted characters the reader makes values of the language. -/
structure TokenReader.Yields (token : TokenReader) (permitted : Char → Prop)
    (language : String → Prop) : Prop where
  suffix : ∀ {s value rest}, token s = some (value, rest) → rest <:+ s
  value : ∀ {s value rest}, (∀ c ∈ s, permitted c) → token s = some (value, rest) → language value

theorem TokenReader.Yields.orElse {first second : TokenReader} {language other : String → Prop}
    (hfirst : first.Yields permitted language) (hsecond : second.Yields permitted other) :
    (first.orElse second).Yields permitted fun value => language value ∨ other value where
  suffix := by
    intro s value rest h
    rcases Option.or_eq_some_iff.1 h with h | ⟨_, h⟩
    · exact hfirst.suffix h
    · exact hsecond.suffix h
  value := by
    intro s value rest hs h
    rcases Option.or_eq_some_iff.1 h with h | ⟨_, h⟩
    · exact .inl (hfirst.value hs h)
    · exact .inr (hsecond.value hs h)

theorem upTo_suffix {token : TokenReader} {language : String → Prop}
    (htoken : token.Yields permitted language) (limit : Nat) (s : List Char) :
    (upTo limit token s).2 <:+ s := by
  induction limit generalizing s with
  | zero => exact List.suffix_refl s
  | succ limit ih =>
      cases hread : token s with
      | none => simp [upTo_of_none hread]
      | some read =>
          rw [upTo_of_some hread]
          exact (ih read.2).trans (htoken.suffix hread)

theorem language_of_mem_upTo {token : TokenReader} {language : String → Prop}
    (htoken : token.Yields permitted language) (limit : Nat) {s : List Char}
    (hs : ∀ c ∈ s, permitted c) {value : String} (hvalue : value ∈ (upTo limit token s).1) :
    language value := by
  induction limit generalizing s with
  | zero => cases hvalue
  | succ limit ih =>
      cases hread : token s with
      | none =>
          rw [upTo_of_none hread] at hvalue
          cases hvalue
      | some read =>
          rw [upTo_of_some hread] at hvalue
          rcases List.mem_cons.1 hvalue with rfl | hvalue
          · exact htoken.value hs hread
          · exact ih (permitted_of_suffix (htoken.suffix hread) hs) hvalue

theorem spread_subset (values : List String) : spread values ⊆ values := by
  unfold spread
  split <;> simp

/-- From permitted characters the grammar writes entries of the given kind only. -/
structure Emits (g : Grammar) (permitted : Char → Prop) (kind : String × String → Prop) : Prop where
  suffix : ∀ s, (g s).rest <:+ s
  writes : ∀ {s}, (∀ c ∈ s, permitted c) → ∀ e ∈ (g s).writes, kind e

variable {kind : String × String → Prop}

theorem refused_emits : Emits Reading.refused permitted kind where
  suffix := List.suffix_refl
  writes := by
    intro s _ e he
    cases he

theorem single_emits {key : String} {token : TokenReader} {language : String → Prop}
    (htoken : token.Yields permitted language)
    (hkey : ∀ value, language value → kind (key, value)) :
    Emits (single key token) permitted kind where
  suffix := by
    intro s
    unfold single
    cases hread : token s with
    | none => exact List.suffix_refl s
    | some read => exact htoken.suffix hread
  writes := by
    intro s hs e he
    unfold single at he
    cases hread : token s with
    | none =>
        rw [hread] at he
        cases he
    | some read =>
        rw [hread] at he
        rw [List.mem_singleton.1 he]
        exact hkey read.1 (htoken.value hs hread)

theorem orElse_emits {first second : Grammar} (hfirst : Emits first permitted kind)
    (hsecond : Emits second permitted kind) : Emits (orElse first second) permitted kind where
  suffix := by
    intro s
    simp only [orElse]
    split
    · exact hfirst.suffix s
    · exact (hsecond.suffix (first s).rest).trans (hfirst.suffix s)
  writes := by
    intro s hs e he
    simp only [orElse] at he
    split at he
    · exact hfirst.writes hs e he
    · rcases List.mem_append.1 he with he | he
      · exact hfirst.writes hs e he
      · exact hsecond.writes (permitted_of_suffix (hfirst.suffix s) hs) e he

theorem repeated_emits {round : Grammar} (hround : Emits round permitted kind) :
    Emits (repeated round) permitted kind where
  suffix := by
    intro s
    fun_induction repeated round s with
    | case1 s r _ more ih => exact ih.trans (hround.suffix s)
    | case2 s r _ => exact hround.suffix s
  writes := by
    intro s
    fun_induction repeated round s with
    | case1 s r _ more ih =>
        intro hs e he
        rcases List.mem_append.1 he with he | he
        · exact hround.writes hs e he
        · exact ih (permitted_of_suffix (hround.suffix s) hs) e he
    | case2 s r _ =>
        intro hs e he
        exact hround.writes hs e he

theorem of_firstAccepting {gs others : List Grammar} {s : List Char} {r : Reading}
    (h : firstAccepting gs s = some (r, others)) : (∃ g ∈ gs, r = g s) ∧ others ⊆ gs := by
  induction gs generalizing others with
  | nil => cases h
  | cons g gs ih =>
      simp only [firstAccepting] at h
      split at h
      · cases h
        exact ⟨⟨g, List.mem_cons_self, rfl⟩, List.subset_cons_self g _⟩
      · obtain ⟨⟨r', others'⟩, h', heq⟩ := Option.map_eq_some_iff.1 h
        cases heq
        obtain ⟨⟨accepting, hmem, hr⟩, hothers⟩ := ih h'
        exact ⟨⟨accepting, List.mem_cons_of_mem _ hmem, hr⟩, List.cons_subset_cons g hothers⟩

theorem eachOnce_emits {gs : List Grammar} (hgs : ∀ g ∈ gs, Emits g permitted kind) :
    Emits (eachOnce gs) permitted kind where
  suffix := by
    intro s
    fun_induction eachOnce gs s with
    | case1 => exact List.suffix_refl _
    | case2 gs s r others h more ih =>
        obtain ⟨⟨g, hg, rfl⟩, hothers⟩ := of_firstAccepting h
        exact (ih fun g hg => hgs g (hothers hg)).trans ((hgs g hg).suffix s)
  writes := by
    intro s
    fun_induction eachOnce gs s with
    | case1 =>
        intro _ e he
        cases he
    | case2 gs s r others h more ih =>
        intro hs e he
        obtain ⟨⟨g, hg, rfl⟩, hothers⟩ := of_firstAccepting h
        rcases List.mem_append.1 he with he | he
        · exact (hgs g hg).writes hs e he
        · exact ih (fun g hg => hgs g (hothers hg))
            (permitted_of_suffix ((hgs g hg).suffix s) hs) e he

theorem rectangle_emits {property : String} {token : TokenReader} {language : String → Prop}
    (htoken : token.Yields permitted language)
    (hside : ∀ side ∈ sides, ∀ value, language value → kind (sideKey property side, value)) :
    Emits (rectangle property token) permitted kind where
  suffix := by
    intro s
    unfold rectangle
    split
    · exact List.suffix_refl s
    · rename_i values rest _ h
      have := upTo_suffix htoken 4 s
      rwa [h] at this
  writes := by
    intro s hs e he
    unfold rectangle at he
    split at he
    · cases he
    · rename_i values rest _ h
      obtain ⟨key, value⟩ := e
      obtain ⟨hkey, hvalue⟩ := List.of_mem_zip he
      obtain ⟨side, hmem, rfl⟩ := List.mem_map.1 hkey
      refine hside side hmem value (language_of_mem_upTo htoken 4 hs ?_)
      rw [h]
      exact spread_subset values hvalue

end Permitted

end FlatStyle.Grammar
