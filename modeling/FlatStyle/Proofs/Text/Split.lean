import FlatStyle.Text.Split

namespace FlatStyle.Text

theorem fields_eq_splitOnP (p : Char → Bool) (s : List Char) : fields p s = s.splitOnP p := by
  induction s with
  | nil => rfl
  | cons c s ih => rw [fields, ih, List.splitOnP_cons_eq_if_modifyHead]

theorem fields_append_cons {p : Char → Bool} {c : Char} (hc : p c = true) (s t : List Char) :
    fields p (s ++ c :: t) = fields p s ++ fields p t := by
  rw [fields_eq_splitOnP, fields_eq_splitOnP, fields_eq_splitOnP, List.splitOnP_append_cons _ _ hc]

theorem fields_ne_nil (p : Char → Bool) (s : List Char) : fields p s ≠ [] := by
  rw [fields_eq_splitOnP]
  exact List.splitOnP_ne_nil p s

theorem length_fields (p : Char → Bool) (s : List Char) :
    (fields p s).length = s.countP p + 1 := by
  induction s with
  | nil => rfl
  | cons c s ih =>
      cases hc : p c with
      | true => simp [fields_cons_separator hc, hc, ih]
      | false => simp [fields_cons_other hc, hc, ih]

theorem fields_eq_singleton {p : Char → Bool} {s : List Char} (h : ∀ c ∈ s, p c = false) :
    fields p s = [s] := by
  rw [fields_eq_splitOnP, List.splitOnP_eq_singleton h]

theorem eq_of_fields_eq_singleton {p : Char → Bool} {s field : List Char}
    (h : fields p s = [field]) : s = field := by
  induction s generalizing field with
  | nil => exact List.singleton_inj.1 h
  | cons c s ih =>
      cases hc : p c with
      | true =>
          rw [fields_cons_separator hc] at h
          exact absurd (List.cons.inj h).2 (fields_ne_nil p s)
      | false =>
          rw [fields_cons_other hc] at h
          cases hs : fields p s with
          | nil => exact absurd hs (fields_ne_nil p s)
          | cons first others =>
              rw [hs] at h ih
              obtain ⟨rfl, rfl⟩ := List.cons.inj h
              rw [ih rfl]

theorem eq_of_fields_append_eq {p : Char → Bool} {s t first second : List Char}
    (h : fields p s ++ fields p t = [first, second]) : s = first ∧ t = second := by
  rcases hs : fields p s with _ | ⟨field, _ | ⟨other, others⟩⟩
  · exact absurd hs (fields_ne_nil p s)
  · rw [hs] at h
    obtain ⟨rfl, ht⟩ := List.cons.inj h
    exact ⟨eq_of_fields_eq_singleton hs, eq_of_fields_eq_singleton ht⟩
  · rw [hs] at h
    have hnil : others ++ fields p t = [] := (List.cons.inj (List.cons.inj h).2).2
    exact absurd (List.append_eq_nil_iff.1 hnil).2 (fields_ne_nil p t)

theorem of_mem_fields {p : Char → Bool} {s field : List Char} (hfield : field ∈ fields p s)
    {c : Char} (hc : c ∈ field) : c ∈ s ∧ p c = false := by
  induction s generalizing field with
  | nil =>
      rw [fields_nil, List.mem_singleton] at hfield
      subst hfield
      cases hc
  | cons d s ih =>
      cases hd : p d with
      | true =>
          rw [fields_cons_separator hd] at hfield
          rcases List.mem_cons.1 hfield with rfl | hfield
          · cases hc
          · exact (ih hfield hc).imp_left (List.mem_cons_of_mem _)
      | false =>
          rw [fields_cons_other hd] at hfield
          cases hs : fields p s with
          | nil =>
              rw [hs] at hfield
              cases hfield
          | cons first others =>
              rw [hs] at ih hfield
              rcases List.mem_cons.1 hfield with rfl | hfield
              · rcases List.mem_cons.1 hc with rfl | hc
                · exact ⟨List.mem_cons_self, hd⟩
                · exact (ih List.mem_cons_self hc).imp_left (List.mem_cons_of_mem _)
              · exact (ih (List.mem_cons_of_mem _ hfield) hc).imp_left (List.mem_cons_of_mem _)

theorem trim_subset (s : List Char) : trim s ⊆ s := by
  intro c hc
  have htrimmed : c ∈ trimStart s :=
    List.mem_reverse.1 ((List.dropWhile_suffix _).subset (List.mem_reverse.1 hc))
  exact (List.dropWhile_suffix _).subset htrimmed

section Lines

variable {front : List Char}

theorem lines_line (h : '\n' ∉ front) (rest : List Char) :
    lines (front ++ '\n' :: rest) = (front ++ ['\n']) :: lines rest := by
  induction front with
  | nil => simp [lines]
  | cons c front ih =>
      have hc := (List.ne_of_not_mem_cons h).symm
      simp [lines, hc, ih (List.not_mem_of_not_mem_cons h)]

theorem lines_last (h : '\n' ∉ front) (hne : front ≠ []) : lines front = [front] := by
  induction front with
  | nil => exact absurd rfl hne
  | cons c front ih =>
      have hc := (List.ne_of_not_mem_cons h).symm
      cases front with
      | nil => simp [lines, hc]
      | cons d front =>
          have hlines := ih (List.not_mem_of_not_mem_cons h) (List.cons_ne_nil d front)
          rw [lines, if_neg hc, hlines]

/-- A text is its last line, or a line and the rest of the text after a line feed. -/
@[elab_as_elim] theorem line_induction {motive : List Char → Prop}
    (last : ∀ s, '\n' ∉ s → motive s)
    (line : ∀ front rest, '\n' ∉ front → motive rest → motive (front ++ '\n' :: rest))
    (s : List Char) : motive s := by
  by_cases h : '\n' ∈ s
  · obtain ⟨front, rest, rfl, hfront⟩ := List.eq_append_cons_of_mem h
    exact line front rest hfront (line_induction last line rest)
  · exact last s h
termination_by s.length
decreasing_by
  subst_vars
  simp only [List.length_append, List.length_cons]
  omega

end Lines

section Run

variable {p : Char → Bool} {run rest : List Char}

theorem takeWhile_run (hrun : ∀ c ∈ run, p c = true) (hrest : ∀ c ∈ rest.head?, p c = false) :
    (run ++ rest).takeWhile p = run := by
  rw [List.takeWhile_append_of_pos hrun]
  cases rest with
  | nil => rw [List.takeWhile_nil, List.append_nil]
  | cons c rest =>
      rw [List.takeWhile_cons_of_neg (Bool.eq_false_iff.1 (hrest c rfl)), List.append_nil]

theorem dropWhile_run (hrun : ∀ c ∈ run, p c = true) (hrest : ∀ c ∈ rest.head?, p c = false) :
    (run ++ rest).dropWhile p = rest := by
  rw [List.dropWhile_append_of_pos hrun]
  cases rest with
  | nil => rfl
  | cons c rest => exact List.dropWhile_cons_of_neg (Bool.eq_false_iff.1 (hrest c rfl))

theorem of_mem_head?_dropWhile {s : List Char} {c : Char} (hc : c ∈ (s.dropWhile p).head?) :
    p c = false := by
  have hhead := List.head?_dropWhile_not p s
  rw [Option.mem_def.1 hc] at hhead
  exact hhead

theorem of_dropWhile_eq_cons {s t : List Char} {c : Char} (h : s.dropWhile p = c :: t) :
    p c = false := by
  refine of_mem_head?_dropWhile (s := s) ?_
  rw [h]
  rfl

theorem dropWhile_bne_cases (c : Char) (s : List Char) :
    s.dropWhile (· != c) = [] ∨ ∃ t, s.dropWhile (· != c) = c :: t := by
  cases hdrop : s.dropWhile (· != c) with
  | nil => exact .inl rfl
  | cons d t =>
      have hd := of_dropWhile_eq_cons hdrop
      rw [bne_eq_false_iff_eq] at hd
      exact .inr ⟨t, by rw [hd]⟩

theorem of_mem_takeWhile {s : List Char} : ∀ c ∈ s.takeWhile p, p c = true :=
  List.all_eq_true.1 List.all_takeWhile

end Run

/-- `word` is the last maximal run of characters of `s` that are not white space. -/
def LastWord (s word : List Char) : Prop :=
  word ≠ [] ∧ (∀ c ∈ word, isBlank c = false) ∧
    ∃ before after, s = before ++ word ++ after ∧ (∀ c ∈ after, isBlank c = true) ∧
      ∀ c ∈ before.getLast?, isBlank c = true

theorem lastWord?_eq_some_iff {s word : List Char} :
    lastWord? s = some word ↔ LastWord s word := by
  constructor
  · intro h
    unfold lastWord? at h
    dsimp only at h
    split at h
    · cases h
    · rename_i hempty
      cases h
      refine ⟨fun hnil => hempty (List.isEmpty_iff.2 hnil), ?_,
        ((s.reverse.dropWhile isBlank).dropWhile (!isBlank ·)).reverse,
        (s.reverse.takeWhile isBlank).reverse, ?_, ?_, ?_⟩
      · intro c hc
        simpa using of_mem_takeWhile c (List.mem_reverse.1 hc)
      · rw [← List.reverse_append, ← List.reverse_append, List.takeWhile_append_dropWhile,
          List.takeWhile_append_dropWhile, List.reverse_reverse]
      · exact fun c hc => of_mem_takeWhile c (List.mem_reverse.1 hc)
      · intro c hc
        rw [List.getLast?_reverse] at hc
        simpa using of_mem_head?_dropWhile hc
  · rintro ⟨hne, hword, before, after, rfl, hafter, hbefore⟩
    have hblank : ∀ c ∈ after.reverse, isBlank c = true :=
      fun c hc => hafter c (List.mem_reverse.1 hc)
    have hhead : ∀ c ∈ (word.reverse ++ before.reverse).head?, isBlank c = false := by
      intro c hc
      rw [List.head?_append, List.head?_reverse, List.getLast?_eq_some_getLast hne] at hc
      cases hc
      exact hword _ (List.getLast_mem hne)
    have hrun : ∀ c ∈ word.reverse, (!isBlank c) = true :=
      fun c hc => congrArg not (hword c (List.mem_reverse.1 hc))
    have hend : ∀ c ∈ before.reverse.head?, (!isBlank c) = false := by
      intro c hc
      rw [List.head?_reverse] at hc
      exact congrArg not (hbefore c hc)
    rw [lastWord?, List.reverse_append, List.reverse_append, dropWhile_run hblank hhead,
      takeWhile_run hrun hend, List.reverse_reverse]
    exact if_neg (mt List.isEmpty_iff.1 hne)

theorem lastWord_self {word : List Char} (hne : word ≠ [])
    (hword : ∀ c ∈ word, isBlank c = false) : LastWord word word :=
  ⟨hne, hword, [], [], (List.append_nil word).symm, nofun, nofun⟩

theorem splitFirst?_eq_none_iff {piece s : List Char} :
    splitFirst? piece s = none ↔ ¬ piece <:+: s := by
  have hhere : ∀ t, dropPiece? piece t = none ↔ ¬ piece <+: t := by
    intro t
    rw [Option.eq_none_iff_forall_ne_some]
    exact ⟨fun h ⟨after, ht⟩ => h after (dropPiece?_eq_some_iff.2 ht.symm),
      fun h after hafter => h ⟨after, (dropPiece?_eq_some_iff.1 hafter).symm⟩⟩
  induction s with
  | nil =>
      rw [splitFirst?, Option.map_eq_none_iff, hhere, List.prefix_nil, List.infix_nil]
  | cons c s ih =>
      have hstep := hhere (c :: s)
      rw [List.infix_cons_iff, not_or, splitFirst?]
      cases hdrop : dropPiece? piece (c :: s) with
      | none =>
          rw [hdrop] at hstep
          exact Option.map_eq_none_iff.trans (ih.trans (and_iff_right (hstep.1 rfl)).symm)
      | some after =>
          rw [hdrop] at hstep
          exact iff_of_false nofun fun h => nomatch hstep.2 h.1

theorem splitFirst?_eq_none_of_not_mem {c : Char} {s : List Char} (h : c ∉ s) :
    splitFirst? [c] s = none :=
  splitFirst?_eq_none_iff.2 fun hmark => h (hmark.subset List.mem_cons_self)

theorem splitFirst?_mark_iff {c : Char} {s before after : List Char} :
    splitFirst? [c] s = some (before, after) ↔ s = before ++ c :: after ∧ c ∉ before := by
  have hfound : ∀ {front back : List Char}, c ∉ front →
      splitFirst? [c] (front ++ c :: back) = some (front, back) := by
    intro front back hfront
    induction front with
    | nil => simp [splitFirst?, dropPiece?]
    | cons d front ih =>
        rw [List.mem_cons, not_or] at hfront
        simp [splitFirst?, dropPiece?, hfront.1, ih hfront.2]
  constructor
  · intro h
    have hs : s = before ++ c :: after := by simp [eq_append_of_splitFirst? h]
    refine ⟨hs, fun hmem => ?_⟩
    obtain ⟨front, back, rfl, hfront⟩ := List.eq_append_cons_of_mem hmem
    rw [hs, List.append_assoc, List.cons_append, hfound hfront] at h
    have hlength := congrArg List.length (Prod.mk.inj (Option.some.inj h)).1
    simp at hlength
  · rintro ⟨rfl, hbefore⟩
    exact hfound hbefore

theorem prefix_of_splitFirst? {piece s before after : List Char}
    (h : splitFirst? piece s = some (before, after)) : before <+: s := by
  rw [eq_append_of_splitFirst? h, List.append_assoc]
  exact List.prefix_append before _

end FlatStyle.Text
