import FlatStyle.Proofs.Text.Margins

/-!
Texts with one space for each run of ASCII blanks. Texts that differ only in how wide and of what
blanks their runs are come to the same, and what cuts a text or puts it into lower case may come
before or after squeezing.
-/

namespace FlatStyle.Text

def asciiBlanks : List Char := [' ', '\t', '\n', '\x0c', '\r']

theorem isAsciiBlank_iff_mem {c : Char} : isAsciiBlank c = true ↔ c ∈ asciiBlanks := by
  simp [isAsciiBlank, asciiBlanks, or_assoc]

/-- A property that all ASCII blanks have or none has. -/
def UniformOnBlanks (p : Char → Bool) : Prop := ∀ c ∈ asciiBlanks, p c = p ' '

instance (p : Char → Bool) : Decidable (UniformOnBlanks p) :=
  List.decidableBAll _ asciiBlanks

def asSpace (c : Char) : Char := if isAsciiBlank c then ' ' else c

def startsBlank (s : List Char) : Bool := s.head?.any isAsciiBlank

/-- Of every run of ASCII blanks the last one is kept, as a space. -/
def squeezed : List Char → List Char
  | [] => []
  | c :: s => if isAsciiBlank c && startsBlank s then squeezed s else asSpace c :: squeezed s

/-- Texts of the same words, with blanks of any kind and number where the other has blanks. -/
inductive Respaced : List Char → List Char → Prop where
  | nil : Respaced [] []
  | word {w s t : List Char} (hw : ∀ c ∈ w, isAsciiBlank c = false) (h : Respaced s t) :
      Respaced (w ++ s) (w ++ t)
  | run {before after s t : List Char} (hbefore : ∀ c ∈ before, isAsciiBlank c = true)
      (hafter : ∀ c ∈ after, isAsciiBlank c = true) (hne : before ≠ []) (hne' : after ≠ [])
      (h : Respaced s t) : Respaced (before ++ s) (after ++ t)

section Characters

variable {p : Char → Bool} {c : Char} {s : List Char}

theorem asSpace_of_blank (h : isAsciiBlank c = true) : asSpace c = ' ' := if_pos h

theorem asSpace_of_other (h : isAsciiBlank c = false) : asSpace c = c := by
  simp [asSpace, h]

theorem UniformOnBlanks.eq_space (hp : UniformOnBlanks p) (hc : isAsciiBlank c = true) :
    p c = p ' ' := hp c (isAsciiBlank_iff_mem.1 hc)

theorem UniformOnBlanks.asSpace (hp : UniformOnBlanks p) (c : Char) :
    p (Text.asSpace c) = p c := by
  cases hc : isAsciiBlank c with
  | true => rw [asSpace_of_blank hc, hp.eq_space hc]
  | false => rw [asSpace_of_other hc]

theorem isAsciiBlank_asSpace (c : Char) : isAsciiBlank (asSpace c) = isAsciiBlank c :=
  UniformOnBlanks.asSpace (by decide) c

@[simp] theorem startsBlank_nil : startsBlank [] = false := rfl

@[simp] theorem startsBlank_cons (c : Char) (s : List Char) :
    startsBlank (c :: s) = isAsciiBlank c := rfl

@[simp] theorem squeezed_nil : squeezed [] = [] := rfl

theorem squeezed_inner {d : Char} (hc : isAsciiBlank c = true) (hd : isAsciiBlank d = true)
    (s : List Char) : squeezed (c :: d :: s) = squeezed (d :: s) := by
  rw [squeezed, startsBlank_cons, hc, hd]
  rfl

theorem squeezed_kept (h : (isAsciiBlank c && startsBlank s) = false) :
    squeezed (c :: s) = asSpace c :: squeezed s := by
  rw [squeezed, h]
  rfl

theorem squeezed_other (hc : isAsciiBlank c = false) (s : List Char) :
    squeezed (c :: s) = c :: squeezed s := by
  rw [squeezed_kept (by simp [hc]), asSpace_of_other hc]

/-- A text begins with a blank that another one follows, or with a character that is kept. -/
@[elab_as_elim] theorem spacing_induction {motive : List Char → Prop} (nil : motive [])
    (inner : ∀ c d s, isAsciiBlank c = true → isAsciiBlank d = true → motive (d :: s) →
      motive (c :: d :: s))
    (kept : ∀ c s, (isAsciiBlank c && startsBlank s) = false → motive s → motive (c :: s))
    (s : List Char) : motive s := by
  induction s with
  | nil => exact nil
  | cons c s ih =>
      cases h : isAsciiBlank c && startsBlank s with
      | false => exact kept c s h ih
      | true =>
          obtain ⟨hc, hs⟩ := Bool.and_eq_true_iff.1 h
          cases s with
          | nil => cases hs
          | cons d s => exact inner c d s hc hs ih

theorem map_asSpace_eq_some_iff {o : Option Char} (hc : isAsciiBlank c = false) :
    o.map asSpace = some c ↔ o = some c := by
  cases o with
  | none => rfl
  | some d =>
      cases hd : isAsciiBlank d with
      | false => rw [Option.map_some, asSpace_of_other hd]
      | true =>
          have hspace : ' ' ≠ c := by
            rintro rfl
            cases hc
          have hother : d ≠ c := by
            rintro rfl
            simp [hd] at hc
          simp [asSpace_of_blank hd, hspace, hother]

theorem head?_squeezed (s : List Char) : (squeezed s).head? = s.head?.map asSpace := by
  induction s using spacing_induction with
  | nil => rfl
  | inner c d s hc hd ih =>
      simp [squeezed_inner hc hd, ih, asSpace_of_blank hc, asSpace_of_blank hd]
  | kept c s h ih => simp [squeezed_kept h]

theorem head?_squeezed_eq_some_iff (hc : isAsciiBlank c = false) :
    (squeezed s).head? = some c ↔ s.head? = some c := by
  rw [head?_squeezed, map_asSpace_eq_some_iff hc]

theorem startsBlank_squeezed (s : List Char) : startsBlank (squeezed s) = startsBlank s := by
  rw [startsBlank, head?_squeezed, startsBlank]
  cases s.head? with
  | none => rfl
  | some c => exact isAsciiBlank_asSpace c

theorem squeezed_word {w : List Char} (hw : ∀ c ∈ w, isAsciiBlank c = false) (s : List Char) :
    squeezed (w ++ s) = w ++ squeezed s := by
  induction w with
  | nil => rfl
  | cons c w ih =>
      obtain ⟨hc, hw⟩ := List.forall_mem_cons.1 hw
      rw [List.cons_append, squeezed_other hc, ih hw, List.cons_append]

theorem squeezed_run {run : List Char} (hrun : ∀ c ∈ run, isAsciiBlank c = true) (hne : run ≠ [])
    (s : List Char) :
    squeezed (run ++ s) = if startsBlank (squeezed s) then squeezed s else ' ' :: squeezed s := by
  induction run with
  | nil => exact absurd rfl hne
  | cons c run ih =>
      obtain ⟨hc, hrun⟩ := List.forall_mem_cons.1 hrun
      cases run with
      | nil => simp [squeezed, hc, asSpace_of_blank hc, startsBlank_squeezed]
      | cons d run =>
          have hd := hrun d List.mem_cons_self
          simpa [squeezed_inner hc hd] using ih hrun (List.cons_ne_nil d run)

theorem Respaced.squeezed_eq {s t : List Char} (h : Respaced s t) : squeezed s = squeezed t := by
  induction h with
  | nil => rfl
  | word hw h ih => rw [squeezed_word hw, squeezed_word hw, ih]
  | run hbefore hafter hne hne' h ih => rw [squeezed_run hbefore hne, squeezed_run hafter hne', ih]

theorem squeezed_eq_self {s : List Char} (h : ∀ c ∈ s, isAsciiBlank c = false) :
    squeezed s = s := by
  simpa using squeezed_word h []

theorem eq_squeezed_of_unblank {s : List Char} (h : ∀ c ∈ squeezed s, isAsciiBlank c = false) :
    s = squeezed s := by
  induction s using spacing_induction with
  | nil => rfl
  | inner c d s hc hd ih =>
      have hhead := startsBlank_squeezed (d :: s)
      rw [squeezed_inner hc hd] at h
      cases hs : squeezed (d :: s) with
      | nil => simp [hs, hd] at hhead
      | cons e t => simp [hs, hd, h e (hs ▸ List.mem_cons_self)] at hhead
  | kept c s hkept ih =>
      rw [squeezed_kept hkept] at h ⊢
      obtain ⟨hc, hs⟩ := List.forall_mem_cons.1 h
      rw [isAsciiBlank_asSpace] at hc
      rw [asSpace_of_other hc, ← ih hs]

theorem squeezed_eq_nil_iff : squeezed s = [] ↔ s = [] := by
  rw [← List.head?_eq_none_iff, head?_squeezed, Option.map_eq_none_iff, List.head?_eq_none_iff]

theorem squeezed_of_startsBlank (h : startsBlank s = true) :
    squeezed s = ' ' :: squeezed (s.dropWhile isAsciiBlank) := by
  induction s using spacing_induction with
  | nil => cases h
  | inner c d s hc hd ih =>
      rw [squeezed_inner hc hd, ih hd, List.dropWhile_cons_of_pos hc]
  | kept c s hkept ih =>
      have hc : isAsciiBlank c = true := h
      have hstop : s.dropWhile isAsciiBlank = s := by
        cases s with
        | nil => rfl
        | cons d s =>
            apply List.dropWhile_cons_of_neg
            simpa [hc] using hkept
      rw [squeezed_kept hkept, asSpace_of_blank hc, List.dropWhile_cons_of_pos hc, hstop]

theorem takeWhile_ne_nil (h : startsBlank s = true) : s.takeWhile isAsciiBlank ≠ [] := by
  cases s with
  | nil => cases h
  | cons c s =>
      rw [startsBlank_cons] at h
      simp [h]

theorem respaced_of_squeezed_eq {s t : List Char} (h : squeezed s = squeezed t) :
    Respaced s t := by
  induction hlength : s.length using Nat.strong_induction_on generalizing s t with
  | _ n ih =>
      have hstart : startsBlank t = startsBlank s := by
        rw [← startsBlank_squeezed t, ← h, startsBlank_squeezed]
      cases hs : startsBlank s with
      | true =>
          have ht : startsBlank t = true := hstart.trans hs
          have hruns {u : List Char} : ∀ c ∈ u.takeWhile isAsciiBlank, isAsciiBlank c = true :=
            fun c hc => List.all_eq_true.1 List.all_takeWhile c hc
          rw [squeezed_of_startsBlank hs, squeezed_of_startsBlank ht] at h
          have hshorter : (s.dropWhile isAsciiBlank).length < n := by
            have hparts := congrArg List.length
              (List.takeWhile_append_dropWhile (p := isAsciiBlank) (l := s))
            have hpos := List.length_pos_iff.2 (takeWhile_ne_nil hs)
            rw [List.length_append] at hparts
            omega
          have hrest := ih _ hshorter (List.cons.inj h).2 rfl
          have hboth := Respaced.run hruns hruns (takeWhile_ne_nil hs) (takeWhile_ne_nil ht) hrest
          rwa [List.takeWhile_append_dropWhile, List.takeWhile_append_dropWhile] at hboth
      | false =>
          cases s with
          | nil =>
              obtain rfl := squeezed_eq_nil_iff.1 h.symm
              exact .nil
          | cons c s =>
              have hc : isAsciiBlank c = false := hs
              have hhead : t.head? = some c := by
                rw [← head?_squeezed_eq_some_iff hc, ← h, squeezed_other hc, List.head?_cons]
              obtain ⟨t, rfl⟩ := List.head?_eq_some_iff.1 hhead
              rw [squeezed_other hc, squeezed_other hc] at h
              have hrest := ih s.length (hlength ▸ Nat.lt_succ_self _) (List.cons.inj h).2 rfl
              exact .word (List.forall_mem_singleton.2 hc) hrest

theorem respaced_iff {s t : List Char} : Respaced s t ↔ squeezed s = squeezed t :=
  ⟨Respaced.squeezed_eq, respaced_of_squeezed_eq⟩

instance (s t : List Char) : Decidable (Respaced s t) := decidable_of_iff _ respaced_iff.symm

end Characters

section Cut

variable {p : Char → Bool} (hp : UniformOnBlanks p) (s : List Char)

include hp

theorem any_head?_squeezed : (squeezed s).head?.any p = s.head?.any p := by
  rw [head?_squeezed]
  cases s.head? with
  | none => rfl
  | some c => exact hp.asSpace c

theorem dropWhile_squeezed : (squeezed s).dropWhile p = squeezed (s.dropWhile p) := by
  induction s using spacing_induction with
  | nil => rfl
  | inner c d s hc hd ih =>
      rw [squeezed_inner hc hd, ih]
      cases hspace : p ' ' with
      | true => simp [hp.eq_space hc, hspace]
      | false => simp [hp.eq_space hc, hp.eq_space hd, hspace, squeezed_inner hc hd]
  | kept c s h ih =>
      rw [squeezed_kept h, List.dropWhile_cons, hp.asSpace, ih, List.dropWhile_cons]
      cases p c with
      | true => rfl
      | false => exact (squeezed_kept h).symm

theorem takeWhile_squeezed (hblank : p ' ' = false) :
    (squeezed s).takeWhile p = s.takeWhile p := by
  have hnone {c : Char} (hc : isAsciiBlank c = true) : p c = false := (hp.eq_space hc).trans hblank
  induction s using spacing_induction with
  | nil => rfl
  | inner c d s hc hd ih => simp [squeezed_inner hc hd, ih, hnone hc, hnone hd]
  | kept c s h ih =>
      rw [squeezed_kept h, List.takeWhile_cons, List.takeWhile_cons, hp.asSpace, ih]
      cases hpc : p c with
      | false => rfl
      | true =>
          have hc : isAsciiBlank c = false := by
            apply Bool.eq_false_iff.2
            intro hc
            simp [hnone hc] at hpc
          rw [asSpace_of_other hc]

theorem forall_mem_squeezed (h : ∀ c ∈ s, p c = true) : ∀ c ∈ squeezed s, p c = true := by
  induction s using spacing_induction with
  | nil => exact h
  | inner c d s hc hd ih =>
      rw [squeezed_inner hc hd]
      exact ih (List.forall_mem_cons.1 h).2
  | kept c s hkept ih =>
      obtain ⟨hc, hs⟩ := List.forall_mem_cons.1 h
      rw [squeezed_kept hkept, List.forall_mem_cons, hp.asSpace]
      exact ⟨hc, ih hs⟩

omit hp in
theorem startsBlank_of_fields {field : List Char} {others : List (List Char)}
    (h : fields p s = field :: others) (hfield : startsBlank field = true) :
    startsBlank s = true := by
  cases s with
  | nil =>
      obtain ⟨rfl, -⟩ := List.cons.inj h
      cases hfield
  | cons c s =>
      cases hc : p c with
      | true =>
          rw [fields_cons_separator hc] at h
          obtain ⟨rfl, -⟩ := List.cons.inj h
          cases hfield
      | false =>
          rw [fields_cons_other hc] at h
          cases hs : fields p s with
          | nil => exact absurd hs (fields_ne_nil p s)
          | cons first rest =>
              rw [hs] at h
              obtain ⟨rfl, -⟩ := List.cons.inj h
              exact hfield

theorem fields_squeezed (hblank : p ' ' = false) :
    fields p (squeezed s) = (fields p s).map squeezed := by
  have hnone {c : Char} (hc : isAsciiBlank c = true) : p c = false := (hp.eq_space hc).trans hblank
  induction s using spacing_induction with
  | nil => rfl
  | inner c d s hc hd ih =>
      rw [squeezed_inner hc hd, ih, fields_cons_other (hnone hc), fields_cons_other (hnone hd)]
      cases fields p s with
      | nil => rfl
      | cons first others => simp [squeezed_inner hc hd]
  | kept c s h ih =>
      rw [squeezed_kept h]
      cases hc : p c with
      | true =>
          rw [fields_cons_separator hc, fields_cons_separator (by rw [hp.asSpace, hc]), ih]
          rfl
      | false =>
          rw [fields_cons_other hc, fields_cons_other (by rw [hp.asSpace, hc]), ih]
          cases hs : fields p s with
          | nil => rfl
          | cons first others =>
              have hfirst : (isAsciiBlank c && startsBlank first) = false := by
                apply Bool.eq_false_iff.2
                intro hboth
                obtain ⟨hblank, hstart⟩ := Bool.and_eq_true_iff.1 hboth
                simp [hblank, startsBlank_of_fields s hs hstart] at h
              simp [squeezed_kept hfirst]

end Cut

section Ends

variable {s t : List Char} {c : Char}

theorem squeezed_append (ht : startsBlank t = false) (s : List Char) :
    squeezed (s ++ t) = squeezed s ++ squeezed t := by
  induction s using spacing_induction with
  | nil => rfl
  | inner c d s hc hd ih => simpa [squeezed_inner hc hd] using ih
  | kept c s h ih =>
      have hkept : (isAsciiBlank c && startsBlank (s ++ t)) = false := by
        cases s with
        | nil => simp [ht]
        | cons d s => exact h
      rw [List.cons_append, squeezed_kept hkept, squeezed_kept h, ih, List.cons_append]

theorem squeezed_concat_append (hc : isAsciiBlank c = false) (s t : List Char) :
    squeezed (s ++ [c] ++ t) = squeezed (s ++ [c]) ++ squeezed t := by
  have hstart : ∀ t, startsBlank (c :: t) = false := fun _ => hc
  rw [List.append_assoc, List.singleton_append, squeezed_append (hstart t),
    squeezed_append (hstart []), squeezed_other hc, squeezed_other hc]
  simp

theorem getLast?_squeezed (s : List Char) : (squeezed s).getLast? = s.getLast?.map asSpace := by
  induction s using spacing_induction with
  | nil => rfl
  | inner c d s hc hd ih => rw [squeezed_inner hc hd, ih, List.getLast?_cons_cons]
  | kept c s h ih =>
      rw [squeezed_kept h, List.getLast?_cons, List.getLast?_cons, ih]
      cases s.getLast? with
      | none => rfl
      | some d => rfl

theorem getLast?_squeezed_eq_some_iff (hc : isAsciiBlank c = false) :
    (squeezed s).getLast? = some c ↔ s.getLast? = some c := by
  rw [getLast?_squeezed, map_asSpace_eq_some_iff hc]

theorem isBlank_uniform : UniformOnBlanks isBlank := by decide

theorem Blank.squeezed (h : Blank s) : Blank (squeezed s) := forall_mem_squeezed isBlank_uniform s h

theorem Trimmed.squeezed (h : Trimmed s) : Trimmed (squeezed s) where
  head := by
    intro c hc
    rw [head?_squeezed] at hc
    obtain ⟨d, hd, rfl⟩ := Option.map_eq_some_iff.1 hc
    rw [isBlank_uniform.asSpace]
    exact h.head d hd
  last := by
    intro c hc
    rw [getLast?_squeezed] at hc
    obtain ⟨d, hd, rfl⟩ := Option.map_eq_some_iff.1 hc
    rw [isBlank_uniform.asSpace]
    exact h.last d hd

theorem isAsciiBlank_eq_false (h : isBlank c = false) : isAsciiBlank c = false := by
  apply Bool.eq_false_iff.2
  intro hc
  simp [isBlank_of_isAsciiBlank hc] at h

theorem Trimmed.startsBlank_append (h : Trimmed s) (hne : s ≠ []) (t : List Char) :
    startsBlank (s ++ t) = false := by
  cases s with
  | nil => exact absurd rfl hne
  | cons c s => exact isAsciiBlank_eq_false (h.head c rfl)

theorem trim_squeezed (s : List Char) : trim (squeezed s) = squeezed (trim s) := by
  obtain ⟨before, after, hbefore, hafter, hs⟩ := exists_margins s
  have htrimmed := trimmed_trim s
  rcases List.eq_nil_or_concat (trim s) with hnil | ⟨front, c, hconcat⟩
  · have hblank := trim_eq_nil_iff.1 hnil
    rw [hnil, trim_eq_nil_iff.2 hblank.squeezed, squeezed_nil]
  · rw [List.concat_eq_append] at hconcat
    have hc : isAsciiBlank c = false := by
      apply isAsciiBlank_eq_false
      apply htrimmed.last
      simp [hconcat]
    have hne : trim s ≠ [] := by simp [hconcat]
    have hparts : squeezed s = squeezed before ++ squeezed (trim s) ++ squeezed after := by
      calc squeezed s
        _ = squeezed (before ++ (trim s ++ after)) := by rw [← List.append_assoc, ← hs]
        _ = squeezed before ++ squeezed (trim s ++ after) :=
            squeezed_append (htrimmed.startsBlank_append hne after) before
        _ = squeezed before ++ squeezed (trim s) ++ squeezed after := by
            rw [hconcat, squeezed_concat_append hc, List.append_assoc]
    rw [hparts, trim_margins hbefore.squeezed htrimmed.squeezed hafter.squeezed]

end Ends

section Lower

variable {before before' s : List Char} {c : Char}

theorem isCaseIgnorable_uniform : UniformOnBlanks isCaseIgnorable := by decide +kernel

theorem isCased_uniform : UniformOnBlanks isCased := by decide +kernel

theorem meetsCased_squeezed (s : List Char) : meetsCased (squeezed s) = meetsCased s := by
  rw [meetsCased, dropWhile_squeezed isCaseIgnorable_uniform, any_head?_squeezed isCased_uniform,
    meetsCased]

theorem meetsCased_cons (c : Char) (s : List Char) :
    meetsCased (c :: s) = if isCaseIgnorable c then meetsCased s else isCased c := by
  rw [meetsCased, List.dropWhile_cons]
  split <;> rfl

theorem meetsCased_blank (hc : isAsciiBlank c = true) (s : List Char) :
    meetsCased (c :: s) = false := by
  have hspace : isCaseIgnorable ' ' = false ∧ isCased ' ' = false := by decide +kernel
  simp [meetsCased_cons, isCaseIgnorable_uniform.eq_space hc, isCased_uniform.eq_space hc, hspace]

theorem lowerAfter_blank (hc : isAsciiBlank c = true) (before s : List Char) :
    lowerAfter before (c :: s) = c :: lowerAfter (c :: before) s := by
  have hsigma : c ≠ 'Σ' := by
    rintro rfl
    exact absurd hc (by decide)
  have hsettled : lowerChar c = [c] := settled_of_isBlank (isBlank_of_isAsciiBlank hc)
  rw [lowerAfter, if_neg hsigma, hsettled, List.singleton_append]

theorem lowerAfter_other (hc : isAsciiBlank c = false) (before s : List Char) :
    ∃ image, (∀ d ∈ image, isAsciiBlank d = false) ∧ image ≠ [] ∧
      ∀ before' s', meetsCased before' = meetsCased before → meetsCased s' = meetsCased s →
        lowerAfter before' (c :: s') = image ++ lowerAfter (c :: before') s' := by
  by_cases hsigma : c = 'Σ'
  · refine ⟨[lowerSigma before s], ?_, List.cons_ne_nil _ _, ?_⟩
    · intro d hd
      rw [List.mem_singleton.1 hd, lowerSigma]
      split <;> decide
    · intro before' s' hbefore hs
      rw [lowerAfter, if_pos hsigma, lowerSigma, hbefore, hs, lowerSigma]
  · refine ⟨lowerChar c, ?_, lowerChar_ne_nil c, ?_⟩
    · intro d hd
      apply Bool.eq_false_iff.2
      intro hblank
      have huniform : UniformOnBlanks fun d => d.isLower || 0x80 ≤ d.toNat := by decide
      have hnone : (d.isLower || 0x80 ≤ d.toNat) = false := huniform.eq_space hblank
      rcases of_mem_lowerChar hd with rfl | hlower | hlarge
      · simp [hblank] at hc
      · simp [hlower] at hnone
      · simp [hlarge] at hnone
    · intro before' s' _ _
      rw [lowerAfter, if_neg hsigma]

theorem startsBlank_lowerAfter (before s : List Char) :
    startsBlank (lowerAfter before s) = startsBlank s := by
  cases s with
  | nil => rfl
  | cons c s =>
      cases hc : isAsciiBlank c with
      | true => rw [lowerAfter_blank hc, startsBlank_cons, startsBlank_cons]
      | false =>
          obtain ⟨image, himage, hne, hlower⟩ := lowerAfter_other hc before s
          obtain ⟨d, image, rfl⟩ := List.exists_cons_of_ne_nil hne
          rw [hlower before s rfl rfl, List.cons_append, startsBlank_cons, startsBlank_cons, hc]
          exact himage d List.mem_cons_self

theorem lowerAfter_squeezed
    (h : startsBlank s = true ∨ meetsCased before' = meetsCased before) :
    lowerAfter before' (squeezed s) = squeezed (lowerAfter before s) := by
  induction s using spacing_induction generalizing before before' with
  | nil => rfl
  | inner c d s hc hd ih =>
      calc lowerAfter before' (squeezed (c :: d :: s))
        _ = lowerAfter before' (squeezed (d :: s)) := by rw [squeezed_inner hc hd]
        _ = squeezed (lowerAfter (c :: before) (d :: s)) := ih (.inl hd)
        _ = squeezed (lowerAfter before (c :: d :: s)) := by
            rw [lowerAfter_blank hc, lowerAfter_blank hd, squeezed_inner hc hd]
  | kept c s hkept ih =>
      cases hc : isAsciiBlank c with
      | true =>
          have hrest : lowerAfter (' ' :: before') (squeezed s) =
              squeezed (lowerAfter (c :: before) s) := by
            apply ih
            right
            rw [meetsCased_blank rfl, meetsCased_blank hc]
          have hlower : (isAsciiBlank c && startsBlank (lowerAfter (c :: before) s)) = false := by
            rw [startsBlank_lowerAfter, hkept]
          rw [squeezed_kept hkept, asSpace_of_blank hc, lowerAfter_blank rfl, hrest,
            lowerAfter_blank hc, squeezed_kept hlower, asSpace_of_blank hc]
      | false =>
          have hbefore : meetsCased before' = meetsCased before := by
            apply h.resolve_left
            simp [hc]
          have hrest : lowerAfter (c :: before') (squeezed s) =
              squeezed (lowerAfter (c :: before) s) := by
            apply ih
            right
            rw [meetsCased_cons, meetsCased_cons, hbefore]
          obtain ⟨image, himage, -, hlower⟩ := lowerAfter_other hc before s
          rw [squeezed_other hc, hlower before' _ hbefore (meetsCased_squeezed s), hrest,
            hlower before s rfl rfl, squeezed_word himage]

theorem lower_squeezed (s : List Char) : lower (squeezed s) = squeezed (lower s) :=
  lowerAfter_squeezed (.inr rfl)

end Lower

end FlatStyle.Text
