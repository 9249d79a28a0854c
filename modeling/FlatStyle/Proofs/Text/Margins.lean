import FlatStyle.Proofs.Text.Settled
import FlatStyle.Proofs.Text.Split
import Mathlib.Data.List.TakeWhile

namespace FlatStyle.Text

def Blank (s : List Char) : Prop := ∀ c ∈ s, isBlank c = true

instance (s : List Char) : Decidable (Blank s) := inferInstanceAs (Decidable (∀ c ∈ s, _))

structure Trimmed (s : List Char) : Prop where
  head : ∀ c ∈ s.head?, isBlank c = false
  last : ∀ c ∈ s.getLast?, isBlank c = false

instance (s : List Char) : Decidable (Trimmed s) :=
  decidable_of_iff (s.head?.all (!isBlank ·) = true ∧ s.getLast?.all (!isBlank ·) = true) (by
    simp only [Option.all_eq_true, Bool.not_eq_true']
    exact ⟨fun h => ⟨h.1, h.2⟩, fun h => ⟨h.1, h.2⟩⟩)

section Margins

variable {s before after : List Char}

theorem blank_nil : Blank [] := nofun

theorem blank_append : Blank (before ++ after) ↔ Blank before ∧ Blank after :=
  List.forall_mem_append

theorem trimmed_nil : Trimmed [] := ⟨nofun, nofun⟩

theorem Blank.reverse (h : Blank s) : Blank s.reverse := fun c hc => h c (List.mem_reverse.1 hc)

theorem Trimmed.reverse (h : Trimmed s) : Trimmed s.reverse where
  head := by
    rw [List.head?_reverse]
    exact h.last
  last := by
    rw [List.getLast?_reverse]
    exact h.head

theorem dropWhile_margin (hbefore : Blank before) (hs : Trimmed s) (hne : s ≠ []) :
    (before ++ (s ++ after)).dropWhile isBlank = s ++ after := by
  refine dropWhile_run hbefore fun c hc => hs.head c ?_
  rwa [List.head?_append_of_ne_nil _ hne] at hc

theorem trim_margins (hbefore : Blank before) (hs : Trimmed s) (hafter : Blank after) :
    trim (before ++ s ++ after) = s := by
  by_cases hne : s = []
  · subst hne
    have hblank : Blank (before ++ [] ++ after) :=
      blank_append.2 ⟨blank_append.2 ⟨hbefore, blank_nil⟩, hafter⟩
    rw [trim, trimStart, List.dropWhile_eq_nil_iff.2 hblank]
    rfl
  · have hend : (after.reverse ++ (s.reverse ++ [])).dropWhile isBlank = s.reverse ++ [] :=
      dropWhile_margin hafter.reverse hs.reverse (mt List.reverse_eq_nil_iff.1 hne)
    rw [List.append_nil] at hend
    rw [trim, trimStart, List.append_assoc, dropWhile_margin hbefore hs hne, trimEnd,
      List.reverse_append, hend, List.reverse_reverse]

theorem trim_eq_self (hs : Trimmed s) : trim s = s := by
  simpa using trim_margins blank_nil hs blank_nil

theorem trimmed_trim (s : List Char) : Trimmed (trim s) where
  head := by
    intro c hc
    have hprefix : trim s <+: trimStart s := List.reverse_suffix.1 (by
      rw [trim, trimEnd, List.reverse_reverse]
      exact List.dropWhile_suffix _)
    obtain ⟨rest, hrest⟩ := hprefix
    refine of_mem_head?_dropWhile (s := s) ?_
    rw [← trimStart, ← hrest, List.head?_append, Option.mem_def.1 hc]
    rfl
  last := by
    intro c hc
    rw [trim, trimEnd, List.getLast?_reverse] at hc
    exact of_mem_head?_dropWhile hc

theorem exists_margins (s : List Char) :
    ∃ before after, Blank before ∧ Blank after ∧ s = before ++ trim s ++ after := by
  refine ⟨s.takeWhile isBlank, ((trimStart s).reverse.takeWhile isBlank).reverse,
    of_mem_takeWhile, Blank.reverse of_mem_takeWhile, ?_⟩
  have hend : trim s ++ ((trimStart s).reverse.takeWhile isBlank).reverse = trimStart s := by
    rw [trim, trimEnd, ← List.reverse_append, List.takeWhile_append_dropWhile,
      List.reverse_reverse]
  rw [List.append_assoc, hend, trimStart, List.takeWhile_append_dropWhile]

theorem trim_margins_append (hbefore : Blank before) (s : List Char) (hafter : Blank after) :
    trim (before ++ s ++ after) = trim s := by
  obtain ⟨before', after', hbefore', hafter', hs⟩ := exists_margins s
  have htext : before ++ s ++ after = (before ++ before') ++ trim s ++ (after' ++ after) := by
    conv_lhs => rw [hs]
    simp only [List.append_assoc]
  rw [htext, trim_margins (blank_append.2 ⟨hbefore, hbefore'⟩) (trimmed_trim s)
    (blank_append.2 ⟨hafter', hafter⟩)]

theorem trim_eq_nil_iff : trim s = [] ↔ Blank s := by
  constructor
  · intro h
    obtain ⟨before, after, hbefore, hafter, hs⟩ := exists_margins s
    rw [hs, h, List.append_nil]
    exact blank_append.2 ⟨hbefore, hafter⟩
  · intro h
    simpa using trim_margins h trimmed_nil blank_nil

theorem lastWord?_eq_none_iff : lastWord? s = none ↔ Blank s := by
  have hrun : s.reverse.dropWhile isBlank = [] ↔ Blank s := by
    rw [List.dropWhile_eq_nil_iff]
    exact ⟨fun h c hc => h c (List.mem_reverse.2 hc), fun h c hc => h c (List.mem_reverse.1 hc)⟩
  rw [← hrun, lastWord?]
  cases hrest : s.reverse.dropWhile isBlank with
  | nil => exact iff_of_true rfl rfl
  | cons c rest =>
      simp [of_dropWhile_eq_cons hrest]

end Margins

section IgnoresMargins

variable {β γ : Type} {g : List Char → β}

/-- A function of a text that does not see the blanks around it. -/
structure IgnoresMargins (g : List Char → β) : Prop where
  cons : ∀ {c : Char} (s : List Char), isBlank c = true → g (c :: s) = g s
  concat : ∀ {c : Char} (s : List Char), isBlank c = true → g (s ++ [c]) = g s

theorem ignoresMargins_trim : IgnoresMargins trim where
  cons s hc := by
    simpa using trim_margins_append (List.forall_mem_singleton.2 hc) s blank_nil
  concat s hc := by
    simpa using trim_margins_append blank_nil s (List.forall_mem_singleton.2 hc)

theorem IgnoresMargins.comp (h : IgnoresMargins g) (f : β → γ) :
    IgnoresMargins fun s => f (g s) where
  cons s hc := congrArg f (h.cons s hc)
  concat s hc := congrArg f (h.concat s hc)

theorem IgnoresMargins.append_left (h : IgnoresMargins g) {before : List Char} (hb : Blank before)
    (s : List Char) : g (before ++ s) = g s := by
  induction before with
  | nil => rfl
  | cons c before ih =>
      obtain ⟨hc, hb⟩ := List.forall_mem_cons.1 hb
      rw [List.cons_append, h.cons _ hc, ih hb]

theorem IgnoresMargins.append_right (h : IgnoresMargins g) {after : List Char} (ha : Blank after)
    (s : List Char) : g (s ++ after) = g s := by
  induction after generalizing s with
  | nil => rw [List.append_nil]
  | cons c after ih =>
      obtain ⟨hc, ha⟩ := List.forall_mem_cons.1 ha
      rw [← List.singleton_append, ← List.append_assoc, ih ha, h.concat _ hc]

theorem IgnoresMargins.apply_trim (h : IgnoresMargins g) (s : List Char) : g (trim s) = g s := by
  obtain ⟨before, after, hbefore, hafter, hs⟩ := exists_margins s
  conv_rhs => rw [hs]
  rw [h.append_right hafter, h.append_left hbefore]

theorem fields_concat_other {p : Char → Bool} {c : Char} (hc : p c = false) (s : List Char) :
    ∃ front last, fields p s = front ++ [last] ∧ fields p (s ++ [c]) = front ++ [last ++ [c]] := by
  induction s with
  | nil => exact ⟨[], [], rfl, by rw [List.nil_append, fields_cons_other hc]; rfl⟩
  | cons d s ih =>
      obtain ⟨front, last, hs, hsc⟩ := ih
      rw [List.cons_append]
      cases hd : p d with
      | true =>
          rw [fields_cons_separator hd, fields_cons_separator hd, hs, hsc]
          exact ⟨[] :: front, last, rfl, rfl⟩
      | false =>
          rw [fields_cons_other hd, fields_cons_other hd, hs, hsc]
          cases front with
          | nil => exact ⟨[], d :: last, rfl, rfl⟩
          | cons first front => exact ⟨(d :: first) :: front, last, rfl, rfl⟩

theorem IgnoresMargins.map_fields (h : IgnoresMargins g) {p : Char → Bool}
    (hp : ∀ c, isBlank c = true → p c = false) :
    IgnoresMargins fun s => (fields p s).map g where
  cons s hc := by
    rw [fields_cons_other (hp _ hc)]
    cases fields p s with
    | nil => rfl
    | cons first others => exact congrArg (· :: others.map g) (h.cons first hc)
  concat s hc := by
    obtain ⟨front, last, hs, hsc⟩ := fields_concat_other (hp _ hc) s
    rw [hs, hsc, List.map_append, List.map_append, List.map_singleton, List.map_singleton,
      h.concat last hc]

end IgnoresMargins

section Lower

variable {s : List Char}

theorem head?_lower (hs : ∀ c ∈ s.head?, isBlank c = false) :
    ∀ c ∈ (lower s).head?, isBlank c = false := by
  cases s with
  | nil => exact nofun
  | cons d s =>
      obtain ⟨image, hne, himage, heq⟩ := lowerAfter_cons [] d s
      intro c hc
      rw [lower, heq, List.head?_append_of_ne_nil _ hne] at hc
      rw [(himage c (List.mem_of_mem_head? hc)).2]
      exact hs d rfl

theorem getLast?_lowerAfter (before : List Char) (hs : ∀ c ∈ s.getLast?, isBlank c = false) :
    ∀ c ∈ (lowerAfter before s).getLast?, isBlank c = false := by
  induction s generalizing before with
  | nil => exact nofun
  | cons d s ih =>
      obtain ⟨image, hne, himage, heq⟩ := lowerAfter_cons before d s
      intro c hc
      rw [heq] at hc
      cases s with
      | nil =>
          rw [lowerAfter, List.append_nil] at hc
          rw [(himage c (List.mem_of_mem_getLast? hc)).2]
          exact hs d rfl
      | cons e s =>
          rw [List.getLast?_append_of_ne_nil _ (lowerAfter_ne_nil _ (List.cons_ne_nil e s))] at hc
          exact ih _ (by simpa using hs) c hc

theorem Trimmed.lower (hs : Trimmed s) : Trimmed (lower s) :=
  ⟨head?_lower hs.head, getLast?_lowerAfter [] hs.last⟩

theorem Blank.lower (hs : Blank s) : lower s = s :=
  lower_eq_self fun c hc => settled_of_isBlank (hs c hc)

/-- A capital sigma is left out because its lower case depends on what stands around it. -/
theorem trim_lower (hs : 'Σ' ∉ s) : trim (Text.lower s) = Text.lower (trim s) := by
  obtain ⟨before, after, hbefore, hafter, htext⟩ := exists_margins s
  have hparts : Text.lower s = before ++ Text.lower (trim s) ++ after := by
    rw [htext] at hs
    conv_lhs => rw [htext]
    rw [lower_append hs, lower_append fun h => hs (List.mem_append_left _ h), hbefore.lower,
      hafter.lower]
  rw [hparts, trim_margins hbefore (trimmed_trim s).lower hafter]

end Lower

end FlatStyle.Text
