import FlatStyle.Proofs.Stylesheet.Layout
import FlatStyle.Proofs.Text.Margins
import FlatStyle.Stylesheet.Sheet

namespace FlatStyle

open Text Stylesheet

structure Text.Normal (s : List Char) : Prop where
  ne_nil : s ≠ []
  trimmed : Trimmed s
  settled : ∀ c ∈ s, Settled c

theorem Text.Normal.trim_eq {s : List Char} (h : Normal s) : trim s = s := trim_eq_self h.trimmed

theorem Text.Normal.lower_eq {s : List Char} (h : Normal s) : lower s = s := lower_eq_self h.settled

namespace Rule

/-- A rule of any block, also of one whose texts hold braces. -/
structure Stored (r : Rule) : Prop where
  selector : Text.Normal r.selector.toList
  comma : ',' ∉ r.selector.toList
  declaration : Text.Normal r.declaration.toList

structure Normal (r : Rule) : Prop where
  selector : Text.Normal r.selector.toList
  comma : ',' ∉ r.selector.toList
  unmarked : Unmarked r.selector.toList
  declaration : Text.Normal r.declaration.toList
  unclosed : '}' ∉ r.declaration.toList

def fragments (selectors : List Char) : List (List Char) :=
  ((fields (· == ',') (lower (trim selectors))).map trim).filter (!·.isEmpty)

variable {selectors declaration : List Char} {r : Rule}

theorem mem_fragments {fragment : List Char} : fragment ∈ fragments selectors ↔
    fragment ≠ [] ∧
      ∃ field ∈ fields (· == ',') (lower (trim selectors)), trim field = fragment := by
  simp [fragments, and_comm]

theorem fragments_eq_nil (h : lower (trim selectors) = []) : fragments selectors = [] := by
  rw [fragments, h]
  rfl

theorem ofBlock_eq_map (selectors : List Char) (hblank : ¬ Blank declaration) :
    ofBlock selectors declaration = (fragments selectors).map fun fragment =>
      ⟨String.ofList fragment, String.ofList (lower (trim declaration))⟩ := by
  have hdeclaration : (lower (trim declaration)).isEmpty = false := by
    rwa [Bool.eq_false_iff, Ne, List.isEmpty_iff, lower_eq_nil_iff, trim_eq_nil_iff]
  unfold ofBlock
  dsimp only
  rw [hdeclaration, Bool.or_false]
  split
  · rename_i hempty
    rw [fragments_eq_nil (List.isEmpty_iff.1 hempty), List.map_nil]
  · rw [fragments]
    induction fields (· == ',') (lower (trim selectors)) with
    | nil => rfl
    | cons field rest ih =>
        simp only [List.filterMap_cons, List.map_cons, List.filter_cons, ih]
        cases (trim field).isEmpty with
        | true => rfl
        | false => rfl

theorem ofBlock_eq_nil (selectors : List Char) (hblank : Blank declaration) :
    ofBlock selectors declaration = [] := by
  unfold ofBlock
  rw [trim_eq_nil_iff.2 hblank, lower_nil]
  simp

theorem mem_ofBlock : r ∈ ofBlock selectors declaration ↔ ¬ Blank declaration ∧
    ∃ fragment ∈ fragments selectors,
      r = ⟨String.ofList fragment, String.ofList (lower (trim declaration))⟩ := by
  by_cases hblank : Blank declaration
  · simp [ofBlock_eq_nil selectors hblank, hblank]
  · simp [ofBlock_eq_map selectors hblank, hblank, eq_comm]

theorem fragments_margins {before s after : List Char} (h : Text.Normal s) (hcomma : ',' ∉ s)
    (hbefore : Blank before) (hafter : Blank after) : fragments (before ++ s ++ after) = [s] := by
  have hfields : fields (· == ',') s = [s] := by
    refine fields_eq_singleton fun c hc => ?_
    rw [beq_eq_false_iff_ne]
    rintro rfl
    exact hcomma hc
  rw [fragments, trim_margins hbefore h.trimmed hafter, h.lower_eq, hfields, List.map_singleton,
    h.trim_eq, List.filter_cons_of_pos]
  · rfl
  · simpa using h.ne_nil

theorem stored_of_mem_ofBlock (h : r ∈ ofBlock selectors declaration) : r.Stored := by
  obtain ⟨hblank, fragment, hfragment, rfl⟩ := mem_ofBlock.1 h
  obtain ⟨hne, field, hfield, rfl⟩ := mem_fragments.1 hfragment
  have hlower : ∀ c ∈ trim field, c ∈ lower (trim selectors) ∧ (c == ',') = false :=
    fun c hc => of_mem_fields hfield (trim_subset field hc)
  constructor
  · rw [String.toList_ofList]
    exact ⟨hne, trimmed_trim field, fun c hc => settled_of_mem_lower (hlower c hc).1⟩
  · rw [String.toList_ofList]
    exact fun hc => absurd (hlower _ hc).2 (by decide)
  · rw [String.toList_ofList]
    refine ⟨?_, (trimmed_trim declaration).lower, fun c hc => settled_of_mem_lower hc⟩
    rwa [Ne, lower_eq_nil_iff, trim_eq_nil_iff]

/-- Characters that lower case cannot bring in are in the texts of a rule only if they were in those
of its block. -/
theorem mem_of_mem_ofBlock (h : r ∈ ofBlock selectors declaration) {c : Char}
    (hascii : c.toNat < 0x80) (hsmall : c.isLower = false) :
    (c ∈ r.selector.toList → c ∈ selectors) ∧ (c ∈ r.declaration.toList → c ∈ declaration) := by
  obtain ⟨-, fragment, hfragment, rfl⟩ := mem_ofBlock.1 h
  obtain ⟨-, field, hfield, rfl⟩ := mem_fragments.1 hfragment
  rw [String.toList_ofList, String.toList_ofList]
  constructor
  · intro hc
    have hlower := (of_mem_fields hfield (trim_subset field hc)).1
    exact trim_subset _ (mem_of_mem_lower hascii hsmall hlower)
  · exact fun hc => trim_subset _ (mem_of_mem_lower hascii hsmall hc)

theorem normal_of_mem_ofBlock (hselectors : Unmarked selectors) (hdeclaration : '}' ∉ declaration)
    (h : r ∈ ofBlock selectors declaration) : r.Normal where
  selector := (stored_of_mem_ofBlock h).selector
  comma := (stored_of_mem_ofBlock h).comma
  unmarked := ⟨fun hc => hselectors.1 ((mem_of_mem_ofBlock h (by decide) (by decide)).1 hc),
    fun hc => hselectors.2 ((mem_of_mem_ofBlock h (by decide) (by decide)).1 hc)⟩
  declaration := (stored_of_mem_ofBlock h).declaration
  unclosed hc := hdeclaration ((mem_of_mem_ofBlock h (by decide) (by decide)).2 hc)

theorem Normal.stored (h : r.Normal) : r.Stored := ⟨h.selector, h.comma, h.declaration⟩

end Rule

namespace Sheet

theorem ofBare_piece (p : Piece) (rest : List Char) :
    ofBare (p.chars ++ rest) = ofItem p.item ++ ofBare rest := by
  have hitems := items_closed_append [p] rest
  rw [List.flatMap_singleton] at hitems
  rw [ofBare, hitems]
  rfl

theorem ofBare_unmarked {s : List Char} (h : Unmarked s) : ofBare s = ∅ := by
  rw [ofBare, items_eq_nil (nextItem?_unmarked h)]
  rfl

end Sheet

end FlatStyle
