import FlatStyle.Proofs.Document.Traversal
import FlatStyle.Proofs.Resolution.Match

namespace FlatStyle.Document

section Element

variable {d : Document} {id : NodeId} {e : Element}

theorem getLast?_elementPath (he : d.element? id = some e) :
    (d.elementPath id).getLast? = some e := by
  rw [elementPath, he]
  exact List.getLast?_concat

theorem context_eq (he : d.element? id = some e) : d.context id = .ok (d.elementPath id) := by
  have hlast := getLast?_elementPath he
  unfold context
  split
  · rename_i hnil
    rw [hnil] at hlast
    cases hlast
  · rfl

theorem resolve_elementPath (index : StyleIndex) (he : d.element? id = some e) :
    index.resolve e.name (d.elementPath id) = .ok (index.newestMatch? e) := by
  rw [StyleIndex.resolve, getLast?_elementPath he]
  exact if_pos rfl

theorem styleOf_eq (index : StyleIndex) (he : d.element? id = some e) :
    d.styleOf index id = .ok (resolveTexts (index.newestMatch? e) e.style?) := by
  rw [styleOf, context_eq he]
  simp only [bind, Except.bind, getLast?_elementPath he, resolve_elementPath index he]

theorem styleOf_eq_error (index : StyleIndex) (he : d.element? id = none) :
    d.styleOf index id = .error (.notAnElement id) := by
  rw [styleOf, context, elementPath, he]
  rfl

end Element

/-- The entry of a node: none unless it is an element that can be shown. -/
def styleAt? (d : Document) (index : StyleIndex) (id : NodeId) : Option PropertyMap :=
  ((d.element? id).filter (!isUnstyled ·)).map fun e =>
    resolveTexts (index.newestMatch? e) e.style?

theorem styleAt?_eq_some_iff {d : Document} {index : StyleIndex} {id : NodeId} {map : PropertyMap} :
    d.styleAt? index id = some map ↔ ∃ e sheet, d.element? id = some e ∧ isUnstyled e = false ∧
      index.LastMatch e sheet ∧ map = resolveTexts sheet e.style? := by
  constructor
  · intro h
    obtain ⟨e, he, rfl⟩ := Option.map_eq_some_iff.1 h
    obtain ⟨he, hshown⟩ := Option.filter_eq_some_iff.1 he
    exact ⟨e, _, he, by simpa using hshown, index.lastMatch_newestMatch? e, rfl⟩
  · rintro ⟨e, sheet, he, hshown, hsheet, rfl⟩
    rw [styleAt?, he, Option.filter_some, hshown, hsheet.unique]
    rfl

/-- One step writes the entry of its node and nothing else. -/
theorem addStyle_spec (d : Document) (index : StyleIndex) (styles : SortedMap NodeId PropertyMap)
    (id : NodeId) : ∃ next, d.addStyle index styles id = .ok next ∧
      ∀ key, next.get? key =
        if key = id then (d.styleAt? index id).or (styles.get? id) else styles.get? key := by
  have hkept : d.styleAt? index id = none →
      ∀ key, styles.get? key =
        if key = id then (d.styleAt? index id).or (styles.get? id) else styles.get? key := by
    intro hnone key
    rw [hnone, Option.none_or]
    by_cases hkey : key = id
    · rw [if_pos hkey, hkey]
    · rw [if_neg hkey]
  cases he : d.element? id with
  | none =>
      refine ⟨styles, by rw [addStyle, he], hkept ?_⟩
      rw [styleAt?, he, Option.filter_none, Option.map_none]
  | some e =>
      cases hshown : isUnstyled e with
      | true =>
          refine ⟨styles, by simp only [addStyle, he, hshown, if_true], hkept ?_⟩
          rw [styleAt?, he, Option.filter_some, hshown]
          rfl
      | false =>
          have hentry : d.styleAt? index id =
              some (resolveTexts (index.newestMatch? e) e.style?) := by
            rw [styleAt?, he, Option.filter_some, hshown]
            rfl
          refine ⟨styles.insert id (resolveTexts (index.newestMatch? e) e.style?), ?_, ?_⟩
          · simp only [addStyle, he, hshown, styleOf_eq index he, Bool.false_eq_true, if_false]
          · intro key
            rw [SortedMap.get?_insert, hentry, Option.some_or]

theorem foldlM_addStyle_spec (d : Document) (index : StyleIndex) (ids : List NodeId)
    (styles : SortedMap NodeId PropertyMap) :
    ∃ final, ids.foldlM (d.addStyle index) styles = .ok final ∧
      ∀ key, final.get? key =
        if key ∈ ids then (d.styleAt? index key).or (styles.get? key) else styles.get? key := by
  induction ids generalizing styles with
  | nil => exact ⟨styles, rfl, fun key => (if_neg List.not_mem_nil).symm⟩
  | cons id ids ih =>
      obtain ⟨next, hnext, hstep⟩ := d.addStyle_spec index styles id
      obtain ⟨final, hfinal, hrun⟩ := ih next
      refine ⟨final, ?_, ?_⟩
      · rw [List.foldlM_cons, hnext]
        exact hfinal
      · intro key
        rw [hrun, hstep]
        by_cases hkey : key = id
        · subst hkey
          rw [if_pos rfl, if_pos List.mem_cons_self]
          by_cases hlater : key ∈ ids
          · rw [if_pos hlater, ← Option.or_assoc, Option.or_self]
          · rw [if_neg hlater]
        · rw [if_neg hkey]
          simp only [List.mem_cons, hkey, false_or]

/-- Exactly the elements below the document node that can be shown have an entry, and it is that of
the last rule that selects the element followed by the text of the element itself. No element can
make the run fail or drop out of it. -/
theorem styles_exact {d : Document} (hd : d.Proper) (index : StyleIndex) :
    (∀ k, d.walk (d.visitCount d.size root + k) [root] = d.descendants root) ∧
    (∀ id, id ∈ d.descendants root ↔ Relation.ReflTransGen d.HangsUnder id root) ∧
    (∃ styles, d.styles index = .ok styles ∧
      (∀ id, (styles.get? id).isSome ↔
        id ∈ d.descendants root ∧ ∃ e, d.element? id = some e ∧ isUnstyled e = false) ∧
      ∀ id map, styles.get? id = some map ↔
        id ∈ d.descendants root ∧ ∃ e sheet, d.element? id = some e ∧ isUnstyled e = false ∧
          index.LastMatch e sheet ∧ map = resolveTexts sheet e.style?) ∧
    ∀ id e, d.element? id = some e →
      ∃ path sheet, d.context id = .ok path ∧ path.getLast? = some e ∧
        index.resolve e.name path = .ok sheet ∧ index.LastMatch e sheet ∧
        d.styleOf index id = .ok (resolveTexts sheet e.style?) := by
  refine ⟨?_, fun id => hd.mem_descendants_iff hd.rooted, ?_, ?_⟩
  · intro k
    rw [hd.walk_eq_preorder hd.rooted, hd.descendants_eq_preorder hd.rooted]
  · obtain ⟨styles, hstyles, hget⟩ := d.foldlM_addStyle_spec index (d.descendants root) ∅
    have hentries : ∀ id map, styles.get? id = some map ↔
        id ∈ d.descendants root ∧ d.styleAt? index id = some map := by
      intro id map
      rw [hget, SortedMap.get?_empty, Option.or_none]
      by_cases hid : id ∈ d.descendants root
      · rw [if_pos hid, and_iff_right hid]
      · rw [if_neg hid]
        exact ⟨nofun, fun h => absurd h.1 hid⟩
    refine ⟨styles, hstyles, ?_, ?_⟩
    · intro id
      rw [Option.isSome_iff_exists]
      constructor
      · rintro ⟨map, hmap⟩
        obtain ⟨hid, hentry⟩ := (hentries id map).1 hmap
        obtain ⟨e, _, he, hshown, -⟩ := styleAt?_eq_some_iff.1 hentry
        exact ⟨hid, e, he, hshown⟩
      · rintro ⟨hid, e, he, hshown⟩
        have hsheet := index.lastMatch_newestMatch? e
        exact ⟨_, (hentries id _).2
          ⟨hid, styleAt?_eq_some_iff.2 ⟨e, _, he, hshown, hsheet, rfl⟩⟩⟩
    · intro id map
      rw [hentries, styleAt?_eq_some_iff]
  · intro id e he
    exact ⟨d.elementPath id, index.newestMatch? e, context_eq he, getLast?_elementPath he,
      resolve_elementPath index he, index.lastMatch_newestMatch? e, styleOf_eq index he⟩

def titledPage : Document :=
  ⟨#[⟨.document, none, [1, 2]⟩,
    ⟨.element (.ofAttributes "p" [("class", "note"), ("style", "color: red")]), some 0, []⟩,
    ⟨.element (.ofAttributes "TITLE" []), some 0, []⟩,
    ⟨.element (.ofAttributes "p" []), none, []⟩]⟩

theorem titledPage_proper : titledPage.Proper :=
  proper_of_table (by decide) (by decide) (by decide)

theorem titledPage_styles :
    titledPage.Proper ∧ ∃ styles, titledPage.styles ⟨[⟨"p.note", "color: blue"⟩]⟩ = .ok styles ∧
      (styles.get? 1).isSome ∧ styles.get? 2 = none ∧ styles.get? 3 = none := by
  obtain ⟨-, -, ⟨styles, hstyles, hentry, -⟩, -⟩ :=
    styles_exact titledPage_proper ⟨[⟨"p.note", "color: blue"⟩]⟩
  refine ⟨titledPage_proper, styles, hstyles, (hentry 1).2 ⟨by decide, _, rfl, by decide⟩, ?_, ?_⟩
  · refine Option.not_isSome_iff_eq_none.1 fun h => ?_
    obtain ⟨-, e, he, hshown⟩ := (hentry 2).1 h
    cases he
    revert hshown
    decide
  · refine Option.not_isSome_iff_eq_none.1 fun h => ?_
    exact absurd ((hentry 3).1 h).1 (by decide)

end FlatStyle.Document
