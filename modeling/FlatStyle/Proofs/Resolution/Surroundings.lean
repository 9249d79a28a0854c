import FlatStyle.Proofs.Resolution.Styles
import FlatStyle.Proofs.Text.Margins

namespace FlatStyle

open Text

structure Element.SameTraits (e f : Element) : Prop where
  name : e.name = f.name
  className : e.className? = f.className?
  ident : e.ident? = f.ident?
  style : e.style? = f.style?

namespace Rule

/-- The rule with the last word of its selector alone; a blank selector has none and stays. -/
def narrowed (r : Rule) : Rule :=
  match lastWord? r.selector.toList with
  | some word => ⟨String.ofList word, r.declaration⟩
  | none => r

theorem narrowed_of_lastWord {r : Rule} {word : List Char} (h : LastWord r.selector.toList word) :
    r.narrowed = ⟨String.ofList word, r.declaration⟩ := by
  rw [narrowed, lastWord?_eq_some_iff.2 h]

theorem narrowed_of_blank {r : Rule} (h : Blank r.selector.toList) : r.narrowed = r := by
  rw [narrowed, lastWord?_eq_none_iff.2 h]

@[simp] theorem declaration_narrowed (r : Rule) : r.narrowed.declaration = r.declaration := by
  unfold narrowed
  split <;> rfl

theorem selectorMatches_narrowed (r : Rule) (e : Element) :
    selectorMatches r.narrowed.selector e = selectorMatches r.selector e := by
  cases hword : lastWord? r.selector.toList with
  | none => rw [narrowed, hword]
  | some word =>
      have hself : lastWord? word = some word := by
        obtain ⟨hne, hblank, -⟩ := lastWord?_eq_some_iff.1 hword
        exact lastWord?_eq_some_iff.2 (lastWord_self hne hblank)
      rw [narrowed, hword, selectorMatches, selectorMatches, String.toList_ofList, hself, hword]

end Rule

namespace StyleIndex

def narrowed (index : StyleIndex) : StyleIndex := ⟨index.rules.map Rule.narrowed⟩

theorem newestMatch?_narrowed (index : StyleIndex) :
    index.narrowed.newestMatch? = index.newestMatch? := by
  funext e
  simp only [newestMatch?, narrowed, ← List.map_reverse, List.find?_map, Option.map_map,
    Function.comp_def, Rule.selectorMatches_narrowed, Rule.declaration_narrowed]

end StyleIndex

namespace Document

theorem styleOf_narrowed (d : Document) (index : StyleIndex) (id : NodeId) :
    d.styleOf index.narrowed id = d.styleOf index id := by
  cases he : d.element? id with
  | none => rw [styleOf_eq_error _ he, styleOf_eq_error _ he]
  | some e => rw [styleOf_eq _ he, styleOf_eq _ he, index.newestMatch?_narrowed]

theorem styles_narrowed (d : Document) (index : StyleIndex) :
    d.styles index.narrowed = d.styles index := by
  have hstep : d.addStyle index.narrowed = d.addStyle index := by
    funext styles id
    rw [addStyle, styleOf_narrowed, addStyle]
  rw [styles, hstep, styles]

/-- Elements of the same name with the same class, id and style text have the same style, wherever
they stand and whatever else they have; and the style of no element changes where every selector is
cut down to its last word. -/
theorem styleOf_ignores_surroundings (index : StyleIndex) :
    (∀ (d d' : Document) (id id' : NodeId) (e e' : Element), d.element? id = some e →
      d'.element? id' = some e' → e.SameTraits e' →
      ∃ map, d.styleOf index id = .ok map ∧ d'.styleOf index id' = .ok map) ∧
    (∀ rule : Rule,
      (∃ word, LastWord rule.selector.toList word ∧
        rule.narrowed = ⟨String.ofList word, rule.declaration⟩) ∨
      (Blank rule.selector.toList ∧ rule.narrowed = rule)) ∧
    ∀ d : Document, d.styles index.narrowed = d.styles index ∧
      ∀ id, d.styleOf index.narrowed id = d.styleOf index id := by
  refine ⟨?_, ?_, fun d => ⟨d.styles_narrowed index, d.styleOf_narrowed index⟩⟩
  · intro d d' id id' e e' he he' h
    refine ⟨_, styleOf_eq index he, ?_⟩
    rw [styleOf_eq index he', index.newestMatch?_congr h.name h.className h.ident, h.style]
  · intro rule
    cases hword : lastWord? rule.selector.toList with
    | none =>
        have hblank := lastWord?_eq_none_iff.1 hword
        exact .inr ⟨hblank, Rule.narrowed_of_blank hblank⟩
    | some word =>
        have hlast := lastWord?_eq_some_iff.1 hword
        exact .inl ⟨word, hlast, Rule.narrowed_of_lastWord hlast⟩

example : Rule.narrowed ⟨"body\n p.note", "color: red"⟩ = ⟨"p.note", "color: red"⟩ := by decide

def tableNote : Document :=
  ⟨#[⟨.document, none, [1]⟩,
    ⟨.element (.ofAttributes "table" [("class", "wide")]), some 0, [2, 3]⟩,
    ⟨.text "x", some 1, []⟩,
    ⟨.element (.ofAttributes "p" [("class", "note")]), some 1, [4]⟩,
    ⟨.text "y", some 3, []⟩]⟩

def titledNote : Document :=
  ⟨#[⟨.document, none, [1]⟩,
    ⟨.element (.ofAttributes "p" [("title", "z"), ("class", "note")]), some 0, []⟩]⟩

theorem tableNote_styled_as_titledNote :
    ∃ map, tableNote.styleOf ⟨[⟨"body p.note", "color: red"⟩]⟩ 3 = .ok map ∧
      titledNote.styleOf ⟨[⟨"body p.note", "color: red"⟩]⟩ 1 = .ok map :=
  (styleOf_ignores_surroundings ⟨[⟨"body p.note", "color: red"⟩]⟩).1 tableNote titledNote 3 1 _ _
    rfl rfl ⟨rfl, by decide, by decide, by decide⟩

end Document

end FlatStyle
