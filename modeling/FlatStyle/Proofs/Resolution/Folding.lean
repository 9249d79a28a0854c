import FlatStyle.Proofs.Declaration.Folding
import FlatStyle.Proofs.Declaration.Precedence
import FlatStyle.Proofs.Resolution.Styles
import FlatStyle.Proofs.Stylesheet.Folding
import FlatStyle.Session

namespace FlatStyle

open Text

def SameLetters (s t : String) : Prop := sameLetters s.toList t.toList = true

instance (s t : String) : Decidable (SameLetters s t) := inferInstanceAs (Decidable (_ = true))

theorem SameLetters.append_left {s t : String} (h : SameLetters s t) (front : String) :
    SameLetters (front ++ s) (front ++ t) := by
  rw [SameLetters, sameLetters_iff] at h ⊢
  simp only [String.toList_append, folded_append, h]

theorem PropertyMap.declare_eq_of_sameLetters {s t : String} (h : SameLetters s t)
    (map : PropertyMap) : map.declare s = map.declare t := by
  rw [declare, Declaration.ofText_eq_of_sameLetters h, declare]

theorem resolveTexts_eq_of_sameLetters {inline inline' : Option String}
    (h : Option.Rel SameLetters inline inline') (sheet : Option String) :
    resolveTexts sheet inline = resolveTexts sheet inline' := by
  cases h with
  | none => rfl
  | some h =>
      cases sheet with
      | none => exact PropertyMap.declare_eq_of_sameLetters h ∅
      | some sheet => exact PropertyMap.declare_eq_of_sameLetters (h.append_left (sheet ++ ";")) ∅

/-- Elements that are the same up to the case of letters in the `style` attribute. -/
structure Element.Recased (e f : Element) : Prop where
  name : e.name = f.name
  others : ∀ key, key ≠ "style" → e.attribute? key = f.attribute? key
  style : Option.Rel SameLetters e.style? f.style?

inductive NodeData.Recased : NodeData → NodeData → Prop
  | document : Recased .document .document
  | element {e f : Element} : e.Recased f → Recased (.element e) (.element f)
  | text {s t : String} : SameLetters s t → Recased (.text s) (.text t)
  | comment {s t : String} : SameLetters s t → Recased (.comment s) (.comment t)

structure Node.Recased (n m : Node) : Prop where
  data : n.data.Recased m.data
  parent : n.parent = m.parent
  children : n.children = m.children

/-- Documents that are the same up to the case of letters in texts and `style` attributes. -/
structure Document.Recased (d d' : Document) : Prop where
  size : d.size = d'.size
  node : ∀ id, Option.Rel Node.Recased (d.node? id) (d'.node? id)

section Element

variable {e f : Element} (h : e.Recased f)

include h

theorem Element.Recased.isNamed : e.isNamed = f.isNamed := by
  funext name
  rw [Element.isNamed, h.name, Element.isNamed]

theorem Element.Recased.isUnstyled : Document.isUnstyled e = Document.isUnstyled f := by
  rw [Document.isUnstyled, h.isNamed, Document.isUnstyled]

theorem Element.Recased.newestMatch? (index : StyleIndex) :
    index.newestMatch? e = index.newestMatch? f :=
  index.newestMatch?_congr h.name (h.others "class" (by decide)) (h.others "id" (by decide))

end Element

namespace Document

theorem rules_linkSheet (e : Element) : (linkSheet e).rules = [] := by
  unfold linkSheet
  split <;> rfl

namespace Recased

variable {d d' : Document} (h : d.Recased d')

include h

theorem children : d.children = d'.children := by
  funext id
  have hnode := h.node id
  unfold Document.children
  generalize d.node? id = n, d'.node? id = m at hnode
  cases hnode with
  | none => rfl
  | some hnode => exact hnode.children

theorem element? (id : NodeId) : Option.Rel Element.Recased (d.element? id) (d'.element? id) := by
  unfold Document.element?
  match d.node? id, d'.node? id, h.node id with
  | none, none, .none => exact .none
  | some ⟨_, _, _⟩, some ⟨_, _, _⟩, .some ⟨.document, _, _⟩ => exact .none
  | some ⟨_, _, _⟩, some ⟨_, _, _⟩, .some ⟨.element he, _, _⟩ => exact .some he
  | some ⟨_, _, _⟩, some ⟨_, _, _⟩, .some ⟨.text _, _, _⟩ => exact .none
  | some ⟨_, _, _⟩, some ⟨_, _, _⟩, .some ⟨.comment _, _, _⟩ => exact .none

theorem styleText (id : NodeId) : folded (d.styleText id) = folded (d'.styleText id) := by
  rw [Document.styleText, Document.styleText, folded, folded, List.map_flatMap, List.map_flatMap,
    h.children]
  refine List.flatMap_congr fun child _ => ?_
  have hnode := h.node child
  generalize d.node? child = n, d'.node? child = m at hnode
  cases hnode with
  | none => rfl
  | @some n m hnode =>
      obtain ⟨data, parent, children⟩ := n
      obtain ⟨data', parent', children'⟩ := m
      obtain ⟨hdata, -, -⟩ := hnode
      dsimp only at hdata
      cases hdata with
      | document => rfl
      | element => rfl
      | text ht => exact sameLetters_iff.1 ht
      | comment ht => exact sameLetters_iff.1 ht

theorem rules_sheetBelow (depth : Nat) (id : NodeId) :
    (d.sheetBelow depth id).rules = (d'.sheetBelow depth id).rules := by
  induction depth generalizing id with
  | zero => rfl
  | succ depth ih =>
      have hinside : (Sheet.concat ((d.children id).map (d.sheetBelow depth))).rules =
          (Sheet.concat ((d'.children id).map (d'.sheetBelow depth))).rules := by
        rw [Sheet.concat_eq_flatMap rfl Sheet.rules_append,
          Sheet.concat_eq_flatMap rfl Sheet.rules_append, List.flatMap_map, List.flatMap_map,
          h.children]
        exact List.flatMap_congr fun child _ => ih child
      have helement := h.element? id
      rw [sheetBelow, sheetBelow]
      generalize d.element? id = e, d'.element? id = f at helement
      cases helement with
      | none => exact hinside
      | @some e f hef =>
          simp only [hef.isNamed]
          split
          · rw [rules_linkSheet, rules_linkSheet]
          · split
            · rw [← Sheet.rules_ofText_folded, h.styleText, Sheet.rules_ofText_folded]
            · exact hinside

theorem ofSheet : StyleIndex.ofSheet d.sheet = StyleIndex.ofSheet d'.sheet := by
  rw [StyleIndex.ofSheet, sheet, h.rules_sheetBelow, h.size, StyleIndex.ofSheet, sheet]

theorem styleOf (index : StyleIndex) (id : NodeId) : d.styleOf index id = d'.styleOf index id := by
  match he : d.element? id, hf : d'.element? id, h.element? id with
  | none, none, .none => rw [styleOf_eq_error index he, styleOf_eq_error index hf]
  | some e, some f, .some hef =>
      rw [styleOf_eq index he, styleOf_eq index hf, hef.newestMatch?,
        resolveTexts_eq_of_sameLetters hef.style]

theorem addStyle (index : StyleIndex) : d.addStyle index = d'.addStyle index := by
  funext styles id
  rw [Document.addStyle, h.styleOf, Document.addStyle]
  have helement := h.element? id
  generalize d.element? id = e, d'.element? id = f at helement
  cases helement with
  | none => rfl
  | @some e f hef => simp only [hef.isUnstyled]

theorem styles (index : StyleIndex) : d.styles index = d'.styles index := by
  rw [Document.styles, descendants_congr h.children h.size, h.addStyle, Document.styles]

end Recased

end Document

/-- Style texts and declaration texts mean the same whatever the case of their letters. So do whole
documents: they have the same rules, and by these or any others the same styles. -/
theorem styles_ignore_case :
    (∀ (s s' : Session) (css css' : String), SameLetters css css' →
      (s.readText css).index = (s'.readText css').index) ∧
    (∀ (map : PropertyMap) (text text' : String), SameLetters text text' →
      map.declare text = map.declare text') ∧
    ∀ d d' : Document, d.Recased d' →
      (∀ s s' : Session, (s.readDocument d).index = (s'.readDocument d').index ∧
        d.styles (s.readDocument d).index = d'.styles (s'.readDocument d').index) ∧
      ∀ index : StyleIndex, d.styles index = d'.styles index ∧
        ∀ id, d.styleOf index id = d'.styleOf index id := by
  refine ⟨?_, ?_, ?_⟩
  · intro s s' css css' h
    change StyleIndex.ofSheet (Sheet.ofText css.toList) = .ofSheet (Sheet.ofText css'.toList)
    rw [StyleIndex.ofSheet, ← Sheet.rules_ofText_folded, sameLetters_iff.1 h,
      Sheet.rules_ofText_folded, StyleIndex.ofSheet]
  · exact fun map text text' h => map.declare_eq_of_sameLetters h
  · intro d d' h
    refine ⟨fun s s' => ?_, fun index => ⟨h.styles index, h.styleOf index⟩⟩
    have hindex : (s.readDocument d).index = (s'.readDocument d').index := h.ofSheet
    exact ⟨hindex, by rw [hindex, h.styles]⟩

def Element.restyled (e : Element) (text : String) : Element :=
  { e with attributes := e.attributes.insert "style" text }

theorem Element.restyled_recased (e : Element) {text text' : String} (h : SameLetters text text') :
    (e.restyled text).Recased (e.restyled text') where
  name := rfl
  others key hkey := by
    simp only [attribute?, restyled, SortedMap.get?_insert, if_neg hkey]
  style := by
    simp only [style?, attribute?, restyled, SortedMap.get?_insert, if_true]
    exact .some h

def styledPage (sheet inline : String) : Document :=
  ⟨#[⟨.document, none, [1, 3]⟩,
    ⟨.element (.ofAttributes "style" []), some 0, [2]⟩,
    ⟨.text sheet, some 1, []⟩,
    ⟨.element ((Element.ofAttributes "p" [("class", "note")]).restyled inline), some 0, []⟩]⟩

theorem styledPage_recased {sheet sheet' inline inline' : String}
    (hsheet : SameLetters sheet sheet') (hinline : SameLetters inline inline') :
    (styledPage sheet inline).Recased (styledPage sheet' inline') where
  size := rfl
  node id := by
    match id with
    | 0 => exact .some ⟨.document, rfl, rfl⟩
    | 1 => exact .some ⟨.element ⟨rfl, fun _ _ => rfl, .none⟩, rfl, rfl⟩
    | 2 => exact .some ⟨.text hsheet, rfl, rfl⟩
    | 3 => exact .some ⟨.element (Element.restyled_recased _ hinline), rfl, rfl⟩
    | id + 4 => exact .none

theorem shoutedPage_styles :
    SameLetters ".Note { COLOR: Red } " ".nOTE { color: rED } " ∧
      SameLetters "Font-Family: 'Big Serif'" "FONT-FAMILY: 'bIG sERIF'" ∧
      (styledPage ".Note { COLOR: Red } " "Font-Family: 'Big Serif'").styles
          ((Session.start false).readDocument
            (styledPage ".Note { COLOR: Red } " "Font-Family: 'Big Serif'")).index =
        (styledPage ".nOTE { color: rED } " "FONT-FAMILY: 'bIG sERIF'").styles
          ((Session.start true).readDocument
            (styledPage ".nOTE { color: rED } " "FONT-FAMILY: 'bIG sERIF'")).index := by
  have hsheet : SameLetters ".Note { COLOR: Red } " ".nOTE { color: rED } " := by decide
  have hinline : SameLetters "Font-Family: 'Big Serif'" "FONT-FAMILY: 'bIG sERIF'" := by decide
  have hpage := styles_ignore_case.2.2 _ _ (styledPage_recased hsheet hinline)
  exact ⟨hsheet, hinline, (hpage.1 _ _).2⟩

end FlatStyle
