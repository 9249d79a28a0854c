import FlatStyle.Proofs.Document.Traversal
import FlatStyle.Proofs.Stylesheet.Reading
import FlatStyle.Proofs.Text.Folding

namespace FlatStyle

open Relation Stylesheet Text

namespace Document

/-- Nothing is looked for below such a node. -/
def isSheetHolder (d : Document) (id : NodeId) : Bool :=
  (d.element? id).any fun e => e.isNamed "link" || e.isNamed "style"

/-- The nodes of the tree strictly above a node. What the document node itself may hang under is no
part of the tree. -/
def enclosing (d : Document) (id : NodeId) : List NodeId :=
  (d.ancestors id).filter fun above => above ∈ d.descendants root

def isOpen (d : Document) (id : NodeId) : Bool := !(d.enclosing id).any d.isSheetHolder

/-- The nodes with no `style` or `link` element above them, in document order. -/
def openNodes (d : Document) : List NodeId := (d.descendants root).filter d.isOpen

def isStyle (d : Document) (id : NodeId) : Bool := (d.element? id).any (·.isNamed "style")

def styleElements (d : Document) : List NodeId := d.openNodes.filter d.isStyle

def linkAddress? (d : Document) (id : NodeId) : Option String :=
  (d.element? id).bind fun e => if e.isNamed "link" then e.attribute? "href" else none

def linkAddresses (d : Document) : List String := d.openNodes.filterMap d.linkAddress?

def characterData? (d : Document) (id : NodeId) : Option String :=
  match d.node? id with
  | some ⟨.text text, _, _⟩ => some text
  | some ⟨.comment text, _, _⟩ => some text
  | _ => none

def characterText (d : Document) (id : NodeId) : String :=
  String.join ((d.children id).filterMap d.characterData?)

def unloadedText (address : String) : String :=
  "[CSS] external stylesheet '" ++ address ++ "' not loaded"

def sheetAt (d : Document) (id : NodeId) : Sheet :=
  match d.element? id with
  | some e =>
      if e.isNamed "link" then linkSheet e
      else if e.isNamed "style" then Sheet.ofText (d.styleText id)
      else ∅
  | none => ∅

variable {d : Document} {id : NodeId}

theorem toList_characterText (d : Document) (id : NodeId) :
    (d.characterText id).toList = d.styleText id := by
  have hchild : ∀ child, (d.characterData? child).toList.flatMap String.toList =
      match d.node? child with
      | some ⟨.text text, _, _⟩ => text.toList
      | some ⟨.comment text, _, _⟩ => text.toList
      | _ => [] := by
    intro child
    unfold characterData?
    split <;> simp
  rw [characterText, String.toList_join, styleText, List.filterMap_eq_flatMap_toList,
    List.flatMap_assoc]
  exact List.flatMap_congr fun child _ => hchild child

theorem sheetBelow_succ (n : Nat) : d.sheetBelow (n + 1) id =
    if d.isSheetHolder id then d.sheetAt id
    else Sheet.concat ((d.children id).map (d.sheetBelow n)) := by
  rw [sheetBelow, isSheetHolder, sheetAt]
  cases d.element? id with
  | none => rfl
  | some e =>
      cases hlink : e.isNamed "link" with
      | true => simp [hlink]
      | false => cases hstyle : e.isNamed "style" <;> simp [hlink, hstyle]

theorem sheetAt_of_not_isSheetHolder (h : d.isSheetHolder id = false) : d.sheetAt id = ∅ := by
  rw [isSheetHolder] at h
  rw [sheetAt]
  cases he : d.element? id with
  | none => rfl
  | some e =>
      rw [he, Option.any_some, Bool.or_eq_false_iff] at h
      simp [h]

theorem mem_enclosing_iff (hd : d.Proper) {above : NodeId} : above ∈ d.enclosing id ↔
    TransGen d.HangsUnder id above ∧ ReflTransGen d.HangsUnder above root := by
  rw [enclosing, List.mem_filter, decide_eq_true_iff, hd.mem_ancestors_iff,
    hd.mem_descendants_iff hd.rooted]

theorem enclosing_eq_ancestors (hd : d.Proper) (hroot : d.parent? root = none)
    (hid : id ∈ d.descendants root) : d.enclosing id = d.ancestors id := by
  refine List.filter_eq_self.2 fun above habove => decide_eq_true ?_
  rw [hd.mem_descendants_iff hd.rooted] at hid ⊢
  rw [hd.mem_ancestors_iff] at habove
  rcases habove.to_reflTransGen.total_of_right_unique hangsUnder_rightUnique hid with h | h
  · exact h
  · rcases h.cases_head with rfl | ⟨parent, hparent, -⟩
    · exact .refl
    · rw [HangsUnder, hroot] at hparent
      cases hparent

theorem isOpen_iff (hd : d.Proper) : d.isOpen id = true ↔ ∀ above, TransGen d.HangsUnder id above →
    ReflTransGen d.HangsUnder above root → d.isSheetHolder above = false := by
  simp only [isOpen, Bool.not_eq_true', List.any_eq_false, mem_enclosing_iff hd, and_imp,
    Bool.not_eq_true]

theorem enclosing_child (hd : d.Proper) (hid : id ∈ d.descendants root) {child : NodeId}
    (hchild : child ∈ d.children id) : d.enclosing child = id :: d.enclosing id := by
  rw [enclosing, hd.ancestors_of_child hchild, List.filter_cons_of_pos (by simpa using hid)]
  rfl

theorem isOpen_child (hd : d.Proper) (hid : id ∈ d.descendants root) (hopen : d.isOpen id = true)
    (hholder : d.isSheetHolder id = false) {child : NodeId} (hchild : child ∈ d.children id) :
    d.isOpen child = true := by
  rw [isOpen, enclosing_child hd hid hchild, List.any_cons, hholder, Bool.false_or]
  exact hopen

theorem isOpen_root (hd : d.Proper) : d.isOpen root = true := by
  have hnone : d.enclosing root = [] := by
    refine List.eq_nil_iff_forall_not_mem.2 fun above habove => ?_
    obtain ⟨hup, hdown⟩ := (mem_enclosing_iff hd).1 habove
    exact hd.acyclic root (hup.trans_left hdown)
  rw [isOpen, hnone]
  rfl

theorem filter_isOpen_below (hd : d.Proper) (hid : id ∈ d.descendants root)
    (hholder : d.isSheetHolder id = true) (n : Nat) :
    ((d.children id).flatMap (d.preorder n)).filter d.isOpen = [] := by
  refine List.filter_eq_nil_iff.2 fun x hx hopen => ?_
  obtain ⟨child, hchild, hx⟩ := List.mem_flatMap.1 hx
  have hup : TransGen d.HangsUnder x id :=
    TransGen.tail' (below_of_mem_preorder hd hx) (hd.linked.1 hchild)
  have hid : id ∈ d.enclosing x :=
    (mem_enclosing_iff hd).2 ⟨hup, (hd.mem_descendants_iff hd.rooted).1 hid⟩
  rw [isOpen, Bool.not_eq_true', Bool.eq_false_iff] at hopen
  exact hopen (List.any_eq_true.2 ⟨id, hid, hholder⟩)

theorem mem_descendants_child (hd : d.Proper) (hid : id ∈ d.descendants root) {child : NodeId}
    (hchild : child ∈ d.children id) : child ∈ d.descendants root := by
  rw [hd.mem_descendants_iff hd.rooted] at hid ⊢
  exact hid.head (hd.linked.1 hchild)

theorem sheetBelow_eq_concat (hd : d.Proper) {n : Nat} (hsize : id < d.size)
    (hn : d.size ≤ (d.ancestors id).length + n) : id ∈ d.descendants root → d.isOpen id = true →
      d.sheetBelow n id = Sheet.concat (((d.preorder n id).filter d.isOpen).map d.sheetAt) := by
  refine hd.levels_induction ?_ hsize hn
  intro n id ih hid hopen
  rw [preorder, List.filter_cons_of_pos hopen, List.map_cons, Sheet.concat_cons, sheetBelow_succ]
  cases hholder : d.isSheetHolder id with
  | true =>
      -- The recursion stops here, and below this node the traversal meets no open node.
      rw [if_pos rfl, filter_isOpen_below hd hid hholder, List.map_nil]
      exact (Sheet.append_empty _).symm
  | false =>
      have hchildren : ∀ child ∈ d.children id, d.sheetBelow n child =
          Sheet.concat (((d.preorder n child).filter d.isOpen).map d.sheetAt) :=
        fun child hchild => ih child hchild (mem_descendants_child hd hid hchild)
          (isOpen_child hd hid hopen hholder hchild)
      rw [if_neg Bool.false_ne_true, sheetAt_of_not_isSheetHolder hholder, Sheet.empty_append,
        List.map_congr_left hchildren, List.filter_flatMap, List.map_flatMap,
        Sheet.concat_flatMap]

theorem sheet_eq_concat (hd : d.Proper) : d.sheet = Sheet.concat (d.openNodes.map d.sheetAt) := by
  have hroot : root ∈ d.descendants root := (hd.mem_descendants_iff hd.rooted).2 .refl
  rw [sheet, sheetBelow_eq_concat hd hd.rooted (Nat.le_add_left _ _) hroot (isOpen_root hd),
    openNodes, hd.descendants_eq_preorder hd.rooted]

theorem isNamed_link_of_style {e : Element} (h : e.isNamed "style" = true) :
    e.isNamed "link" = false := by
  rw [Bool.eq_false_iff]
  intro hlink
  have hstyle := length_eq_of_sameLetters h
  rw [length_eq_of_sameLetters hlink] at hstyle
  exact absurd hstyle (by decide)

theorem sheetAt_of_isStyle (h : d.isStyle id = true) :
    d.sheetAt id = Sheet.ofText (d.styleText id) := by
  obtain ⟨e, he, hstyle⟩ := (Option.any_eq_true _ _).1 h
  rw [sheetAt, he]
  simp [isNamed_link_of_style hstyle, hstyle]

theorem linkAddress?_of_isStyle (h : d.isStyle id = true) : d.linkAddress? id = none := by
  obtain ⟨e, he, hstyle⟩ := (Option.any_eq_true _ _).1 h
  rw [linkAddress?, he]
  simp [isNamed_link_of_style hstyle]

theorem text_unloaded (address : String) :
    Warning.text ⟨"CSS", "external stylesheet '" ++ address ++ "' not loaded"⟩ =
      unloadedText address :=
  Warning.text_eq_append (by decide) _

theorem sheetAt_of_not_isStyle (h : d.isStyle id = false) : (d.sheetAt id).rules = [] ∧
    (d.sheetAt id).warnings.map Warning.text =
      ((d.linkAddress? id).map unloadedText).toList := by
  rw [sheetAt, linkAddress?]
  rw [isStyle] at h
  cases he : d.element? id with
  | none => exact ⟨rfl, rfl⟩
  | some e =>
      rw [he, Option.any_some] at h
      cases hlink : e.isNamed "link" with
      | false =>
          simp only [h, hlink, Bool.false_eq_true, if_false, Option.bind_some]
          exact ⟨rfl, rfl⟩
      | true =>
          simp only [hlink, if_true, Option.bind_some, linkSheet]
          cases e.attribute? "href" with
          | none => exact ⟨rfl, rfl⟩
          | some address => exact ⟨rfl, congrArg (fun text => [text]) (text_unloaded address)⟩

theorem rules_sheet (hd : d.Proper) :
    d.sheet.rules = d.styleElements.flatMap fun id => (Sheet.ofText (d.styleText id)).rules := by
  rw [sheet_eq_concat hd, Sheet.concat_eq_flatMap rfl Sheet.rules_append, List.flatMap_map,
    styleElements]
  induction d.openNodes with
  | nil => rfl
  | cons id ids ih =>
      rw [List.flatMap_cons, ih]
      cases hstyle : d.isStyle id with
      | true =>
          rw [List.filter_cons_of_pos hstyle, List.flatMap_cons, sheetAt_of_isStyle hstyle]
      | false =>
          rw [List.filter_cons_of_neg (Bool.eq_false_iff.1 hstyle),
            (sheetAt_of_not_isStyle hstyle).1, List.nil_append]

theorem mem_warnings_sheet (hd : d.Proper) {text : String} :
    text ∈ d.sheet.warnings.map Warning.text ↔
      (∃ id ∈ d.styleElements,
        text ∈ (Sheet.ofText (d.styleText id)).warnings.map Warning.text) ∨
      ∃ address ∈ d.linkAddresses, unloadedText address = text := by
  rw [sheet_eq_concat hd, Sheet.concat_eq_flatMap rfl Sheet.warnings_append, List.flatMap_map,
    List.map_flatMap, List.mem_flatMap]
  constructor
  · rintro ⟨id, hid, htext⟩
    cases hstyle : d.isStyle id with
    | true =>
        rw [sheetAt_of_isStyle hstyle] at htext
        exact .inl ⟨id, List.mem_filter.2 ⟨hid, hstyle⟩, htext⟩
    | false =>
        rw [(sheetAt_of_not_isStyle hstyle).2, Option.mem_toList, Option.map_eq_some_iff] at htext
        obtain ⟨address, haddress, htext⟩ := htext
        exact .inr ⟨address, List.mem_filterMap.2 ⟨id, hid, haddress⟩, htext⟩
  · rintro (⟨id, hid, htext⟩ | ⟨address, haddress, rfl⟩)
    · obtain ⟨hid, hstyle⟩ := List.mem_filter.1 hid
      exact ⟨id, hid, by rwa [sheetAt_of_isStyle hstyle]⟩
    · obtain ⟨id, hid, haddress⟩ := List.mem_filterMap.1 haddress
      have hstyle : d.isStyle id = false := by
        rw [Bool.eq_false_iff]
        intro hstyle
        rw [linkAddress?_of_isStyle hstyle] at haddress
        cases haddress
      refine ⟨id, hid, ?_⟩
      rw [(sheetAt_of_not_isStyle hstyle).2, haddress]
      exact List.mem_singleton_self _

theorem unloadedText_injective : Function.Injective unloadedText := by
  intro address address' h
  refine String.toList_injective
    (framed_injective "[CSS] external stylesheet '" "' not loaded" ?_)
  simp only [String.ofList_toList]
  exact h

theorem unloadedText_ne_skippedText (address : String) (atRule : List Char) :
    unloadedText address ≠ skippedText atRule := by
  intro h
  have hchars := congrArg String.toList h
  unfold unloadedText skippedText at hchars
  simp at hchars

end Document

theorem Session.mem_texts_readText {s : Session} {css text : String} :
    text ∈ (s.clearWarnings.readText css).log.texts ↔
      text ∈ (Sheet.ofText css.toList).warnings.map Warning.text := by
  rw [readText, clearWarnings, WarningLog.mem_texts_recordAll,
    or_iff_right (s.log.not_mem_texts_clear text)]

theorem Sheet.exists_skippedText {s : List Char} {text : String}
    (h : text ∈ (ofText s).warnings.map Warning.text) : ∃ atRule, text = skippedText atRule := by
  obtain ⟨l, hl⟩ := Layout.exists_chars_eq (stripComments s)
  rw [ofText, ← hl, l.warnings_ofBare] at h
  obtain ⟨atRule, -, rfl⟩ := List.mem_map.1 h
  exact ⟨atRule, rfl⟩

open Document in
/-- The rules of a document are those of its `style` elements that stand in no `style` or `link`
element, read one after another in document order, each from its text and comment children put
together. The warnings are those of these texts and one for each address that such a link names. -/
theorem Session.readDocument_discovered {d : Document} (hd : d.Proper) (s : Session) :
    (s.readDocument d).index.rules =
      d.styleElements.flatMap (fun id => (s.readText (d.characterText id)).index.rules) ∧
    (s.readDocument d).log.texts.Perm
      ((d.styleElements.flatMap fun id =>
          (s.clearWarnings.readText (d.characterText id)).log.texts).dedup ++
        d.linkAddresses.dedup.map unloadedText) ∧
    (∀ id, d.isOpen id = true ↔ ∀ above, TransGen d.HangsUnder id above →
      ReflTransGen d.HangsUnder above root → d.isSheetHolder above = false) ∧
    (d.parent? root = none → ∀ id ∈ d.descendants root,
      d.isOpen id = !(d.ancestors id).any d.isSheetHolder) := by
  refine ⟨?_, ?_, fun _ => isOpen_iff hd, fun hroot id hid => ?_⟩
  · change d.sheet.rules = _
    rw [rules_sheet hd]
    exact List.flatMap_congr fun id _ => by rw [readText, toList_characterText]; rfl
  · refine (s.log.texts_recordAll_clear d.sheet.warnings).trans ?_
    -- Neither list repeats a text, so that only the members matter.
    refine (List.perm_ext_iff_of_nodup (List.nodup_dedup _) ?_).2 fun text => ?_
    · refine List.nodup_append'.2 ⟨List.nodup_dedup _,
        (List.nodup_dedup _).map unloadedText_injective, ?_⟩
      intro text htext hlink
      obtain ⟨id, -, htext⟩ := List.mem_flatMap.1 (List.mem_dedup.1 htext)
      obtain ⟨address, -, rfl⟩ := List.mem_map.1 hlink
      obtain ⟨atRule, hatRule⟩ := Sheet.exists_skippedText (mem_texts_readText.1 htext)
      exact unloadedText_ne_skippedText address atRule hatRule
    · rw [List.mem_dedup, mem_warnings_sheet hd, List.mem_append, List.mem_dedup, List.mem_flatMap,
        List.mem_map]
      simp only [mem_texts_readText, toList_characterText, List.mem_dedup]
  · rw [isOpen, enclosing_eq_ancestors hd hroot hid]

namespace Document

def linkedPage : Document :=
  ⟨#[⟨.document, none, [1, 6]⟩,
    ⟨.element (.ofAttributes "STYLE" []), some 0, [2, 3, 4]⟩,
    ⟨.text "@m;P\x7btop:/", some 1, []⟩,
    ⟨.comment "**/1\x7d", some 1, []⟩,
    ⟨.element (.ofAttributes "style" []), some 1, [5]⟩,
    ⟨.text "q\x7btop:2\x7d", some 4, []⟩,
    ⟨.element (.ofAttributes "link" [("href", "a.css")]), some 0, [7]⟩,
    ⟨.element (.ofAttributes "link" [("href", "b.css")]), some 6, []⟩]⟩

theorem linkedPage_proper : linkedPage.Proper :=
  proper_of_table (by decide) (by decide) (by decide)

theorem linkedPage_discovered : linkedPage.Proper ∧
    ((Session.start false).readDocument linkedPage).index.rules = [⟨"p", "top:1"⟩] ∧
    ((Session.start false).readDocument linkedPage).log.texts.Perm
      ["[CSS] skipped at-rule '@m'", "[CSS] external stylesheet 'a.css' not loaded"] ∧
    linkedPage.parent? root = none ∧
    ∀ id ∈ linkedPage.descendants root,
      linkedPage.isOpen id = !(linkedPage.ancestors id).any linkedPage.isSheetHolder := by
  obtain ⟨hrules, htexts, -, hancestors⟩ :=
    Session.readDocument_discovered linkedPage_proper (Session.start false)
  have hstyles : linkedPage.styleElements = [1] := by decide
  have hlinks : linkedPage.linkAddresses = ["a.css"] := by decide
  have htext : linkedPage.characterText 1 = "@m;P\x7btop:/**/1\x7d" := by decide
  have hlog :
      ((Session.start false).clearWarnings.readText (linkedPage.characterText 1)).log.texts =
        ["[CSS] skipped at-rule '@m'"] := by
    rw [htext]
    decide +kernel
  refine ⟨linkedPage_proper, ?_, ?_, rfl, hancestors rfl⟩
  · rw [hrules, hstyles, List.flatMap_singleton, htext]
    decide +kernel
  · rw [hstyles, hlinks, List.flatMap_singleton, hlog, (List.nodup_singleton _).dedup,
      (List.nodup_singleton _).dedup] at htexts
    exact htexts

end Document

end FlatStyle
