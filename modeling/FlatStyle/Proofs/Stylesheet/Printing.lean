import FlatStyle.Proofs.Stylesheet.Block
import FlatStyle.Proofs.Stylesheet.Reading

namespace FlatStyle

open Text Stylesheet

def Rule.printed (r : Rule) : String := r.selector ++ " \x7b " ++ r.declaration ++ " \x7d\n"

def StyleIndex.printed (index : StyleIndex) : String := String.join (index.rules.map Rule.printed)

theorem Text.Blank.unmarked {s : List Char} (h : Blank s) : Unmarked s :=
  ⟨fun hbrace => absurd (h _ hbrace) (by decide), fun hat => absurd (h _ hat) (by decide)⟩

theorem Text.blank_singleton {c : Char} (h : isBlank c = true) : Blank [c] :=
  List.forall_mem_singleton.2 h

theorem Stylesheet.unmarked_append {s t : List Char} :
    Unmarked (s ++ t) ↔ Unmarked s ∧ Unmarked t := by
  simp only [Unmarked, List.mem_append, not_or]
  tauto

namespace Rule.Normal

variable {r : Rule} {margin before after before' after' : List Char}

theorem ofBlock_margins (h : r.Normal) (hbefore : Blank before) (hafter : Blank after)
    (hbefore' : Blank before') (hafter' : Blank after') :
    ofBlock (before ++ r.selector.toList ++ after) (before' ++ r.declaration.toList ++ after') =
      [r] := by
  have htrim := trim_margins hbefore' h.declaration.trimmed hafter'
  have hblank : ¬ Blank (before' ++ r.declaration.toList ++ after') := by
    rw [← trim_eq_nil_iff, htrim]
    exact h.declaration.ne_nil
  rw [ofBlock_eq_map _ hblank, fragments_margins h.selector h.comma hbefore hafter, htrim,
    h.declaration.lower_eq, List.map_singleton, String.ofList_toList, String.ofList_toList]

/-- A printed rule without its last character, which begins the next line. -/
def piece (h : r.Normal) (hmargin : Blank margin) : Piece where
  kind := .rule
  front := margin ++ r.selector.toList ++ [' ']
  body := [' '] ++ r.declaration.toList ++ [' ']
  unmarked :=
    unmarked_append.2 ⟨unmarked_append.2 ⟨hmargin.unmarked, h.unmarked⟩, by decide, by decide⟩
  unclosed := by
    have hspace : ItemKind.rule.closer ∉ [' '] := by decide
    simp only [List.mem_append, not_or]
    exact ⟨⟨hspace, h.unclosed⟩, hspace⟩

theorem chars_piece (h : r.Normal) (hmargin : Blank margin) (rest : List Char) :
    margin ++ (r.printed.toList ++ rest) = (h.piece hmargin).chars ++ ([ '\n' ] ++ rest) := by
  simp [printed, piece, Piece.chars, Piece.openChars, ItemKind.opener, ItemKind.closer]

theorem isBlock_piece (h : r.Normal) (hmargin : Blank margin) :
    (h.piece hmargin).isBlock = true := by
  have hne := List.length_pos_iff.2 h.declaration.ne_nil
  have hbytes := length_le_utf8Length r.declaration.toList
  have hspace : utf8Length [' '] = 1 := rfl
  simp only [Piece.isBlock, piece, utf8Length_append, decide_eq_true_eq, true_and, hspace]
  omega

theorem ofItem_piece (h : r.Normal) (hmargin : Blank margin) :
    Sheet.ofItem (h.piece hmargin).item = ⟨[r], []⟩ := by
  have hspace := blank_singleton (c := ' ') rfl
  have hrules : (h.piece hmargin).item.rules = [r] := by
    rw [Piece.rules_item, if_pos (h.isBlock_piece hmargin)]
    exact h.ofBlock_margins hmargin hspace hspace hspace
  rw [Sheet.ofItem, hrules]
  rfl

end Rule.Normal

namespace Sheet

theorem ofBare_printed {rules : List Rule} (h : ∀ r ∈ rules, r.Normal) {margin : List Char}
    (hmargin : Blank margin) :
    ofBare (margin ++ rules.flatMap (·.printed.toList)) = ⟨rules, []⟩ := by
  -- The line feed that ends a line is the margin of the next one.
  induction rules generalizing margin with
  | nil =>
      rw [List.flatMap_nil, List.append_nil]
      exact ofBare_unmarked hmargin.unmarked
  | cons r rules ih =>
      obtain ⟨hr, hrules⟩ := List.forall_mem_cons.1 h
      rw [List.flatMap_cons, hr.chars_piece hmargin, ofBare_piece, hr.ofItem_piece,
        ih hrules (blank_singleton rfl)]
      rfl

def Normal (sheet : Sheet) : Prop := ∀ r ∈ sheet.rules, r.Normal

theorem normal_ofBare (s : List Char) : (ofBare s).Normal := by
  obtain ⟨l, rfl⟩ := Layout.exists_chars_eq s
  intro r hr
  rw [l.rules_ofBare] at hr
  obtain ⟨p, hp, hr⟩ := List.mem_flatMap.1 hr
  have hkind : p.kind = .rule := (of_decide_eq_true (List.mem_filter.1 hp).2).1
  have hunclosed := p.unclosed
  rw [hkind] at hunclosed
  exact Rule.normal_of_mem_ofBlock p.unmarked hunclosed hr

theorem normal_concat {sheets : List Sheet} (h : ∀ sheet ∈ sheets, sheet.Normal) :
    (concat sheets).Normal := by
  intro r hr
  rw [concat_eq_flatMap rfl rules_append] at hr
  obtain ⟨sheet, hsheet, hr⟩ := List.mem_flatMap.1 hr
  exact h sheet hsheet r hr

end Sheet

namespace Document

theorem normal_linkSheet (e : Element) : (linkSheet e).Normal := by
  unfold linkSheet
  split
  · exact nofun
  · exact nofun

theorem normal_sheetBelow (d : Document) (depth : Nat) (id : NodeId) :
    (d.sheetBelow depth id).Normal := by
  induction depth generalizing id with
  | zero => exact nofun
  | succ depth ih =>
      have hinside : (Sheet.concat ((d.children id).map (d.sheetBelow depth))).Normal :=
        Sheet.normal_concat (List.forall_mem_map.2 fun child _ => ih child)
      rw [sheetBelow]
      split
      · split
        · exact normal_linkSheet _
        · split
          · exact Sheet.normal_ofBare _
          · exact hinside
      · exact hinside

end Document

namespace Session

/-- Sessions whose rules all come from style texts, alone or out of documents. -/
inductive Parsed : Session → Prop
  | reset (s : Session) : Parsed s.reset
  | addText {s : Session} (css : String) : Parsed s → Parsed (s.addText css)
  | readText (s : Session) (css : String) : Parsed (s.readText css)
  | readDocument (s : Session) (d : Document) : Parsed (s.readDocument d)

theorem Parsed.normal {s : Session} (h : s.Parsed) : ∀ r ∈ s.index.rules, r.Normal := by
  induction h with
  | reset s => exact nofun
  | addText css _ ih =>
      exact List.forall_mem_append.2 ⟨ih, Sheet.normal_ofBare css.toList⟩
  | readText s css => exact Sheet.normal_ofBare _
  | readDocument s d => exact d.normal_sheetBelow _ _

/-- Reading the printed rules of a session into an empty index gives back these rules in their
order, and no warning. -/
theorem Parsed.addText_printed {s : Session} (h : s.Parsed) (t : Session) :
    t.reset.addText s.index.printed = { t with index := s.index } := by
  have hsheet : Sheet.ofBare s.index.printed.toList = ⟨s.index.rules, []⟩ := by
    rw [StyleIndex.printed, String.toList_join, List.flatMap_map]
    exact Sheet.ofBare_printed h.normal blank_nil
  rw [Session.addText, hsheet]
  rfl

def quotedLists : Session :=
  (start false).reset.addText "@m;H1,, .Q \x7bColor: RED\n\x7du\x7b\x7dV\x7btop: 1"

theorem quotedLists_printed :
    quotedLists.Parsed ∧
      quotedLists.index.printed =
        "h1 \x7b color: red \x7d\n.q \x7b color: red \x7d\nv \x7b top: 1 \x7d\n" ∧
      (start true).reset.addText quotedLists.index.printed =
        { start true with index := quotedLists.index } :=
  have hparsed : quotedLists.Parsed := .addText _ (.reset _)
  ⟨hparsed, by decide +kernel, hparsed.addText_printed (start true)⟩

end Session

end FlatStyle
