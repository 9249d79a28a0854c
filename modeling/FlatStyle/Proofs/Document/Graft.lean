import FlatStyle.Markup.Source
import FlatStyle.Proofs.Document.Ancestry
import FlatStyle.Proofs.Document.Link
import FlatStyle.Proofs.SortedMap.Override
import Mathlib.Data.List.Intervals

namespace FlatStyle

open Relation

def SourceLabel.isTaken : SourceLabel → Bool
  | .element _ _ | .text _ | .comment _ => true
  | .document | .doctype | .instruction _ => false

mutual

/-- What is taken over of a tree: nothing if its top is not, else the top with what is taken over
of the trees below it. -/
def Source.pruned? : Source → Option Source
  | .node label sources =>
      if label.isTaken then some (.node label (Source.prunedAll sources)) else none

def Source.prunedAll : List Source → List Source
  | [] => []
  | source :: sources => source.pruned?.toList ++ Source.prunedAll sources

end

/-- Names and texts stay as they are. Of attributes with the same name the last one counts. -/
inductive SourceLabel.Becomes : SourceLabel → NodeData → Prop
  | element {name : String} {attributes : List (String × String)} {e : Element}
      (hname : e.name = name)
      (hattributes : ∀ key, e.attribute? key = attributes.reverse.lookup key) :
      Becomes (.element name attributes) (.element e)
  | text (s : String) : Becomes (.text s) (.text s)
  | comment (s : String) : Becomes (.comment s) (.comment s)

namespace SourceLabel

theorem becomes_of_nodeData? {label : SourceLabel} {data : NodeData}
    (h : label.nodeData? = some data) : label.Becomes data := by
  cases label with
  | element name attributes =>
      cases h
      exact .element rfl (SortedMap.get?_ofList attributes)
  | text s =>
      cases h
      exact .text s
  | comment s =>
      cases h
      exact .comment s
  | document => cases h
  | doctype => cases h
  | instruction s => cases h

theorem isTaken_eq_isSome (label : SourceLabel) : label.isTaken = label.nodeData?.isSome := by
  cases label <;> rfl

end SourceLabel

namespace Document

/-- The nodes `children`, which name `parent` as theirs, and the nodes below them unfold to these
trees; `ids` are the places of all these nodes in document order. -/
inductive Unfolds (d : Document) : NodeId → List NodeId → List Source → List NodeId → Prop
  | nil {parent : NodeId} : d.Unfolds parent [] [] []
  | cons {parent id : NodeId} {label : SourceLabel} {data : NodeData}
      {inner children inside after : List NodeId} {below sources : List Source}
      (hnode : d.node? id = some ⟨data, some parent, inner⟩) (hlabel : label.Becomes data)
      (hbelow : d.Unfolds id inner below inside)
      (hrest : d.Unfolds parent children sources after) :
      d.Unfolds parent (id :: children) (.node label below :: sources) (id :: inside ++ after)

namespace Unfolds

variable {d final : Document} {parent : NodeId} {children ids : List NodeId} {sources : List Source}

theorem congr (h : d.Unfolds parent children sources ids)
    (hids : ∀ id ∈ ids, final.node? id = d.node? id) :
    final.Unfolds parent children sources ids := by
  induction h with
  | nil => exact .nil
  | cons hnode hlabel _ _ ihbelow ihrest =>
      refine .cons ((hids _ ?_).trans hnode) hlabel (ihbelow fun id hid => hids id ?_)
        (ihrest fun id hid => hids id ?_)
      · exact List.mem_cons_self
      · exact List.mem_append_left _ (List.mem_cons_of_mem _ hid)
      · exact List.mem_append_right _ hid

theorem append {children' ids' : List NodeId} {sources' : List Source}
    (h : d.Unfolds parent children sources ids) (h' : d.Unfolds parent children' sources' ids') :
    d.Unfolds parent (children ++ children') (sources ++ sources') (ids ++ ids') := by
  induction h with
  | nil => exact h'
  | cons hnode hlabel hbelow _ _ ihrest =>
      rw [List.append_assoc]
      exact .cons hnode hlabel hbelow (ihrest h')

theorem flatMap_descendants (hd : d.Proper) (h : d.Unfolds parent children sources ids) :
    children.flatMap d.descendants = ids := by
  induction h with
  | nil => rfl
  | @cons parent id label data inner children inside after below sources hnode _ _ _ ihbelow ihrest =>
      have hchildren : d.children id = inner := by rw [children_eq_getD, hnode]; rfl
      have hid : id < d.size := (Array.getElem?_eq_some_iff.1 hnode).1
      rw [List.flatMap_cons, hd.descendants_eq hid, hchildren, ihbelow, ihrest]

end Unfolds

/-- What a document becomes when these trees are put below `parent`, as its last `children`. -/
structure Grafted (d final : Document) (parent : NodeId) (children : List NodeId)
    (sources : List Source) : Prop where
  size_le : d.size ≤ final.size
  frame : ∀ id < d.size, id ≠ parent → final.node? id = d.node? id
  longer : final.node? parent =
    (d.node? parent).map fun node => { node with children := node.children ++ children }
  unfolds : final.Unfolds parent children sources (List.Ico d.size final.size)

namespace Grafted

variable {d mid final : Document} {parent : NodeId} {children children' : List NodeId}
  {sources sources' : List Source}

theorem refl (d : Document) (parent : NodeId) : d.Grafted d parent [] [] where
  size_le := Nat.le_refl _
  frame _ _ _ := rfl
  longer := by simp
  unfolds := by
    rw [List.Ico.self_empty]
    exact .nil

theorem trans (hparent : parent < d.size) (h : d.Grafted mid parent children sources)
    (h' : mid.Grafted final parent children' sources') :
    d.Grafted final parent (children ++ children') (sources ++ sources') where
  size_le := Nat.le_trans h.size_le h'.size_le
  frame id hid hne :=
    (h'.frame id (Nat.lt_of_lt_of_le hid h.size_le) hne).trans (h.frame id hid hne)
  longer := by
    rw [h'.longer, h.longer, Option.map_map]
    simp only [Function.comp_def, List.append_assoc]
  unfolds := by
    rw [← List.Ico.append_consecutive h.size_le h'.size_le]
    -- The later graft leaves the nodes of the earlier one alone, as `parent` is none of them.
    refine (h.unfolds.congr fun id hid => ?_).append h'.unfolds
    obtain ⟨hle, hlt⟩ := List.Ico.mem.1 hid
    exact h'.frame id hlt (Nat.ne_of_gt (Nat.lt_of_lt_of_le hparent hle))

theorem node (hparent : parent < d.size) {label : SourceLabel} {data : NodeData}
    (hlabel : label.Becomes data)
    (h : ((d.alloc data).2.link parent d.size).Grafted final d.size children sources) :
    d.Grafted final parent [d.size] [.node label sources] := by
  have hsize : ((d.alloc data).2.link parent d.size).size = d.size + 1 := by simp
  have hle : d.size + 1 ≤ final.size := hsize ▸ h.size_le
  have hold : ∀ id < d.size, final.node? id = ((d.alloc data).2.link parent d.size).node? id :=
    fun id hid => h.frame id (by omega) (Nat.ne_of_lt hid)
  refine ⟨Nat.le_of_succ_le hle, ?_, ?_, ?_⟩
  · intro id hid hne
    rw [hold id hid, node?_link, node?_alloc, if_neg (Nat.ne_of_lt hid)]
    simp [Nat.ne_of_gt hid, Ne.symm hne]
  · rw [hold parent hparent, node?_link, node?_alloc, if_neg (Nat.ne_of_lt hparent)]
    simp [Nat.ne_of_gt hparent]
  · have hnode : final.node? d.size = some ⟨data, some parent, children⟩ := by
      rw [h.longer, node?_link, node?_alloc]
      simp [Nat.ne_of_lt hparent]
    have hunfolds := h.unfolds
    rw [hsize] at hunfolds
    rw [List.Ico.eq_cons hle]
    simpa using Unfolds.cons hnode hlabel hunfolds .nil

end Grafted

mutual

theorem grafted_graft {d : Document} {parent : NodeId} (hparent : parent < d.size) :
    (source : Source) → d.Grafted (d.graft parent source) parent
      (source.pruned?.toList.map fun _ => d.size) source.pruned?.toList
  | .node label sources => by
      rw [graft, Source.pruned?, label.isTaken_eq_isSome]
      cases hdata : label.nodeData? with
      | none => exact .refl d parent
      | some data =>
          -- What is below the new node is grafted to it before anything comes after it.
          have hsize : d.size < ((d.alloc data).2.link parent d.size).size := by simp
          obtain ⟨children, hgrafted⟩ := exists_grafted_graftAll hsize sources
          exact hgrafted.node hparent (SourceLabel.becomes_of_nodeData? hdata)

theorem exists_grafted_graftAll {d : Document} {parent : NodeId} (hparent : parent < d.size) :
    (sources : List Source) → ∃ children,
      d.Grafted (d.graftAll parent sources) parent children (Source.prunedAll sources)
  | [] => ⟨[], .refl d parent⟩
  | source :: sources => by
      have hfirst := grafted_graft hparent source
      obtain ⟨children, hrest⟩ :=
        exists_grafted_graftAll (Nat.lt_of_lt_of_le hparent hfirst.size_le) sources
      exact ⟨_, hfirst.trans hparent hrest⟩

end

theorem graft_eq_self {source : Source} (h : source.pruned? = none) (d : Document)
    (parent : NodeId) : d.graft parent source = d := by
  rcases source with ⟨label, sources⟩
  have htaken : label.nodeData? = none := by
    rw [Source.pruned?, label.isTaken_eq_isSome] at h
    cases hdata : label.nodeData? with
    | none => rfl
    | some data =>
        rw [hdata] at h
        cases h
  rw [graft, htaken]

mutual

/-- What new nodes below nodes that are there preserve, grafting preserves. -/
theorem graft_induction {motive : Document → Prop}
    (step : ∀ {d parent}, parent < d.size → ∀ data, motive d →
      motive ((d.alloc data).2.link parent d.size))
    {d : Document} {parent : NodeId} (hparent : parent < d.size) (hd : motive d) :
    (source : Source) → motive (d.graft parent source)
  | .node label sources => by
      rw [graft]
      cases label.nodeData? with
      | none => exact hd
      | some data => exact graftAll_induction step (by simp) (step hparent data hd) sources

theorem graftAll_induction {motive : Document → Prop}
    (step : ∀ {d parent}, parent < d.size → ∀ data, motive d →
      motive ((d.alloc data).2.link parent d.size))
    {d : Document} {parent : NodeId} (hparent : parent < d.size) (hd : motive d) :
    (sources : List Source) → motive (d.graftAll parent sources)
  | [] => hd
  | source :: sources =>
      graftAll_induction step (Nat.lt_of_lt_of_le hparent (grafted_graft hparent source).size_le)
        (graft_induction step hparent hd source) sources

end

structure InOrder (d : Document) : Prop where
  descendants_root : d.descendants root = List.range d.size
  exists_parent_lt : ∀ id < d.size, id ≠ root → ∃ parent < id, d.parent? id = some parent

def Ascending (d : Document) : Prop := ∀ child parent, d.HangsUnder child parent → parent < child

theorem ascending_empty : (∅ : Document).Ascending := by
  intro child parent h
  rcases child with _ | child <;> cases h

theorem Ascending.link_alloc {d : Document} {parent : NodeId} (hd : d.Ascending)
    (hparent : parent < d.size) (data : NodeData) :
    ((d.alloc data).2.link parent d.size).Ascending := by
  intro child above hup
  rw [hangsUnder_link (d.new_lt_size data), hangsUnder_alloc] at hup
  rcases hup with ⟨rfl, rfl⟩ | ⟨-, hup⟩
  · exact hparent
  · exact hd child above hup

theorem proper_ofSources (sources : List Source) : (ofSources sources).Proper :=
  graftAll_induction (fun hparent data hd => hd.link_alloc hparent data) (by decide) proper_empty
    sources

theorem ascending_ofSources (sources : List Source) : (ofSources sources).Ascending :=
  graftAll_induction (fun hparent data hd => hd.link_alloc hparent data) (by decide)
    ascending_empty sources

theorem exists_unfolds_ofSources (sources : List Source) : ∃ children,
    (ofSources sources).node? root = some ⟨.document, none, children⟩ ∧
      (ofSources sources).Unfolds root children (Source.prunedAll sources)
        (List.Ico 1 (ofSources sources).size) := by
  have hroot : root < (∅ : Document).size := by decide
  obtain ⟨children, h⟩ := exists_grafted_graftAll hroot sources
  exact ⟨children, h.longer, h.unfolds⟩

theorem inOrder_ofSources (sources : List Source) : (ofSources sources).InOrder := by
  have hd := proper_ofSources sources
  obtain ⟨children, hroot, hunfolds⟩ := exists_unfolds_ofSources sources
  have horder : (ofSources sources).descendants root = List.range (ofSources sources).size := by
    have hsize : 0 < (ofSources sources).size := hd.rooted
    rw [hd.descendants_eq hd.rooted, children_eq_getD, hroot, ← List.Ico.zero_bot,
      List.Ico.eq_cons hsize]
    exact congrArg (root :: ·) (hunfolds.flatMap_descendants hd)
  refine ⟨horder, fun id hid hne => ?_⟩
  have hbelow : ReflTransGen (ofSources sources).HangsUnder id root := by
    rw [← hd.mem_descendants_iff hd.rooted, horder]
    exact List.mem_range.2 hid
  rcases hbelow.cases_head with heq | ⟨parent, hparent, -⟩
  · exact absurd heq hne
  · exact ⟨parent, ascending_ofSources sources id parent hparent, hparent⟩

/-- A tree of which nothing is taken over leaves a document as it is. Of any other tree the top
becomes the one new child of the node grafted to, all other nodes that were there stay as they are,
and the new nodes unfold to what is taken over, one place after another in document order. So
whatever trees a document is made of, its nodes stand in document order, each after its parent. -/
theorem graft_unfolds (d : Document) {parent : NodeId} (hparent : parent < d.size)
    (source : Source) :
    (match source.pruned? with
      | none => d.graft parent source = d
      | some tree =>
          (∀ id < d.size, id ≠ parent → (d.graft parent source).node? id = d.node? id) ∧
          ((d.graft parent source).node? parent = (d.node? parent).map fun node =>
            { node with children := node.children ++ [d.size] }) ∧
          (d.graft parent source).Unfolds parent [d.size] [tree]
            (List.Ico d.size (d.graft parent source).size)) ∧
    ∀ sources : List Source,
      (∃ children, (ofSources sources).node? root = some ⟨.document, none, children⟩ ∧
        (ofSources sources).Unfolds root children (Source.prunedAll sources)
          (List.Ico 1 (ofSources sources).size)) ∧
      (ofSources sources).InOrder := by
  refine ⟨?_, fun sources => ⟨exists_unfolds_ofSources sources, inOrder_ofSources sources⟩⟩
  cases hpruned : source.pruned? with
  | none => exact graft_eq_self hpruned d parent
  | some tree =>
      have hgrafted := grafted_graft hparent source
      rw [hpruned] at hgrafted
      exact ⟨hgrafted.frame, hgrafted.longer, hgrafted.unfolds⟩

def noisyParagraph : Source :=
  .node (.element "p" [("class", "a"), ("id", "x"), ("class", "b")])
    [.node .doctype [.node (.text "lost") []], .node (.comment "c") [], .node (.instruction "i") [],
      .node (.text "t") []]

theorem noisyParagraph_grafted : root < (∅ : Document).size ∧
    ((∅ : Document).graft root noisyParagraph).Unfolds root [1]
      [.node (.element "p" [("class", "a"), ("id", "x"), ("class", "b")])
        [.node (.comment "c") [], .node (.text "t") []]]
      [1, 2, 3] := by
  obtain ⟨⟨-, -, hunfolds⟩, -⟩ := graft_unfolds ∅ (by decide : root < _) noisyParagraph
  exact ⟨by decide, hunfolds⟩

end Document

end FlatStyle
