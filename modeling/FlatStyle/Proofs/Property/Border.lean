import FlatStyle.Proofs.Property.Rectangle

/-!
The border shorthand. The groups that are there may stand in any order: wherever one begins, the
readers of the other kinds refuse, and its own is still to be used. What comes after an unknown word
is not read any more.
-/

namespace FlatStyle

open Text Grammar

namespace Grammar

section EachOnce

variable {gs before after others : List Grammar} {g : Grammar} {s : List Char} {r : Reading}

theorem eachOnce_of_none (h : firstAccepting gs s = none) : eachOnce gs s = .refused s := by
  rw [eachOnce]
  split
  · rfl
  · rename_i hfirst
    rw [h] at hfirst
    cases hfirst

theorem eachOnce_of_some (h : firstAccepting gs s = some (r, others)) :
    eachOnce gs s = ⟨true, r.writes ++ (eachOnce others r.rest).writes,
      (eachOnce others r.rest).rest⟩ := by
  rw [eachOnce]
  split
  · rename_i hfirst
    rw [h] at hfirst
    cases hfirst
  · rename_i hfirst
    rw [h] at hfirst
    cases hfirst
    rfl

theorem firstAccepting_eq_none (h : ∀ g ∈ gs, (g s).accepted = false) :
    firstAccepting gs s = none := by
  induction gs with
  | nil => rfl
  | cons g gs ih =>
      obtain ⟨hg, hgs⟩ := List.forall_mem_cons.1 h
      simp [firstAccepting, hg, ih hgs]

theorem firstAccepting_append (hbefore : ∀ f ∈ before, (f s).accepted = false)
    (hg : (g s).accepted = true) :
    firstAccepting (before ++ g :: after) s = some (g s, before ++ after) := by
  induction before with
  | nil => simp [firstAccepting, hg]
  | cons f before ih =>
      obtain ⟨hf, hbefore⟩ := List.forall_mem_cons.1 hbefore
      simp [firstAccepting, hf, ih hbefore]

theorem eachOnce_eq_refused (h : ∀ g ∈ gs, (g s).accepted = false) :
    eachOnce gs s = .refused s :=
  eachOnce_of_none (firstAccepting_eq_none h)

theorem eachOnce_append {writes : List (String × String)} {t : List Char}
    (hbefore : ∀ f ∈ before, (f s).accepted = false) (hg : g s = ⟨true, writes, t⟩) :
    eachOnce (before ++ g :: after) s =
      ⟨true, writes ++ (eachOnce (before ++ after) t).writes,
        (eachOnce (before ++ after) t).rest⟩ := by
  have haccepted : (g s).accepted = true := by rw [hg]
  rw [eachOnce_of_some (firstAccepting_append hbefore haccepted), hg]

end EachOnce

namespace Component

def borderPart : Component → String
  | size => "border-width"
  | style => "border-style"
  | color => "border-color"

def borderGrammar (c : Component) : Grammar := rectangle c.borderPart c.reader

end Component

theorem border_eq : border = eachOnce (Component.all.map Component.borderGrammar) := rfl

end Grammar

/-- Up to four tokens of each kind, and at least one token. -/
structure BorderValue where
  group : (c : Component) → List c.Token
  length_le : ∀ c, (group c).length ≤ 4
  exists_token : ∃ c, group c ≠ []

namespace BorderValue

open Component

variable (v : BorderValue)

def words (order : List Component) : List Word := order.flatMap fun c => Component.words (v.group c)

/-- The groups in the given order. Those that are not there leave no trace. -/
def text (order : List Component) : List Char := Word.text (v.words order)

def part (c : Component) : List (String × String) := expansion c.borderPart (values (v.group c))

def entries : List (String × String) := Component.all.flatMap v.part

section Reading

variable {order parts : List Component} {c d : Component} {t : List Char}

theorem text_cons (c : Component) (order : List Component) :
    v.text (c :: order) = Word.text (Component.words (v.group c)) ++ v.text order := by
  rw [text, words, List.flatMap_cons, Word.text_append]
  rfl

theorem apart_group (hapart : Word.Apart (v.words (c :: order))) (hgroup : v.group c ≠ []) :
    Word.Apart (Component.words (v.group c)) ∧ ∀ word ∈ v.words order, word.before ≠ [] := by
  rw [words, List.flatMap_cons] at hapart
  exact hapart.of_append (by simpa [Component.words] using hgroup)

theorem reader_text (hapart : Word.Apart (v.words (c :: order))) (hgroup : v.group c ≠ [])
    (ht : Spaced t) (hd : d ≠ c) : d.reader (v.text (c :: order) ++ t) = none := by
  obtain ⟨hfirst, hothers⟩ := v.apart_group hapart hgroup
  rw [text_cons, List.append_assoc]
  obtain ⟨token, tokens, htokens⟩ := List.exists_cons_of_ne_nil hgroup
  rw [htokens] at hfirst ⊢
  have hrest : Spaced (Word.text (Component.words tokens) ++ (v.text order ++ t)) :=
    spaced_text hfirst (spaced_text hothers ht)
  change d.reader (token.before ++ token.chars ++ Word.text (Component.words tokens) ++ _) = none
  rw [List.append_assoc]
  exact token.reader_eq_none hd hrest

theorem eachOnce_text (hparts : parts.Nodup) (horder : order.Nodup) (hsub : order ⊆ parts)
    (hgroups : ∀ c ∈ order, v.group c ≠ []) (hapart : Word.Apart (v.words order)) (ht : Spaced t)
    (hstop : ∀ c : Component, c.reader t = none) :
    eachOnce (parts.map borderGrammar) (v.text order ++ t) =
      ⟨!order.isEmpty, order.flatMap v.part, t⟩ := by
  induction order generalizing parts with
  | nil =>
      refine eachOnce_eq_refused fun g hg => ?_
      obtain ⟨d, -, rfl⟩ := List.mem_map.1 hg
      change (rectangle d.borderPart d.reader t).accepted = false
      rw [rectangle_of_reader_eq_none _ (hstop d)]
      rfl
  | cons c order ih =>
      obtain ⟨hgroup, hgroups⟩ := List.forall_mem_cons.1 hgroups
      obtain ⟨hc, horder⟩ := List.nodup_cons.1 horder
      obtain ⟨hfirst, hothers⟩ := v.apart_group hapart hgroup
      have hapartRest : Word.Apart (v.words order) :=
        fun word hword => hothers word (List.mem_of_mem_tail hword)
      have hspaced : Spaced (v.text order ++ t) := spaced_text hothers ht
      have hrest : c.reader (v.text order ++ t) = none := by
        cases order with
        | nil => exact hstop c
        | cons d order =>
            refine v.reader_text hapartRest (hgroups d List.mem_cons_self) ht ?_
            rintro rfl
            exact hc List.mem_cons_self
      have hread : c.borderGrammar (v.text (c :: order) ++ t) =
          ⟨true, v.part c, v.text order ++ t⟩ := by
        have hgroupRead := rectangle_tokens c.borderPart hgroup hfirst hspaced fun _ => hrest
        rw [List.drop_eq_nil_of_le (v.length_le c)] at hgroupRead
        rw [borderGrammar, text_cons, List.append_assoc, hgroupRead]
        rfl
      obtain ⟨before, after, rfl⟩ := List.append_of_mem (hsub List.mem_cons_self)
      rw [List.nodup_middle, List.nodup_cons] at hparts
      have hbefore : ∀ g ∈ before.map borderGrammar,
          (g (v.text (c :: order) ++ t)).accepted = false := by
        intro g hg
        obtain ⟨d, hd, rfl⟩ := List.mem_map.1 hg
        have hne : d ≠ c := by
          rintro rfl
          exact hparts.1 (List.mem_append_left after hd)
        rw [borderGrammar, rectangle_of_reader_eq_none _ (v.reader_text hapart hgroup ht hne)]
        rfl
      have hsubRest : order ⊆ before ++ after := by
        intro d hd
        have hmem := hsub (List.mem_cons_of_mem c hd)
        rw [List.mem_append, List.mem_cons] at hmem
        rcases hmem with hmem | rfl | hmem
        · exact List.mem_append_left after hmem
        · exact absurd hd hc
        · exact List.mem_append_right before hmem
      have hmore := ih hparts.2 horder hsubRest hgroups hapartRest
      rw [List.map_append] at hmore
      rw [List.map_append, List.map_cons, eachOnce_append hbefore hread, hmore]
      rfl

theorem flatMap_present {β : Type} (f : Component → List β)
    (hf : ∀ c, v.group c = [] → f c = []) (order : List Component) :
    (order.filter fun c => !(v.group c).isEmpty).flatMap f = order.flatMap f := by
  induction order with
  | nil => rfl
  | cons c order ih =>
      by_cases hgroup : v.group c = []
      · rw [List.filter_cons_of_neg (by simp [hgroup]), List.flatMap_cons, ih, hf c hgroup]
        rfl
      · rw [List.filter_cons_of_pos (by simpa using hgroup), List.flatMap_cons, ih,
          List.flatMap_cons]

theorem border_text (horder : order.Perm Component.all) (hapart : Word.Apart (v.words order))
    (ht : Spaced t) (hstop : ∀ c : Component, c.reader t = none) :
    border (v.text order ++ t) = ⟨true, order.flatMap v.part, t⟩ := by
  let present := order.filter fun c => !(v.group c).isEmpty
  have hwords : v.words present = v.words order :=
    v.flatMap_present _ (fun c hgroup => by rw [hgroup]; rfl) order
  have hpart : present.flatMap v.part = order.flatMap v.part :=
    v.flatMap_present _ (fun c hgroup => by rw [part, hgroup]; rfl) order
  have hgroups : ∀ c ∈ present, v.group c ≠ [] := fun c hc => by
    simpa using (List.mem_filter.1 hc).2
  have hall : Component.all.Nodup := by decide
  have hne : present.isEmpty = false := by
    obtain ⟨c, hgroup⟩ := v.exists_token
    have hc : c ∈ present := List.mem_filter.2 ⟨horder.mem_iff.2 c.mem_all, by simpa using hgroup⟩
    rw [List.isEmpty_eq_false_iff]
    exact List.ne_nil_of_mem hc
  have hread := v.eachOnce_text hall ((horder.nodup_iff.2 hall).filter _)
    (fun c _ => c.mem_all) hgroups (hwords ▸ hapart) ht hstop
  rw [← border_eq, hne, hpart, text, hwords] at hread
  exact hread

end Reading

theorem keys_part (c : Component) : (v.part c).map (·.1) = [] ∨
    (v.part c).map (·.1) = sides.map (sideKey c.borderPart) := by
  unfold part
  cases values (v.group c) with
  | nil => exact .inl rfl
  | cons value others => exact .inr rfl

theorem nodup_entries_keys : (v.entries.map (·.1)).Nodup := by
  simp only [entries, Component.all, List.flatMap_cons, List.flatMap_nil, List.map_append,
    List.append_nil]
  rcases v.keys_part .size with hsize | hsize <;> rcases v.keys_part .style with hstyle | hstyle <;>
    rcases v.keys_part .color with hcolor | hcolor <;> rw [hsize, hstyle, hcolor] <;> decide

end BorderValue

/-- Whatever the order of the groups, the map gets the sides of each group that is there. An unknown
word, and all that follows it, change nothing. -/
theorem Property.border_apply_text (v : BorderValue) {order : List Component}
    (horder : order.Perm Component.all) (hapart : Word.Apart (v.words order)) {tail : List Char}
    (htail : tail = [] ∨ ∃ gap word rest, gap ≠ [] ∧ Blank gap ∧ StrayWord word rest ∧
      tail = gap ++ (word ++ rest)) (map : PropertyMap) :
    border.apply (String.ofList (v.text order ++ tail)) map = (true, map.insertAll v.entries) := by
  have hstop : Spaced tail ∧ ∀ c : Component, c.reader tail = none := by
    rcases htail with rfl | ⟨gap, word, rest, hne, hblank, hword, rfl⟩
    · exact ⟨spaced_nil, fun c => c.reader_nil⟩
    · exact ⟨spaced_of_blank hblank hne,
        fun c => Component.reader_blank_append hblank (hword.reader_eq_none c)⟩
  have hread := v.border_text horder hapart hstop.1 hstop.2
  have hperm : v.entries.Perm (order.flatMap v.part) := (horder.symm).flatMap_right v.part
  rw [SortedMap.insertAll_perm hperm v.nodup_entries_keys, apply, String.toList_ofList, grammar,
    hread]

/-- Two colors, no size and two styles, and then a word that is none of them. -/
theorem border_colorsThenStyles : ∃ v : BorderValue,
    [Component.color, .size, .style].Perm Component.all ∧
      Word.Apart (v.words [.color, .size, .style]) ∧
      StrayWord "zigzag".toList "-1 3px".toList ∧
      v.text [.color, .size, .style] = "RGB(1, 2) #0Af Solid\tdashed".toList ∧
      Property.border.apply
          (String.ofList (v.text [.color, .size, .style] ++ " zigzag-1 3px".toList)) ∅ =
        (true, .ofList [("border-style-top", "solid"), ("border-style-right", "dashed"),
          ("border-style-bottom", "solid"), ("border-style-left", "dashed"),
          ("border-color-top", "gray"), ("border-color-right", "#0Af"),
          ("border-color-bottom", "gray"), ("border-color-left", "#0Af")]) := by
  let colors : List Component.color.Token :=
    [⟨⟨[], "RGB(1, 2)".toList, List.forall_mem_nil _⟩, "gray",
        .rgb ⟨"RGB".toList, "1, 2".toList, by decide, by decide, rfl⟩⟩,
      ⟨⟨[' '], "#0Af".toList, List.all_eq_true.1 rfl⟩, "#0Af",
        .hexadecimal (by decide) (List.all_eq_true.1 rfl)⟩]
  let styles : List Component.style.Token :=
    [⟨⟨[' '], "Solid".toList, List.all_eq_true.1 rfl⟩, "solid", .style ⟨by decide, by decide⟩⟩,
      ⟨⟨['\t'], "dashed".toList, List.all_eq_true.1 rfl⟩, "dashed",
        .style ⟨by decide, by decide⟩⟩]
  let v : BorderValue :=
    { group := fun
        | .size => []
        | .style => styles
        | .color => colors
      length_le := by rintro (_ | _ | _) <;> decide
      exists_token := ⟨.color, List.cons_ne_nil _ _⟩ }
  have horder : [Component.color, .size, .style].Perm Component.all := by decide
  have hapart : Word.Apart (v.words [.color, .size, .style]) := of_decide_eq_true rfl
  have hword : StrayWord "zigzag".toList "-1 3px".toList :=
    ⟨⟨by decide, by decide, by decide +kernel⟩, by decide, by rintro c ⟨⟩; rfl⟩
  refine ⟨v, horder, hapart, hword, rfl, ?_⟩
  exact Property.border_apply_text v horder hapart
    (.inr ⟨[' '], _, _, by decide, List.all_eq_true.1 rfl, hword, rfl⟩) ∅

end FlatStyle
