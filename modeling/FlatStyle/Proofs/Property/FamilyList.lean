import FlatStyle.Proofs.Grammar.FontComponents
import FlatStyle.Proofs.Property.Consumption

/-!
Lists of font families without quotes. Of a list whose names are all read whole the first name is
written, and the list is read to its end. A name that goes on after a generic family is cut there;
as what is left of it begins with no comma, the reading ends in the midst of the list.
-/

namespace FlatStyle

open Text Grammar

/-- A name without capitals, and the blanks around it. -/
structure FamilyEntry where
  before : List Char
  name : String
  after : List Char
  before_blank : ∀ c ∈ before, isAsciiBlank c = true
  after_blank : ∀ c ∈ after, isAsciiBlank c = true
  unquoted : Unquoted name.toList
  folded_name : folded name.toList = name.toList

namespace FamilyEntry

def text (e : FamilyEntry) : List Char := e.before ++ (e.name.toList ++ e.after)

def further (entries : List FamilyEntry) : List Char := entries.flatMap fun e => ',' :: e.text

theorem further_cons (e : FamilyEntry) (entries : List FamilyEntry) :
    further (e :: entries) = ',' :: (e.text ++ further entries) := rfl

end FamilyEntry

structure FamilyList where
  first : FamilyEntry
  others : List FamilyEntry

namespace FamilyList

def entries (l : FamilyList) : List FamilyEntry := l.first :: l.others

def text (l : FamilyList) : List Char := l.first.text ++ FamilyEntry.further l.others

end FamilyList

section Blanks

variable {s w : List Char}

theorem exists_skipBlanks_append (h : ∃ c ∈ w, isAsciiBlank c = false) (t : List Char) :
    ∃ c u, skipBlanks (w ++ t) = c :: u ∧ c ∈ w := by
  obtain ⟨d, hd, hunblank⟩ := h
  have hne : w.dropWhile isAsciiBlank ≠ [] := by
    rw [Ne, List.dropWhile_eq_nil_iff]
    exact fun hall => Bool.false_ne_true (hunblank.symm.trans (hall d hd))
  obtain ⟨c, u, hskip⟩ := List.exists_cons_of_ne_nil hne
  refine ⟨c, u ++ t, ?_, (List.dropWhile_suffix _).subset (hskip ▸ List.mem_cons_self)⟩
  rw [skipBlanks, List.dropWhile_append, hskip]
  rfl

theorem skipBlanks_of_comma (h : ∀ c ∈ s.head?, c = ',') : skipBlanks s = s := by
  cases s with
  | nil => rfl
  | cons c s =>
      obtain rfl := h c rfl
      exact skipBlanks_cons (by decide) s

end Blanks

namespace FamilyEntry

variable {e first : FamilyEntry} {others : List FamilyEntry} {s : List Char}

theorem head?_further (entries : List FamilyEntry) : ∀ c ∈ (further entries).head?, c = ',' := by
  cases entries with
  | nil => nofun
  | cons e entries =>
      rintro c ⟨⟩
      rfl

theorem skipBlanks_text (e : FamilyEntry) (s : List Char) :
    skipBlanks (e.text ++ s) = skipBlanks (e.name.toList ++ (e.after ++ s)) := by
  rw [text, List.append_assoc, List.append_assoc, skipBlanks_append e.before_blank]

theorem read_whole (hwhole : ¬ Clipped e.name) (hs : ∀ c ∈ s.head?, c = ',') :
    ∃ t, familyName? (e.text ++ s) = some (e.name, t) ∧ skipBlanks t = s := by
  obtain ⟨t, hname, ht⟩ := familyName?_append e.unquoted e.folded_name hwhole e.after_blank hs
    (e.skipBlanks_text s)
  exact ⟨t, hname, ht.trans (skipBlanks_of_comma hs)⟩

theorem families_cut (hcut : Clipped e.name) (hs : ∀ c ∈ s.head?, c = ',') :
    ∃ family c u, families (e.text ++ s) = ([family], c :: u) := by
  obtain ⟨family, hfamily, c, rest, hc, hsplit⟩ := hcut
  have hread : keywordHere? genericFamilies e.name.toList = some (family, c :: rest) :=
    (keywordHere?_generic_iff e.folded_name).2 ⟨hfamily, hsplit, by rw [endsWord_cons, hc]; rfl⟩
  have hname : familyName? (e.text ++ s) = some (family, c :: rest ++ (e.after ++ s)) := by
    rw [familyName?, TokenReader.orElse, keyword?_congr (e.skipBlanks_text s),
      keyword?_append (by decide) e.unquoted.solid (parted_margin e.after_blank hs), hread]
    rfl
  -- The name does not end with a blank, so that something of it is left behind the family.
  have hlast : ∃ d ∈ c :: rest, isAsciiBlank d = false := by
    have hne := List.cons_ne_nil c rest
    have hgetLast : (c :: rest).getLast hne ∈ e.name.toList.getLast? := by
      rw [hsplit, List.getLast?_append, List.getLast?_eq_some_getLast hne]
      rfl
    refine ⟨_, List.getLast_mem hne, Bool.eq_false_iff.2 fun hblank => ?_⟩
    have hunblank := e.unquoted.trimmed.last _ hgetLast
    rw [isBlank_of_isAsciiBlank hblank] at hunblank
    cases hunblank
  obtain ⟨d, u, hskip, hd⟩ := exists_skipBlanks_append hlast (e.after ++ s)
  refine ⟨family, d, u, ?_⟩
  rw [families_of_end hname, hskip]
  intro v hv
  rw [hskip] at hv
  cases hv
  exact e.unquoted.chars ',' (hsplit ▸ List.mem_append_right _ hd) (by decide)

theorem families_whole (h : ∀ e ∈ first :: others, ¬ Clipped e.name) :
    families (first.text ++ further others) = ((first :: others).map (·.name), []) := by
  induction others generalizing first with
  | nil =>
      obtain ⟨t, hname, ht⟩ := read_whole (h first List.mem_cons_self) (head?_further [])
      have hend : ∀ u, skipBlanks t ≠ ',' :: u := fun u hu => by
        rw [ht] at hu
        cases hu
      rw [families_of_end hname hend, ht]
      rfl
  | cons second others ih =>
      obtain ⟨hfirst, hothers⟩ := List.forall_mem_cons.1 h
      obtain ⟨t, hname, ht⟩ := read_whole hfirst (head?_further (second :: others))
      rw [further_cons] at ht
      rw [families_of_comma hname ht, ih hothers]
      rfl

/-- With a name that is cut the reading does not come to the end of the list. -/
theorem families_clipped (h : ∃ e ∈ first :: others, Clipped e.name) :
    ∃ name names c rest, families (first.text ++ further others) = (name :: names, c :: rest) := by
  induction others generalizing first with
  | nil =>
      obtain ⟨e, he, hcut⟩ := h
      rw [List.mem_singleton] at he
      subst he
      obtain ⟨family, c, u, hread⟩ := families_cut hcut (head?_further [])
      exact ⟨family, [], c, u, hread⟩
  | cons second others ih =>
      by_cases hfirst : Clipped first.name
      · obtain ⟨family, c, u, hread⟩ := families_cut hfirst (head?_further (second :: others))
        exact ⟨family, [], c, u, hread⟩
      · obtain ⟨t, hname, ht⟩ := read_whole hfirst (head?_further (second :: others))
        obtain ⟨e, he, hcut⟩ := h
        have he : e ∈ second :: others := by
          refine (List.mem_cons.1 he).resolve_left ?_
          rintro rfl
          exact hfirst hcut
        obtain ⟨name, names, c, rest, hmore⟩ := ih ⟨e, he, hcut⟩
        rw [further_cons] at ht
        exact ⟨first.name, name :: names, c, rest, by rw [families_of_comma hname ht, hmore]⟩

end FamilyEntry

/-- A list of families is read to its end, and its first name written as it stands, exactly if none
of its names goes on after a generic family. -/
theorem Property.fontFamily_read_iff (l : FamilyList) (map : PropertyMap) :
    fontFamily.read (.start (String.ofList l.text)) map =
        ⟨true, ⟨l.text, []⟩, map.insert "font-family" l.first.name⟩ ↔
      ∀ e ∈ l.entries, ¬ Clipped e.name := by
  constructor
  · intro hread e he hcut
    obtain ⟨name, names, c, rest, hfamilies⟩ := FamilyEntry.families_clipped ⟨e, he, hcut⟩
    have hahead : (Grammar.fontFamily l.text).rest = [] := by
      rw [← String.toList_ofList (l := l.text)]
      exact congrArg (·.cursor.ahead) hread
    rw [Grammar.fontFamily, single, firstFamily?, FamilyList.text, hfamilies] at hahead
    cases hahead
  · intro hwhole
    have hread : Grammar.fontFamily (l.text ++ []) =
        ⟨true, [("font-family", l.first.name)], []⟩ := by
      rw [List.append_nil, Grammar.fontFamily, single, firstFamily?, FamilyList.text,
        FamilyEntry.families_whole hwhole]
      rfl
    have hstart := read_start (p := .fontFamily) hread map
    rw [List.append_nil] at hstart
    exact hstart

/-- The first name is cut at its generic beginning, and the second one is not reached. -/
theorem fontFamily_serifGothic :
    (∃ l : FamilyList, l.text = "serif gothic, arial".toList ∧ l.first.name = "serif gothic") ∧
      Property.fontFamily.read (.start "serif gothic, arial") ∅ =
        ⟨true, ⟨"serif ".toList, "gothic, arial".toList⟩, .ofList [("font-family", "serif")]⟩ ∧
      Property.fontFamily.read (.start "serif gothic, arial") ∅ ≠
        ⟨true, ⟨"serif gothic, arial".toList, []⟩,
          .ofList [("font-family", "serif gothic")]⟩ := by
  have hlist : ∃ l : FamilyList,
      l.text = "serif gothic, arial".toList ∧ l.first.name = "serif gothic" :=
    ⟨⟨⟨[], "serif gothic", [], List.forall_mem_nil _, List.forall_mem_nil _, by decide, by decide⟩,
      [⟨[' '], "arial", [], List.all_eq_true.1 rfl, List.forall_mem_nil _, by decide,
        by decide⟩]⟩, rfl, rfl⟩
  have hname : familyName? "serif gothic, arial".toList =
      some ("serif", " gothic, arial".toList) := by
    decide
  have hskip : skipBlanks " gothic, arial".toList = "gothic, arial".toList := by
    decide
  have hfamilies : families "serif gothic, arial".toList =
      (["serif"], "gothic, arial".toList) := by
    rw [families_of_end hname, hskip]
    rw [hskip]
    rintro u ⟨⟩
  have hgrammar : Grammar.fontFamily ("serif ".toList ++ "gothic, arial".toList) =
      ⟨true, [("font-family", "serif")], "gothic, arial".toList⟩ := by
    change Grammar.fontFamily "serif gothic, arial".toList = _
    rw [Grammar.fontFamily, single, firstFamily?, hfamilies]
  have hread := Property.read_start (p := .fontFamily) hgrammar ∅
  refine ⟨hlist, hread, ?_⟩
  intro heq
  have hcursor := congrArg (·.cursor.ahead) (hread.symm.trans heq)
  cases hcursor

end FlatStyle
