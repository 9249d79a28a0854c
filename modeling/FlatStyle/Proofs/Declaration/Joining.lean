import FlatStyle.Proofs.Declaration.Spacing
import FlatStyle.Proofs.Resolution.Folding

namespace FlatStyle

open Text

namespace Declaration

def quotes : List Char := ['"', '\'']

/-- A text that is no shorter one between two equal quotes. -/
def Unenclosed (s : List Char) : Prop :=
  ∀ quote ∈ quotes, ∀ inner, s ≠ quote :: (inner ++ [quote])

/-- A text that stays as it is in the name or the value of a declaration. -/
structure Lasting (s : List Char) : Prop where
  lower_eq : lower s = s
  trim_eq : trim s = s
  separators : ∀ c ∈ s, NotSeparator c

def tidied (d : Declaration) : Declaration :=
  ⟨String.ofList (lower (trim d.name.toList)), String.ofList (lower (unquote (trim d.value.toList)))⟩

structure Legible (d : Declaration) : Prop where
  name : Lasting d.name.toList
  value : Lasting d.value.toList
  unenclosed : Unenclosed d.value.toList

section Quotes

variable {quote : Char} {s inner : List Char}

theorem mem_quotes_iff : quote ∈ quotes ↔ quote = '"' ∨ quote = '\'' := by
  simp [quotes]

theorem stripQuote?_eq_some_iff :
    stripQuote? quote s = some inner ↔ s = quote :: (inner ++ [quote]) := by
  cases s with
  | nil => simp [stripQuote?]
  | cons c s =>
      rw [stripQuote?]
      constructor
      · intro h
        split at h
        · rename_i hends
          obtain ⟨front, rfl⟩ := List.getLast?_eq_some_iff.1 hends.2
          cases h
          rw [hends.1, List.dropLast_concat]
        · cases h
      · rintro h
        obtain ⟨rfl, rfl⟩ := List.cons.inj h
        rw [if_pos ⟨rfl, List.getLast?_concat⟩, List.dropLast_concat]

theorem unquote_enclosed (hquote : quote ∈ quotes) (inner : List Char) :
    unquote (quote :: (inner ++ [quote])) = inner := by
  rcases mem_quotes_iff.1 hquote with rfl | rfl
  · rw [unquote, stripQuote?_eq_some_iff.2 rfl]
    rfl
  · have hhead : ('\'' :: (inner ++ ['\''])).head? ≠ some '"' := by
      rw [List.head?_cons]
      decide
    rw [unquote, stripQuote?_eq_none hhead, stripQuote?_eq_some_iff.2 rfl]
    rfl

theorem unquote_eq_self_iff : unquote s = s ↔ Unenclosed s := by
  constructor
  · rintro h quote hquote inner rfl
    have hlength := congrArg List.length h
    rw [unquote_enclosed hquote, List.length_cons, List.length_append] at hlength
    omega
  · intro h
    have hnone : ∀ quote ∈ quotes, stripQuote? quote s = none := by
      intro quote hquote
      apply Option.eq_none_iff_forall_ne_some.2
      exact fun inner hinner => h quote hquote inner (stripQuote?_eq_some_iff.1 hinner)
    rw [unquote, hnone '"' (by decide), hnone '\'' (by decide)]
    rfl

theorem length_unquote_le (s : List Char) : (unquote s).length ≤ s.length := by
  by_cases h : Unenclosed s
  · rw [unquote_eq_self_iff.2 h]
  · simp only [Unenclosed, not_forall, not_not] at h
    obtain ⟨quote, hquote, inner, rfl⟩ := h
    rw [unquote_enclosed hquote, List.length_cons, List.length_append]
    omega

end Quotes

end Declaration

/-- A declaration with what is written around its parts. -/
structure DressedDeclaration where
  declaration : Declaration
  beforeName : List Char
  afterName : List Char
  beforeValue : List Char
  afterValue : List Char
  quote : Option Char
  blank : ∀ margin ∈ [beforeName, afterName, beforeValue, afterValue], Blank margin
  quote_mem : ∀ c ∈ quote, c ∈ Declaration.quotes

namespace DressedDeclaration

variable {w : DressedDeclaration}

def bare (d : Declaration) : DressedDeclaration := ⟨d, [], [], [], [], none, by simp [blank_nil], nofun⟩

def nameText (w : DressedDeclaration) : List Char :=
  w.beforeName ++ w.declaration.name.toList ++ w.afterName

def enclosed (w : DressedDeclaration) : List Char :=
  w.quote.toList ++ w.declaration.value.toList ++ w.quote.toList

def valueText (w : DressedDeclaration) : List Char :=
  w.beforeValue ++ w.enclosed ++ w.afterValue

def text (w : DressedDeclaration) : String := String.ofList (w.nameText ++ ':' :: w.valueText)

def joined (ws : List DressedDeclaration) : String := String.intercalate ";" (ws.map text)

theorem notSeparator_of_isBlank {c : Char} (h : isBlank c = true) : NotSeparator c := by
  constructor
  · rintro rfl
    cases h
  · rintro rfl
    cases h

theorem notSeparator_of_mem_quotes {quote : Char} (h : quote ∈ Declaration.quotes) :
    NotSeparator quote := by
  rcases Declaration.mem_quotes_iff.1 h with rfl | rfl
  · exact ⟨by decide, by decide⟩
  · exact ⟨by decide, by decide⟩

theorem ofText_text (hname : ∀ c ∈ w.declaration.name.toList, NotSeparator c)
    (hvalue : ∀ c ∈ w.declaration.value.toList, NotSeparator c) :
    Declaration.ofText w.text =
      [⟨String.ofList (lower (trim w.declaration.name.toList)),
        String.ofList (lower (Declaration.unquote (trim w.enclosed)))⟩] := by
  have hblank := w.blank
  simp only [List.forall_mem_cons, List.not_mem_nil, false_imp_iff, implies_true, and_true] at hblank
  obtain ⟨hbeforeName, hafterName, hbeforeValue, hafterValue⟩ := hblank
  have hmargin : ∀ {margin : List Char}, Blank margin → ∀ c ∈ margin, NotSeparator c :=
    fun h c hc => notSeparator_of_isBlank (h c hc)
  have hquote : ∀ c ∈ w.quote.toList, NotSeparator c :=
    fun c hc => notSeparator_of_mem_quotes (w.quote_mem c (Option.mem_toList.1 hc))
  have hnameText : ∀ c ∈ w.nameText, NotSeparator c := by
    simp only [nameText, List.forall_mem_append]
    exact ⟨⟨hmargin hbeforeName, hname⟩, hmargin hafterName⟩
  have hvalueText : ∀ c ∈ w.valueText, NotSeparator c := by
    simp only [valueText, enclosed, List.forall_mem_append]
    exact ⟨⟨hmargin hbeforeValue, ⟨hquote, hvalue⟩, hquote⟩, hmargin hafterValue⟩
  rw [Declaration.ofText, text, String.toList_ofList,
    Declaration.ofChars_pair hnameText hvalueText, nameText, valueText,
    trim_margins_append hbeforeName _ hafterName, trim_margins_append hbeforeValue _ hafterValue]

theorem ofText_bare {d : Declaration} (hname : ∀ c ∈ d.name.toList, NotSeparator c)
    (hvalue : ∀ c ∈ d.value.toList, NotSeparator c) :
    Declaration.ofText (bare d).text = [d.tidied] := by
  have henclosed : (bare d).enclosed = d.value.toList := List.append_nil _
  rw [ofText_text hname hvalue, henclosed]
  rfl

theorem unquote_trim_enclosed (h : w.declaration.Legible) :
    Declaration.unquote (trim w.enclosed) = w.declaration.value.toList := by
  cases hquote : w.quote with
  | none =>
      rw [enclosed, hquote, Option.toList_none, List.nil_append, List.append_nil, h.value.trim_eq,
        Declaration.unquote_eq_self_iff.2 h.unenclosed]
  | some quote =>
      have hmem := w.quote_mem quote hquote
      have hsolid : isBlank quote = false := by
        rcases Declaration.mem_quotes_iff.1 hmem with rfl | rfl <;> rfl
      have htrimmed : Trimmed (quote :: (w.declaration.value.toList ++ [quote])) := by
        refine ⟨?_, ?_⟩
        · rintro c ⟨⟩
          exact hsolid
        · intro c hc
          rw [← List.cons_append, List.getLast?_concat] at hc
          cases hc
          exact hsolid
      rw [enclosed, hquote, Option.toList_some, List.append_assoc, List.singleton_append,
        trim_eq_self htrimmed, Declaration.unquote_enclosed hmem]

theorem ofText_legible (h : w.declaration.Legible) :
    Declaration.ofText w.text = [w.declaration] := by
  rw [ofText_text h.name.separators h.value.separators, unquote_trim_enclosed h, h.name.trim_eq,
    h.name.lower_eq, h.value.lower_eq, String.ofList_toList, String.ofList_toList]

theorem ofText_joined (ws : List DressedDeclaration) :
    Declaration.ofText (joined ws) = ws.flatMap fun w => Declaration.ofText w.text := by
  rw [joined, Declaration.ofText_intercalate, List.flatMap_map]

end DressedDeclaration

namespace Declaration

theorem legible_of_tidied_eq {text : String} {d : Declaration} (hd : d ∈ ofText text)
    (hfixed : d.tidied = d) : d.Legible := by
  obtain ⟨hnameSeparators, hvalueSeparators⟩ := notSeparator_of_mem_ofText hd
  have hname : lower (trim d.name.toList) = d.name.toList :=
    String.toList_ofList.symm.trans (congrArg (·.name.toList) hfixed)
  have hvalue : lower (unquote (trim d.value.toList)) = d.value.toList :=
    String.toList_ofList.symm.trans (congrArg (·.value.toList) hfixed)
  have hinner : unquote (trim d.value.toList) = d.value.toList := by
    have hsubset := List.Subset.trans (unquote_subset _) (trim_subset d.value.toList)
    rwa [lower_eq_self fun c hc => settled_value hd c (hsubset hc)] at hvalue
  -- Neither trimming nor the removal of quotes can have taken anything away.
  have hunquoteLength := length_unquote_le (trim d.value.toList)
  obtain ⟨before, after, -, -, hmargins⟩ := exists_margins d.value.toList
  have hlength := congrArg List.length hmargins
  rw [hinner] at hunquoteLength
  rw [List.length_append, List.length_append] at hlength
  have htrim : trim d.value.toList = d.value.toList := by
    have hbefore : before = [] := List.length_eq_zero_iff.1 (by omega)
    have hafter : after = [] := List.length_eq_zero_iff.1 (by omega)
    rw [hbefore, hafter, List.nil_append, List.append_nil] at hmargins
    exact hmargins.symm
  refine ⟨⟨?_, ?_, hnameSeparators⟩, ⟨?_, htrim, hvalueSeparators⟩, ?_⟩
  · rw [← hname, lower_lower]
  · rw [← hname, trim_eq_self (trimmed_trim _).lower]
  · exact lower_eq_self (settled_value hd)
  · rw [htrim] at hinner
    exact unquote_eq_self_iff.1 hinner

theorem legible_of_ofText_joined {ds : List Declaration}
    (hread : ofText (DressedDeclaration.joined (ds.map .bare)) = ds) : ∀ d ∈ ds, d.Legible := by
  have hmem : ∀ d ∈ ds, d ∈ ofText (DressedDeclaration.joined (ds.map .bare)) := by
    rw [hread]
    exact fun _ => id
  -- Each bare text is read as one declaration, so that the list is fixed member by member.
  have hfixed : ds.map tidied = ds.map id := by
    rw [List.map_id]
    conv_rhs => rw [← hread, DressedDeclaration.ofText_joined, List.flatMap_map]
    rw [List.map_eq_flatMap]
    refine List.flatMap_congr fun d hd => ?_
    obtain ⟨hname, hvalue⟩ := notSeparator_of_mem_ofText (hmem d hd)
    exact (DressedDeclaration.ofText_bare hname hvalue).symm
  exact fun d hd => legible_of_tidied_eq (hmem d hd) (List.map_inj_left.1 hfixed d hd)

/-- A list of declarations is read back, in order, from every way of writing it, exactly if all its
declarations are legible: their names and values are trimmed and in lower case and hold no
separator, and no value is enclosed in quotes. -/
theorem ofText_joined_iff (ds : List Declaration) : (∀ d ∈ ds, d.Legible) ↔
    ∀ ws : List DressedDeclaration, ws.map (·.declaration) = ds →
      ∀ text : String, SameLetters (DressedDeclaration.joined ws) text → ofText text = ds := by
  constructor
  · rintro h ws rfl text htext
    have hread : ∀ w ∈ ws, ofText w.text = [w.declaration] :=
      fun w hw => DressedDeclaration.ofText_legible (h _ (List.mem_map_of_mem hw))
    rw [← ofText_eq_of_sameLetters htext, DressedDeclaration.ofText_joined,
      List.flatMap_congr hread]
    exact List.map_eq_flatMap.symm
  · intro h
    apply legible_of_ofText_joined
    refine h (ds.map .bare) ?_ _ (sameLetters_iff.2 rfl)
    rw [List.map_map]
    exact List.map_id ds

/-- A quote alone encloses nothing. -/
example : ofText "Color :\t'RED' ; content: \"" = [⟨"color", "red"⟩, ⟨"content", "\""⟩] := rfl

end Declaration

end FlatStyle
