import FlatStyle.Proofs.Cursor.Reached
import FlatStyle.Proofs.Grammar.Loop
import FlatStyle.Proofs.Property.Border
import FlatStyle.Proofs.Property.ListStyle

namespace FlatStyle

open Text Grammar

namespace Grammar

section Family

variable {s : List Char}

def familyLoop : Loop (Option String × List Char) where
  round := fun (first, s) =>
    match familyName? s with
    | none => some (.stop (first, s))
    | some (name, t) =>
        match skipBlanks t with
        | ',' :: u => some (.again (first.or (some name), u))
        | u => some (.stop (first.or (some name), u))
  rest := Prod.snd

def familyReading : Option String × List Char → Reading
  | (none, s) => .refused s
  | (some name, s) => ⟨true, [("font-family", name)], s⟩

def fontFamilyWithin (limit : Nat) (s : List Char) : Option Reading :=
  (familyLoop.within limit (none, s)).map familyReading

theorem familyLoop_advances : familyLoop.Advances := by
  refine Loop.advances_of_length ?_
  rintro ⟨first, s⟩ ⟨next, rest⟩ h
  simp only [familyLoop] at h ⊢
  split at h
  · cases h
  · rename_i name t hname
    split at h
    · rename_i u hcomma
      cases h
      have hlength := length_skipBlanks_le t
      have hread := familyName?_advances hname
      rw [hcomma, List.length_cons] at hlength
      exact ⟨(suffix_of_skipBlanks hcomma).trans (familyName?_suffix hname), by omega⟩
    · cases h

theorem fontFamily_eq (s : List Char) :
    fontFamily s = familyReading ((families s).1.head?, (families s).2) := by
  rw [fontFamily, single]
  cases hname : familyName? s with
  | none =>
      rw [firstFamily?, families_of_none hname]
      rfl
  | some read =>
      obtain ⟨rest, hfirst⟩ := firstFamily?_of_familyName? hname
      rw [hfirst]
      rw [firstFamily?] at hfirst
      split at hfirst
      · cases hfirst
      · rename_i hfamilies
        cases hfirst
        rw [hfamilies]
        rfl

theorem familyLoop_yields : familyLoop.Yields familyReading fun (first, s) =>
    familyReading (first.or (families s).1.head?, (families s).2) := by
  rintro ⟨first, s⟩
  simp only [familyLoop]
  cases hname : familyName? s with
  | none => exact .inl ⟨_, rfl, by rw [families_of_none hname, List.head?_nil, Option.or_none]⟩
  | some read =>
      obtain ⟨name, t⟩ := read
      dsimp only
      split
      · rename_i u hcomma
        refine .inr ⟨_, rfl, ?_⟩
        rw [families_of_comma hname hcomma, List.head?_cons, Option.or_assoc, Option.some_or]
      · rename_i hend
        exact .inl ⟨_, rfl, by rw [families_of_end hname hend, List.head?_cons]⟩

theorem fontFamilyWithin_eq {limit : Nat} (h : utf8Length s < limit) :
    fontFamilyWithin limit s = some (fontFamily s) := by
  rw [fontFamily_eq]
  exact familyLoop_yields.within_eq_some familyLoop_advances.shrinks (none, s) h

end Family

section Decoration

def decorationLoop : Loop (List String × List Char) where
  round := fun (lines, s) =>
    match keyword? decorations s with
    | none => some (.stop (lines, s))
    | some (word, t) =>
        if word = "none" then some (.stop (lines, t)) else some (.again (lines ++ [word], t))
  rest := Prod.snd

def decorationReading : List String × List Char → Reading
  | (lines, s) => ⟨true, decorationLines.map (fun line => (decorationKey line, "false")) ++
      lines.map (fun line => (decorationKey line, "true")), s⟩

def textDecorationWithin (limit : Nat) (s : List Char) : Option Reading :=
  (decorationLoop.within limit ([], s)).map decorationReading

theorem decorationLoop_advances : decorationLoop.Advances := by
  refine Loop.advances_of_length ?_
  rintro ⟨lines, s⟩ ⟨next, rest⟩ h
  simp only [decorationLoop] at h ⊢
  split at h
  · cases h
  · rename_i word t hword
    split at h
    · cases h
    · cases h
      exact ⟨keyword?_suffix hword, length_lt_of_decoration hword⟩

theorem decorationLoop_yields : decorationLoop.Yields decorationReading fun (lines, s) =>
    decorationReading (lines ++ (decorationWords s).1, (decorationWords s).2) := by
  rintro ⟨lines, s⟩
  simp only [decorationLoop]
  rw [decorationWords_eq]
  cases hword : keyword? decorations s with
  | none => exact .inl ⟨_, rfl, by rw [List.append_nil]⟩
  | some read =>
      dsimp only
      split
      · exact .inl ⟨_, rfl, by rw [List.append_nil]⟩
      · exact .inr ⟨_, rfl, by rw [List.append_assoc, List.singleton_append]⟩

theorem textDecorationWithin_eq {limit : Nat} {s : List Char} (h : utf8Length s < limit) :
    textDecorationWithin limit s = some (textDecoration s) :=
  decorationLoop_yields.within_eq_some decorationLoop_advances.shrinks ([], s) h

end Decoration

/-- The reading goes on with a grammar where it has come to, and accepts if either does. -/
def Reading.followedBy (r : Reading) (g : Grammar) : Reading :=
  let more := g r.rest
  ⟨r.accepted || more.accepted, r.writes ++ more.writes, more.rest⟩

theorem refused_followedBy (s : List Char) (g : Grammar) :
    (Reading.refused s).followedBy g = g s := rfl

section Markers

def markerLoop : Loop Reading where
  round := fun r =>
    let marker := markerGrammar r.rest
    if marker.accepted then some (.again (marker.after r.writes))
    else some (.stop { marker.after r.writes with accepted := r.accepted })
  rest := Reading.rest

def listStyleWithin (limit : Nat) (s : List Char) : Option Reading :=
  markerLoop.within limit (.refused s)

theorem single_reader_emits (key : String) (language : Language) :
    Emits (single key language.reader) (fun _ => True) fun _ => True :=
  single_emits language.reader_yields fun _ _ => trivial

theorem markerGrammar_suffix (s : List Char) : (markerGrammar s).rest <:+ s := by
  have htype := single_reader_emits "list-style-type" (.keyword listStyleTypes)
  have hposition := single_reader_emits "list-style-position" (.keyword listStylePositions)
  exact (orElse_emits htype (orElse_emits hposition listStyleImage_emits)).suffix s

theorem markerLoop_advances : markerLoop.Advances := by
  refine Loop.advances_of_length ?_
  intro r next h
  simp only [markerLoop] at h ⊢
  split at h
  · rename_i haccepted
    cases h
    exact ⟨markerGrammar_suffix r.rest, (markerGrammar_consumes r.rest).advances haccepted⟩
  · cases h

theorem markerLoop_yields : markerLoop.Yields id (Reading.followedBy · listStyle) := by
  intro r
  simp only [markerLoop]
  have hconsumes := markerGrammar_consumes r.rest
  cases hmarker : markerGrammar r.rest with
  | mk accepted writes rest =>
      rw [hmarker] at hconsumes
      cases accepted with
      | false =>
          have hrefused := hconsumes.withdraws rfl
          refine .inl ⟨_, if_neg Bool.false_ne_true, ?_⟩
          rw [Reading.followedBy, listStyle_eq, repeated_eq_refused (hmarker.trans hrefused),
            hrefused]
          simp [Reading.after, Reading.refused]
      | true =>
          refine .inr ⟨_, if_pos rfl, ?_⟩
          rw [Reading.followedBy, Reading.followedBy, listStyle_eq,
            repeated_of_accepted hmarker (hconsumes.advances rfl)]
          simp [Reading.after]

theorem listStyleWithin_eq {limit : Nat} {s : List Char} (h : utf8Length s < limit) :
    listStyleWithin limit s = some (listStyle s) := by
  have hwithin := markerLoop_yields.within_eq_some markerLoop_advances.shrinks (.refused s) h
  rwa [Option.map_id, refused_followedBy] at hwithin

end Markers

section Rectangle

variable {limit : Nat}

def tokenLoop (token : TokenReader) : Loop (List String × List Char) where
  round := fun (values, s) =>
    match token s with
    | none => some (.stop (values, s))
    | some (value, t) =>
        let values := values ++ [value]
        if values.length < 4 then some (.again (values, t)) else some (.stop (values, t))
  rest := Prod.snd

def rectangleReading (property : String) : List String × List Char → Reading
  | ([], s) => .refused s
  | (values, s) => ⟨true, (sides.map (sideKey property)).zip (spread values), s⟩

def rectangleWithin (limit : Nat) (property : String) (token : TokenReader) (s : List Char) :
    Option Reading :=
  ((tokenLoop token).within limit ([], s)).map (rectangleReading property)

theorem rectangle_eq (property : String) (token : TokenReader) (s : List Char) :
    rectangle property token s = rectangleReading property (upTo 4 token s) := by
  rw [rectangle]
  cases hread : token s with
  | none =>
      rw [upTo_of_none hread]
      rfl
  | some read =>
      rw [upTo_of_some hread]
      rfl

theorem tokenLoop_shrinks (token : TokenReader) :
    (tokenLoop token).Shrinks (3 - ·.1.length) := by
  rintro ⟨values, s⟩ ⟨more, t⟩ h
  simp only [tokenLoop] at h ⊢
  split at h
  · cases h
  · rename_i value u _
    have hlength : (values ++ [value]).length = values.length + 1 := List.length_append
    rw [hlength] at h
    split at h
    · cases h
      omega
    · cases h

theorem tokenLoop_yields (property : String) (token : TokenReader) :
    (tokenLoop token).Yields (rectangleReading property) fun (values, s) =>
      rectangleReading property (values ++ (upTo (3 - values.length + 1) token s).1,
        (upTo (3 - values.length + 1) token s).2) := by
  rintro ⟨values, s⟩
  simp only [tokenLoop]
  cases hread : token s with
  | none => exact .inl ⟨_, rfl, by rw [upTo_of_none hread, List.append_nil]⟩
  | some read =>
      obtain ⟨value, t⟩ := read
      have hlength : (values ++ [value]).length = values.length + 1 := List.length_append
      simp only [upTo_of_some hread, hlength]
      split
      · have hleft : 3 - values.length = 3 - (values.length + 1) + 1 := by omega
        exact .inr ⟨_, rfl, by rw [hlength, hleft, List.append_assoc, List.singleton_append]⟩
      · have hleft : 3 - values.length = 0 := by omega
        exact .inl ⟨_, rfl, by rw [hleft]; rfl⟩

theorem rectangleWithin_eq (h : 4 ≤ limit) (property : String) (token : TokenReader)
    (s : List Char) :
    rectangleWithin limit property token s = some (rectangle property token s) := by
  rw [rectangle_eq]
  exact (tokenLoop_yields property token).within_eq_some (tokenLoop_shrinks token) ([], s) h

end Rectangle

section Border

variable {limit : Nat}

open Component

/-- The first of the groups that is there, and the others; each begins where the one before it has
come to. -/
def groupWithin (limit : Nat) : List Component → List Char → Option (Reading × List Component)
  | [], s => some (.refused s, [])
  | c :: left, s =>
      (rectangleWithin limit c.borderPart c.reader s).bind fun r =>
        if r.accepted then some (r, left)
        else (groupWithin limit left r.rest).map (Prod.map (·.after r.writes) (c :: ·))

def borderLoop (limit : Nat) : Loop (List Component × Reading) where
  round := fun (left, r) => (groupWithin limit left r.rest).map fun (group, left) =>
    if group.accepted then .again (left, group.after r.writes)
    else .stop (left, { group.after r.writes with accepted := r.accepted })
  rest := fun (_, r) => r.rest

def borderWithin (limit : Nat) (s : List Char) : Option Reading :=
  ((borderLoop limit).within limit (Component.all, .refused s)).map Prod.snd

theorem borderGrammar_consumes (c : Component) : Consumes c.borderGrammar :=
  rectangle_consumes _ c.reader_advances

/-- A group that is not there leaves the cursor where it is, for the next one to begin there. -/
theorem groupWithin_cons (h : 4 ≤ limit) (c : Component) (left : List Component) (s : List Char) :
    groupWithin limit (c :: left) s = if (c.borderGrammar s).accepted
      then some (c.borderGrammar s, left)
      else (groupWithin limit left s).map (Prod.map id (c :: ·)) := by
  have hgroup : rectangleWithin limit c.borderPart c.reader s = some (c.borderGrammar s) :=
    rectangleWithin_eq h _ _ _
  rw [groupWithin, hgroup, Option.bind_some]
  split
  · rfl
  · rename_i hrefused
    rw [(borderGrammar_consumes c s).withdraws (Bool.eq_false_iff.2 hrefused)]
    rfl

theorem groupWithin_cases (h : 4 ≤ limit) (left : List Component) (s : List Char) :
    (firstAccepting (left.map borderGrammar) s = none ∧
      groupWithin limit left s = some (.refused s, left)) ∨
    ∃ r others, firstAccepting (left.map borderGrammar) s = some (r, others.map borderGrammar) ∧
      r.accepted = true ∧ groupWithin limit left s = some (r, others) ∧
      others.length < left.length := by
  induction left with
  | nil => exact .inl ⟨rfl, rfl⟩
  | cons c left ih =>
      rw [List.map_cons, firstAccepting, groupWithin_cons h]
      dsimp only
      cases haccepted : (c.borderGrammar s).accepted with
      | true => exact .inr ⟨_, left, rfl, haccepted, rfl, Nat.lt_succ_self _⟩
      | false =>
          simp only [Bool.false_eq_true, if_false]
          rcases ih with ⟨hnone, hgroup⟩ | ⟨r, others, hfirst, hr, hgroup, hlength⟩
          · rw [hnone, hgroup]
            exact .inl ⟨rfl, rfl⟩
          · rw [hfirst, hgroup]
            exact .inr ⟨r, c :: others, rfl, hr, rfl, Nat.succ_lt_succ hlength⟩

theorem borderLoop_shrinks (h : 4 ≤ limit) : (borderLoop limit).Shrinks (·.1.length) := by
  rintro ⟨left, r⟩ ⟨others, next⟩ hagain
  simp only [borderLoop] at hagain
  rcases groupWithin_cases h left r.rest with
    ⟨-, hgroup⟩ | ⟨group, others', -, haccepted, hgroup, hlength⟩
  · rw [hgroup] at hagain
    cases hagain
  · rw [hgroup, Option.map_some, if_pos haccepted] at hagain
    cases hagain
    exact hlength

theorem borderLoop_yields (h : 4 ≤ limit) : (borderLoop limit).Yields Prod.snd fun (left, r) =>
    r.followedBy (eachOnce (left.map borderGrammar)) := by
  rintro ⟨left, r⟩
  simp only [borderLoop]
  rcases groupWithin_cases h left r.rest with
    ⟨hnone, hgroup⟩ | ⟨group, others, hfirst, haccepted, hgroup, -⟩
  · refine .inl ⟨_, by rw [hgroup]; rfl, ?_⟩
    rw [Reading.followedBy, eachOnce_of_none hnone]
    simp [Reading.after, Reading.refused]
  · refine .inr ⟨(others, group.after r.writes), ?_, ?_⟩
    · rw [hgroup, Option.map_some, if_pos haccepted]
    · rw [Reading.followedBy, Reading.followedBy, eachOnce_of_some hfirst]
      simp [Reading.after, haccepted]

theorem borderWithin_eq (h : 4 ≤ limit) (s : List Char) :
    borderWithin limit s = some (border s) :=
  (borderLoop_yields h).within_eq_some (borderLoop_shrinks h) (Component.all, .refused s) h

end Border

section Font

variable {limit : Nat} {s : List Char}

def fontWithin (limit : Nat) (s : List Char) : Option Reading :=
  let size := fontSize (weightReading s).rest
  let lead := (styleReading s).writes ++ (variantReading s).writes ++ (weightReading s).writes ++
    size.writes
  if size.accepted then
    let height := slashLineHeight size.rest
    (fontFamilyWithin limit height.rest).map fun family =>
      ⟨true, lead ++ height.writes ++ family.writes, family.rest⟩
  else some ⟨size.rest.length != s.length, lead, size.rest⟩

theorem slashLineHeight_font_suffix (s : List Char) :
    (slashLineHeight (fontSize (weightReading s).rest).rest).rest <:+ s := by
  have hstyle := single_reader_emits "font-style" (.keyword fontStyles)
  have hvariant := single_reader_emits "font-variant" (.keyword fontVariants)
  have hweight := single_reader_emits "font-weight" (.keyword fontWeights)
  have hsize := single_reader_emits "font-size" (.size fontSizes)
  have hheight := slashLineHeight_emits (single_reader_emits "line-height" (.size ["normal"]))
  exact (hheight.suffix _).trans ((hsize.suffix _).trans ((hweight.suffix _).trans
    ((hvariant.suffix _).trans (hstyle.suffix s))))

theorem fontWithin_eq (h : utf8Length s < limit) : fontWithin limit s = some (font s) := by
  have hleft := utf8Length_le_of_suffix (slashLineHeight_font_suffix s)
  rw [fontWithin, font_eq]
  dsimp only
  split
  · rw [fontFamilyWithin_eq (Nat.lt_of_le_of_lt hleft h)]
    rfl
  · rfl

end Font

end Grammar

namespace Property

/-- Reads as the grammar does, where each of its loops may go through `limit` rounds. -/
def grammarWithin (limit : Nat) (p : Property) : List Char → Option Reading :=
  match p with
  | .font => fontWithin limit
  | .fontFamily => fontFamilyWithin limit
  | .textDecoration => textDecorationWithin limit
  | .listStyle => listStyleWithin limit
  | .border => borderWithin limit
  | p => match p.component? with
    | some c => rectangleWithin limit p.name c.reader
    | none => fun s => some (p.grammar s)

theorem grammarWithin_eq (p : Property) {limit : Nat} {s : List Char}
    (h : utf8Length s + 4 ≤ limit) : p.grammarWithin limit s = some (p.grammar s) := by
  have hbytes : utf8Length s < limit := by omega
  have hfour : 4 ≤ limit := by omega
  cases p with
  | font => exact fontWithin_eq hbytes
  | fontFamily => exact fontFamilyWithin_eq hbytes
  | textDecoration => exact textDecorationWithin_eq hbytes
  | listStyle => exact listStyleWithin_eq hbytes
  | border => exact borderWithin_eq hfour s
  | margin => exact rectangleWithin_eq hfour _ _ s
  | padding => exact rectangleWithin_eq hfour _ _ s
  | borderWidth => exact rectangleWithin_eq hfour _ _ s
  | borderStyle => exact rectangleWithin_eq hfour _ _ s
  | borderColor => exact rectangleWithin_eq hfour _ _ s
  | _ => rfl

def readWithin (limit : Nat) (p : Property) (c : Cursor) (map : PropertyMap) : Option Outcome :=
  (p.grammarWithin limit c.ahead).map fun r => ⟨r.accepted, c.moveTo r.rest, map.insertAll r.writes⟩

/-- Wherever the loops of a family list, a list style and a text decoration begin, a round that
another one follows reads at least one byte. A border needs no more than four rounds, and a
rectangle no more than four tokens, whatever reads them. So no loop of a grammar needs more rounds
than the value has bytes, and four; the cursor goes forward and not beyond the end. -/
theorem readWithin_eq_some :
    (familyLoop.Advances ∧ markerLoop.Advances ∧ decorationLoop.Advances) ∧
    (∀ s, borderWithin 4 s = some (Grammar.border s)) ∧
    (∀ property token s, rectangleWithin 4 property token s = some (rectangle property token s)) ∧
    ∀ (p : Property) (c : Cursor) (map : PropertyMap),
      p.readWithin (utf8Length c.text + 4) c map = some (p.read c map) ∧
      (p.read c map).cursor.text = c.text ∧ c.position ≤ (p.read c map).cursor.position ∧
      (p.read c map).cursor.position ≤ utf8Length c.text := by
  refine ⟨⟨familyLoop_advances, markerLoop_advances, decorationLoop_advances⟩,
    borderWithin_eq (Nat.le_refl 4), rectangleWithin_eq (Nat.le_refl 4), fun p c map => ?_⟩
  have hsuffix := p.grammar_suffix c.ahead
  have hbytes := utf8Length_le_of_suffix (Cursor.ahead_suffix c)
  obtain ⟨htext, hposition⟩ := Cursor.moveTo_suffix hsuffix
  refine ⟨?_, htext, ?_, ?_⟩
  · rw [readWithin, p.grammarWithin_eq (Nat.add_le_add_right hbytes 4)]
    rfl
  · rw [read, hposition, Cursor.position_eq_tailOffset]
    exact Nat.sub_le_sub_left (utf8Length_le_of_suffix hsuffix) _
  · rw [read, hposition]
    exact tailOffset_le _ _

/-- Two rounds of a family list, of which the second one comes to a quote that is never closed. -/
theorem readWithin_unclosed :
    familyLoop.round (none, " 'a' , \"é".toList) = some (.again (some "a", " \"é".toList)) ∧
      utf8Length " \"é".toList < utf8Length " 'a' , \"é".toList ∧
      font.readWithin 19 ⟨['é'], "1EM 'a' , \"é".toList⟩ ∅ =
        some (font.read ⟨['é'], "1EM 'a' , \"é".toList⟩ ∅) ∧
      font.read ⟨['é'], "1EM 'a' , \"é".toList⟩ ∅ = ⟨true, ⟨"é1EM 'a' , \"é".toList, []⟩,
        .ofList [("font-size", "1em"), ("font-family", "a")]⟩ := by
  have hround : familyLoop.round (none, " 'a' , \"é".toList) =
      some (.again (some "a", " \"é".toList)) := rfl
  have hread := (readWithin_eq_some.2.2.2 font ⟨['é'], "1EM 'a' , \"é".toList⟩ ∅).1
  exact ⟨hround, (readWithin_eq_some.1.1 hround).2, hread, Option.some.inj (hread.symm.trans rfl)⟩

end Property

end FlatStyle
