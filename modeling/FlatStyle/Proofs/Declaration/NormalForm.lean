import FlatStyle.Proofs.Declaration.Vocabulary
import FlatStyle.Proofs.Grammar.Reread
import FlatStyle.Proofs.Text.Margins

namespace FlatStyle

open Text Grammar

def isPlain (c : Char) : Bool :=
  c.isLower || c.isDigit || c == '-' || c == '.' || c == '#' || c == '%'

def Plain (s : List Char) : Prop := ∀ c ∈ s, isPlain c = true

instance (s : List Char) : Decidable (Plain s) := List.decidableBAll _ s

theorem isPlain_iff {c : Char} : isPlain c = true ↔
    c.isLower = true ∨ c.isDigit = true ∨ c = '-' ∨ c = '.' ∨ c = '#' ∨ c = '%' := by
  simp [isPlain, or_assoc]

section Plain

variable {c sep : Char} {s : List Char}

theorem settled_of_isPlain (h : isPlain c = true) : Settled c := by
  rcases isPlain_iff.1 h with hlower | hdigit | hmark
  · have hrange := isLower_iff_toNat.1 hlower
    exact settled_of_ascii (by omega) (toLower_eq_self_of_isLower hlower)
  · have hrange := isDigit_iff_toNat.1 hdigit
    exact settled_of_ascii (by omega) (unlettered_of_isDigit hdigit).upper
  · rcases hmark with rfl | rfl | rfl | rfl <;> exact settled_of_ascii (by decide) (by decide)

theorem isBlank_of_isPlain (h : isPlain c = true) : isBlank c = false := by
  rcases isPlain_iff.1 h with hlower | hdigit | hmark
  · have hrange := isLower_iff_toNat.1 hlower
    exact isBlank_eq_false_of_letter (by omega) (by omega)
  · have hrange := isDigit_iff_toNat.1 hdigit
    simp [isBlank]
    omega
  · rcases hmark with rfl | rfl | rfl | rfl <;> rfl

theorem Plain.beq_eq_false (hs : Plain s) (hsep : isPlain sep = false) (hc : c ∈ s) :
    (c == sep) = false := by
  rw [beq_eq_false_iff_ne]
  rintro rfl
  rw [hs c hc] at hsep
  cases hsep

theorem Plain.trim_eq (hs : Plain s) : trim s = s :=
  trim_eq_self ⟨fun c hc => isBlank_of_isPlain (hs c (List.mem_of_mem_head? hc)),
    fun c hc => isBlank_of_isPlain (hs c (List.mem_of_mem_getLast? hc))⟩

theorem Plain.lower_eq (hs : Plain s) : lower s = s :=
  lower_eq_self fun c hc => settled_of_isPlain (hs c hc)

theorem Plain.unquote_eq (hs : Plain s) : Declaration.unquote s = s := by
  have hstrip : ∀ {quote : Char}, isPlain quote = false →
      Declaration.stripQuote? quote s = none := by
    intro quote hquote
    cases s with
    | nil => rfl
    | cons c s =>
        have hc := hs.beq_eq_false hquote List.mem_cons_self
        exact if_neg fun h => beq_eq_false_iff_ne.1 hc h.1
  rw [Declaration.unquote, hstrip (by decide), hstrip (by decide)]
  rfl

end Plain

theorem Declaration.ofText_plain {name value : String} (hname : Plain name.toList)
    (hvalue : Plain value.toList) : ofText (name ++ ":" ++ value) = [⟨name, value⟩] := by
  have hchars : (name ++ ":" ++ value).toList = name.toList ++ ':' :: value.toList := by
    simp
  have hseparator : ∀ {s : List Char}, Plain s → ∀ c ∈ s, NotSeparator c := by
    intro s hs c hc
    exact ⟨beq_eq_false_iff_ne.1 (hs.beq_eq_false (by decide) hc),
      beq_eq_false_iff_ne.1 (hs.beq_eq_false (by decide) hc)⟩
  rw [ofText, hchars, ofChars_pair (hseparator hname) (hseparator hvalue), hname.trim_eq,
    hname.lower_eq, hvalue.trim_eq, hvalue.unquote_eq, hvalue.lower_eq, String.ofList_toList,
    String.ofList_toList]

theorem Language.words_plain : ∀ entry ∈ valueLanguages, ∀ word ∈ entry.2.words,
    Plain word.toList ∧ word ≠ "0" := by
  decide +kernel

theorem plain_of_isMeasure {s : List Char} (h : IsMeasure s) : Plain s := by
  have hunits : ∀ unit ∈ units, Plain unit.toList := by decide
  obtain ⟨number, unit, hunit, hnumber, rfl⟩ := h
  refine List.forall_mem_append.2 ⟨fun c hc => ?_, hunits unit hunit⟩
  rcases Bool.or_eq_true_iff.1 (hnumber.1 c hc) with hdigit | hpoint
  · exact isPlain_iff.2 (.inr (.inl hdigit))
  · rw [beq_iff_eq.1 hpoint]
    decide

theorem isPlain_of_isHexDigit {c : Char} (h : isHexDigit c = true) (hc : Settled c) :
    isPlain c = true := by
  simp only [isHexDigit, Bool.or_eq_true, Bool.and_eq_true, decide_eq_true_eq] at h
  rcases h with (hdigit | ⟨hfirst, hlast⟩) | ⟨hfirst, hlast⟩
  · exact isPlain_iff.2 (.inr (.inl hdigit))
  · have hfirst : 0x61 ≤ c.toNat := UInt32.le_iff_toNat_le.1 hfirst
    have hlast : c.toNat ≤ 0x66 := UInt32.le_iff_toNat_le.1 hlast
    exact isPlain_iff.2 (.inl (isLower_iff_toNat.2 (by omega)))
  -- A capital is not its own lower case.
  · have hfirst : 0x41 ≤ c.toNat := UInt32.le_iff_toNat_le.1 hfirst
    have hlast : c.toNat ≤ 0x46 := UInt32.le_iff_toNat_le.1 hlast
    have hlower : c.toLower = c := by
      rw [Settled, lowerChar, if_pos (by omega)] at hc
      exact List.singleton_inj.1 hc
    have hmoved := toNat_toLower hfirst (by omega)
    rw [hlower] at hmoved
    omega

section Reader

variable {key : String} {language : Language} {s rest : List Char} {value : String}

theorem accepts_of_reader (hread : language.reader s = some (value, rest)) :
    language.Accepts value := by
  have hyields : language.reader.Yields (fun _ => True) language.Accepts := language.reader_yields
  exact hyields.value (fun _ _ => trivial) hread

/-- Of all that is copied from the text only the digits of a color could be capitals. -/
theorem plain_of_reader (hlanguage : languageOf? key = some language) (hs : ∀ c ∈ s, Settled c)
    (hread : language.reader s = some (value, rest)) : Plain value.toList := by
  have hword : ∀ word ∈ language.words, Plain word.toList := fun word hword =>
    (Language.words_plain _ (mem_valueLanguages hlanguage) word hword).1
  have haccepts := accepts_of_reader hread
  cases language with
  | keyword words => exact hword value haccepts
  | size words =>
      rcases haccepts with hvalue | rfl | hvalue
      · exact hword value hvalue
      · decide
      · exact plain_of_isMeasure hvalue
  | signedSize words =>
      rcases haccepts with hvalue | hvalue | ⟨t, hchars, hvalue⟩
      · exact hword value hvalue
      · exact plain_of_isMeasure hvalue
      · rw [hchars]
        exact List.forall_mem_cons.2 ⟨by decide, plain_of_isMeasure hvalue⟩
  | color words =>
      rcases Option.or_eq_some_iff.1 hread with hread | ⟨-, hread⟩
      · exact hword value (of_keyword? hread).1
      · rcases of_color? hread with hname | ⟨digits, -, hdigits, hhex, hchars⟩
        · exact fun c hc => isPlain_iff.2 (.inl ((namedColors_small value hname).1 c hc))
        · rw [hchars]
          refine List.forall_mem_cons.2 ⟨by decide, fun c hc => ?_⟩
          exact isPlain_of_isHexDigit (hhex c hc) (hs c (hdigits hc))

theorem clamped_of_reader (hlanguage : languageOf? key = some language)
    (hread : language.reader s = some ("0", rest)) : (∃ words, language = .size words) ∧
      ∃ number numberRest, number? (skipBlanks s) = some (number, numberRest) ∧
        number.toList.head? = some '-' := by
  have hzero : ("0" : String) ∉ language.words := fun hword =>
    (Language.words_plain _ (mem_valueLanguages hlanguage) "0" hword).2 rfl
  have hmeasure : ¬ IsMeasure "0".toList := by
    intro h
    obtain ⟨c, d, t, hchars, -⟩ := exists_cons_of_isMeasure h
    cases hchars
  have haccepts := accepts_of_reader hread
  cases language with
  | keyword words => exact absurd haccepts hzero
  | size words =>
      refine ⟨⟨words, rfl⟩, ?_⟩
      rcases Option.or_eq_some_iff.1 hread with hread | ⟨-, hread⟩
      · exact absurd (of_keyword? hread).1 hzero
      · obtain ⟨number, numberRest, hnumber, -, unit, hunit, hvalue⟩ := of_size? hread
        refine ⟨number, numberRest, hnumber, ?_⟩
        rcases (of_number? hnumber).2 with hdigits | ⟨digits, hsign, -⟩
        · by_contra hhead
          have hkept : ¬ (true && number.toList.head? == some '-') = true := by
            simpa using hhead
          rw [if_neg hkept] at hvalue
          exact absurd ⟨_, unit, hunit, hdigits, by rw [hvalue, String.toList_append]⟩ hmeasure
        · rw [hsign]
          rfl
  | signedSize words =>
      rcases haccepts with hvalue | hvalue | ⟨t, hchars, -⟩
      · exact absurd hvalue hzero
      · exact absurd hvalue hmeasure
      · cases hchars
  | color words =>
      rcases haccepts with hvalue | hvalue | ⟨digits, -, -, hchars⟩
      · exact absurd hvalue hzero
      · cases (namedColors_small "0" hvalue).1 '0' List.mem_cons_self
      · cases hchars

end Reader

/-- What is under the name of a property was read for it from characters of the text. -/
def ReadFrom (text : List Char) (e : String × String) : Prop :=
  ∀ p : Property, p.name = e.1 → ∀ language, languageOf? e.1 = some language →
    ∃ s rest, s ⊆ text ∧ language.reader s = some (e.2, rest)

theorem supplies_readFrom (text : List Char) : Supplies (· ∈ text) (ReadFrom text) where
  language := by
    intro key language hlanguage
    have hyields : language.reader.Yields (· ∈ text) language.Accepts := language.reader_yields
    refine ⟨hyields.suffix, ?_⟩
    intro s value rest hs hread p _ language' hlanguage'
    obtain rfl : language = language' := Option.some.inj (hlanguage.symm.trans hlanguage')
    exact ⟨s, rest, hs, hread⟩
  flag := by
    have hunnamed : ∀ line ∈ decorationLines, Property.ofName? (decorationKey line) = none := by
      decide +kernel
    intro line hline flag _ p hname
    have hname : p.name = decorationKey line := hname
    have hnone := hunnamed line hline
    rw [← hname, Property.ofName?_name] at hnone
    cases hnone
  family := by
    have hyields : firstFamily?.Yields (fun _ => True) _ :=
      firstFamily?_yields fun _ _ _ _ => trivial
    refine ⟨hyields.suffix, ?_⟩
    intro s name rest _ _ p _ language hlanguage
    cases hlanguage

theorem Declaration.writes_readFrom {d : Declaration} {e : String × String} (he : e ∈ d.writes) :
    ReadFrom d.value.toList e := by
  unfold writes at he
  split at he
  · rename_i p _
    exact ((p.grammar_supplied (supplies_readFrom _)).writes (fun _ hc => hc) e he).2
  · cases he

theorem Declaration.settled_value {text : String} {d : Declaration} (hd : d ∈ ofText text) :
    ∀ c ∈ d.value.toList, Settled c := by
  obtain ⟨candidate, -, hd⟩ := List.mem_filterMap.1 hd
  unfold ofCandidate? at hd
  split at hd
  · cases hd
    intro c hc
    rw [String.toList_ofList] at hc
    exact settled_of_mem_lower hc
  · cases hd

theorem Property.name_plain (p : Property) : Plain p.name.toList := by
  have hall : ∀ p ∈ all, Plain p.name.toList := by decide +kernel
  exact hall p p.mem_all

theorem PropertyMap.toList_declare_plain {p : Property} {language : Language}
    (hlanguage : languageOf? p.name = some language) {value : String} (hplain : Plain value.toList)
    (hvalue : language.Accepts value) :
    (declare ∅ (p.name ++ ":" ++ value)).toList = [(p.name, normalForm value)] := by
  have hwrites : Declaration.writes ⟨p.name, value⟩ = [(p.name, normalForm value)] := by
    simp only [Declaration.writes, Property.ofName?_name, (Property.grammar_eq_single hlanguage).1]
    rw [single, languageOf?_rereads hlanguage hvalue]
  rw [declare, Declaration.ofText_plain p.name_plain hplain, List.foldl_cons, hwrites]
  rfl

theorem PropertyMap.exists_reader_of_mem_declare {text : String} {p : Property} {value : String}
    (hp : p ≠ .fontFamily) (h : (p.name, value) ∈ (declare ∅ text).toList) :
    ∃ language, languageOf? p.name = some language ∧
      ∃ d ∈ Declaration.ofText text, (p.name, value) ∈ d.writes ∧
        ∃ s rest, s ⊆ d.value.toList ∧ language.reader s = some (value, rest) := by
  rw [declare_eq_insertAll] at h
  have hwritten := (SortedMap.mem_insertAll h).resolve_left List.not_mem_nil
  obtain ⟨d, hd, he⟩ := List.mem_flatMap.1 hwritten
  rcases (Declaration.writes_inVocabulary hd he).speaks with ⟨hname, -⟩ | ⟨language, hlanguage, -⟩
  · have hfamily : some p = some .fontFamily := by
      rw [← Property.ofName?_name p, ← Property.ofName?_name .fontFamily]
      exact congrArg Property.ofName? hname
    exact absurd (Option.some.inj hfamily) hp
  · exact ⟨language, hlanguage, d, hd, he, Declaration.writes_readFrom he p rfl language hlanguage⟩

/-- What a text declares for a property other than the font family is, declared by itself, all that
there is in the map, and from then on it stays as it is. Only a negative number that was clamped to
`0` changes in this: it counts pixels. -/
theorem declared_normal {text : String} {p : Property} {value : String} (hp : p ≠ .fontFamily)
    (h : (p.name, value) ∈ (PropertyMap.declare ∅ text).toList) :
    (PropertyMap.declare ∅ (p.name ++ ":" ++ value)).toList = [(p.name, normalForm value)] ∧
      (PropertyMap.declare ∅ (p.name ++ ":" ++ normalForm value)).toList =
        [(p.name, normalForm value)] ∧
      (value = "0" → (∃ words, languageOf? p.name = some (.size words)) ∧
        ∃ d ∈ Declaration.ofText text, (p.name, "0") ∈ d.writes ∧
          ∃ s ⊆ d.value.toList, ∃ number rest, number? s = some (number, rest) ∧
            number.toList.head? = some '-') := by
  obtain ⟨language, hlanguage, d, hd, he, s, rest, hs, hread⟩ :=
    PropertyMap.exists_reader_of_mem_declare hp h
  have hsettled : ∀ c ∈ s, Settled c := fun c hc => Declaration.settled_value hd c (hs hc)
  have hplain : Plain value.toList := plain_of_reader hlanguage hsettled hread
  have hvalue : language.Accepts value := accepts_of_reader hread
  -- The normal form is read too, from the value, so that it is no less plain.
  have hreread : language.reader.Rereads value := languageOf?_rereads hlanguage hvalue
  have hplain' : Plain (normalForm value).toList :=
    plain_of_reader hlanguage (fun c hc => settled_of_isPlain (hplain c hc)) hreread
  refine ⟨PropertyMap.toList_declare_plain hlanguage hplain hvalue, ?_, ?_⟩
  · rw [PropertyMap.toList_declare_plain hlanguage hplain' (accepts_of_reader hreread),
      normalForm_normalForm]
  · rintro rfl
    obtain ⟨⟨words, rfl⟩, number, numberRest, hnumber, hhead⟩ := clamped_of_reader hlanguage hread
    have hwithin : skipBlanks s ⊆ d.value.toList :=
      List.Subset.trans (skipBlanks_suffix s).subset hs
    exact ⟨⟨words, hlanguage⟩, d, hd, he, _, hwithin, number, numberRest, hnumber, hhead⟩

theorem clampedMargin_normal :
    Property.marginTop ≠ .fontFamily ∧
      (Property.marginTop.name, "0") ∈ (PropertyMap.declare ∅ "Margin: -3EM 2").toList ∧
      (PropertyMap.declare ∅ "margin-top:0").toList = [("margin-top", "0px")] ∧
      (PropertyMap.declare ∅ "margin-top:0px").toList = [("margin-top", "0px")] := by
  have hfamily : Property.marginTop ≠ .fontFamily := by decide
  have hdeclared : (Property.marginTop.name, "0") ∈
      (PropertyMap.declare ∅ "Margin: -3EM 2").toList := by
    decide +kernel
  obtain ⟨hfirst, hsecond, -⟩ := declared_normal hfamily hdeclared
  exact ⟨hfamily, hdeclared, hfirst, hsecond⟩

end FlatStyle
