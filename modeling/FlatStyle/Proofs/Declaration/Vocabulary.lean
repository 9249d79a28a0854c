import FlatStyle.Proofs.Declaration.Precedence
import FlatStyle.Proofs.Property.Vocabulary
import FlatStyle.Proofs.Text.Lowercase

namespace FlatStyle

open Text Grammar

def NotSeparator (c : Char) : Prop := c ≠ ';' ∧ c ≠ ':'

instance (c : Char) : Decidable (NotSeparator c) := inferInstanceAs (Decidable (_ ∧ _))

namespace Declaration

theorem unquote_subset (s : List Char) : unquote s ⊆ s := by
  have hstrip : ∀ {quote : Char} {t : List Char}, stripQuote? quote s = some t → t ⊆ s := by
    intro quote t h
    unfold stripQuote? at h
    split at h
    · cases h
    · split at h
      · cases h
        exact List.Subset.trans (List.dropLast_subset _) (List.subset_cons_self _ _)
      · cases h
  unfold unquote
  cases hinner : (stripQuote? '"' s).or (stripQuote? '\'' s) with
  | none => exact List.Subset.refl s
  | some t =>
      rcases Option.or_eq_some_iff.1 hinner with h | ⟨-, h⟩
      · exact hstrip h
      · exact hstrip h

theorem notSeparator_of_mem_lower {s candidate field inner : List Char}
    (hcandidate : candidate ∈ fields (· == ';') s) (hfield : field ∈ fields (· == ':') candidate)
    (hinner : inner ⊆ field) : ∀ c ∈ lower inner, NotSeparator c := by
  intro c hc
  constructor
  · rintro rfl
    have hmem := hinner (mem_of_mem_lower (by decide) (by decide) hc)
    cases (of_mem_fields hcandidate (of_mem_fields hfield hmem).1).2
  · rintro rfl
    have hmem := hinner (mem_of_mem_lower (by decide) (by decide) hc)
    cases (of_mem_fields hfield hmem).2

theorem notSeparator_of_mem_ofText {text : String} {d : Declaration} (hd : d ∈ ofText text) :
    (∀ c ∈ d.name.toList, NotSeparator c) ∧ ∀ c ∈ d.value.toList, NotSeparator c := by
  obtain ⟨candidate, hcandidate, hd⟩ := List.mem_filterMap.1 hd
  unfold ofCandidate? at hd
  split at hd
  · rename_i name value hfields
    cases hd
    have hparts : name ∈ fields (· == ':') candidate ∧ value ∈ fields (· == ':') candidate := by
      simp [hfields]
    rw [String.toList_ofList, String.toList_ofList]
    exact ⟨notSeparator_of_mem_lower hcandidate hparts.1 (trim_subset name),
      notSeparator_of_mem_lower hcandidate hparts.2
        (List.Subset.trans (unquote_subset _) (trim_subset value))⟩
  · cases hd

theorem ofChars_pair {name value : List Char} (hname : ∀ c ∈ name, NotSeparator c)
    (hvalue : ∀ c ∈ value, NotSeparator c) :
    ofChars (name ++ ':' :: value) =
      [⟨String.ofList (lower (trim name)), String.ofList (lower (unquote (trim value)))⟩] := by
  have hwhole : fields (· == ';') (name ++ ':' :: value) = [name ++ ':' :: value] := by
    apply fields_eq_singleton
    rw [List.forall_mem_append, List.forall_mem_cons]
    exact ⟨fun c hc => beq_false_of_ne (hname c hc).1, rfl,
      fun c hc => beq_false_of_ne (hvalue c hc).1⟩
  have hparts : fields (· == ':') (name ++ ':' :: value) = [name, value] := by
    rw [fields_append_cons (p := (· == ':')) (beq_self_eq_true ':'),
      fields_eq_singleton fun c hc => beq_false_of_ne (hname c hc).2,
      fields_eq_singleton fun c hc => beq_false_of_ne (hvalue c hc).2]
    rfl
  simp only [ofChars, hwhole, List.filterMap_cons, List.filterMap_nil, ofCandidate?, hparts]

end Declaration

/-- Keys whose values may begin with a minus. -/
def signedKeys : List String := ["text-indent", "vertical-align", "font-family"]

/-- An entry under a key of the property table, whose value is in the language of the key. -/
structure InVocabulary (e : String × String) : Prop where
  emitted : ∃ p : Property, e.1 ∈ p.emittedKeys
  speaks : Speaks (fun name => ∀ c ∈ name.toList, NotSeparator c) e
  unsigned : e.1 ∈ signedKeys ∨ e.2.toList.head? ≠ some '-'

def Language.isUnsigned : Language → Bool
  | .keyword words | .size words | .color words => words.all (·.toList.head? != some '-')
  | .signedSize _ => false

theorem head?_ne_minus_of_isMeasure {s : List Char} (h : IsMeasure s) : s.head? ≠ some '-' := by
  obtain ⟨number, unit, -, ⟨hchars, digit, hdigit, -⟩, rfl⟩ := h
  cases number with
  | nil => cases hdigit
  | cons c number =>
      intro hhead
      cases hhead
      have := hchars '-' List.mem_cons_self
      cases this

theorem head?_ne_minus_of_namedColors : ∀ name ∈ namedColors, name.toList.head? ≠ some '-' := by
  decide +kernel

theorem head?_ne_minus_of_all {words : List String} {value : String}
    (h : words.all (·.toList.head? != some '-') = true) (hvalue : value ∈ words) :
    value.toList.head? ≠ some '-' :=
  bne_iff_ne.1 (List.all_eq_true.1 h value hvalue)

theorem Language.head?_ne_minus {language : Language} (h : language.isUnsigned = true)
    {value : String} (hvalue : language.Accepts value) : value.toList.head? ≠ some '-' := by
  cases language with
  | keyword words => exact head?_ne_minus_of_all h hvalue
  | size words =>
      rcases hvalue with hvalue | rfl | hvalue
      · exact head?_ne_minus_of_all h hvalue
      · decide
      · exact head?_ne_minus_of_isMeasure hvalue
  | signedSize words => cases h
  | color words =>
      rcases hvalue with hvalue | hvalue | ⟨digits, -, -, heq⟩
      · exact head?_ne_minus_of_all h hvalue
      · exact head?_ne_minus_of_namedColors value hvalue
      · simp [heq]

theorem signedKeys_or_isUnsigned :
    ∀ e ∈ valueLanguages, e.1 ∈ signedKeys ∨ e.2.isUnsigned = true := by
  decide

theorem unsigned_of_speaks {family : String → Prop} {e : String × String} (h : Speaks family e) :
    e.1 ∈ signedKeys ∨ e.2.toList.head? ≠ some '-' := by
  rcases h with ⟨hkey, -⟩ | ⟨language, hlookup, hvalue⟩
  · left
    rw [hkey]
    decide
  · exact (signedKeys_or_isUnsigned _ (mem_valueLanguages hlookup)).imp_right fun h =>
      Language.head?_ne_minus h hvalue

theorem Declaration.writes_inVocabulary {text : String} {d : Declaration} (hd : d ∈ ofText text)
    {e : String × String} (he : e ∈ d.writes) : InVocabulary e := by
  unfold writes at he
  split at he
  · rename_i p _
    have hgeneric : ∀ word ∈ genericFamilies, ∀ c ∈ word.toList, NotSeparator c := by
      have hall : (genericFamilies.all fun word =>
          word.toList.all fun c => NotSeparator c) = true := by
        decide
      simpa only [List.all_eq_true, decide_eq_true_iff] using hall
    obtain ⟨hkey, hspeaks⟩ := (p.grammar_emits (firstFamily?_yields hgeneric)).writes
      (notSeparator_of_mem_ofText hd).2 e he
    exact ⟨⟨p, hkey⟩, hspeaks, unsigned_of_speaks hspeaks⟩
  · cases he

namespace PropertyMap

def Closed (map : PropertyMap) : Prop := ∀ e ∈ map.toList, InVocabulary e

theorem closed_empty : Closed ∅ := by
  intro e he
  cases he

theorem closed_declare {map : PropertyMap} (h : Closed map) (text : String) :
    Closed (map.declare text) := by
  intro e he
  rw [declare_eq_insertAll] at he
  rcases SortedMap.mem_insertAll he with he | he
  · exact h e he
  · obtain ⟨d, hd, he⟩ := List.mem_flatMap.1 he
    exact Declaration.writes_inVocabulary hd he

theorem closed_foldl_declare (texts : List String) {map : PropertyMap} (h : Closed map) :
    Closed (texts.foldl declare map) := by
  induction texts generalizing map with
  | nil => exact h
  | cons text texts ih => exact ih (closed_declare h text)

theorem closed_resolveTexts (sheet inline : Option String) :
    Closed (resolveTexts sheet inline) := by
  unfold resolveTexts
  split
  · exact closed_declare closed_empty _
  · exact closed_empty

end PropertyMap

/-- Every map that declarations make out of nothing, and so every resolved style, is closed. -/
theorem declared_closed :
    (∀ texts : List String, (texts.foldl PropertyMap.declare ∅).Closed) ∧
      ∀ sheet inline : Option String, (resolveTexts sheet inline).Closed := by
  constructor
  · intro texts
    exact PropertyMap.closed_foldl_declare texts PropertyMap.closed_empty
  · exact PropertyMap.closed_resolveTexts

end FlatStyle
