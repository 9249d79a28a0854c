import FlatStyle.Cursor
import FlatStyle.Declaration
import FlatStyle.Proofs.Grammar.Consumption
import FlatStyle.Proofs.Property.Vocabulary
import FlatStyle.Proofs.SortedMap.Keys
import FlatStyle.Proofs.SortedMap.Override

namespace FlatStyle

open Text Grammar

namespace Language

theorem empty_not_mem_words : ∀ entry ∈ valueLanguages, "" ∉ entry.2.words := by
  decide +kernel

theorem reader_advances {language : Language} (h : "" ∉ language.words) :
    language.reader.Advances := by
  cases language with
  | keyword words => exact keyword?_advances h
  | size words => exact sizeOrWord_advances h true
  | signedSize words => exact sizeOrWord_advances h false
  | color words => exact TokenReader.Advances.orElse (keyword?_advances h) color?_advances

end Language

namespace Property

theorem grammar_consumes {p : Property} (hp : p ≠ .textDecoration) : Consumes p.grammar := by
  rcases p.isIgnored_or_isSome_language_or with hignored | hlanguage | hmem
  · rw [grammar_of_isIgnored hignored]
    exact refused_consumes
  · obtain ⟨language, hlanguage⟩ := Option.isSome_iff_exists.1 hlanguage
    rw [(grammar_eq_single hlanguage).1]
    have hwords := Language.empty_not_mem_words _ (mem_valueLanguages hlanguage)
    exact single_consumes _ (Language.reader_advances hwords)
  · have hsize := size?_advances true
    have hstyle : (keyword? borderStyles).Advances := keyword?_advances (by decide)
    cases p with
    | font => exact font_consumes
    | fontFamily => exact fontFamily_consumes
    | textDecoration => exact absurd rfl hp
    | margin => exact rectangle_consumes _ hsize
    | padding => exact rectangle_consumes _ hsize
    | border =>
        apply eachOnce_consumes
        intro g hg
        simp only [List.mem_cons, List.not_mem_nil, or_false] at hg
        rcases hg with rfl | rfl | rfl
        · exact rectangle_consumes _ hsize
        · exact rectangle_consumes _ hstyle
        · exact rectangle_consumes _ color?_advances
    | borderWidth => exact rectangle_consumes _ hsize
    | borderStyle => exact rectangle_consumes _ hstyle
    | borderColor => exact rectangle_consumes _ color?_advances
    | listStyle =>
        apply repeated_consumes
        apply orElse_consumes
        · exact single_consumes _ (keyword?_advances (by decide))
        · apply orElse_consumes
          · exact single_consumes _ (keyword?_advances (by decide))
          · exact listStyleImage_consumes
    | _ => exact absurd hmem (by decide)

theorem grammar_withdraws (p : Property) {s : List Char} (h : (p.grammar s).accepted = false) :
    p.grammar s = .refused s := by
  by_cases hp : p = .textDecoration
  -- This one never refuses.
  · subst hp
    cases h
  · exact (grammar_consumes hp s).withdraws h

/-- What a grammar answers, where it leaves the cursor, and what becomes of the map. -/
structure Outcome where
  accepted : Bool
  cursor : Cursor
  map : PropertyMap

def read (p : Property) (c : Cursor) (map : PropertyMap) : Outcome :=
  let r := p.grammar c.ahead
  ⟨r.accepted, c.moveTo r.rest, map.insertAll r.writes⟩

theorem apply_eq_read (p : Property) (value : String) (map : PropertyMap) :
    p.apply value map =
      ((p.read (.start value) map).accepted, (p.read (.start value) map).map) := rfl

theorem read_start {p : Property} {front rest : List Char} {writes : List (String × String)}
    (h : p.grammar (front ++ rest) = ⟨true, writes, rest⟩) (map : PropertyMap) :
    p.read (.start (String.ofList (front ++ rest))) map =
      ⟨true, ⟨front, rest⟩, map.insertAll writes⟩ := by
  rw [read, Cursor.start, String.toList_ofList, h]
  exact congrArg (Outcome.mk true · _) (Cursor.moveTo_append [] front rest)

section Confined

variable (p : Property) (c : Cursor) (map : PropertyMap)

theorem get?_insertAll_writes {key : String} (hkey : key ∉ p.emittedKeys) (s : List Char) :
    (map.insertAll (p.grammar s).writes).get? key = map.get? key := by
  have hnone : (p.grammar s).writes.filter (·.1 = key) = [] := by
    rw [List.filter_eq_nil_iff]
    intro e he
    have hother : e.1 ≠ key := fun heq => hkey (heq ▸ mem_emittedKeys he)
    simpa using hother
  rw [SortedMap.get?_insertAll_filter, hnone, SortedMap.insertAll_nil]

/-- Whatever is ahead of the cursor, the grammar touches no key but its own and takes none away; if
it refuses, both the map and the cursor are as they were. An ignored property always refuses. -/
theorem read_confined :
    (∀ key, key ∉ p.emittedKeys → (p.read c map).map.get? key = map.get? key) ∧
      (∀ key, key ∈ map.keys → key ∈ (p.read c map).map.keys) ∧
      ((p.read c map).accepted = false →
        (p.read c map).map = map ∧ (p.read c map).cursor = c) ∧
      (p.isIgnored = true → (p.read c map).accepted = false) := by
  refine ⟨?_, ?_, ?_, ?_⟩
  · exact fun key hkey => p.get?_insertAll_writes map hkey c.ahead
  · exact fun key hkey => SortedMap.mem_keys_insertAll.2 (.inl hkey)
  · intro hrefused
    rw [read, p.grammar_withdraws hrefused]
    exact ⟨rfl, c.moveTo_ahead⟩
  · intro hignored
    rw [read, grammar_of_isIgnored hignored]
    rfl

end Confined

section Consumed

/-- The part of the value that the grammar passes over. -/
def consumed (p : Property) (value : String) : List Char :=
  (p.read (.start value) ∅).cursor.behind

theorem consumed_eq_take (p : Property) (value : String) : p.consumed value =
    value.toList.take (value.toList.length - (p.grammar value.toList).rest.length) := rfl

theorem consumed_eq_nil_iff (p : Property) (value : String) : p.consumed value = [] ↔
    value.toList.length ≤ (p.grammar value.toList).rest.length := by
  rw [consumed_eq_take, ← List.length_eq_zero_iff, List.length_take]
  omega

variable {p : Property} {value : String}

theorem accepted_iff (hp : p ≠ .textDecoration) (map : PropertyMap) :
    (p.apply value map).1 = true ↔ p.consumed value ≠ [] := by
  have hconsumes := grammar_consumes hp value.toList
  rw [Ne, consumed_eq_nil_iff, Nat.not_le]
  refine ⟨hconsumes.advances, fun hlength => ?_⟩
  cases hr : (p.grammar value.toList).accepted with
  | true => rw [Property.apply, hr]
  | false =>
      rw [hconsumes.withdraws hr] at hlength
      exact absurd hlength (Nat.lt_irrefl _)

theorem writes_of_consumed_eq_nil (hp : p ≠ .textDecoration) (h : p.consumed value = []) :
    (p.grammar value.toList).writes = [] := by
  have hconsumes := grammar_consumes hp value.toList
  rw [hconsumes.eq_refused ((consumed_eq_nil_iff p value).1 h)]
  rfl

theorem decorationWords_of_length_le {s : List Char}
    (h : s.length ≤ (decorationWords s).2.length) : (decorationWords s).1 = [] := by
  unfold decorationWords at h ⊢
  split
  · rfl
  · rename_i word t hword
    have ht := length_lt_of_decoration hword
    split
    · rfl
    · rename_i hnone
      have hmore := (decorationWords_suffix t).length_le
      rw [hword] at h
      simp only [if_neg hnone] at h
      omega

theorem get?_apply_textDecoration (h : textDecoration.consumed value = []) (map : PropertyMap)
    (key : String) : (textDecoration.apply value map).2.get? key =
      if key ∈ textDecoration.emittedKeys then some "false" else map.get? key := by
  have hwords := decorationWords_of_length_le ((consumed_eq_nil_iff textDecoration value).1 h)
  have hwrites : (textDecoration.grammar value.toList).writes =
      textDecoration.emittedKeys.map (·, "false") := by
    change _ ++ (decorationWords value.toList).1.map _ = _
    rw [hwords, List.map_nil, List.append_nil]
    rfl
  rw [apply, hwrites]
  exact SortedMap.get?_insertAll_map map _ _ key

/-- A value of which a part is read is always accepted. Apart from `text-decoration` no other value
is, and it leaves the map alone, so that the declaration undoes nothing; where `text-decoration`
reads nothing its lines end up switched off. -/
theorem apply_consumption (p : Property) (value : String) (map : PropertyMap) :
    (p.consumed value ≠ [] → (p.apply value map).1 = true) ∧
      (p ≠ textDecoration →
        ((p.apply value map).1 = true → p.consumed value ≠ []) ∧
        (p.consumed value = [] → (p.apply value map).2 = map) ∧
        (∀ d : Declaration, ofName? d.name = some p → p.consumed d.value = [] →
          map.insertAll d.writes = map)) ∧
      (textDecoration.consumed value = [] → ∀ key,
        (textDecoration.apply value map).2.get? key =
          if key ∈ textDecoration.emittedKeys then some "false" else map.get? key) := by
  refine ⟨?_, fun hp => ⟨?_, ?_, ?_⟩, fun h => get?_apply_textDecoration h map⟩
  · intro hconsumed
    by_cases hp : p = textDecoration
    · subst hp
      rfl
    · exact (accepted_iff hp map).2 hconsumed
  · exact (accepted_iff hp map).1
  · intro h
    rw [apply, writes_of_consumed_eq_nil hp h]
    rfl
  · intro d hname h
    have hwrites : d.writes = [] := by
      rw [Declaration.writes, hname]
      exact writes_of_consumed_eq_nil hp h
    rw [hwrites]
    rfl

theorem listStyle_zigzag_kept : listStyle ≠ textDecoration ∧ listStyle.consumed "zigzag" = [] ∧
    (listStyle.apply "zigzag" (.ofList [("list-style-type", "disc")])).2 =
      .ofList [("list-style-type", "disc")] := by
  have hconsumed : listStyle.consumed "zigzag" = [] := by
    rw [consumed_eq_nil_iff]
    decide +kernel
  have hother : listStyle ≠ textDecoration := by decide
  exact ⟨hother, hconsumed, ((apply_consumption listStyle "zigzag" _).2.1 hother).2.1 hconsumed⟩

/-- A word that names no line is not read, and yet it takes the underline away. -/
theorem textDecoration_wavy : textDecoration.consumed "wavy" = [] ∧
    (textDecoration.apply "wavy" (.ofList [("text-decoration-underline", "true")])).2 ≠
      .ofList [("text-decoration-underline", "true")] := by
  have hconsumed : textDecoration.consumed "wavy" = [] := by
    rw [consumed_eq_nil_iff]
    decide +kernel
  refine ⟨hconsumed, fun heq => ?_⟩
  have hget := congrArg (·.get? "text-decoration-underline") heq
  rw [get?_apply_textDecoration hconsumed] at hget
  exact absurd hget (by decide +kernel)

end Consumed

end Property

end FlatStyle
