import FlatStyle.Proofs.Grammar.Component
import FlatStyle.Proofs.Property.Consumption

namespace FlatStyle

open Text Grammar

namespace Grammar

namespace Component

structure Token (c : Component) extends Word where
  value : String
  spells : c.Spells chars value

def words {c : Component} (tokens : List c.Token) : List Word := tokens.map (·.toWord)

def values {c : Component} (tokens : List c.Token) : List String := tokens.map (·.value)

variable {c : Component} {t : List Char}

@[simp] theorem words_append (tokens others : List c.Token) :
    words (tokens ++ others) = words tokens ++ words others := List.map_append

theorem Token.read (token : c.Token) (ht : Spaced t) :
    c.reader (token.before ++ token.chars ++ t) = some (token.value, t) := by
  rw [List.append_assoc, c.reader_blanks token.before_blank]
  exact token.spells.read ht

theorem Token.reader_eq_none {d : Component} (token : c.Token) (hd : d ≠ c) (ht : Spaced t) :
    d.reader (token.before ++ token.chars ++ t) = none := by
  rw [List.append_assoc, d.reader_blanks token.before_blank]
  exact token.spells.reader_eq_none ht hd

theorem upTo_tokens {tokens : List c.Token} (hapart : Word.Apart (words tokens)) (ht : Spaced t)
    {limit : Nat} (hstop : tokens.length < limit → c.reader t = none) :
    upTo limit c.reader (Word.text (words tokens) ++ t) =
      (values (tokens.take limit), Word.text (words (tokens.drop limit)) ++ t) := by
  induction limit generalizing tokens with
  | zero => rfl
  | succ limit ih =>
      cases tokens with
      | nil =>
          have hnone : c.reader t = none := hstop (Nat.succ_pos limit)
          exact upTo_of_none hnone
      | cons token tokens =>
          have hrest : Spaced (Word.text (words tokens) ++ t) := spaced_text hapart ht
          have hmore := ih hapart.tail fun hlength => hstop (Nat.succ_lt_succ hlength)
          change upTo (limit + 1) c.reader
            (token.before ++ token.chars ++ Word.text (words tokens) ++ t) = _
          rw [List.append_assoc, upTo_of_some (token.read hrest), hmore]
          rfl

end Component

def expansion (property : String) : List String → List (String × String)
  | [] => []
  | top :: others =>
      let right := others[0]?.getD top
      let bottom := others[1]?.getD top
      let left := others[2]?.getD right
      [(sideKey property "top", top), (sideKey property "right", right),
        (sideKey property "bottom", bottom), (sideKey property "left", left)]

theorem zip_spread_take (property : String) (values : List String) :
    (sides.map (sideKey property)).zip (spread (values.take 4)) = expansion property values := by
  rcases values with _ | ⟨_, _ | ⟨_, _ | ⟨_, _ | ⟨_, _⟩⟩⟩⟩ <;> rfl

section Rectangle

open Component

variable {c : Component} {tokens : List c.Token} {s t : List Char}

theorem rectangle_of_reader_eq_none (property : String) (h : c.reader s = none) :
    rectangle property c.reader s = .refused s := by
  rw [rectangle, upTo_of_none h]

theorem rectangle_tokens (property : String) (hne : tokens ≠ [])
    (hapart : Word.Apart (words tokens)) (ht : Spaced t)
    (hstop : tokens.length < 4 → c.reader t = none) :
    rectangle property c.reader (Word.text (words tokens) ++ t) =
      ⟨true, expansion property (values tokens), Word.text (words (tokens.drop 4)) ++ t⟩ := by
  have hread := upTo_tokens hapart ht hstop
  rw [rectangle, hread, ← zip_spread_take property (values tokens), values, values, List.map_take]
  obtain ⟨token, tokens, rfl⟩ := List.exists_cons_of_ne_nil hne
  rfl

end Rectangle

end Grammar

namespace Property

open Component

def component? : Property → Option Component
  | .margin | .padding | .borderWidth => some .size
  | .borderStyle => some .style
  | .borderColor => some .color
  | _ => none

theorem grammar_eq_rectangle {p : Property} {c : Component} (h : p.component? = some c) :
    p.grammar = rectangle p.name c.reader := by
  cases p <;> cases h <;> rfl

/-- Of a list of tokens with blanks between them the first four are read. The right side and the
bottom take the top where they have no token of their own, and the left side takes the right. -/
theorem rectangle_read {p : Property} {c : Component} (hp : p.component? = some c)
    {tokens : List c.Token} (hne : tokens ≠ []) (hapart : Word.Apart (words tokens))
    (map : PropertyMap) :
    p.read (.start (String.ofList (Word.text (words tokens)))) map =
      ⟨true, ⟨Word.text (words (tokens.take 4)), Word.text (words (tokens.drop 4))⟩,
        map.insertAll (expansion p.name (values tokens))⟩ := by
  have hsplit : Word.text (words tokens) =
      Word.text (words (tokens.take 4)) ++ Word.text (words (tokens.drop 4)) := by
    rw [← Word.text_append, ← words_append, List.take_append_drop]
  have hread := rectangle_tokens p.name hne hapart spaced_nil fun _ => c.reader_nil
  rw [List.append_nil, List.append_nil, hsplit] at hread
  rw [hsplit]
  refine read_start ?_ map
  rw [grammar_eq_rectangle hp]
  exact hread

/-- Of five sizes the last one is left. They are in capitals, negative, without a digit before the
point, a share, and without a unit. -/
theorem margin_fiveSizes : ∃ tokens : List Component.size.Token,
    margin.component? = some .size ∧ tokens ≠ [] ∧ Word.Apart (words tokens) ∧
      Word.text (words tokens) = "1PX -2\t.5em  3% 4".toList ∧
      margin.read (.start (String.ofList (Word.text (words tokens)))) ∅ =
        ⟨true, ⟨"1PX -2\t.5em  3%".toList, " 4".toList⟩,
          .ofList [("margin-top", "1px"), ("margin-right", "0"), ("margin-bottom", ".5em"),
            ("margin-left", "3%")]⟩ := by
  refine ⟨[⟨⟨[], "1PX".toList, List.forall_mem_nil _⟩, "1px",
      .number ['1'] ['P', 'X'] "px" (by decide) (.written ⟨by decide, by decide⟩)⟩,
    ⟨⟨[' '], "-2".toList, List.all_eq_true.1 rfl⟩, "0",
      .negative ['2'] [] "px" (by decide) .absent⟩,
    ⟨⟨['\t'], ".5em".toList, List.all_eq_true.1 rfl⟩, ".5em",
      .number ['.', '5'] ['e', 'm'] "em" (by decide) (.written ⟨by decide, by decide⟩)⟩,
    ⟨⟨[' ', ' '], "3%".toList, List.all_eq_true.1 rfl⟩, "3%",
      .number ['3'] ['%'] "%" (by decide) (.written ⟨by decide, by decide⟩)⟩,
    ⟨⟨[' '], "4".toList, List.all_eq_true.1 rfl⟩, "4px",
      .number ['4'] [] "px" (by decide) .absent⟩], rfl, ?_, ?_, rfl, ?_⟩
  · exact List.cons_ne_nil _ _
  · decide
  · exact rectangle_read (p := margin) rfl (List.cons_ne_nil _ _) (by decide) ∅

end Property

end FlatStyle
