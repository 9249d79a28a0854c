import FlatStyle.Proofs.Text.Split
import FlatStyle.Stylesheet.Item
import Mathlib.Data.List.TakeWhile
import Mathlib.Logic.ExistsUnique

/-!
The layout of a style text: items one after another, each with the character that closes it, and a
tail in which at most one item is left open. Every text has exactly one layout, and cutting a text
into items gives those of its layout.
-/

namespace FlatStyle.Stylesheet

open Text

inductive ItemKind where
  | atRule
  | rule
  deriving DecidableEq

namespace ItemKind

def opener : ItemKind → Char
  | .atRule => '@'
  | .rule => '{'

def closer : ItemKind → Char
  | .atRule => ';'
  | .rule => '}'

theorem opener_injective {k l : ItemKind} (h : k.opener = l.opener) : k = l := by
  cases k <;> cases l <;> first | rfl | (revert h; decide)

end ItemKind

/-- A text in which no item begins. -/
def Unmarked (s : List Char) : Prop := '{' ∉ s ∧ '@' ∉ s

/-- What an item is made of: the text before the character that opens it, and the text from there
to the character that closes it or to the end. -/
structure Piece where
  kind : ItemKind
  front : List Char
  body : List Char
  unmarked : Unmarked front
  unclosed : kind.closer ∉ body

namespace Piece

def openChars (p : Piece) : List Char := p.front ++ p.kind.opener :: p.body

def chars (p : Piece) : List Char := p.openChars ++ [p.kind.closer]

def item (p : Piece) : Item :=
  match p.kind with
  | .atRule => .atRule ('@' :: p.body)
  | .rule => .rule p.front p.body

end Piece

inductive Tail where
  | plain (text : List Char) (unmarked : Unmarked text)
  | unclosed (piece : Piece)

namespace Tail

def chars : Tail → List Char
  | .plain text _ => text
  | .unclosed piece => piece.openChars

def pieces : Tail → List Piece
  | .plain _ _ => []
  | .unclosed piece => [piece]

end Tail

structure Layout where
  closed : List Piece
  tail : Tail

namespace Layout

def chars (l : Layout) : List Char := l.closed.flatMap Piece.chars ++ l.tail.chars

def text (l : Layout) : String := String.ofList l.chars

def pieces (l : Layout) : List Piece := l.closed ++ l.tail.pieces

end Layout

theorem isItemMark_iff {c : Char} : isItemMark c = true ↔ ∃ kind : ItemKind, kind.opener = c := by
  constructor
  · intro h
    rcases Bool.or_eq_true_iff.1 h with h | h
    · exact ⟨.rule, (eq_of_beq h).symm⟩
    · exact ⟨.atRule, (eq_of_beq h).symm⟩
  · rintro ⟨kind, rfl⟩
    cases kind with
    | atRule => rfl
    | rule => rfl

theorem unmarked_iff {s : List Char} : Unmarked s ↔ ∀ c ∈ s, (!isItemMark c) = true := by
  constructor
  · rintro ⟨hbrace, hat⟩ c hc
    rw [Bool.not_eq_true', Bool.eq_false_iff]
    intro hmark
    obtain ⟨kind, rfl⟩ := isItemMark_iff.1 hmark
    cases kind with
    | atRule => exact hat hc
    | rule => exact hbrace hc
  · intro h
    exact ⟨fun hbrace => absurd (h _ hbrace) (by decide), fun hat => absurd (h _ hat) (by decide)⟩

section Piece

variable {p q : Piece} {s t : List Char}

/-- What may follow an item: nothing, or the character that closes it. -/
def Piece.Ends (p : Piece) (s : List Char) : Prop := ∀ c ∈ s.head?, c = p.kind.closer

theorem Piece.ends_nil : p.Ends [] := nofun

theorem Piece.ends_closer : p.Ends (p.kind.closer :: s) := fun _ hc => (Option.some.inj hc).symm

theorem Piece.not_isItemMark_opener (p : Piece) (s : List Char) :
    ∀ c ∈ (p.kind.opener :: s).head?, (!isItemMark c) = false := by
  intro c hc
  rw [Bool.not_eq_false', isItemMark_iff]
  exact ⟨p.kind, Option.some.inj hc⟩

theorem Piece.takeWhile_front (p : Piece) (s : List Char) :
    (p.openChars ++ s).takeWhile (!isItemMark ·) = p.front := by
  rw [openChars, List.append_assoc]
  exact takeWhile_run (unmarked_iff.1 p.unmarked) (p.not_isItemMark_opener _)

theorem Piece.dropWhile_front (p : Piece) (s : List Char) :
    (p.openChars ++ s).dropWhile (!isItemMark ·) = p.kind.opener :: (p.body ++ s) := by
  rw [openChars, List.append_assoc]
  exact dropWhile_run (unmarked_iff.1 p.unmarked) (p.not_isItemMark_opener _)

theorem Piece.body_bne_closer (p : Piece) : ∀ c ∈ p.body, (c != p.kind.closer) = true := by
  intro c hc
  rw [bne_iff_ne]
  rintro rfl
  exact p.unclosed hc

theorem Piece.Ends.bne_closer (h : p.Ends s) : ∀ c ∈ s.head?, (c != p.kind.closer) = false := by
  intro c hc
  rw [h c hc]
  exact bne_self_eq_false _

theorem Piece.takeWhile_body (h : p.Ends s) :
    (p.body ++ s).takeWhile (· != p.kind.closer) = p.body :=
  takeWhile_run p.body_bne_closer h.bne_closer

theorem Piece.dropWhile_body (h : p.Ends s) :
    (p.body ++ s).dropWhile (· != p.kind.closer) = s :=
  dropWhile_run p.body_bne_closer h.bne_closer

theorem Piece.openChars_append_inj (hs : p.Ends s) (ht : q.Ends t)
    (h : p.openChars ++ s = q.openChars ++ t) : p = q ∧ s = t := by
  have hfront := congrArg (List.takeWhile (!isItemMark ·)) h
  rw [takeWhile_front, takeWhile_front] at hfront
  have hrest := congrArg (List.dropWhile (!isItemMark ·)) h
  rw [dropWhile_front, dropWhile_front] at hrest
  obtain ⟨hopener, hbody⟩ := List.cons.inj hrest
  have hkind := ItemKind.opener_injective hopener
  rcases p with ⟨kind, front, body, _, _⟩
  rcases q with ⟨kind', front', body', _, _⟩
  cases hkind
  cases hfront
  have htake := congrArg (List.takeWhile (· != kind.closer)) hbody
  rw [takeWhile_body hs, takeWhile_body ht] at htake
  have hdrop := congrArg (List.dropWhile (· != kind.closer)) hbody
  rw [dropWhile_body hs, dropWhile_body ht] at hdrop
  cases htake
  exact ⟨rfl, hdrop⟩

theorem Piece.chars_append (p : Piece) (s : List Char) :
    p.chars ++ s = p.openChars ++ p.kind.closer :: s := by
  rw [chars, List.append_assoc, List.singleton_append]

theorem Piece.openChars_ne_unmarked (hs : Unmarked s) : p.openChars ++ t ≠ s := by
  rintro rfl
  have hopener : p.kind.opener ∈ p.openChars ++ t :=
    List.mem_append_left t (List.mem_append_right p.front List.mem_cons_self)
  have hmark := unmarked_iff.1 hs _ hopener
  rw [isItemMark_iff.2 ⟨p.kind, rfl⟩] at hmark
  cases hmark

theorem exists_piece (s : List Char) :
    Unmarked s ∨ (∃ p : Piece, s = p.openChars) ∨ ∃ p : Piece, ∃ rest, s = p.chars ++ rest := by
  cases hfind : s.find? isItemMark with
  | none =>
      refine .inl (unmarked_iff.2 fun c hc => ?_)
      exact congrArg not (Bool.eq_false_iff.2 (List.find?_eq_none.1 hfind c hc))
  | some c =>
      obtain ⟨hmark, front, after, rfl, hfront⟩ := List.find?_eq_some_iff_append.1 hfind
      obtain ⟨kind, rfl⟩ := isItemMark_iff.1 hmark
      by_cases hcloser : kind.closer ∈ after
      · obtain ⟨body, rest, rfl, hbody⟩ := List.eq_append_cons_of_mem hcloser
        refine .inr (.inr ⟨⟨kind, front, body, unmarked_iff.2 hfront, hbody⟩, rest, ?_⟩)
        rw [Piece.chars_append, Piece.openChars, List.append_assoc, List.cons_append]
      · exact .inr (.inl ⟨⟨kind, front, after, unmarked_iff.2 hfront, hcloser⟩, rfl⟩)

end Piece

theorem Tail.chars_injective {t u : Tail} (h : t.chars = u.chars) : t = u := by
  cases t with
  | plain text htext =>
      cases u with
      | plain text' _ =>
          have heq : text = text' := h
          subst heq
          rfl
      | unclosed q =>
          refine absurd h.symm ?_
          simpa only [Tail.chars, List.append_nil] using q.openChars_ne_unmarked (t := []) htext
  | unclosed p =>
      cases u with
      | plain _ htext =>
          refine absurd h ?_
          simpa only [Tail.chars, List.append_nil] using p.openChars_ne_unmarked (t := []) htext
      | unclosed q =>
          have hchars : p.openChars ++ [] = q.openChars ++ [] := congrArg (· ++ []) h
          rw [(Piece.openChars_append_inj Piece.ends_nil Piece.ends_nil hchars).1]

theorem Tail.chars_ne_closed (t : Tail) (p : Piece) (s : List Char) : t.chars ≠ p.chars ++ s := by
  rw [Piece.chars_append]
  cases t with
  | plain _ htext => exact (p.openChars_ne_unmarked htext).symm
  | unclosed q =>
      intro h
      have hchars : q.openChars ++ [] = p.openChars ++ p.kind.closer :: s :=
        (List.append_nil _).trans h
      cases (Piece.openChars_append_inj Piece.ends_nil Piece.ends_closer hchars).2

namespace Layout

theorem chars_cons (p : Piece) (closed : List Piece) (tail : Tail) :
    chars ⟨p :: closed, tail⟩ = p.chars ++ chars ⟨closed, tail⟩ := by
  rw [chars, chars, List.flatMap_cons, List.append_assoc]

theorem chars_injective {l m : Layout} (h : l.chars = m.chars) : l = m := by
  obtain ⟨closed, tail⟩ := l
  obtain ⟨closed', tail'⟩ := m
  induction closed generalizing closed' with
  | nil =>
      cases closed' with
      | nil =>
          have htail : tail = tail' := Tail.chars_injective h
          rw [htail]
      | cons q closed' =>
          rw [chars_cons] at h
          exact absurd h (tail.chars_ne_closed q _)
  | cons p closed ih =>
      rw [chars_cons] at h
      cases closed' with
      | nil => exact absurd h.symm (tail'.chars_ne_closed p _)
      | cons q closed' =>
          rw [chars_cons, Piece.chars_append, Piece.chars_append] at h
          obtain ⟨rfl, hrest⟩ := Piece.openChars_append_inj Piece.ends_closer Piece.ends_closer h
          cases ih closed' (List.cons.inj hrest).2
          rfl

theorem exists_chars_eq (s : List Char) : ∃ l : Layout, l.chars = s := by
  rcases exists_piece s with hs | ⟨p, rfl⟩ | ⟨p, rest, hp⟩
  · exact ⟨⟨[], .plain s hs⟩, rfl⟩
  · exact ⟨⟨[], .unclosed p⟩, rfl⟩
  · obtain ⟨⟨closed, tail⟩, hrest⟩ := exists_chars_eq rest
    exact ⟨⟨p :: closed, tail⟩, by rw [chars_cons, hrest, hp]⟩
termination_by s.length
decreasing_by
  rw [hp, Piece.chars, List.length_append, List.length_append, List.length_singleton]
  omega

theorem existsUnique_text (css : String) : ∃! l : Layout, l.text = css := by
  obtain ⟨l, hl⟩ := exists_chars_eq css.toList
  refine ⟨l, ?_, ?_⟩
  · exact (congrArg String.ofList hl).trans String.ofList_toList
  · rintro m rfl
    rw [text, String.toList_ofList] at hl
    exact (chars_injective hl).symm

end Layout

theorem nextItem?_piece {p : Piece} {rest : List Char} (h : p.Ends rest) :
    nextItem? (p.openChars ++ rest) = some (p.item, rest.drop 1) := by
  have htake := Piece.takeWhile_body h
  have hdrop := Piece.dropWhile_body h
  rw [nextItem?, p.dropWhile_front, p.takeWhile_front, Piece.item]
  cases hkind : p.kind with
  | atRule =>
      rw [hkind] at htake hdrop
      exact congrArg₂ (fun body after => some (Item.atRule ('@' :: body), after.drop 1)) htake hdrop
  | rule =>
      rw [hkind] at htake hdrop
      exact congrArg₂ (fun body after => some (Item.rule p.front body, after.drop 1)) htake hdrop

theorem nextItem?_unmarked {s : List Char} (h : Unmarked s) : nextItem? s = none := by
  rw [nextItem?, List.dropWhile_eq_nil_iff.2 (unmarked_iff.1 h)]

theorem items_eq_nil {s : List Char} (h : nextItem? s = none) : items s = [] := by
  unfold items
  split
  · rfl
  · rename_i heq
    rw [h] at heq
    cases heq

theorem items_eq_cons {s rest : List Char} {item : Item} (h : nextItem? s = some (item, rest)) :
    items s = item :: items rest := by
  rw [items]
  split
  · rename_i heq
    rw [h] at heq
    cases heq
  · rename_i heq
    rw [h] at heq
    cases heq
    rfl

theorem items_tail (t : Tail) : items t.chars = t.pieces.map Piece.item := by
  cases t with
  | plain text h => exact items_eq_nil (nextItem?_unmarked h)
  | unclosed p =>
      have hnext := nextItem?_piece (Piece.ends_nil (p := p))
      rw [List.append_nil] at hnext
      exact (items_eq_cons hnext).trans (congrArg _ (items_eq_nil rfl))

theorem items_closed_append (closed : List Piece) (rest : List Char) :
    items (closed.flatMap Piece.chars ++ rest) = closed.map Piece.item ++ items rest := by
  induction closed with
  | nil => rfl
  | cons p closed ih =>
      rw [List.flatMap_cons, List.append_assoc, Piece.chars_append,
        items_eq_cons (nextItem?_piece Piece.ends_closer), List.drop_one, List.tail_cons, ih]
      rfl

/-- Cutting a text into items undoes its layout. -/
theorem items_layout (l : Layout) : items l.chars = l.pieces.map Piece.item := by
  rw [Layout.chars, Layout.pieces, items_closed_append, items_tail, List.map_append]

end FlatStyle.Stylesheet
