import FlatStyle.Text.Character

/-!
Loops over a text. A round either asks for another one or stops. A loop that is allowed a number of
rounds gives nothing if it needs more of them. One that reads a part of the text in every round that
another round follows needs no more rounds than there are bytes left, and one.
-/

namespace FlatStyle.Grammar

open Text

inductive Turn (State : Type) where
  | again (next : State)
  | stop (last : State)

/-- What a round makes of a state, and the text that is left in a state. A round that has a loop of
its own fails if that loop does. -/
structure Loop (State : Type) where
  round : State → Option (Turn State)
  rest : State → List Char

namespace Loop

variable {State Result : Type}

def within (loop : Loop State) : Nat → State → Option State
  | 0, _ => none
  | limit + 1, state =>
      (loop.round state).bind fun
        | .again next => loop.within limit next
        | .stop last => some last

/-- Where another round follows, the round has read at least one byte. -/
def Advances (loop : Loop State) : Prop :=
  ∀ ⦃state next⦄, loop.round state = some (.again next) →
    loop.rest next <:+ loop.rest state ∧
      utf8Length (loop.rest next) < utf8Length (loop.rest state)

def Shrinks (loop : Loop State) (measure : State → Nat) : Prop :=
  ∀ ⦃state next⦄, loop.round state = some (.again next) → measure next < measure state

/-- No round fails. Where it stops, the result of the state is made of the last state; where another
round follows, the next state has the same result. -/
def Yields (loop : Loop State) (out result : State → Result) : Prop :=
  ∀ state, (∃ last, loop.round state = some (.stop last) ∧ out last = result state) ∨
    ∃ next, loop.round state = some (.again next) ∧ result next = result state

variable {loop : Loop State} {measure : State → Nat} {out result : State → Result} {limit : Nat}

theorem Yields.within_eq_some (h : loop.Yields out result) (hmeasure : loop.Shrinks measure)
    (state : State) (hlimit : measure state < limit) :
    (loop.within limit state).map out = some (result state) := by
  induction limit generalizing state with
  | zero => exact absurd hlimit (Nat.not_lt_zero _)
  | succ limit ih =>
      rw [within]
      rcases h state with ⟨last, hstop, hlast⟩ | ⟨next, hagain, hnext⟩
      · rw [hstop, Option.bind_some, Option.map_some, hlast]
      · have hless := hmeasure hagain
        rw [hagain, Option.bind_some, ih next (by omega), hnext]

theorem advances_of_length (h : ∀ ⦃state next⦄, loop.round state = some (.again next) →
    loop.rest next <:+ loop.rest state ∧ (loop.rest next).length < (loop.rest state).length) :
    loop.Advances := by
  intro state next hagain
  obtain ⟨hsuffix, hlength⟩ := h hagain
  refine ⟨hsuffix, ?_⟩
  obtain ⟨passed, hpassed⟩ := hsuffix
  have hbytes := length_le_utf8Length passed
  rw [← hpassed, List.length_append] at hlength
  rw [← hpassed, utf8Length_append]
  omega

theorem Advances.shrinks (h : loop.Advances) : loop.Shrinks (utf8Length <| loop.rest ·) :=
  fun _ _ hagain => (h hagain).2

end Loop

end FlatStyle.Grammar
