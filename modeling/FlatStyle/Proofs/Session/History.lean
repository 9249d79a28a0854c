import FlatStyle.Session

/-!
Histories of a session: commands one after another. A command keeps or discards the rules that are
there and then adds its own; all that a run can leave in the index comes from one of its commands.
-/

namespace FlatStyle.Session

inductive Command where
  | reset
  | register (selectors declaration : String)
  | addText (css : String)
  | readText (css : String)
  | readDocument (d : Document)
  | computeStyles (d : Document)
  | warn (w : Warning)
  | takeWarnings
  | clearWarnings

def step (s : Session) : Command → Session
  | .reset => s.reset
  | .register selectors declaration => s.register selectors declaration
  | .addText css => s.addText css
  | .readText css => s.readText css
  | .readDocument d => s.readDocument d
  | .computeStyles d => (s.computeStyles d).2
  | .warn w => s.warn w
  | .takeWarnings => s.takeWarnings.2
  | .clearWarnings => s.clearWarnings

def run (s : Session) (history : List Command) : Session := history.foldl step s

@[simp] theorem run_nil (s : Session) : s.run [] = s := rfl

@[simp] theorem run_cons (s : Session) (c : Command) (history : List Command) :
    s.run (c :: history) = (s.step c).run history := rfl

namespace Command

def rules : Command → List Rule
  | .register selectors declaration => Rule.ofBlock selectors.toList declaration.toList
  | .addText css => (Sheet.ofBare css.toList).rules
  | .readText css => (Sheet.ofText css.toList).rules
  | .readDocument d => d.sheet.rules
  | _ => []

def discards : Command → Bool
  | .reset | .readText _ | .readDocument _ => true
  | _ => false

end Command

theorem rules_step (s : Session) (c : Command) :
    (s.step c).index.rules = (if c.discards then [] else s.index.rules) ++ c.rules := by
  cases c with
  | reset => rfl
  | register selectors declaration => rfl
  | addText css => rfl
  | readText css => rfl
  | readDocument d => rfl
  | computeStyles d => exact (List.append_nil _).symm
  | warn w => exact (List.append_nil _).symm
  | takeWarnings => exact (List.append_nil _).symm
  | clearWarnings => exact (List.append_nil _).symm

theorem prefix_rules_step (s : Session) {c : Command} (hc : c.discards = false) :
    s.index.rules <+: (s.step c).index.rules := by
  rw [rules_step, hc]
  exact List.prefix_append _ _

theorem forall_rules_step {P : Rule → Prop} {s : Session} {c : Command}
    (hs : ∀ r ∈ s.index.rules, P r) (hc : ∀ r ∈ c.rules, P r) :
    ∀ r ∈ (s.step c).index.rules, P r := by
  rw [rules_step, List.forall_mem_append]
  refine ⟨?_, hc⟩
  cases c.discards with
  | true => exact nofun
  | false => exact hs

/-- What holds of the rules of a session and of those that the commands add holds of all rules that
the run leaves. -/
theorem forall_rules_run {P : Rule → Prop} {s : Session} {history : List Command}
    (hs : ∀ r ∈ s.index.rules, P r) (hhistory : ∀ c ∈ history, ∀ r ∈ c.rules, P r) :
    ∀ r ∈ (s.run history).index.rules, P r := by
  induction history generalizing s with
  | nil => exact hs
  | cons c history ih =>
      obtain ⟨hc, hhistory⟩ := List.forall_mem_cons.1 hhistory
      exact ih (forall_rules_step hs hc) hhistory

end FlatStyle.Session
