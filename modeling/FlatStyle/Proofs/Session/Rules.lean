import FlatStyle.Proofs.Session.History
import FlatStyle.Proofs.Stylesheet.Printing

namespace FlatStyle

open Text Stylesheet

/-- A text that is not empty and that neither trimming nor lower case changes. -/
structure Text.Tidy (s : List Char) : Prop where
  ne_nil : s ≠ []
  trim_eq : trim s = s
  lower_eq : lower s = s

structure Rule.WellFormed (r : Rule) : Prop where
  selector : Text.Tidy r.selector.toList
  comma : ',' ∉ r.selector.toList
  lastWord : ∃ word, LastWord r.selector.toList word
  declaration : Text.Tidy r.declaration.toList

/-- Neither text of the rule holds a character that would have ended it in a style text. -/
structure Rule.Closed (r : Rule) : Prop where
  selector : Unmarked r.selector.toList
  declaration : '}' ∉ r.declaration.toList

namespace Text.Normal

variable {s : List Char} (h : Normal s)

include h

theorem tidy : Tidy s := ⟨h.ne_nil, h.trim_eq, h.lower_eq⟩

theorem exists_lastWord : ∃ word, LastWord s word := by
  cases hword : lastWord? s with
  | none =>
      have hnil : trim s = [] := trim_eq_nil_iff.2 (lastWord?_eq_none_iff.1 hword)
      rw [h.trim_eq] at hnil
      exact absurd hnil h.ne_nil
  | some word => exact ⟨word, lastWord?_eq_some_iff.1 hword⟩

end Text.Normal

theorem Rule.Stored.wellFormed {r : Rule} (h : r.Stored) : r.WellFormed :=
  ⟨h.selector.tidy, h.comma, h.selector.exists_lastWord, h.declaration.tidy⟩

namespace Session

def Command.isRegister : Command → Bool
  | .register _ _ => true
  | _ => false

theorem Command.normal_rules {c : Command} (hc : c.isRegister = false) :
    ∀ r ∈ c.rules, r.Normal := by
  cases c with
  | register selectors declaration => cases hc
  | addText css => exact Sheet.normal_ofBare css.toList
  | readText css => exact Sheet.normal_ofBare (stripComments css.toList)
  | readDocument d => exact d.normal_sheetBelow d.size Document.root
  | reset | computeStyles | warn | takeWarnings | clearWarnings => exact nofun

theorem Command.stored_rules (c : Command) : ∀ r ∈ c.rules, r.Stored := by
  cases hc : c.isRegister with
  | true =>
      cases c with
      | register selectors declaration => exact fun r hr => Rule.stored_of_mem_ofBlock hr
      | _ => cases hc
  | false => exact fun r hr => (Command.normal_rules hc r hr).stored

theorem stored_rules_run (echoing : Bool) (history : List Command) :
    ∀ r ∈ ((start echoing).run history).index.rules, r.Stored :=
  forall_rules_run nofun fun c _ => c.stored_rules

/-- Every run leaves well-formed rules. If nothing was registered, they hold no character that ends
a selector or a block. Registering a block and adding a text keep all earlier rules in front. -/
theorem run_wellFormed (echoing : Bool) (history : List Command) :
    (∀ r ∈ ((start echoing).run history).index.rules, r.WellFormed) ∧
    ((∀ c ∈ history, c.isRegister = false) →
      ∀ r ∈ ((start echoing).run history).index.rules, r.Closed) ∧
    ∀ s : Session,
      (∀ selectors declaration : String,
        s.index.rules <+: (s.register selectors declaration).index.rules) ∧
      ∀ css : String, s.index.rules <+: (s.addText css).index.rules := by
  refine ⟨?_, ?_, fun s => ⟨?_, ?_⟩⟩
  · exact fun r hr => (stored_rules_run echoing history r hr).wellFormed
  · intro hhistory r hr
    have hnormal : r.Normal := by
      refine forall_rules_run nofun (fun c hc => ?_) r hr
      exact Command.normal_rules (hhistory c hc)
    exact ⟨hnormal.unmarked, hnormal.unclosed⟩
  · exact fun selectors declaration => s.prefix_rules_step (c := .register selectors declaration) rfl
  · exact fun css => s.prefix_rules_step (c := .addText css) rfl

def mixedHistory : List Command :=
  [.addText "@m;H1,, .Q \x7bColor: RED\n\x7du\x7b\x7dV\x7btop: 1", .warn ⟨"CSS", "x"⟩,
    .computeStyles ∅, .addText "A  B\x7b X : Y \x7d", .takeWarnings]

theorem mixedHistory_wellFormed :
    (∀ c ∈ mixedHistory, c.isRegister = false) ∧
      ((start true).run mixedHistory).index.rules =
        [⟨"h1", "color: red"⟩, ⟨".q", "color: red"⟩, ⟨"v", "top: 1"⟩, ⟨"a  b", "x : y"⟩] ∧
      ∀ r ∈ ((start true).run mixedHistory).index.rules, r.Closed := by
  have hread : ∀ c ∈ mixedHistory, c.isRegister = false := by decide
  refine ⟨hread, by decide +kernel, ?_⟩
  exact (run_wellFormed true mixedHistory).2.1 hread

end Session

end FlatStyle
