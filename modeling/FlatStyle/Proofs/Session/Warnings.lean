import FlatStyle.Proofs.Session.History
import FlatStyle.Proofs.Text.ByteOrder
import FlatStyle.Proofs.Warning.Periods

namespace FlatStyle.Session

def Command.events : Command → List LogEvent
  | .reset | .register _ _ => []
  | .addText css => (Sheet.ofBare css.toList).warnings.map .recorded
  | .readText css => (Sheet.ofText css.toList).warnings.map .recorded
  | .readDocument d | .computeStyles d => .cleared :: d.sheet.warnings.map .recorded
  | .warn w => [.recorded w]
  | .takeWarnings | .clearWarnings => [.cleared]

theorem log_step (s : Session) (c : Command) :
    (s.step c).log = c.events.foldl WarningLog.follow s.log := by
  cases c with
  | reset => rfl
  | register selectors declaration => rfl
  | addText css => exact (WarningLog.foldl_recorded s.log _).symm
  | readText css => exact (WarningLog.foldl_recorded s.log _).symm
  | readDocument d => exact (WarningLog.foldl_recorded s.log.clear _).symm
  | computeStyles d => exact (WarningLog.foldl_recorded s.log.clear _).symm
  | warn w => rfl
  | takeWarnings => rfl
  | clearWarnings => rfl

theorem log_run (s : Session) (history : List Command) :
    (s.run history).log = (history.flatMap Command.events).foldl WarningLog.follow s.log := by
  induction history generalizing s with
  | nil => rfl
  | cons c history ih => rw [run_cons, ih, log_step, List.flatMap_cons, List.foldl_append]

/-- The warnings of a history, cut at the points where they are taken or cleared or where a document
is read. -/
def periods (history : List Command) : Periods := .ofEvents (history.flatMap Command.events)

theorem follows_run (echoing : Bool) (history : List Command) :
    ((start echoing).run history).log.Follows (periods history) := by
  rw [log_run]
  exact (WarningLog.follows_start echoing).foldl _

theorem echoing_run (echoing : Bool) (history : List Command) :
    ((start echoing).run history).log.echoing = echoing := by
  rw [log_run, WarningLog.echoing_foldl]
  rfl

theorem periods_readDocument (d : Document) :
    periods [.readDocument d] = ⟨[[]], d.sheet.warnings⟩ := by
  rw [periods, List.flatMap_singleton]
  exact Periods.foldl_recorded _ _

theorem echoed_readDocument (echoing : Bool) (d : Document) :
    ((start echoing).readDocument d).log.echoed =
      if echoing then (Warning.firsts d.sheet.warnings).map Warning.echo else [] := by
  have hfollows := follows_run echoing [.readDocument d]
  change ((start echoing).run [.readDocument d]).log.echoed = _
  rw [hfollows.echoed, echoing_run, periods_readDocument]
  simp [Periods.all, WarningLog.shown, Warning.firsts]

theorem sorted_texts (log : WarningLog) : log.texts.Pairwise (· < ·) :=
  List.pairwise_map.2 log.recorded.sorted

theorem texts_readDocument (s t : Session) (d : Document) :
    (s.readDocument d).log.texts = (t.readDocument d).log.texts := by
  have hs := WarningLog.texts_recordAll_clear s.log d.sheet.warnings
  have ht := WarningLog.texts_recordAll_clear t.log d.sheet.warnings
  refine (hs.trans ht.symm).eq_of_pairwise ?_ (sorted_texts _) (sorted_texts _)
  exact fun a b _ _ hab hba => absurd hab (lt_asymm hba)

theorem texts_computeStyles (s t : Session) (d : Document) :
    (s.computeStyles d).2.log.texts = (t.readDocument d).log.texts := texts_readDocument s t d

theorem texts_iterate_computeStyles (s t : Session) (d : Document) (n : Nat) :
    ((fun u : Session => (u.computeStyles d).2)^[n + 1] s).log.texts =
      (t.readDocument d).log.texts := by
  rw [Function.iterate_succ_apply']
  exact texts_computeStyles _ t d

/-- After any history the warnings taken are those of the current period, each text once and in the
order of the bytes, and none is left. A log that shows its warnings has shown the first warning of
every text of each period. So a document leaves the same warnings whatever came before it and
however often its styles are computed. -/
theorem takeWarnings_run (echoing : Bool) (history : List Command) :
    let s := (start echoing).run history
    (s.takeWarnings.1.Pairwise fun a b => Text.bytes a < Text.bytes b) ∧
    (∀ text, text ∈ s.takeWarnings.1 ↔ ∃ w ∈ (periods history).current, w.text = text) ∧
    s.takeWarnings.2.takeWarnings.1 = [] ∧
    s.log.echoed =
      (if echoing then
        (periods history).all.flatMap fun ws => (Warning.firsts ws).map Warning.echo
      else []) ∧
    (∀ ws ∈ (periods history).all, (Warning.firsts ws).Sublist ws ∧
      ((Warning.firsts ws).map Warning.text).Perm (ws.map Warning.text).dedup) ∧
    ∀ (d : Document) (t : Session),
      (t.readDocument d).takeWarnings.1 = (s.readDocument d).takeWarnings.1 ∧
      ∀ n, ((fun u : Session => (u.computeStyles d).2)^[n + 1] t).takeWarnings.1 =
        (s.readDocument d).takeWarnings.1 := by
  intro s
  have hfollows : s.log.Follows (periods history) := follows_run echoing history
  refine ⟨?_, ?_, rfl, ?_, ?_, ?_⟩
  · exact (sorted_texts s.log).imp Text.bytes_lt
  · exact fun text => (hfollows.texts text).trans List.mem_map
  · rw [hfollows.echoed, echoing_run]
    rfl
  · exact fun ws _ => ⟨Warning.firsts_sublist ws, Warning.texts_firsts_perm ws⟩
  · exact fun d t => ⟨texts_readDocument t s d, texts_iterate_computeStyles t s d⟩

end FlatStyle.Session
