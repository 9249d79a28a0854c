import FlatStyle.Proofs.Warning.Log

/-!
The log over time. The points at which it is cleared cut the warnings that come in into periods. The
log holds the texts of the current period, and in each period it has shown the first warning of
every text.
-/

namespace FlatStyle

inductive LogEvent where
  | cleared
  | recorded (w : Warning)

/-- The warnings that came in, from one point at which the log was cleared to the next. -/
structure Periods where
  closed : List (List Warning)
  current : List Warning

namespace Periods

def start : Periods := ⟨[], []⟩

def add (p : Periods) : LogEvent → Periods
  | .cleared => ⟨p.closed ++ [p.current], []⟩
  | .recorded w => ⟨p.closed, p.current ++ [w]⟩

def ofEvents (events : List LogEvent) : Periods := events.foldl add start

def all (p : Periods) : List (List Warning) := p.closed ++ [p.current]

theorem foldl_recorded (p : Periods) (ws : List Warning) :
    (ws.map LogEvent.recorded).foldl add p = ⟨p.closed, p.current ++ ws⟩ := by
  induction ws generalizing p with
  | nil => rw [List.append_nil]; rfl
  | cons w ws ih => rw [List.map_cons, List.foldl_cons, ih, add, List.append_assoc]; rfl

end Periods

namespace Warning

/-- Of the warnings with one text the first. -/
def firsts : List Warning → List Warning
  | [] => []
  | w :: ws => w :: (firsts ws).filter (·.text ≠ w.text)

theorem firsts_concat (ws : List Warning) (w : Warning) :
    firsts (ws ++ [w]) = if w.text ∈ ws.map text then firsts ws else firsts ws ++ [w] := by
  induction ws with
  | nil => rfl
  | cons v ws ih =>
      rw [List.cons_append, firsts, firsts, ih, List.map_cons]
      by_cases hlater : w.text ∈ ws.map text
      · rw [if_pos hlater, if_pos (List.mem_cons_of_mem _ hlater)]
      · rw [if_neg hlater, List.filter_append]
        by_cases hsame : w.text = v.text
        · rw [if_pos (List.mem_cons.2 (.inl hsame)), List.filter_cons_of_neg (by simp [hsame]),
            List.filter_nil, List.append_nil]
        · rw [if_neg (List.not_mem_cons_of_ne_of_not_mem hsame hlater),
            List.filter_cons_of_pos (by simp [hsame]), List.filter_nil, List.cons_append]

theorem firsts_sublist (ws : List Warning) : (firsts ws).Sublist ws := by
  induction ws with
  | nil => exact .slnil
  | cons w ws ih => exact (List.filter_sublist.trans ih).cons_cons w

theorem mem_texts_firsts {ws : List Warning} {s : String} :
    s ∈ (firsts ws).map text ↔ s ∈ ws.map text := by
  induction ws with
  | nil => rfl
  | cons w ws ih =>
      rw [firsts, List.map_cons, List.map_cons, List.mem_cons, List.mem_cons, ← ih]
      by_cases hs : s = w.text
      · exact iff_of_true (.inl hs) (.inl hs)
      · rw [or_iff_right hs, or_iff_right hs]
        constructor
        · exact fun h => (List.filter_sublist.map text).subset h
        · intro h
          obtain ⟨v, hv, rfl⟩ := List.mem_map.1 h
          exact List.mem_map_of_mem (List.mem_filter.2 ⟨hv, by simpa using hs⟩)

theorem nodup_texts_firsts (ws : List Warning) : ((firsts ws).map text).Nodup := by
  induction ws with
  | nil => exact List.nodup_nil
  | cons w ws ih =>
      rw [firsts, List.map_cons, List.nodup_cons]
      refine ⟨fun hw => ?_, ih.sublist (List.filter_sublist.map text)⟩
      obtain ⟨v, hv, heq⟩ := List.mem_map.1 hw
      exact absurd heq (by simpa using (List.mem_filter.1 hv).2)

theorem texts_firsts_perm (ws : List Warning) :
    ((firsts ws).map text).Perm (ws.map text).dedup := by
  refine (List.perm_ext_iff_of_nodup (nodup_texts_firsts ws) (List.nodup_dedup _)).2 fun s => ?_
  rw [mem_texts_firsts, List.mem_dedup]

end Warning

namespace WarningLog

def follow (log : WarningLog) : LogEvent → WarningLog
  | .cleared => log.clear
  | .recorded w => log.record w

def shown (ws : List Warning) : List String := (Warning.firsts ws).map Warning.echo

structure Follows (log : WarningLog) (p : Periods) : Prop where
  texts : ∀ text, text ∈ log.texts ↔ text ∈ p.current.map Warning.text
  echoed : log.echoed = if log.echoing then p.all.flatMap shown else []

theorem follows_start (echoing : Bool) : (start echoing).Follows .start where
  texts _ := Iff.rfl
  echoed := by cases echoing <;> rfl

theorem shown_concat (ws : List Warning) (w : Warning) :
    shown (ws ++ [w]) = if w.text ∈ ws.map Warning.text then shown ws else shown ws ++ [w.echo] := by
  rw [shown, Warning.firsts_concat]
  split
  · rfl
  · exact List.map_append

theorem shown_add_cleared (p : Periods) :
    (p.add .cleared).all.flatMap shown = p.all.flatMap shown := by
  rw [Periods.all, List.flatMap_append]
  exact List.append_nil _

theorem shown_add_recorded (p : Periods) (w : Warning) :
    (p.add (.recorded w)).all.flatMap shown =
      if w.text ∈ p.current.map Warning.text then p.all.flatMap shown
      else p.all.flatMap shown ++ [w.echo] := by
  simp only [Periods.all, Periods.add, List.flatMap_append, List.flatMap_singleton, shown_concat]
  split
  · rfl
  · exact (List.append_assoc _ _ _).symm

theorem echoed_record {log : WarningLog} (hechoing : log.echoing = true) (w : Warning) :
    (log.record w).echoed = if w.text ∈ log.texts then log.echoed else log.echoed ++ [w.echo] := by
  have hknown : log.recorded.contains w.text = true ↔ w.text ∈ log.texts :=
    SortedMap.mem_keys_iff.symm
  by_cases hw : w.text ∈ log.texts
  · simp only [record, hechoing, hknown.2 hw, if_pos hw]
    rfl
  · simp only [record, hechoing, Bool.eq_false_iff.2 (mt hknown.1 hw), if_neg hw]
    rfl

section Step

variable {log : WarningLog} {p : Periods}

theorem Follows.clear (h : log.Follows p) : log.clear.Follows (p.add .cleared) where
  texts text := iff_of_false (log.not_mem_texts_clear text) List.not_mem_nil
  echoed := by
    rw [shown_add_cleared]
    exact h.echoed

theorem Follows.record (h : log.Follows p) (w : Warning) :
    (log.record w).Follows (p.add (.recorded w)) where
  texts text := by
    rw [mem_texts_record, h.texts, Periods.add, List.map_append, List.mem_append, or_comm]
    exact or_congr_right List.mem_singleton.symm
  echoed := by
    have hechoed := h.echoed
    have hkept : (log.record w).echoing = log.echoing := rfl
    rw [hkept]
    cases hechoing : log.echoing with
    | false => simpa [WarningLog.record, hechoing] using hechoed
    | true =>
        rw [hechoing, if_pos rfl] at hechoed
        simp only [echoed_record hechoing, shown_add_recorded, h.texts, hechoed, if_true]

theorem Follows.follow (h : log.Follows p) (event : LogEvent) :
    (log.follow event).Follows (p.add event) := by
  cases event with
  | cleared => exact h.clear
  | recorded w => exact h.record w

theorem Follows.foldl (h : log.Follows p) (events : List LogEvent) :
    (events.foldl WarningLog.follow log).Follows (events.foldl Periods.add p) := by
  induction events generalizing log p with
  | nil => exact h
  | cons event events ih => exact ih (h.follow event)

end Step

theorem echoing_follow (log : WarningLog) (event : LogEvent) :
    (log.follow event).echoing = log.echoing := by
  cases event <;> rfl

theorem echoing_foldl (log : WarningLog) (events : List LogEvent) :
    (events.foldl follow log).echoing = log.echoing := by
  induction events generalizing log with
  | nil => rfl
  | cons event events ih => rw [List.foldl_cons, ih, echoing_follow]

theorem foldl_recorded (log : WarningLog) (ws : List Warning) :
    (ws.map LogEvent.recorded).foldl follow log = log.recordAll ws :=
  List.foldl_map

end WarningLog

end FlatStyle
