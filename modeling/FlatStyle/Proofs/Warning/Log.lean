import FlatStyle.Proofs.SortedMap.Keys
import FlatStyle.Warning
import Mathlib.Data.List.Dedup

namespace FlatStyle

theorem Warning.text_eq_append {component start start' middle : String}
    (h : "[" ++ component ++ "] " ++ start = start') (stop : String) :
    text ⟨component, start ++ middle ++ stop⟩ = start' ++ middle ++ stop := by
  rw [text, ← h]
  simp only [String.append_assoc]

namespace WarningLog

theorem mem_texts_record {log : WarningLog} {w : Warning} {text : String} :
    text ∈ (log.record w).texts ↔ text = w.text ∨ text ∈ log.texts :=
  SortedMap.mem_keys_insert

theorem mem_texts_recordAll {log : WarningLog} {ws : List Warning} {text : String} :
    text ∈ (log.recordAll ws).texts ↔ text ∈ log.texts ∨ text ∈ ws.map Warning.text := by
  induction ws generalizing log with
  | nil => exact (or_iff_left List.not_mem_nil).symm
  | cons w ws ih =>
      have hrun : text ∈ (log.recordAll (w :: ws)).texts ↔
          text ∈ (log.record w).texts ∨ text ∈ ws.map Warning.text := ih
      rw [hrun, mem_texts_record, List.map_cons, List.mem_cons, or_comm (a := text = w.text),
        or_assoc]

theorem nodup_texts (log : WarningLog) : log.texts.Nodup := log.recorded.nodup_keys

theorem not_mem_texts_clear (log : WarningLog) (text : String) : text ∉ log.clear.texts :=
  List.not_mem_nil

theorem texts_recordAll_clear (log : WarningLog) (ws : List Warning) :
    (log.clear.recordAll ws).texts.Perm (ws.map Warning.text).dedup := by
  refine (List.perm_ext_iff_of_nodup (nodup_texts _) (List.nodup_dedup _)).2 fun text => ?_
  rw [mem_texts_recordAll, List.mem_dedup, or_iff_right (log.not_mem_texts_clear text)]

end WarningLog

end FlatStyle
