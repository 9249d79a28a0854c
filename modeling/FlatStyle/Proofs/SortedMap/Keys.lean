import FlatStyle.SortedMap

namespace FlatStyle.SortedMap

variable {κ β : Type} [LT κ] [DecidableEq κ]

theorem mem_keys_iff {m : SortedMap κ β} {key : κ} : key ∈ m.keys ↔ (m.get? key).isSome := by
  rw [keys, List.mem_map, get?, List.lookup_isSome_iff]
  constructor
  · rintro ⟨e, he, rfl⟩
    exact ⟨e, he, beq_self_eq_true e.1⟩
  · rintro ⟨e, he, hkey⟩
    exact ⟨e, he, (eq_of_beq hkey).symm⟩

variable [DecidableLT κ] [LE κ] [Std.IsLinearOrder κ] [Std.LawfulOrderLT κ]

omit [DecidableEq κ] [DecidableLT κ] [Std.IsLinearOrder κ] in
theorem nodup_keys (m : SortedMap κ β) : m.keys.Nodup := by
  refine List.pairwise_map.2 (m.sorted.imp ?_)
  intro e f hlt heq
  rw [heq] at hlt
  exact Std.lt_irrefl hlt

theorem mem_keys_insert {m : SortedMap κ β} {key key' : κ} {value : β} :
    key' ∈ (m.insert key value).keys ↔ key' = key ∨ key' ∈ m.keys := by
  rw [mem_keys_iff, mem_keys_iff, get?_insert]
  by_cases hkey : key' = key
  · rw [if_pos hkey]
    exact iff_of_true rfl (.inl hkey)
  · rw [if_neg hkey, or_iff_right hkey]

theorem mem_keys_insertAll {m : SortedMap κ β} {es : List (κ × β)} {key : κ} :
    key ∈ (m.insertAll es).keys ↔ key ∈ m.keys ∨ key ∈ es.map (·.1) := by
  induction es generalizing m with
  | nil => exact (or_iff_left List.not_mem_nil).symm
  | cons e es ih =>
      rw [insertAll_cons, ih, mem_keys_insert, List.map_cons, List.mem_cons,
        or_comm (a := key = e.1), or_assoc]

theorem mem_keys_ofList {es : List (κ × β)} {key : κ} :
    key ∈ (ofList es).keys ↔ key ∈ es.map (·.1) := by
  rw [ofList, mem_keys_insertAll]
  exact or_iff_right List.not_mem_nil

section Erase

omit [DecidableLT κ] [LE κ] [Std.IsLinearOrder κ] [Std.LawfulOrderLT κ]

def erase (m : SortedMap κ β) (key : κ) : SortedMap κ β :=
  ⟨m.entries.filter (·.1 ≠ key), m.sorted.filter _⟩

omit [LT κ] in
theorem lookup_filter_ne (es : List (κ × β)) (key key' : κ) :
    (es.filter (·.1 ≠ key)).lookup key' = if key' = key then none else es.lookup key' := by
  induction es with
  | nil => simp
  | cons e es ih =>
      by_cases he : e.1 = key
      · rw [List.filter_cons_of_neg (by simpa using he), ih, lookup_cons_eq_ite]
        split
        · rfl
        · rename_i hkey
          rw [if_neg fun heq => hkey (heq.trans he)]
      · rw [List.filter_cons_of_pos (by simpa using he), lookup_cons_eq_ite, lookup_cons_eq_ite, ih]
        by_cases hkey : key' = e.1
        · rw [if_pos hkey, if_pos hkey, if_neg fun heq => he (hkey.symm.trans heq)]
        · rw [if_neg hkey, if_neg hkey]

@[simp] theorem get?_erase (m : SortedMap κ β) (key key' : κ) :
    (m.erase key).get? key' = if key' = key then none else m.get? key' :=
  lookup_filter_ne m.entries key key'

end Erase

end FlatStyle.SortedMap
