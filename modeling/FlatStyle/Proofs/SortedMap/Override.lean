import FlatStyle.SortedMap
import Mathlib.Data.List.Nodup

/-!
One map laid over another: a key of the upper map hides the same key of the lower one. Every run of
insertions is such an overlay, so that what it writes does not depend on the map it starts from.
-/

namespace FlatStyle.SortedMap

variable {κ β : Type} [LT κ] [DecidableEq κ] [DecidableLT κ] [LE κ] [Std.IsLinearOrder κ]
  [Std.LawfulOrderLT κ]

/-- The lower map with the entries of the upper one put over it. -/
def override (lower upper : SortedMap κ β) : SortedMap κ β := lower.insertAll upper.toList

theorem get?_insertAll (m : SortedMap κ β) (es : List (κ × β)) (key : κ) :
    (m.insertAll es).get? key = ((ofList es).get? key).or (m.get? key) := by
  induction es generalizing m with
  | nil => rfl
  | cons e es ih =>
      have hempty : (insert (∅ : SortedMap κ β) e.1 e.2).get? key =
          if key = e.1 then some e.2 else none := get?_insert _ _ _ _
      rw [ofList, insertAll_cons, insertAll_cons, ih, ih (insert ∅ e.1 e.2), get?_insert, hempty,
        Option.or_assoc]
      by_cases hkey : key = e.1
      · rw [if_pos hkey, if_pos hkey, Option.some_or]
      · rw [if_neg hkey, if_neg hkey, Option.none_or]

theorem get?_ofList_of_sorted {es : List (κ × β)} (h : es.Pairwise (·.1 < ·.1)) (key : κ) :
    (ofList es).get? key = es.lookup key := by
  induction es with
  | nil => rfl
  | cons e es ih =>
      obtain ⟨he, hes⟩ := List.pairwise_cons.1 h
      rw [ofList, insertAll_cons, get?_insertAll, get?_insert, ih hes, lookup_cons_eq_ite]
      by_cases hkey : key = e.1
      · subst hkey
        rw [lookup_eq_none_of_lt he, Option.none_or, if_pos rfl, if_pos rfl]
      · rw [if_neg hkey, if_neg hkey, get?_empty, Option.or_none]

theorem get?_ofList (es : List (κ × β)) (key : κ) :
    (ofList es).get? key = es.reverse.lookup key := by
  induction es with
  | nil => rfl
  | cons e es ih =>
      rw [ofList, insertAll_cons, get?_insertAll, ih, get?_insert, List.reverse_cons,
        List.lookup_append, lookup_cons_eq_ite]
      rfl

@[simp] theorem get?_override (lower upper : SortedMap κ β) (key : κ) :
    (lower.override upper).get? key = (upper.get? key).or (lower.get? key) := by
  have hupper : (ofList upper.toList).get? key = upper.get? key :=
    get?_ofList_of_sorted upper.sorted key
  rw [override, get?_insertAll, hupper]

theorem get?_insertAll_filter (m : SortedMap κ β) (es : List (κ × β)) (key : κ) :
    (m.insertAll es).get? key = (m.insertAll (es.filter (·.1 = key))).get? key := by
  induction es generalizing m with
  | nil => rfl
  | cons e es ih =>
      by_cases hkey : e.1 = key
      · rw [List.filter_cons_of_pos (by simpa using hkey)]
        exact ih (m.insert e.1 e.2)
      · rw [List.filter_cons_of_neg (by simpa using hkey), insertAll_cons, ih, get?_insertAll,
          get?_insertAll m, get?_insert, if_neg (Ne.symm hkey)]

theorem get?_insertAll_map (m : SortedMap κ β) (keys : List κ) (value : β) (key : κ) :
    (m.insertAll (keys.map (·, value))).get? key =
      if key ∈ keys then some value else m.get? key := by
  induction keys generalizing m with
  | nil => rfl
  | cons first keys ih =>
      rw [List.map_cons, insertAll_cons, ih, get?_insert]
      by_cases hkeys : key ∈ keys
      · rw [if_pos hkeys, if_pos (List.mem_cons_of_mem first hkeys)]
      · simp only [List.mem_cons, hkeys, or_false, if_false]

theorem insertAll_eq_override (m : SortedMap κ β) (es : List (κ × β)) :
    m.insertAll es = m.override (ofList es) := by
  apply ext_get?
  intro key
  rw [get?_insertAll, get?_override]

theorem insertAll_perm {es fs : List (κ × β)} (h : es.Perm fs) (hkeys : (es.map (·.1)).Nodup)
    (m : SortedMap κ β) : m.insertAll es = m.insertAll fs := by
  refine h.foldl_eq' ?_ m
  intro e he f hf m
  by_cases hkey : e.1 = f.1
  · rw [List.inj_on_of_nodup_map hkeys he hf hkey]
  · apply ext_get?
    intro key
    simp only [get?_insert]
    by_cases hother : key = f.1
    · have hne : key ≠ e.1 := fun heq => hkey (heq.symm.trans hother)
      rw [if_pos hother, if_neg hne, if_pos hother]
    · rw [if_neg hother, if_neg hother]

theorem mem_insertAll {m : SortedMap κ β} {es : List (κ × β)} {e : κ × β}
    (h : e ∈ (m.insertAll es).toList) : e ∈ m.toList ∨ e ∈ es := by
  induction es generalizing m with
  | nil => exact .inl h
  | cons f es ih =>
      rcases ih h with h | h
      · rcases mem_insertEntry h with rfl | h
        · exact .inr List.mem_cons_self
        · exact .inl h
      · exact .inr (List.mem_cons_of_mem f h)

end FlatStyle.SortedMap
