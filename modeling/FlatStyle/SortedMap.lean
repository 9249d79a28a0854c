/-!
Finite maps held as lists of entries in strictly increasing key order, so that equal maps are
equal values. `get?_insert` and `ext_get?` describe a map by its look-ups alone.
-/

namespace FlatStyle

structure SortedMap (κ β : Type) [LT κ] where
  entries : List (κ × β)
  sorted : entries.Pairwise (·.1 < ·.1)

namespace SortedMap

section Basic

variable {κ β : Type} [LT κ]

def empty : SortedMap κ β := ⟨[], .nil⟩

instance : EmptyCollection (SortedMap κ β) := ⟨empty⟩

instance : Inhabited (SortedMap κ β) := ⟨empty⟩

def toList (m : SortedMap κ β) : List (κ × β) := m.entries

def keys (m : SortedMap κ β) : List κ := m.entries.map (·.1)

def size (m : SortedMap κ β) : Nat := m.entries.length

def isEmpty (m : SortedMap κ β) : Bool := m.entries.isEmpty

def get? [BEq κ] (m : SortedMap κ β) (key : κ) : Option β := m.entries.lookup key

def contains [BEq κ] (m : SortedMap κ β) (key : κ) : Bool := (m.get? key).isSome

theorem ext {m n : SortedMap κ β} (h : m.entries = n.entries) : m = n := by
  cases m
  cases n
  cases h
  rfl

@[simp] theorem toList_empty : (∅ : SortedMap κ β).toList = [] := rfl

@[simp] theorem get?_empty [BEq κ] (key : κ) : (∅ : SortedMap κ β).get? key = none := rfl

end Basic

section Insert

variable {κ β : Type} [LT κ] [DecidableEq κ] [DecidableLT κ]

def insertEntry (key : κ) (value : β) : List (κ × β) → List (κ × β)
  | [] => [(key, value)]
  | e :: es =>
      if key < e.1 then (key, value) :: e :: es
      else if key = e.1 then (key, value) :: es
      else e :: insertEntry key value es

theorem mem_insertEntry {key : κ} {value : β} {es : List (κ × β)} {e : κ × β}
    (h : e ∈ insertEntry key value es) : e = (key, value) ∨ e ∈ es := by
  fun_induction insertEntry key value es with
  | case1 => simpa using h
  | case2 e es _ => simpa using h
  | case3 e es _ _ =>
      rcases List.mem_cons.1 h with h | h
      · exact .inl h
      · exact .inr (List.mem_cons_of_mem _ h)
  | case4 e es _ _ ih =>
      rcases List.mem_cons.1 h with h | h
      · exact .inr (h ▸ List.mem_cons_self)
      · exact (ih h).imp_right (List.mem_cons_of_mem _)

variable [LE κ] [Std.IsLinearOrder κ] [Std.LawfulOrderLT κ]

theorem sorted_insertEntry (key : κ) (value : β) {es : List (κ × β)}
    (h : es.Pairwise (·.1 < ·.1)) : (insertEntry key value es).Pairwise (·.1 < ·.1) := by
  fun_induction insertEntry key value es with
  | case1 => exact List.pairwise_singleton _ _
  | case2 e es hlt =>
      refine List.pairwise_cons.2 ⟨fun x hx => ?_, h⟩
      rcases List.mem_cons.1 hx with rfl | hx
      · exact hlt
      · exact Std.lt_trans hlt ((List.pairwise_cons.1 h).1 x hx)
  | case3 e es _ heq =>
      subst heq
      exact List.pairwise_cons.2 (List.pairwise_cons.1 h)
  | case4 e es hlt hne ih =>
      obtain ⟨he, hes⟩ := List.pairwise_cons.1 h
      refine List.pairwise_cons.2 ⟨fun x hx => ?_, ih hes⟩
      rcases mem_insertEntry hx with rfl | hx
      · exact Std.lt_of_le_of_ne (Std.not_lt.1 hlt) (Ne.symm hne)
      · exact he x hx

def insert (m : SortedMap κ β) (key : κ) (value : β) : SortedMap κ β :=
  ⟨insertEntry key value m.entries, sorted_insertEntry key value m.sorted⟩

/-- Inserts the entries from left to right, so that the last one of a key stays. -/
def insertAll (m : SortedMap κ β) (es : List (κ × β)) : SortedMap κ β :=
  es.foldl (fun m e => m.insert e.1 e.2) m

def ofList (es : List (κ × β)) : SortedMap κ β := insertAll ∅ es

@[simp] theorem insertAll_nil (m : SortedMap κ β) : m.insertAll [] = m := rfl

@[simp] theorem insertAll_cons (m : SortedMap κ β) (e : κ × β) (es : List (κ × β)) :
    m.insertAll (e :: es) = (m.insert e.1 e.2).insertAll es := rfl

@[simp] theorem insertAll_append (m : SortedMap κ β) (es fs : List (κ × β)) :
    m.insertAll (es ++ fs) = (m.insertAll es).insertAll fs := List.foldl_append

omit [DecidableLT κ] [LT κ] [LE κ] [Std.IsLinearOrder κ] [Std.LawfulOrderLT κ] in
theorem lookup_cons_eq_ite (e : κ × β) (es : List (κ × β)) (key : κ) :
    (e :: es).lookup key = if key = e.1 then some e.2 else es.lookup key := by
  rw [List.lookup_cons]
  by_cases h : key = e.1
  · rw [if_pos h, beq_iff_eq.2 h]
  · rw [if_neg h, beq_false_of_ne h]

omit [LE κ] [Std.IsLinearOrder κ] [Std.LawfulOrderLT κ] in
theorem lookup_insertEntry (key key' : κ) (value : β) (es : List (κ × β)) :
    (insertEntry key value es).lookup key' =
      if key' = key then some value else es.lookup key' := by
  fun_induction insertEntry key value es with
  | case1 => exact lookup_cons_eq_ite _ _ _
  | case2 e es _ => exact lookup_cons_eq_ite _ _ _
  | case3 e es _ heq =>
      subst heq
      simp only [lookup_cons_eq_ite]
      split <;> rfl
  | case4 e es _ hne ih =>
      simp only [lookup_cons_eq_ite, ih]
      by_cases hk : key' = e.1
      · rw [if_pos hk, if_pos hk, if_neg (fun hc => hne (hc.symm.trans hk))]
      · rw [if_neg hk, if_neg hk]

@[simp] theorem get?_insert (m : SortedMap κ β) (key key' : κ) (value : β) :
    (m.insert key value).get? key' = if key' = key then some value else m.get? key' :=
  lookup_insertEntry key key' value m.entries

omit [DecidableLT κ] [Std.IsLinearOrder κ] in
theorem lookup_eq_none_of_lt {key : κ} {es : List (κ × β)} (h : ∀ e ∈ es, key < e.1) :
    es.lookup key = none := by
  induction es with
  | nil => rfl
  | cons e es ih =>
      have hne : key ≠ e.1 := fun hc => Std.lt_irrefl (hc ▸ h e List.mem_cons_self : e.1 < e.1)
      rw [lookup_cons_eq_ite, if_neg hne]
      exact ih fun x hx => h x (List.mem_cons_of_mem _ hx)

omit [DecidableLT κ] in
theorem entries_eq_of_lookup {es fs : List (κ × β)} (hes : es.Pairwise (·.1 < ·.1))
    (hfs : fs.Pairwise (·.1 < ·.1)) (h : ∀ key, es.lookup key = fs.lookup key) : es = fs := by
  induction es generalizing fs with
  | nil =>
      cases fs with
      | nil => rfl
      | cons f fs => simpa [lookup_cons_eq_ite] using h f.1
  | cons e es ih =>
      cases fs with
      | nil => simpa [lookup_cons_eq_ite] using h e.1
      | cons f fs =>
          obtain ⟨he, hes⟩ := List.pairwise_cons.1 hes
          obtain ⟨hf, hfs⟩ := List.pairwise_cons.1 hfs
          have heq : e.1 = f.1 := by
            rcases Std.lt_trichotomy e.1 f.1 with hlt | heq | hlt
            · have hnone : (f :: fs).lookup e.1 = none := lookup_eq_none_of_lt fun x hx => by
                rcases List.mem_cons.1 hx with rfl | hx
                · exact hlt
                · exact Std.lt_trans hlt (hf x hx)
              have := h e.1
              rw [hnone, lookup_cons_eq_ite, if_pos rfl] at this
              cases this
            · exact heq
            · have hnone : (e :: es).lookup f.1 = none := lookup_eq_none_of_lt fun x hx => by
                rcases List.mem_cons.1 hx with rfl | hx
                · exact hlt
                · exact Std.lt_trans hlt (he x hx)
              have := h f.1
              rw [hnone, lookup_cons_eq_ite, if_pos rfl] at this
              cases this
          have hval : e.2 = f.2 := by
            have := h e.1
            rw [lookup_cons_eq_ite, lookup_cons_eq_ite, if_pos rfl, if_pos heq] at this
            exact Option.some.inj this
          have htail : es = fs := by
            refine ih hes hfs fun key => ?_
            by_cases hk : key = e.1
            · subst hk
              rw [lookup_eq_none_of_lt he, lookup_eq_none_of_lt (heq ▸ hf)]
            · have := h key
              rwa [lookup_cons_eq_ite, lookup_cons_eq_ite, if_neg hk, if_neg (heq ▸ hk)] at this
          rw [htail, Prod.ext heq hval]

omit [DecidableLT κ] in
/-- Two maps with the same look-ups are the same map. -/
theorem ext_get? {m n : SortedMap κ β} (h : ∀ key, m.get? key = n.get? key) : m = n :=
  ext (entries_eq_of_lookup m.sorted n.sorted h)

end Insert

end SortedMap

end FlatStyle
