import FlatStyle.Declaration
import FlatStyle.Proofs.SortedMap.Override
import FlatStyle.Proofs.Text.Split

namespace FlatStyle

open Text

theorem Property.apply_eq_override (p : Property) (value : String) (map : PropertyMap) :
    p.apply value map = ((p.apply value ∅).1, map.override (p.apply value ∅).2) := by
  rw [apply, SortedMap.insertAll_eq_override]
  rfl

namespace Declaration

def writesOf (text : String) : List (String × String) := (ofText text).flatMap writes

theorem ofText_append (s t : String) : ofText (s ++ ";" ++ t) = ofText s ++ ofText t := by
  have hchars : (s ++ ";" ++ t).toList = s.toList ++ ';' :: t.toList := by simp
  have hfields := fields_append_cons (p := (· == ';')) (beq_self_eq_true ';') s.toList t.toList
  rw [ofText, hchars, ofChars, hfields, List.filterMap_append]
  rfl

theorem ofText_intercalate (texts : List String) :
    ofText (String.intercalate ";" texts) = texts.flatMap ofText := by
  induction texts with
  | nil => rfl
  | cons first texts ih =>
      cases texts with
      | nil => rw [String.intercalate_singleton, List.flatMap_singleton]
      | cons second texts =>
          rw [String.intercalate_cons_cons, ofText_append, ih]
          rfl

theorem writesOf_append (s t : String) :
    writesOf (s ++ ";" ++ t) = writesOf s ++ writesOf t := by
  rw [writesOf, ofText_append, List.flatMap_append]
  rfl

end Declaration

namespace PropertyMap

theorem declare_eq_insertAll (map : PropertyMap) (text : String) :
    map.declare text = map.insertAll (Declaration.writesOf text) := by
  rw [declare, Declaration.writesOf]
  induction Declaration.ofText text generalizing map with
  | nil => rfl
  | cons d ds ih =>
      rw [List.foldl_cons, ih, List.flatMap_cons, SortedMap.insertAll_append]

theorem declare_eq_override (map : PropertyMap) (text : String) :
    map.declare text = map.override (declare ∅ text) := by
  rw [declare_eq_insertAll, declare_eq_insertAll, SortedMap.insertAll_eq_override]
  rfl

theorem declare_append (map : PropertyMap) (s t : String) :
    map.declare (s ++ ";" ++ t) = (map.declare s).declare t := by
  rw [declare, Declaration.ofText_append, List.foldl_append]
  rfl

end PropertyMap

theorem resolveTexts_eq_override (sheet inline : String) :
    resolveTexts (some sheet) (some inline) =
      (resolveTexts (some sheet) none).override (resolveTexts none (some inline)) := by
  calc resolveTexts (some sheet) (some inline)
      = (PropertyMap.declare ∅ sheet).declare inline := PropertyMap.declare_append ∅ sheet inline
    _ = (PropertyMap.declare ∅ sheet).override (PropertyMap.declare ∅ inline) :=
        PropertyMap.declare_eq_override _ inline

/-- The own text of an element has the last word on every key that it writes and on no other,
however malformed the two texts are. -/
theorem inline_overrides_sheet :
    (∀ (p : Property) (value : String) (map : PropertyMap),
      p.apply value map = ((p.apply value ∅).1, map.override (p.apply value ∅).2)) ∧
    (∀ (map : PropertyMap) (text : String),
      map.declare text = map.override (PropertyMap.declare ∅ text)) ∧
    (∀ (map : PropertyMap) (sheet inline : String),
      (combineTexts (some sheet) (some inline)).map map.declare =
        some ((map.declare sheet).declare inline)) ∧
    ∀ sheet inline : String,
      (combineTexts (some sheet) (some inline)).map Declaration.ofText =
        some (Declaration.ofText sheet ++ Declaration.ofText inline) ∧
      resolveTexts (some sheet) (some inline) =
        (resolveTexts (some sheet) none).override (resolveTexts none (some inline)) ∧
      ∀ key, (resolveTexts (some sheet) (some inline)).get? key =
        ((resolveTexts none (some inline)).get? key).or
          ((resolveTexts (some sheet) none).get? key) := by
  refine ⟨Property.apply_eq_override, PropertyMap.declare_eq_override, ?_, ?_⟩
  · intro map sheet inline
    exact congrArg some (map.declare_append sheet inline)
  · intro sheet inline
    refine ⟨congrArg some (Declaration.ofText_append sheet inline),
      resolveTexts_eq_override sheet inline, ?_⟩
    intro key
    rw [resolveTexts_eq_override, SortedMap.get?_override]

end FlatStyle
