import HttpBinding.Config.Layer
import Mathlib.Data.List.Infix

/-!
What a document holds, entry by entry. Every mapping is gone through down to the values that
are no mappings; these are the settings, at the dotted keys that lead to them. A key below
another one is in the namespace exactly if that one is.
-/
namespace HttpBinding.Config

open Yaml (Value)

theorem isOwn_iff (key : String) :
    isOwn key = true ↔ key = "strut" ∨ "strut.".toList <+: key.toList := by
  simp [isOwn]

theorem isOwn_dotted (path segment : String) : isOwn (path ++ "." ++ segment) = isOwn path := by
  have dotted : (path ++ "." ++ segment).toList = (path.toList ++ ['.']) ++ segment.toList := by
    simp
  rw [Bool.eq_iff_iff, isOwn_iff, isOwn_iff, dotted]
  constructor
  · rintro (same | own)
    · have dot : '.' ∈ "strut".toList := by
        rw [← same, dotted]
        simp
      exact absurd dot (by decide)
    · -- Both `strut.` and the path with its dot begin the key, so one begins the other.
      rcases List.prefix_or_prefix_of_prefix own (List.prefix_append _ _) with inPath | inName
      · rcases List.prefix_concat_iff.mp inPath with same | before
        · exact .inl (String.toList_injective (List.append_cancel_right same).symm)
        · exact .inr before
      · rcases List.prefix_concat_iff.mp (show _ <+: "strut".toList ++ ['.'] from inName) with
          same | before
        · exact .inl (String.toList_injective (List.append_cancel_right same))
        · have dot : '.' ∈ "strut".toList := before.subset (by simp)
          exact absurd dot (by decide)
  · rintro (rfl | own)
    · exact .inr (List.prefix_append _ _)
    · exact .inr (own.trans ((List.prefix_append _ _).trans (List.prefix_append _ _)))

theorem below_of_named (path segment : String) (named : path ≠ "") :
    below path segment = path ++ "." ++ segment := by
  simp [below, named]

theorem below_ne_empty (path segment : String) (named : path ≠ "") :
    below path segment ≠ "" := by
  rw [below_of_named path segment named]
  simp [named]

def isMapping : Value → Bool
  | .mapping _ => true
  | _ => false

/-- A value and all that its mappings hold, at any depth, with the dotted keys. -/
inductive Reached (path : String) (value : Value) : String → Value → Prop
  | here : Reached path value path value
  | inside (above : String) (entries : List (Value × Value)) (key inner : Value)
      (outer : Reached path value above (.mapping entries)) (member : (key, inner) ∈ entries) :
      Reached path value (below above (segment key)) inner

theorem reached_trans (path middle deeper : String) (value between inner : Value)
    (outer : Reached path value middle between) (reached : Reached middle between deeper inner) :
    Reached path value deeper inner := by
  induction reached with
  | here => exact outer
  | inside above entries key inner _ member ih => exact .inside above entries key inner ih member

theorem reached_of_entry (path deeper : String) (entries : List (Value × Value))
    (key value inner : Value) (member : (key, value) ∈ entries)
    (reached : Reached (below path (segment key)) value deeper inner) :
    Reached path (.mapping entries) deeper inner :=
  reached_trans _ _ _ _ _ _ (.inside path entries key value .here member) reached

theorem settingsBelow_leaf (path : String) (value : Value) (named : path ≠ "")
    (leaf : isMapping value = false) : settingsBelow path value = [⟨path, value⟩] := by
  cases value with
  | mapping entries => cases leaf
  | _ => simp [settingsBelow, named]

theorem entrySettings_append (path : String) (entries more : List (Value × Value)) :
    entrySettings path (entries ++ more) = entrySettings path entries ++ entrySettings path more := by
  induction entries with
  | nil => rfl
  | cons entry rest ih =>
      obtain ⟨key, value⟩ := entry
      rw [List.cons_append, entrySettings, entrySettings, ih, List.append_assoc]

theorem mem_entrySettings_iff (path : String) (entries : List (Value × Value)) (setting : Setting) :
    setting ∈ entrySettings path entries ↔
      ∃ key value, (key, value) ∈ entries ∧
        setting ∈ settingsBelow (below path (segment key)) value := by
  induction entries with
  | nil => simp [entrySettings]
  | cons entry rest ih =>
      obtain ⟨key, value⟩ := entry
      rw [entrySettings, List.mem_append, ih]
      constructor
      · rintro (here | ⟨other, inner, member, found⟩)
        · exact ⟨key, value, List.mem_cons_self, here⟩
        · exact ⟨other, inner, List.mem_cons_of_mem _ member, found⟩
      · rintro ⟨other, inner, member, found⟩
        rcases List.mem_cons.mp member with same | later
        · cases same
          exact .inl found
        · exact .inr ⟨other, inner, later, found⟩

/-- What is reached brings its settings with it. -/
theorem settingsBelow_subset (path deeper : String) (value inner : Value)
    (reached : Reached path value deeper inner) :
    settingsBelow deeper inner ⊆ settingsBelow path value := by
  induction reached with
  | here => exact List.Subset.refl _
  | inside above entries key inner _ member ih =>
      intro setting found
      apply ih
      rw [settingsBelow, mem_entrySettings_iff]
      exact ⟨key, inner, member, found⟩

theorem sizeOf_entry_lt (entries : List (Value × Value)) (key value : Value)
    (member : (key, value) ∈ entries) : sizeOf value < sizeOf (Value.mapping entries) := by
  have entry := List.sizeOf_lt_of_mem member
  simp only [Prod.mk.sizeOf_spec] at entry
  simp only [Value.mapping.sizeOf_spec]
  omega

theorem reached_of_mem_settingsBelow (path : String) (value : Value) (setting : Setting)
    (member : setting ∈ settingsBelow path value) :
    Reached path value setting.key setting.value ∧
      setting.key ≠ "" ∧ isMapping setting.value = false := by
  cases value with
  | mapping entries =>
      rw [settingsBelow, mem_entrySettings_iff] at member
      obtain ⟨key, value, entry, found⟩ := member
      have smaller := sizeOf_entry_lt entries key value entry
      obtain ⟨reached, leaf⟩ := reached_of_mem_settingsBelow _ value setting found
      exact ⟨reached_of_entry path _ entries key value _ entry reached, leaf⟩
  | _ =>
      by_cases named : path = ""
      · simp [settingsBelow, named] at member
      · simp only [settingsBelow, String.isEmpty_iff, named, if_false, List.mem_singleton] at member
        subst member
        exact ⟨.here, named, rfl⟩
termination_by sizeOf value

/-- The settings of a value are what is reached in it under some key and is no mapping. -/
theorem mem_settingsBelow_iff (path : String) (value : Value) (setting : Setting) :
    setting ∈ settingsBelow path value ↔
      Reached path value setting.key setting.value ∧
        setting.key ≠ "" ∧ isMapping setting.value = false := by
  constructor
  · exact reached_of_mem_settingsBelow path value setting
  · rintro ⟨reached, named, leaf⟩
    apply settingsBelow_subset path _ value _ reached
    rw [settingsBelow_leaf _ _ named leaf]
    exact List.mem_singleton_self setting

/-- Below a key that is not empty, every key begins with it and a dot. -/
theorem key_of_reached (path deeper : String) (value inner : Value) (named : path ≠ "")
    (reached : Reached path value deeper inner) :
    (deeper = path ∧ inner = value) ∨ ∃ rest, deeper = path ++ "." ++ rest := by
  induction reached with
  | here => exact .inl ⟨rfl, rfl⟩
  | inside above entries key inner _ member ih =>
      right
      rcases ih with ⟨rfl, _⟩ | ⟨rest, rfl⟩
      · exact ⟨segment key, below_of_named _ _ named⟩
      · refine ⟨rest ++ "." ++ segment key, ?_⟩
        rw [below_of_named _ _ (by simp [named])]
        simp only [String.append_assoc]

theorem isOwn_of_reached (path deeper : String) (value inner : Value) (named : path ≠ "")
    (reached : Reached path value deeper inner) : isOwn deeper = isOwn path := by
  rcases key_of_reached path deeper value inner named reached with ⟨rfl, _⟩ | ⟨rest, rfl⟩
  · rfl
  · exact isOwn_dotted path rest

end HttpBinding.Config
