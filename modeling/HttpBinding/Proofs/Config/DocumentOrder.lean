import HttpBinding.Proofs.Config.Entries
import Mathlib.Data.List.Sort

/-!
The settings of a document stand in document order. A place is the way to a value from the
top, the position of one entry a mapping. Places in dictionary order say which value is
written first, so they determine the list of the settings, also where keys are repeated.
-/
namespace HttpBinding.Config

open Yaml (Value)

/-- A value that is no mapping and stands under some key, with its place. -/
inductive LeafAt : String → Value → List Nat → Setting → Prop
  | here (path : String) (value : Value) (named : path ≠ "") (leaf : isMapping value = false) :
      LeafAt path value [] ⟨path, value⟩
  | inside (path : String) (entries : List (Value × Value)) (index : Nat) (key value : Value)
      (place : List Nat) (setting : Setting) (entry : entries[index]? = some (key, value))
      (deeper : LeafAt (below path (segment key)) value place setting) :
      LeafAt path (.mapping entries) (index :: place) setting

/-- The leaves below some entries, of which the first has the position `first`. -/
def LeafFrom (path : String) (first : Nat) (entries : List (Value × Value)) (place : List Nat)
    (setting : Setting) : Prop :=
  ∃ index rest key value, place = (first + index) :: rest ∧ entries[index]? = some (key, value) ∧
    LeafAt (below path (segment key)) value rest setting

/-- All settings that have a place, from the first place to the last. -/
structure InPlaceOrder (leaf : List Nat → Setting → Prop)
    (placed : List (List Nat × Setting)) : Prop where
  ordered : placed.Pairwise fun before after => before.1 < after.1
  complete : ∀ place setting, (place, setting) ∈ placed ↔ leaf place setting

theorem InPlaceOrder.nodup (leaf : List Nat → Setting → Prop)
    (placed : List (List Nat × Setting)) (listed : InPlaceOrder leaf placed) : placed.Nodup := by
  apply listed.ordered.imp
  intro before after first same
  exact List.lt_irrefl after.1 (same ▸ first)

def InDocumentOrder (leaf : List Nat → Setting → Prop) (settings : List Setting) : Prop :=
  ∃ placed, InPlaceOrder leaf placed ∧ settings = placed.map Prod.snd

theorem inDocumentOrder_unique (leaf : List Nat → Setting → Prop) (settings others : List Setting)
    (first : InDocumentOrder leaf settings) (second : InDocumentOrder leaf others) :
    settings = others := by
  obtain ⟨placed, listed, rfl⟩ := first
  obtain ⟨again, relisted, rfl⟩ := second
  have perm : placed.Perm again := by
    rw [List.perm_ext_iff_of_nodup listed.nodup relisted.nodup]
    intro entry
    rw [listed.complete entry.1 entry.2, relisted.complete entry.1 entry.2]
  rw [perm.eq_of_pairwise (fun _ _ _ _ before after => absurd before (List.lt_asymm after))
    listed.ordered relisted.ordered]

theorem inDocumentOrder_congr (leaf other : List Nat → Setting → Prop) (settings : List Setting)
    (same : ∀ place setting, leaf place setting ↔ other place setting)
    (ordered : InDocumentOrder leaf settings) : InDocumentOrder other settings := by
  obtain ⟨placed, listed, told⟩ := ordered
  exact ⟨placed, ⟨listed.ordered, fun place setting =>
    (listed.complete place setting).trans (same place setting)⟩, told⟩

theorem inDocumentOrder_nil (leaf : List Nat → Setting → Prop)
    (none : ∀ place setting, ¬ leaf place setting) : InDocumentOrder leaf [] :=
  ⟨[], ⟨.nil, fun place setting => by simp [none]⟩, rfl⟩

theorem inDocumentOrder_entry (leaf : List Nat → Setting → Prop) (settings : List Setting)
    (index : Nat) (ordered : InDocumentOrder leaf settings) :
    InDocumentOrder (fun place setting => ∃ rest, place = index :: rest ∧ leaf rest setting)
      settings := by
  obtain ⟨placed, listed, rfl⟩ := ordered
  refine ⟨placed.map fun entry => (index :: entry.1, entry.2), ⟨?_, ?_⟩, by simp⟩
  · rw [List.pairwise_map]
    exact listed.ordered.imp fun before => List.cons_lt_cons_iff.mpr (.inr ⟨rfl, before⟩)
  · intro place setting
    simp only [List.mem_map, Prod.exists, Prod.mk.injEq, ← listed.complete]
    constructor
    · rintro ⟨rest, _, member, rfl, rfl⟩
      exact ⟨rest, rfl, member⟩
    · rintro ⟨rest, rfl, member⟩
      exact ⟨rest, setting, member, rfl, rfl⟩

theorem inDocumentOrder_append (leaf later : List Nat → Setting → Prop)
    (settings others : List Setting) (ordered : InDocumentOrder leaf settings)
    (behind : InDocumentOrder later others)
    (apart : ∀ place setting, leaf place setting → ∀ after other, later after other →
      place < after) :
    InDocumentOrder (fun place setting => leaf place setting ∨ later place setting)
      (settings ++ others) := by
  obtain ⟨placed, listed, rfl⟩ := ordered
  obtain ⟨rest, listedBehind, rfl⟩ := behind
  refine ⟨placed ++ rest, ⟨?_, ?_⟩, by simp⟩
  · rw [List.pairwise_append]
    refine ⟨listed.ordered, listedBehind.ordered, ?_⟩
    intro entry member other found
    exact apart _ _ ((listed.complete _ _).mp member) _ _ ((listedBehind.complete _ _).mp found)
  · intro place setting
    rw [List.mem_append, listed.complete, listedBehind.complete]

theorem leafFrom_cons_iff (path : String) (first : Nat) (key value : Value)
    (rest : List (Value × Value)) (place : List Nat) (setting : Setting) :
    ((∃ deeper, place = first :: deeper ∧
        LeafAt (below path (segment key)) value deeper setting) ∨
      LeafFrom path (first + 1) rest place setting) ↔
      LeafFrom path first ((key, value) :: rest) place setting := by
  constructor
  · rintro (⟨deeper, rfl, leaf⟩ | ⟨index, deeper, other, inner, rfl, entry, leaf⟩)
    · exact ⟨0, deeper, key, value, rfl, rfl, leaf⟩
    · exact ⟨index + 1, deeper, other, inner, by rw [Nat.add_assoc, Nat.add_comm 1], entry, leaf⟩
  · rintro ⟨index, deeper, other, inner, rfl, entry, leaf⟩
    cases index with
    | zero =>
        cases entry
        exact .inl ⟨deeper, rfl, leaf⟩
    | succ index =>
        exact .inr ⟨index, deeper, other, inner, by rw [Nat.add_assoc, Nat.add_comm 1], entry, leaf⟩

theorem leafFrom_zero_iff (path : String) (entries : List (Value × Value)) (place : List Nat)
    (setting : Setting) :
    LeafFrom path 0 entries place setting ↔ LeafAt path (.mapping entries) place setting := by
  constructor
  · rintro ⟨index, rest, key, value, rfl, entry, leaf⟩
    rw [Nat.zero_add]
    exact .inside path entries index key value rest setting entry leaf
  · intro leaf
    cases leaf with
    | here _ _ _ leaf => cases leaf
    | inside _ _ index key value rest _ entry leaf =>
        exact ⟨index, rest, key, value, by rw [Nat.zero_add], entry, leaf⟩

theorem leaf_inDocumentOrder (path : String) (value : Value) (leaf : isMapping value = false) :
    InDocumentOrder (LeafAt path value) (settingsBelow path value) := by
  by_cases named : path = ""
  · have none : settingsBelow path value = [] := by
      cases value with
      | mapping entries => cases leaf
      | _ => simp [settingsBelow, named]
    rw [none]
    apply inDocumentOrder_nil
    rintro place setting (⟨_, _, filled, _⟩ | _)
    · exact filled named
    · cases leaf
  · rw [settingsBelow_leaf path value named leaf]
    refine ⟨[([], ⟨path, value⟩)], ⟨List.pairwise_singleton _ _, ?_⟩, rfl⟩
    intro place setting
    rw [List.mem_singleton]
    constructor
    · rintro ⟨⟩
      exact .here path value named leaf
    · rintro (_ | _)
      · rfl
      · cases leaf

-- One statement on a value and one on the entries of a mapping, whose values are values again.
mutual

theorem settingsBelow_inDocumentOrder (path : String) (value : Value) :
    InDocumentOrder (LeafAt path value) (settingsBelow path value) := by
  match value with
  | .mapping entries =>
      rw [settingsBelow]
      exact inDocumentOrder_congr _ _ _ (leafFrom_zero_iff path entries)
        (entrySettings_inDocumentOrder path 0 entries)
  | .null | .flag _ | .number _ | .text _ | .list _ | .tagged _ _ =>
      exact leaf_inDocumentOrder path _ rfl

theorem entrySettings_inDocumentOrder (path : String) (first : Nat)
    (entries : List (Value × Value)) :
    InDocumentOrder (LeafFrom path first entries) (entrySettings path entries) := by
  match entries with
  | [] =>
      apply inDocumentOrder_nil
      rintro place setting ⟨index, rest, key, value, _, entry, _⟩
      simp at entry
  | (key, value) :: rest =>
      have here := inDocumentOrder_entry _ _ first
        (settingsBelow_inDocumentOrder (below path (segment key)) value)
      have behind := entrySettings_inDocumentOrder path (first + 1) rest
      apply inDocumentOrder_congr _ _ _ (leafFrom_cons_iff path first key value rest)
      rw [entrySettings]
      refine inDocumentOrder_append _ _ _ _ here behind ?_
      rintro place setting ⟨deeper, rfl, _⟩ after other ⟨index, tail, _, _, rfl, _⟩
      exact List.cons_lt_cons_iff.mpr (.inl (by omega))

end

theorem settings_inDocumentOrder_iff (document : Value) (leaves : List Setting) :
    InDocumentOrder (LeafAt "" document) leaves ↔ leaves = settings document := by
  have ordered := settingsBelow_inDocumentOrder "" document
  constructor
  · intro others
    exact inDocumentOrder_unique _ _ _ others ordered
  · rintro rfl
    exact ordered

end HttpBinding.Config
