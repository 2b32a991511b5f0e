import HttpBinding.Proofs.Config.Entries

/-!
What a document holds outside of `strut`. Nothing under a foreign key is looked at. An empty
key does not count as a key: what stands under it stands in the document itself.
-/
namespace HttpBinding.Config

open Yaml (Value)

theorem isOwn_settingsBelow (path : String) (named : path ≠ "") (value : Value) :
    ∀ setting ∈ settingsBelow path value, isOwn setting.key = isOwn path := by
  intro setting member
  obtain ⟨reached, _⟩ := (mem_settingsBelow_iff path value setting).mp member
  exact isOwn_of_reached path setting.key value setting.value named reached

theorem foldlM_apply_foreign (origin : String) (values : Assignments) (settings : List Setting)
    (foreign : ∀ setting ∈ settings, isOwn setting.key = false) :
    settings.foldlM (Setting.apply origin) values = .ok values := by
  induction settings with
  | nil => rfl
  | cons setting rest ih =>
      rw [List.forall_mem_cons] at foreign
      have skipped : setting.apply origin values = .ok values := by
        simp [Setting.apply, foreign.1]
      rw [List.foldlM_cons, skipped]
      exact ih foreign.2

theorem foldlM_apply_skip (origin : String) (values : Assignments)
    (before settings after : List Setting)
    (foreign : ∀ setting ∈ settings, isOwn setting.key = false) :
    (before ++ (settings ++ after)).foldlM (Setting.apply origin) values
      = (before ++ after).foldlM (Setting.apply origin) values := by
  rw [List.foldlM_append, List.foldlM_append]
  congr 1
  funext reached
  rw [List.foldlM_append, foldlM_apply_foreign origin reached settings foreign]
  rfl

/-- The entries that a value brings into a mapping if it stands there under no key. -/
def entriesOf : Value → List (Value × Value)
  | .mapping entries => entries
  | _ => []

theorem settingsBelow_empty (value : Value) :
    settingsBelow "" value = entrySettings "" (entriesOf value) := by
  cases value <;> rfl

/-- A foreign entry changes nothing. Under the empty key, the entries of its value count
as if they stood in its place. -/
theorem mergeValue_foreign_entry (origin : String) (values : Assignments)
    (before after : List (Value × Value)) (key value : Value) (name : String)
    (named : key.scalarText? = some name)
    (foreign : name ≠ "strut" ∧ ¬ "strut.".toList <+: name.toList) :
    (name ≠ "" → mergeValue origin values (.mapping (before ++ (key, value) :: after))
      = mergeValue origin values (.mapping (before ++ after))) ∧
    (name = "" → mergeValue origin values (.mapping (before ++ (key, value) :: after))
      = mergeValue origin values (.mapping (before ++ (entriesOf value ++ after)))) := by
  have outside : isOwn name = false := by
    rw [Bool.eq_false_iff, Ne, isOwn_iff]
    rintro (same | own)
    · exact foreign.1 same
    · exact foreign.2 own
  have here : below "" (segment key) = name := by
    simp [below, segment, named]
  simp only [mergeValue, settings, settingsBelow, entrySettings_append, entrySettings, here]
  constructor
  · intro nonempty
    apply foldlM_apply_skip
    intro setting member
    rw [isOwn_settingsBelow name nonempty value setting member, outside]
  · rintro rfl
    rw [settingsBelow_empty]

/-- A server's own settings, among them one that would be refused under `strut`. -/
def serverSettings : Value :=
  .mapping [(.text "strut.port", .number (.whole 8080)), (.text "strut", .list [.null])]

def separatorEntry : Value × Value := (.text "strut.bindings.separator", .text ";")

theorem serverSettings_foreign :
    (Value.text "server").scalarText? = some "server" ∧
    ("server" ≠ "strut" ∧ ¬ "strut.".toList <+: "server".toList) ∧ "server" ≠ "" ∧
    mergeValue "strut.yaml" .empty (.mapping ([separatorEntry] ++ [(.text "server", serverSettings)]))
      = mergeValue "strut.yaml" .empty (.mapping ([separatorEntry] ++ [])) :=
  ⟨rfl, by decide, by decide, (mergeValue_foreign_entry "strut.yaml" .empty [separatorEntry] []
    (.text "server") serverSettings "server" rfl (by decide)).1 (by decide)⟩

/-- The empty key is neither `strut` nor below it, and yet its entry sets the separator. -/
theorem emptyKey_sets_separator :
    (Value.text "").scalarText? = some "" ∧
    ("" ≠ "strut" ∧ ¬ "strut.".toList <+: "".toList) ∧
    mergeValue "strut.yaml" .empty (.mapping [(.text "", .mapping [separatorEntry])])
      = .ok ⟨[("strut.bindings.separator", ";")]⟩ ∧
    mergeValue "strut.yaml" .empty (.mapping []) = .ok .empty := by
  refine ⟨rfl, by decide, ?_, rfl⟩
  decide +kernel

end HttpBinding.Config
