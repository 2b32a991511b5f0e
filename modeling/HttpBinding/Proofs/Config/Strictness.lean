import HttpBinding.Proofs.Config.Outcome

/-!
What a document may hold inside the namespace. Only the settings are checked, so a mapping is
judged by the settings below it: they have known keys, and the mapping stands above them. A
mapping that holds nothing but mappings has no settings and passes under any key.
-/
namespace HttpBinding.Config

open Yaml (Value)

/-- A known key with a scalar or a null, a mapping above a known key, or a mapping that holds
nothing but mappings. -/
inductive Admissible (path : String) (value : Value) : Prop
  | known (known : path ∈ knownKeys)
      (fits : value.scalarText?.isSome ∨ isNull value = true)
  | above (mapping : isMapping value = true) (key : String) (known : key ∈ knownKeys)
      (leads : (path ++ ".").toList <+: key.toList)
  | hollow (mappings : ∀ deeper inner, Reached path value deeper inner → isMapping inner = true)

theorem own_ne_empty (path : String) (own : isOwn path = true) : path ≠ "" := by
  rintro rfl
  exact absurd own (by decide)

theorem admissible_of_acceptable (path : String) (value : Value) (own : isOwn path = true)
    (acceptable : ∀ setting ∈ settingsBelow path value, Acceptable setting) :
    Admissible path value := by
  have named := own_ne_empty path own
  by_cases mapping : isMapping value = true
  · by_cases hollow : ∀ deeper inner, Reached path value deeper inner → isMapping inner = true
    · exact .hollow hollow
    · -- Some setting stands below the mapping, and its key is known.
      simp only [not_forall, Bool.not_eq_true] at hollow
      obtain ⟨deeper, inner, reached, leaf⟩ := hollow
      have below := isOwn_of_reached path deeper value inner named reached
      rw [own] at below
      have known := (acceptable ⟨deeper, inner⟩ ((mem_settingsBelow_iff path value _).mpr
        ⟨reached, own_ne_empty deeper below, leaf⟩) below).1
      rcases key_of_reached path deeper value inner named reached with ⟨_, rfl⟩ | ⟨rest, rfl⟩
      · simp [mapping] at leaf
      · exact .above mapping _ known ⟨rest.toList, by simp⟩
  · have here : settingsBelow path value = [⟨path, value⟩] :=
      settingsBelow_leaf path value named (by simpa using mapping)
    rw [here, List.forall_mem_singleton] at acceptable
    obtain ⟨known, fits⟩ := acceptable own
    exact .known known fits

theorem acceptable_of_admissible (setting : Setting) (leaf : isMapping setting.value = false)
    (admissible : Admissible setting.key setting.value) : Acceptable setting := by
  intro _
  cases admissible with
  | known known fits => exact ⟨known, fits⟩
  | above mapping => simp [leaf] at mapping
  | hollow mappings => exact absurd (mappings _ _ .here) (by simp [leaf])

/-- A document is accepted exactly if all that it holds inside the namespace is admissible, and
everything under a top-level key of the namespace is inside it. -/
theorem mergeValue_strict (origin : String) (values : Assignments) (document : Value) :
    ((∃ after, mergeValue origin values document = .ok after) ↔
      ∀ path value, Reached "" document path value → isOwn path = true →
        Admissible path value) ∧
    ∀ entries key value, document = .mapping entries → (key, value) ∈ entries →
      isOwn (segment key) = true → ∀ path inner, Reached (segment key) value path inner →
        Reached "" document path inner ∧ isOwn path = true := by
  constructor
  · simp only [mergeValue, foldlM_apply_ok_iff, exists_and_left, exists_eq, and_true]
    constructor
    · intro acceptable path value reached own
      apply admissible_of_acceptable path value own
      intro setting member
      exact acceptable setting (settingsBelow_subset "" path document value reached member)
    · intro admissible setting member own
      obtain ⟨reached, _, leaf⟩ := (mem_settingsBelow_iff "" document setting).mp member
      exact acceptable_of_admissible setting leaf (admissible _ _ reached own) own
  · rintro entries key value rfl member own path inner reached
    refine ⟨reached_of_entry "" path entries key value inner member reached, ?_⟩
    rw [isOwn_of_reached _ _ _ _ (own_ne_empty _ own) reached, own]

theorem turnedDocument_strict :
    mergeValue "strut.yaml" .empty turnedDocument = .ok ⟨[(helperSource, "true")]⟩ ∧
    Reached "" turnedDocument "strut.bindings"
      (.mapping [(.text "separator", .number (.whole 7))]) ∧
    isOwn "strut.bindings" = true ∧
    Admissible "strut.bindings" (.mapping [(.text "separator", .number (.whole 7))]) := by
  have merged : mergeValue "strut.yaml" .empty turnedDocument
      = .ok ⟨[(helperSource, "true")]⟩ := by decide +kernel
  have strict := mergeValue_strict "strut.yaml" .empty turnedDocument
  have inNamespace : Reached "strut" (.mapping [(.text "bindings",
      .mapping [(.text "separator", .number (.whole 7))]), (.text "helpers.source", .flag true)])
      "strut.bindings" (.mapping [(.text "separator", .number (.whole 7))]) :=
    .inside "strut" _ (.text "bindings") _ .here (by simp)
  obtain ⟨reached, own⟩ := strict.2 _ (.text "strut") _ rfl (by simp) (by decide) _ _ inNamespace
  exact ⟨merged, reached, own, strict.1.mp ⟨_, merged⟩ _ _ reached own⟩

/-- An empty mapping under a misspelled key, and one under a known key. -/
def hollowEntries : List (Value × Value) :=
  [(.text "bogus", .mapping []), (.text "helpers", .mapping [(.text "source", .mapping [])])]

def hollowDocument : Value := .mapping [(.text "strut", .mapping hollowEntries)]

theorem hollowDocument_accepted :
    mergeValue "strut.yaml" .empty hollowDocument = .ok .empty ∧
    Reached "" hollowDocument "strut.bogus" (.mapping []) ∧ "strut.bogus" ∉ knownKeys ∧
    (∀ key ∈ knownKeys, ¬ ("strut.bogus" ++ ".").toList <+: key.toList) ∧
    Reached "" hollowDocument helperSource (.mapping []) ∧ helperSource ∈ knownKeys := by
  have top : Reached "" hollowDocument "strut" (.mapping hollowEntries) :=
    .inside "" _ (.text "strut") _ .here List.mem_cons_self
  have bogus : Reached "" hollowDocument "strut.bogus" (.mapping []) :=
    .inside "strut" _ (.text "bogus") _ top List.mem_cons_self
  have helpers : Reached "" hollowDocument "strut.helpers"
      (.mapping [(.text "source", .mapping [])]) :=
    .inside "strut" _ (.text "helpers") _ top (List.mem_cons_of_mem _ List.mem_cons_self)
  have source : Reached "" hollowDocument helperSource (.mapping []) :=
    .inside "strut.helpers" _ (.text "source") _ helpers List.mem_cons_self
  exact ⟨by decide +kernel, bogus, by decide, by decide +kernel, source, by decide⟩

end HttpBinding.Config
