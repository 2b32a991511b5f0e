import HttpBinding.Path.Match
import HttpBinding.Proofs.Text.Pieces

/-!
Matching in two parts: whether the segments fit, and what a fitting path binds. The
placeholders of a template are bound whatever the path, the last segment of a name
wins, and the empty segment behind a trailing slash binds nothing.
-/
namespace HttpBinding.Path

open Text (split)

/-- A literal pattern is met by itself only, a placeholder by any segment. -/
def Meets (pattern segment : String) : Prop :=
  placeholderName? pattern = none → segment = pattern

def bindSegments : List (String × String) → Assignments → Assignments
  | [], params => params
  | (pattern, segment) :: rest, params =>
      match placeholderName? pattern with
      | some name => bindSegments rest (params.set name segment)
      | none => bindSegments rest params

/-- The segments that stand where the template has `name`, in order. -/
def boundTexts (name : String) (pairs : List (String × String)) : List String :=
  (pairs.filter fun pair => placeholderName? pair.1 = some name).map (·.2)

theorem matchFrom_ok_iff (index : Nat) (pairs : List (String × String))
    (before after : Assignments) :
    matchFrom index pairs before = .ok after ↔
      (∀ pair ∈ pairs, Meets pair.1 pair.2) ∧ after = bindSegments pairs before := by
  induction pairs generalizing index before with
  | nil => simp [matchFrom, bindSegments, eq_comm]
  | cons pair rest ih =>
      obtain ⟨pattern, segment⟩ := pair
      simp only [matchFrom, bindSegments, List.forall_mem_cons]
      cases named : placeholderName? pattern with
      | some name => simp [ih, Meets, named]
      | none =>
          by_cases same : segment = pattern
          · simp [ih, Meets, same]
          · simp [Meets, named, same]

theorem mem_names_set (assignments : Assignments) (key text name : String) :
    name ∈ (assignments.set key text).names ↔ name ∈ assignments.names ∨ name = key := by
  by_cases same : name = key
  · simp [Assignments.names, Assignments.set, same]
  · simp [Assignments.names, Assignments.set, Assignments.unset, same]

theorem mem_names_bindSegments (pairs : List (String × String)) (params : Assignments)
    (name : String) :
    name ∈ (bindSegments pairs params).names ↔
      name ∈ params.names ∨ name ∈ (pairs.map (·.1)).filterMap placeholderName? := by
  induction pairs generalizing params with
  | nil => simp [bindSegments]
  | cons pair rest ih =>
      obtain ⟨pattern, segment⟩ := pair
      cases named : placeholderName? pattern with
      | some key => simp [bindSegments, named, ih, mem_names_set, or_assoc]
      | none => simp [bindSegments, named, ih]

theorem get?_bindSegments (pairs : List (String × String)) (params : Assignments)
    (name : String) :
    (bindSegments pairs params).get? name
      = (boundTexts name pairs).getLast?.or (params.get? name) := by
  -- What is bound on the way counts only if no later segment binds the name again.
  induction pairs generalizing params with
  | nil => simp [bindSegments, boundTexts]
  | cons pair rest ih =>
      obtain ⟨pattern, segment⟩ := pair
      have shorter : boundTexts name ((pattern, segment) :: rest) =
          if placeholderName? pattern = some name then segment :: boundTexts name rest
          else boundTexts name rest := by
        by_cases here : placeholderName? pattern = some name <;> simp [boundTexts, here]
      rw [shorter]
      cases named : placeholderName? pattern with
      | none => simp [bindSegments, named, ih]
      | some key =>
          simp only [bindSegments, named, ih, Option.some.injEq]
          by_cases same : key = name
          · subst same
            rw [Assignments.get?_set_same, if_pos rfl, List.getLast?_cons]
            cases (boundTexts key rest).getLast? <;> rfl
          · rw [Assignments.get?_set_ne params key segment name (Ne.symm same), if_neg same]

theorem boundTexts_ne_nil (name : String) (pairs : List (String × String))
    (bound : name ∈ (pairs.map (·.1)).filterMap placeholderName?) :
    boundTexts name pairs ≠ [] := by
  obtain ⟨pattern, member, named⟩ := List.mem_filterMap.mp bound
  obtain ⟨pair, inside, rfl⟩ := List.mem_map.mp member
  exact List.ne_nil_of_mem
    (List.mem_map_of_mem (List.mem_filter.mpr ⟨inside, decide_eq_true named⟩))

/-- Where every occurrence of a name meets the same text, that text is bound. -/
theorem get?_bindSegments_uniform (pairs : List (String × String)) (params : Assignments)
    (name text : String) (bound : name ∈ (pairs.map (·.1)).filterMap placeholderName?)
    (uniform : ∀ pair ∈ pairs, placeholderName? pair.1 = some name → pair.2 = text) :
    (bindSegments pairs params).get? name = some text := by
  have texts : ∀ found ∈ boundTexts name pairs, found = text := by
    intro found member
    obtain ⟨pair, inside, rfl⟩ := List.mem_map.mp member
    obtain ⟨present, named⟩ := List.mem_filter.mp inside
    exact uniform pair present (by simpa using named)
  rw [get?_bindSegments]
  cases last : (boundTexts name pairs).getLast? with
  | some found => rw [texts found (List.mem_of_getLast? last), Option.some_or]
  | none =>
      exact absurd (List.getLast?_eq_none_iff.mp last) (boundTexts_ne_nil name pairs bound)

theorem params_ok_iff (path template : String) (result : Assignments) :
    params path template = .ok result ↔
      (segments path).length = (segments template).length ∧
      (∀ pair ∈ (segments template).zip (segments path), Meets pair.1 pair.2) ∧
      result = bindSegments ((segments template).zip (segments path)) .empty := by
  unfold params
  by_cases counts : (segments path).length = (segments template).length
  · simp [counts, matchFrom_ok_iff]
  · simp [counts]

theorem placeholderName?_empty : placeholderName? "" = none := by decide

theorem ne_empty_of_named (segment name : String) (named : placeholderName? segment = some name) :
    segment ≠ "" := by
  rintro rfl
  rw [placeholderName?_empty] at named
  cases named

/-- Filling in the segments of a text that ends in an empty one as before. -/
theorem dropTrailingEmpty_map (fill : String → String) (texts : List String)
    (ends : ∀ text, texts.getLast? = some text → (fill text = "" ↔ text = "")) :
    dropTrailingEmpty (texts.map fill) = (dropTrailingEmpty texts).map fill := by
  have trailing : (texts.map fill).getLast? = some "" ↔ texts.getLast? = some "" := by
    rw [List.getLast?_map]
    cases last : texts.getLast? with
    | none => simp
    | some text => simpa using ends text last
  simp only [dropTrailingEmpty, List.length_map, trailing]
  split
  · rw [List.map_dropLast]
  · rfl

theorem split_filled (fill : String → String) (template : String)
    (separated : ∀ segment ∈ split '/' template, '/' ∉ (fill segment).toList) :
    split '/' ("/".intercalate ((split '/' template).map fill))
      = (split '/' template).map fill := by
  apply Text.split_intercalate '/' _ (by simp [Text.split_ne_nil])
  intro text member
  obtain ⟨segment, inside, rfl⟩ := List.mem_map.mp member
  exact separated segment inside

/-- A template that is filled in segment by segment has its segments filled in. -/
theorem segments_filled (fill : String → String) (template : String)
    (separated : ∀ segment ∈ split '/' template, '/' ∉ (fill segment).toList)
    (ends : ∀ text, (split '/' template).getLast? = some text → (fill text = "" ↔ text = "")) :
    segments ("/".intercalate ((split '/' template).map fill)) = (segments template).map fill := by
  rw [segments, split_filled fill template separated, dropTrailingEmpty_map fill _ ends]
  rfl

/-- A trailing slash hides no placeholder. -/
theorem placeholders_segments (template : String) :
    (segments template).filterMap placeholderName? = placeholders template := by
  unfold segments dropTrailingEmpty placeholders
  split
  · next trailing =>
      obtain ⟨front, whole⟩ := List.getLast?_eq_some_iff.mp trailing.2
      simp [whole, placeholderName?_empty]
  · rfl

theorem mem_names_params (path template : String) (result : Assignments)
    (matched : params path template = .ok result) (name : String) :
    name ∈ result.names ↔ name ∈ placeholders template := by
  obtain ⟨counts, _, rfl⟩ := (params_ok_iff path template result).mp matched
  rw [mem_names_bindSegments, List.map_fst_zip (Nat.le_of_eq counts.symm),
    placeholders_segments]
  simp [Assignments.names, Assignments.empty]

end HttpBinding.Path
