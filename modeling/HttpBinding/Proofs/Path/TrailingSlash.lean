import HttpBinding.Proofs.Path.Outcome
import HttpBinding.Proofs.Text.Pieces
import Mathlib.Data.List.Basic

/-!
How far a match tells paths apart. Two paths have the same segments exactly if they are
equal but for one slash at the end, and a template whose names are distinct gives every
segment back, so that nothing else is lost.
-/
namespace HttpBinding.Path

open Text (split)

def EndsInSlash (path : String) : Prop := path.toList.getLast? = some '/'

/-- Equal, or one of them is the other, which does not end in a slash, with a slash behind. -/
def SameButForSlash (first second : String) : Prop :=
  first = second ∨ (¬ EndsInSlash first ∧ second = first ++ "/") ∨
    (¬ EndsInSlash second ∧ first = second ++ "/")

/-- The same error, or the same text for every name. -/
def SameOutcome : Except Mismatch Assignments → Except Mismatch Assignments → Prop
  | .ok first, .ok second => ∀ name, first.get? name = second.get? name
  | .error first, .error second => first = second
  | _, _ => False

theorem SameOutcome.refl (outcome : Except Mismatch Assignments) : SameOutcome outcome outcome := by
  cases outcome with
  | error mismatch => rfl
  | ok result => exact fun name => rfl

theorem endsInSlash_iff (path : String) : EndsInSlash path ↔ ∃ front, path = front ++ "/" := by
  unfold EndsInSlash
  constructor
  · intro ends
    obtain ⟨front, whole⟩ := List.getLast?_eq_some_iff.mp ends
    refine ⟨String.ofList front, ?_⟩
    rw [← String.toList_inj, whole]
    simp
  · rintro ⟨front, rfl⟩
    simp

theorem segments_append_slash (path : String) : segments (path ++ "/") = split '/' path := by
  have pieces : split '/' (path ++ "/") = split '/' path ++ [""] := Text.split_concat_mark '/' path
  have nonempty := List.length_pos_iff.mpr (Text.split_ne_nil '/' path)
  rw [segments, pieces, dropTrailingEmpty, if_pos ⟨by simpa using nonempty, by simp⟩,
    List.dropLast_concat]

theorem segments_of_not_endsInSlash (path : String) (unended : ¬ EndsInSlash path) :
    segments path = split '/' path := by
  rw [segments, dropTrailingEmpty, if_neg]
  rintro ⟨several, last⟩
  refine unended (Text.getLast?_of_pieces '/' path.toList (by simpa [split] using several) ?_)
  simpa [split] using last

theorem ne_append_slash (path other : String) (unended : ¬ EndsInSlash path) :
    path ≠ other ++ "/" := by
  intro same
  exact unended ((endsInSlash_iff path).mpr ⟨other, same⟩)

theorem segments_eq_iff (first second : String) :
    segments first = segments second ↔ SameButForSlash first second := by
  have pieces (one other : String) : split '/' one = split '/' other ↔ one = other :=
    ⟨Text.split_injective '/' one other, congrArg (split '/')⟩
  -- A path that ends in a slash has the pieces of what is in front of it, any other its own.
  by_cases firstEnds : EndsInSlash first
  · obtain ⟨front, rfl⟩ := (endsInSlash_iff first).mp firstEnds
    by_cases secondEnds : EndsInSlash second
    · obtain ⟨other, rfl⟩ := (endsInSlash_iff second).mp secondEnds
      simp [segments_append_slash, pieces, SameButForSlash, firstEnds, secondEnds]
    · simp [segments_append_slash, segments_of_not_endsInSlash second secondEnds, pieces,
        SameButForSlash, firstEnds, secondEnds, (ne_append_slash second front secondEnds).symm]
  · by_cases secondEnds : EndsInSlash second
    · obtain ⟨other, rfl⟩ := (endsInSlash_iff second).mp secondEnds
      simp [segments_append_slash, segments_of_not_endsInSlash first firstEnds, pieces,
        SameButForSlash, firstEnds, secondEnds, ne_append_slash first other firstEnds, eq_comm]
    · simp [segments_of_not_endsInSlash first firstEnds,
        segments_of_not_endsInSlash second secondEnds, pieces, SameButForSlash,
        ne_append_slash first second firstEnds, ne_append_slash second first secondEnds]

theorem params_eq_of_segments_eq (first second template : String)
    (same : segments first = segments second) :
    params first template = params second template := by
  rw [params, params, same]

/-- In a template with distinct names, a name has one place. -/
theorem place_unique (template : String) (distinct : (placeholders template).Nodup) (name : String)
    (index other : Nat) (here : (segments template)[index]? = some (placeholder name))
    (there : (segments template)[other]? = some (placeholder name)) (nonempty : name ≠ "") :
    index = other := by
  have named := placeholderName?_placeholder name nonempty
  rw [← placeholders_segments, List.Nodup, List.pairwise_filterMap,
    List.pairwise_iff_getElem] at distinct
  obtain ⟨inside, hereIs⟩ := List.getElem?_eq_some_iff.mp here
  obtain ⟨within, thereIs⟩ := List.getElem?_eq_some_iff.mp there
  rcases Nat.lt_trichotomy index other with less | same | greater
  · exact absurd rfl (distinct index other inside within less name (hereIs ▸ named) name
      (thereIs ▸ named))
  · exact same
  · exact absurd rfl (distinct other index within inside greater name (thereIs ▸ named) name
      (hereIs ▸ named))

/-- Every name of a template with distinct names stands for the one segment at its place. -/
theorem get?_params_at (path template : String) (result : Assignments)
    (distinct : (placeholders template).Nodup) (matched : params path template = .ok result)
    (index : Nat) (pattern name segment : String)
    (patternAt : (segments template)[index]? = some pattern)
    (segmentAt : (segments path)[index]? = some segment)
    (named : placeholderName? pattern = some name) : result.get? name = some segment := by
  obtain ⟨rfl, nonempty⟩ := (placeholderName?_eq_some_iff pattern name).mp named
  have bound : name ∈ placeholders template := by
    rw [← placeholders_segments]
    exact List.mem_filterMap.mpr ⟨_, List.mem_of_getElem? patternAt, named⟩
  obtain ⟨text, found, place, placeAt, textAt, _⟩ :=
    get?_params path template result matched name bound
  have same := place_unique template distinct name index place patternAt placeAt nonempty
  rw [same, textAt] at segmentAt
  rw [found, segmentAt]

theorem literal_met (path template : String) (result : Assignments)
    (matched : params path template = .ok result) (index : Nat) (pattern segment : String)
    (patternAt : (segments template)[index]? = some pattern)
    (segmentAt : (segments path)[index]? = some segment)
    (literal : placeholderName? pattern = none) : segment = pattern := by
  have met := ((params_isOk_iff path template).mp ⟨result, matched⟩).2 index pattern segment
  exact Classical.byContradiction fun differs => met ⟨patternAt, segmentAt, literal, differs⟩

/-- A template with distinct names gives every segment of a path back. -/
theorem segments_eq_of_params (first second template : String)
    (firstResult secondResult : Assignments) (distinct : (placeholders template).Nodup)
    (firstMatched : params first template = .ok firstResult)
    (secondMatched : params second template = .ok secondResult)
    (same : ∀ name, firstResult.get? name = secondResult.get? name) :
    segments first = segments second := by
  have firstCount := ((params_ok_iff first template _).mp firstMatched).1
  have secondCount := ((params_ok_iff second template _).mp secondMatched).1
  apply List.ext_getElem (firstCount.trans secondCount.symm)
  intro index inFirst inSecond
  have inTemplate : index < (segments template).length := firstCount ▸ inFirst
  have patternAt := List.getElem?_eq_getElem inTemplate
  have firstAt := List.getElem?_eq_getElem inFirst
  have secondAt := List.getElem?_eq_getElem inSecond
  cases named : placeholderName? (segments template)[index] with
  | none =>
      have firstMet := literal_met first template _ firstMatched index _ _ patternAt firstAt named
      have secondMet := literal_met second template _ secondMatched index _ _ patternAt secondAt
        named
      rw [firstMet, secondMet]
  | some name =>
      have firstText := get?_params_at first template _ distinct firstMatched index _ name _
        patternAt firstAt named
      have secondText := get?_params_at second template _ distinct secondMatched index _ name _
        patternAt secondAt named
      rwa [same name, secondText, Option.some.injEq, eq_comm] at firstText

/-! A template that every path with as many segments meets -/

/-- The template that has the names as its segments. -/
def templateOf (names : List String) : String := "/".intercalate (names.map placeholder)

theorem placeholder_ne_empty (name : String) : placeholder name ≠ "" := by
  rw [ne_eq, ← String.toList_inj]
  simp [placeholder]

theorem split_templateOf (names : List String) (nonempty : names ≠ [])
    (separated : ∀ name ∈ names, '/' ∉ name.toList) :
    split '/' (templateOf names) = names.map placeholder := by
  apply Text.split_intercalate '/' _ (by simpa using nonempty)
  intro text member
  obtain ⟨name, inside, rfl⟩ := List.mem_map.mp member
  simp [placeholder, separated name inside]

theorem segments_templateOf (names : List String) (nonempty : names ≠ [])
    (separated : ∀ name ∈ names, '/' ∉ name.toList) :
    segments (templateOf names) = names.map placeholder := by
  rw [segments, split_templateOf names nonempty separated, dropTrailingEmpty, if_neg]
  rintro ⟨_, last⟩
  obtain ⟨name, _, empty⟩ := List.mem_map.mp (List.mem_of_getLast? last)
  exact placeholder_ne_empty name empty

theorem placeholders_templateOf (names : List String) (nonempty : names ≠ [])
    (separated : ∀ name ∈ names, '/' ∉ name.toList) (visible : "" ∉ names) :
    placeholders (templateOf names) = names := by
  have named : ∀ name ∈ names, (placeholderName? ∘ placeholder) name = some name := by
    intro name member
    exact placeholderName?_placeholder name (ne_of_mem_of_not_mem member visible)
  rw [placeholders, split_templateOf names nonempty separated, List.filterMap_map,
    List.filterMap_congr named, List.filterMap_some]

theorem exists_distinct_names (count : Nat) :
    ∃ names : List String, names.length = count ∧ names.Nodup ∧
      (∀ name ∈ names, '/' ∉ name.toList) ∧ "" ∉ names := by
  refine ⟨(List.range count).map fun index => String.ofList (List.replicate (index + 1) 'x'),
    by simp, ?_, ?_, ?_⟩
  · rw [List.Nodup, List.pairwise_map]
    refine List.nodup_range.imp ?_
    intro index other differ same
    have lengths := congrArg List.length (String.ofList_inj.mp same)
    simp only [List.length_replicate] at lengths
    omega
  · intro name member
    obtain ⟨index, _, rfl⟩ := List.mem_map.mp member
    simp
  · intro member
    obtain ⟨index, _, empty⟩ := List.mem_map.mp member
    simp at empty

theorem segments_ne_nil (path : String) : segments path ≠ [] := by
  have nonempty := Text.split_ne_nil '/' path
  rw [segments, dropTrailingEmpty]
  split
  · next trailing =>
      rw [← List.length_pos_iff, List.length_dropLast]
      omega
  · exact nonempty

theorem exists_distinct_match (path : String) :
    ∃ template result, (placeholders template).Nodup ∧ params path template = .ok result := by
  obtain ⟨names, count, distinct, separated, visible⟩ :=
    exists_distinct_names (segments path).length
  have nonempty : names ≠ [] := by
    rw [← List.length_pos_iff, count]
    exact List.length_pos_iff.mpr (segments_ne_nil path)
  have patterns := segments_templateOf names nonempty separated
  have unmissed (index : Nat) (pattern segment : String) :
      ¬ MissesAt (segments (templateOf names)) (segments path) index pattern segment := by
    rintro ⟨patternAt, _, literal, _⟩
    rw [patterns] at patternAt
    obtain ⟨name, member, rfl⟩ := List.mem_map.mp (List.mem_of_getElem? patternAt)
    rw [placeholderName?_placeholder name (ne_of_mem_of_not_mem member visible)] at literal
    cases literal
  obtain ⟨result, matched⟩ := (params_isOk_iff path (templateOf names)).mpr
    ⟨by rw [patterns, List.length_map, count], unmissed⟩
  refine ⟨templateOf names, result, ?_, matched⟩
  rwa [placeholders_templateOf names nonempty separated visible]

theorem sameOutcome_iff_sameButForSlash (first second : String) :
    ((∀ template, SameOutcome (params first template) (params second template)) ↔
      SameButForSlash first second) ∧
    ∀ template firstResult secondResult, (placeholders template).Nodup →
      params first template = .ok firstResult → params second template = .ok secondResult →
      (∀ name, firstResult.get? name = secondResult.get? name) → SameButForSlash first second := by
  have told (template : String) (firstResult secondResult : Assignments)
      (distinct : (placeholders template).Nodup)
      (firstMatched : params first template = .ok firstResult)
      (secondMatched : params second template = .ok secondResult)
      (same : ∀ name, firstResult.get? name = secondResult.get? name) :
      SameButForSlash first second :=
    (segments_eq_iff first second).mp (segments_eq_of_params first second template firstResult
      secondResult distinct firstMatched secondMatched same)
  refine ⟨⟨?_, ?_⟩, told⟩
  · intro agree
    -- A template with one name for each segment of the first path is enough.
    obtain ⟨template, firstResult, distinct, firstMatched⟩ := exists_distinct_match first
    have here := agree template
    rw [firstMatched] at here
    cases secondMatched : params second template with
    | error mismatch =>
        rw [secondMatched] at here
        exact here.elim
    | ok secondResult =>
        rw [secondMatched] at here
        exact told template firstResult secondResult distinct firstMatched secondMatched here
  · intro related template
    have same := (segments_eq_iff first second).mpr related
    rw [params_eq_of_segments_eq first second template same]
    exact SameOutcome.refl _

theorem trailing_slash_sameButForSlash :
    (placeholders "/users/{id}/posts").Nodup ∧
    params "/users/7/posts" "/users/{id}/posts" = .ok ⟨[("id", "7")]⟩ ∧
    params "/users/7/posts/" "/users/{id}/posts" = .ok ⟨[("id", "7")]⟩ ∧
    (∀ name, (⟨[("id", "7")]⟩ : Assignments).get? name
      = (⟨[("id", "7")]⟩ : Assignments).get? name) ∧
    SameButForSlash "/users/7/posts" "/users/7/posts/" := by
  have distinct : (placeholders "/users/{id}/posts").Nodup := by decide +kernel
  have bare : params "/users/7/posts" "/users/{id}/posts" = .ok ⟨[("id", "7")]⟩ := by cbv
  have closed : params "/users/7/posts/" "/users/{id}/posts" = .ok ⟨[("id", "7")]⟩ := by cbv
  exact ⟨distinct, bare, closed, fun name => rfl,
    (sameOutcome_iff_sameButForSlash _ _).2 _ _ _ distinct bare closed fun name => rfl⟩

end HttpBinding.Path
