import HttpBinding.Proofs.FirstFault
import HttpBinding.Proofs.Path.Matching

/-!
Every outcome of a match, told from the segments of path and template alone. Their
numbers are compared first, then the first literal that the path misses decides. Where
none is missed, a name stands for the segment at its last place in the template.
-/
namespace HttpBinding.Path

/-- The template has a literal at `index`, and the path has another segment there. -/
def MissesAt (template path : List String) (index : Nat) (pattern segment : String) : Prop :=
  template[index]? = some pattern ∧ path[index]? = some segment ∧
    placeholderName? pattern = none ∧ segment ≠ pattern

/-- The segment of a template that stands for a name. -/
def placeholder (name : String) : String := "\x7b" ++ name ++ "\x7d"

theorem not_meets_iff (pattern segment : String) :
    ¬ Meets pattern segment ↔ placeholderName? pattern = none ∧ segment ≠ pattern :=
  Classical.not_imp

theorem placeholderChars?_eq_some_iff (segment name : List Char) :
    placeholderChars? segment = some name ↔
      segment = '\x7b' :: (name ++ ['\x7d']) ∧ name ≠ [] := by
  constructor
  · intro named
    unfold placeholderChars? at named
    split at named
    · next rest =>
        split at named
        · next closed =>
            obtain ⟨front, rfl⟩ := List.getLast?_eq_some_iff.mp closed.1
            rw [List.dropLast_concat, Option.some.injEq] at named
            subst named
            exact ⟨rfl, by simpa using closed.2⟩
        · cases named
    · cases named
  · rintro ⟨rfl, nonempty⟩
    simp [placeholderChars?, nonempty]

theorem placeholderName?_eq_some_iff (segment name : String) :
    placeholderName? segment = some name ↔ segment = placeholder name ∧ name ≠ "" := by
  simp only [placeholderName?, Option.map_eq_some_iff, placeholderChars?_eq_some_iff]
  constructor
  · rintro ⟨chars, ⟨whole, nonempty⟩, rfl⟩
    refine ⟨?_, by simpa using nonempty⟩
    rw [← String.toList_inj, whole]
    simp [placeholder]
  · rintro ⟨rfl, nonempty⟩
    exact ⟨name.toList, ⟨by simp [placeholder], by simpa using nonempty⟩, by simp⟩

theorem placeholderName?_placeholder (name : String) (nonempty : name ≠ "") :
    placeholderName? (placeholder name) = some name :=
  (placeholderName?_eq_some_iff (placeholder name) name).mpr ⟨rfl, nonempty⟩

theorem matchFrom_error_iff (index : Nat) (pairs : List (String × String))
    (params : Assignments) (error : Mismatch) :
    matchFrom index pairs params = .error error ↔
      FirstFault (fun pair => Meets pair.1 pair.2)
        (fun position pair => ¬ Meets pair.1 pair.2 ∧
          error = .literal (index + position) pair.1 pair.2) pairs := by
  induction pairs generalizing index params with
  | nil => simp [matchFrom, not_firstFault_nil]
  | cons pair rest ih =>
      obtain ⟨pattern, segment⟩ := pair
      have behind := ih (index + 1)
      simp only [Nat.add_assoc, Nat.add_comm 1] at behind
      simp only [firstFault_cons, matchFrom, Nat.add_zero, not_meets_iff] at behind ⊢
      cases named : placeholderName? pattern with
      | some name => simp [behind, Meets, named]
      | none =>
          by_cases same : segment = pattern
          · simp [behind, Meets, same]
          · simp [Meets, named, same, eq_comm]

/-- A pair of segments that do not meet is a place that is missed. -/
theorem getElem?_zip_not_meets_iff (template path : List String) (index : Nat)
    (pattern segment : String) :
    ((template.zip path)[index]? = some (pattern, segment) ∧ ¬ Meets pattern segment) ↔
      MissesAt template path index pattern segment := by
  rw [List.getElem?_zip_eq_some, not_meets_iff, MissesAt, and_assoc]

theorem all_meet_before_iff (template path : List String) (index : Nat) :
    (∀ earlier < index, ∀ pair, (template.zip path)[earlier]? = some pair →
      Meets pair.1 pair.2) ↔
      ∀ earlier < index, ∀ pattern segment,
        ¬ MissesAt template path earlier pattern segment := by
  simp only [← getElem?_zip_not_meets_iff, not_and, Classical.not_not, Prod.forall]

theorem params_segmentCount_iff (path template : String) (expected found : Nat) :
    params path template = .error (.segmentCount expected found) ↔
      (segments path).length ≠ (segments template).length ∧
      expected = (segments template).length ∧ found = (segments path).length := by
  unfold params
  by_cases counts : (segments path).length = (segments template).length
  · simp [counts, matchFrom_error_iff, FirstFault]
  · simp [counts, eq_comm]

theorem params_literal_iff (path template : String) (index : Nat) (pattern segment : String) :
    params path template = .error (.literal index pattern segment) ↔
      (segments path).length = (segments template).length ∧
      MissesAt (segments template) (segments path) index pattern segment ∧
      ∀ earlier < index, ∀ pattern segment,
        ¬ MissesAt (segments template) (segments path) earlier pattern segment := by
  unfold params
  by_cases counts : (segments path).length = (segments template).length
  · rw [if_pos counts, matchFrom_error_iff, firstFault_iff_getElem?]
    simp only [all_meet_before_iff, counts, true_and]
    constructor
    · rintro ⟨_, ⟨_, _⟩, found, ⟨unmet, same⟩, before⟩
      simp only [Nat.zero_add, Mismatch.literal.injEq] at same
      obtain ⟨rfl, rfl, rfl⟩ := same
      exact ⟨(getElem?_zip_not_meets_iff ..).mp ⟨found, unmet⟩, before⟩
    · rintro ⟨missed, before⟩
      obtain ⟨found, unmet⟩ := (getElem?_zip_not_meets_iff ..).mpr missed
      exact ⟨index, _, found, ⟨unmet, by rw [Nat.zero_add]⟩, before⟩
  · simp [counts]

theorem params_isOk_iff (path template : String) :
    (∃ result, params path template = .ok result) ↔
      (segments path).length = (segments template).length ∧
      ∀ index pattern segment,
        ¬ MissesAt (segments template) (segments path) index pattern segment := by
  have met : (∀ pair ∈ (segments template).zip (segments path), Meets pair.1 pair.2) ↔
      ∀ index pattern segment,
        ¬ MissesAt (segments template) (segments path) index pattern segment := by
    simp only [← getElem?_zip_not_meets_iff, not_and, Classical.not_not, List.mem_iff_getElem?,
      Prod.forall, forall_exists_index]
    exact ⟨fun all index pattern segment => all pattern segment index,
      fun all pattern segment index => all index pattern segment⟩
  simp only [params_ok_iff, met]
  exact ⟨fun ⟨_, counts, all, _⟩ => ⟨counts, all⟩, fun ⟨counts, all⟩ => ⟨_, counts, all, rfl⟩⟩

/-- The last member that passes a test, by its place. -/
theorem getLast?_filter_place {α : Type} (items : List α) (test : α → Bool) (last : α)
    (found : (items.filter test).getLast? = some last) :
    ∃ index : Nat, items[index]? = some last ∧ test last ∧
      ∀ later > index, ∀ other, items[later]? = some other → ¬ test other := by
  rw [List.getLast?_filter, List.find?_eq_some_iff_append] at found
  obtain ⟨passes, behind, front, whole, others⟩ := found
  have order : items = front.reverse ++ last :: behind.reverse := by
    rw [← List.reverse_reverse items, whole]
    simp
  subst order
  refine ⟨front.reverse.length, by simp, passes, ?_⟩
  intro later greater other member
  rw [List.getElem?_append_right (by omega), List.getElem?_cons, if_neg (by omega)] at member
  simpa using others other (List.mem_reverse.mp (List.mem_of_getElem? member))

/-- The text of the last place where the template has the name. -/
def TextAtLastPlace (template path : List String) (name text : String) : Prop :=
  ∃ index : Nat, template[index]? = some (placeholder name) ∧ path[index]? = some text ∧
    ∀ later > index, template[later]? ≠ some (placeholder name)

theorem textAtLastPlace_of_bound (template path : List String)
    (counts : path.length = template.length) (name text : String) (nonempty : name ≠ "")
    (bound : (boundTexts name (template.zip path)).getLast? = some text) :
    TextAtLastPlace template path name text := by
  simp only [boundTexts, List.getLast?_map, Option.map_eq_some_iff] at bound
  obtain ⟨⟨pattern, segment⟩, found, rfl⟩ := bound
  obtain ⟨index, place, named, others⟩ := getLast?_filter_place _ _ _ found
  obtain ⟨patternAt, segmentAt⟩ := List.getElem?_zip_eq_some.mp place
  have same := ((placeholderName?_eq_some_iff pattern name).mp (by simpa using named)).1
  refine ⟨index, same ▸ patternAt, segmentAt, ?_⟩
  intro later greater again
  -- The path reaches as far as the template, so the later place would have been taken.
  have inside : later < path.length := by
    rw [counts]
    exact (List.getElem?_eq_some_iff.mp again).1
  have paired : (template.zip path)[later]? = some (placeholder name, path[later]) :=
    List.getElem?_zip_eq_some.mpr ⟨again, List.getElem?_eq_getElem inside⟩
  exact others later greater _ paired (by simpa using placeholderName?_placeholder name nonempty)

theorem get?_params (path template : String) (result : Assignments)
    (matched : params path template = .ok result) (name : String)
    (bound : name ∈ placeholders template) :
    ∃ text, result.get? name = some text ∧
      TextAtLastPlace (segments template) (segments path) name text := by
  obtain ⟨counts, _, rfl⟩ := (params_ok_iff path template result).mp matched
  obtain ⟨segment, _, named⟩ := List.mem_filterMap.mp bound
  have nonempty := ((placeholderName?_eq_some_iff segment name).mp named).2
  rw [← placeholders_segments, ← List.map_fst_zip (Nat.le_of_eq counts.symm)] at bound
  have occurs := boundTexts_ne_nil name _ bound
  rw [get?_bindSegments]
  cases last : (boundTexts name ((segments template).zip (segments path))).getLast? with
  | none => exact absurd (List.getLast?_eq_none_iff.mp last) occurs
  | some text =>
      exact ⟨text, rfl, textAtLastPlace_of_bound _ _ counts name text nonempty last⟩

theorem params_outcome (path template : String) :
    (∀ expected found, params path template = .error (.segmentCount expected found) ↔
      (segments path).length ≠ (segments template).length ∧
      expected = (segments template).length ∧ found = (segments path).length) ∧
    (∀ index pattern segment, params path template = .error (.literal index pattern segment) ↔
      (segments path).length = (segments template).length ∧
      MissesAt (segments template) (segments path) index pattern segment ∧
      ∀ earlier < index, ∀ pattern segment,
        ¬ MissesAt (segments template) (segments path) earlier pattern segment) ∧
    ((∃ result, params path template = .ok result) ↔
      (segments path).length = (segments template).length ∧
      ∀ index pattern segment,
        ¬ MissesAt (segments template) (segments path) index pattern segment) ∧
    ∀ result, params path template = .ok result →
      (∀ name, name ∈ result.names ↔ name ∈ placeholders template) ∧
      ∀ name ∈ placeholders template, ∃ text, result.get? name = some text ∧
        TextAtLastPlace (segments template) (segments path) name text := by
  refine ⟨params_segmentCount_iff path template, params_literal_iff path template,
    params_isOk_iff path template, ?_⟩
  intro result matched
  exact ⟨mem_names_params path template result matched, get?_params path template result matched⟩

theorem params_outcome_of_repeated_name :
    params "/users/7/posts/8/" "/users/{id}/posts/{id}" = .ok ⟨[("id", "8")]⟩ ∧
    (∀ name, name ∈ (⟨[("id", "8")]⟩ : Assignments).names ↔
      name ∈ placeholders "/users/{id}/posts/{id}") ∧
    ∀ name ∈ placeholders "/users/{id}/posts/{id}", ∃ text,
      (⟨[("id", "8")]⟩ : Assignments).get? name = some text ∧
      TextAtLastPlace (segments "/users/{id}/posts/{id}") (segments "/users/7/posts/8/")
        name text := by
  have matched : params "/users/7/posts/8/" "/users/{id}/posts/{id}" = .ok ⟨[("id", "8")]⟩ := by
    cbv
  exact ⟨matched, (params_outcome _ _).2.2.2 _ matched⟩

end HttpBinding.Path
