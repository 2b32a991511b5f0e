import HttpBinding.Proofs.Path.TrailingSlash
import Mathlib.Data.List.Forall2
import Mathlib.Data.List.TakeWhile

/-!
The base of a template is what stands in front of its first opening brace. The paths that
match begin with it, up to the slash that a template without placeholders may have at its
end. Where a placeholder opens behind the base, two paths with different characters in its
place part right there, so no longer text begins all of them.
-/
namespace HttpBinding.Path

open Text (joined pieces split)

/-- Every path that matches the template begins with the text. -/
def BeginsMatches (template text : String) : Prop :=
  ∀ path result, params path template = .ok result → text.toList <+: path.toList

/-- The first segment with an opening brace is a placeholder. -/
def OpensPlaceholder (template : String) : Prop :=
  ∃ front segment back, split '/' template = front ++ segment :: back ∧
    (∀ literal ∈ front, '{' ∉ literal.toList) ∧ isPlaceholder segment = true

/-- The characters of segments with slashes between them. -/
def joinedChars (segments : List String) : List Char := joined '/' (segments.map String.toList)

def beforeBrace (text : List Char) : List Char := text.takeWhile (· ≠ '{')

theorem toList_basePath (template : String) :
    (basePath template).toList = beforeBrace template.toList :=
  String.toList_ofList

theorem joinedChars_split (text : String) : joinedChars (split '/' text) = text.toList := by
  have pieced : (split '/' text).map String.toList = pieces '/' text.toList := by simp [split]
  rw [joinedChars, pieced, Text.joined_pieces]

theorem joinedChars_cons (segment : String) (rest : List String) (nonempty : rest ≠ []) :
    joinedChars (segment :: rest) = segment.toList ++ '/' :: joinedChars rest := by
  cases rest with
  | nil => exact absurd rfl nonempty
  | cons second more => rfl

theorem prefix_joinedChars_cons (segment : String) (rest : List String) :
    segment.toList <+: joinedChars (segment :: rest) := by
  cases rest with
  | nil => exact List.prefix_rfl
  | cons second more => exact List.prefix_append _ _

/-- The segments that matching compares are the text, but for a slash at its end. -/
theorem toList_eq_joinedChars (text : String) :
    text.toList = joinedChars (segments text) ∨
      text.toList = joinedChars (segments text) ++ ['/'] := by
  by_cases ends : EndsInSlash text
  · obtain ⟨front, rfl⟩ := (endsInSlash_iff text).mp ends
    right
    rw [segments_append_slash, joinedChars_split, String.toList_append]
    rfl
  · left
    rw [segments_of_not_endsInSlash text ends, joinedChars_split]

theorem subset_joinedChars (segment : String) (texts : List String) (member : segment ∈ texts) :
    segment.toList ⊆ joinedChars texts := by
  induction texts with
  | nil => cases member
  | cons first rest ih =>
      rcases List.mem_cons.mp member with rfl | later
      · exact (prefix_joinedChars_cons segment rest).subset
      · rw [joinedChars_cons first rest (List.ne_nil_of_mem later)]
        intro c inside
        exact List.mem_append_right _ (List.mem_cons_of_mem _ (ih later inside))

theorem joinedChars_begins (text : String) :
    joinedChars (segments text) <+: text.toList := by
  rcases toList_eq_joinedChars text with whole | closed
  · exact whole ▸ List.prefix_rfl
  · rw [closed]
    exact List.prefix_append _ _

theorem beforeBrace_append (front rest : List Char) (braceless : '{' ∉ front) :
    beforeBrace (front ++ rest) = front ++ beforeBrace rest := by
  apply List.takeWhile_append_of_pos
  intro c member
  exact decide_eq_true (ne_of_mem_of_not_mem member braceless)

theorem beforeBrace_append_of_mem (front rest : List Char) (brace : '{' ∈ front) :
    beforeBrace (front ++ rest) = beforeBrace front := by
  unfold beforeBrace
  rw [List.takeWhile_append, if_neg]
  intro whole
  have passes := List.takeWhile_eq_self_iff.mp ((List.takeWhile_prefix _).eq_of_length whole)
  exact of_decide_eq_true (passes '{' brace) rfl

theorem toList_of_isPlaceholder (segment : String) (opens : isPlaceholder segment = true) :
    ∃ rest, segment.toList = '{' :: rest := by
  obtain ⟨name, named⟩ := Option.isSome_iff_exists.mp opens
  obtain ⟨rfl, _⟩ := (placeholderName?_eq_some_iff segment name).mp named
  exact ⟨name.toList ++ ['}'], by simp [placeholder]⟩

theorem literal_of_braceless (segment : String) (braceless : '{' ∉ segment.toList) :
    placeholderName? segment = none := by
  rw [← Option.not_isSome_iff_eq_none]
  intro opens
  obtain ⟨rest, whole⟩ := toList_of_isPlaceholder segment opens
  simp [whole] at braceless

/-- Segment by segment: the parts that meet the patterns begin with what the patterns have
in front of a brace. -/
theorem beforeBrace_prefix_of_meets (patterns parts : List String)
    (met : List.Forall₂ Meets patterns parts) :
    beforeBrace (joinedChars patterns) <+: joinedChars parts := by
  -- A brace in the first pattern ends the base there. Without one the pattern is a literal,
  -- and the base goes on behind it.
  induction met with
  | nil => exact List.nil_prefix
  | @cons pattern part patterns parts meets rest ih =>
      by_cases brace : '{' ∈ pattern.toList
      · have inside : beforeBrace (joinedChars (pattern :: patterns)) = beforeBrace pattern.toList := by
          obtain ⟨more, whole⟩ := prefix_joinedChars_cons pattern patterns
          rw [← whole, beforeBrace_append_of_mem _ _ brace]
        rw [inside]
        cases named : placeholderName? pattern with
        | none =>
            rw [← meets named]
            exact (List.takeWhile_prefix _).trans (prefix_joinedChars_cons part parts)
        | some name =>
            obtain ⟨more, whole⟩ := toList_of_isPlaceholder pattern (by simp [isPlaceholder, named])
            simp [beforeBrace, whole]
      · have same := meets (literal_of_braceless pattern brace)
        subst same
        cases rest with
        | nil => exact List.takeWhile_prefix _
        | cons first others =>
            rw [joinedChars_cons _ _ (List.cons_ne_nil _ _), joinedChars_cons _ _ (List.cons_ne_nil _ _),
              beforeBrace_append _ _ brace, List.prefix_append_right_inj]
            exact List.cons_prefix_cons.mpr ⟨rfl, ih⟩

theorem meets_of_params (path template : String) (result : Assignments)
    (matched : params path template = .ok result) :
    List.Forall₂ Meets (segments template) (segments path) := by
  obtain ⟨counts, met, _⟩ := (params_ok_iff path template result).mp matched
  exact List.forall₂_iff_zip.mpr ⟨counts.symm, fun member => met _ member⟩

theorem basePath_prefix_of_brace (path template : String) (result : Assignments)
    (matched : params path template = .ok result) (brace : '{' ∈ template.toList) :
    (basePath template).toList <+: path.toList := by
  have begins := (beforeBrace_prefix_of_meets _ _ (meets_of_params path template result matched)).trans
    (joinedChars_begins path)
  rw [toList_basePath]
  rcases toList_eq_joinedChars template with whole | closed
  · rwa [whole]
  · rw [closed] at brace ⊢
    rwa [beforeBrace_append_of_mem _ _ (by simpa using brace)]

theorem eq_of_meets (patterns parts : List String) (met : List.Forall₂ Meets patterns parts)
    (literal : ∀ pattern ∈ patterns, placeholderName? pattern = none) : parts = patterns := by
  induction met with
  | nil => rfl
  | cons meets rest ih =>
      rw [List.forall_mem_cons] at literal
      rw [meets literal.1, ih literal.2]

theorem segments_eq_of_braceless (path template : String) (result : Assignments)
    (matched : params path template = .ok result) (braceless : '{' ∉ template.toList) :
    segments path = segments template := by
  apply eq_of_meets _ _ (meets_of_params path template result matched)
  intro pattern member
  apply literal_of_braceless
  intro brace
  exact braceless ((joinedChars_begins template).subset
    (subset_joinedChars pattern _ member brace))

theorem begins_or_lacks_slash (path template : String) (result : Assignments)
    (matched : params path template = .ok result) :
    (basePath template).toList <+: path.toList ∨
      '{' ∉ template.toList ∧ EndsInSlash template ∧ path ++ "/" = template := by
  by_cases brace : '{' ∈ template.toList
  · exact .inl (basePath_prefix_of_brace path template result matched brace)
  · have whole : basePath template = template := by
      rw [← String.toList_inj, toList_basePath]
      simpa [beforeBrace] using beforeBrace_append template.toList [] brace
    have same := segments_eq_of_braceless path template result matched brace
    rw [whole]
    rcases (segments_eq_iff path template).mp same with equal | ⟨_, shorter⟩ | ⟨_, longer⟩
    · rw [equal]
      exact .inl List.prefix_rfl
    · exact .inr ⟨brace, (endsInSlash_iff template).mpr ⟨path, shorter⟩, shorter.symm⟩
    · rw [longer, String.toList_append]
      exact .inl (List.prefix_append _ _)

/-! Two matches that part behind the base -/

/-- A placeholder is filled with the text, a literal stays as it is. -/
def fill (text segment : String) : String := if isPlaceholder segment then text else segment

/-- The path that has the text in the place of every placeholder. -/
def filledPath (text template : String) : String :=
  "/".intercalate ((split '/' template).map (fill text))

theorem fill_literal (text segment : String) (literal : placeholderName? segment = none) :
    fill text segment = segment := by
  simp [fill, isPlaceholder, literal]

theorem fill_separated (text template : String) (separated : '/' ∉ text.toList) :
    ∀ segment ∈ split '/' template, '/' ∉ (fill text segment).toList := by
  intro segment inside
  unfold fill
  split
  · exact separated
  · exact Text.mark_not_mem_split '/' template segment inside

theorem fill_empty_iff (text segment : String) (nonempty : text ≠ "") :
    fill text segment = "" ↔ segment = "" := by
  cases named : placeholderName? segment with
  | none => rw [fill_literal text segment named]
  | some name =>
      simp [fill, isPlaceholder, named, nonempty, ne_empty_of_named segment name named]

theorem filledPath_matches (text template : String) (separated : '/' ∉ text.toList)
    (nonempty : text ≠ "") :
    ∃ result, params (filledPath text template) template = .ok result := by
  have filled := segments_filled (fill text) template (fill_separated text template separated)
    fun segment _ => fill_empty_iff text segment nonempty
  refine (params_isOk_iff _ template).mpr ⟨by rw [filledPath, filled, List.length_map], ?_⟩
  rintro index pattern segment ⟨patternAt, segmentAt, literal, differs⟩
  rw [filledPath, filled, List.getElem?_map, patternAt, Option.map_some, Option.some.injEq,
    fill_literal text pattern literal] at segmentAt
  exact differs segmentAt.symm

/-- Behind the base stands what the placeholder is filled with. -/
theorem base_then_filled (text : String) (front back : List String) (segment : String)
    (braceless : ∀ literal ∈ front, '{' ∉ literal.toList) (opens : isPlaceholder segment = true) :
    beforeBrace (joinedChars (front ++ segment :: back)) ++ text.toList
      <+: joinedChars ((front ++ segment :: back).map (fill text)) := by
  induction front with
  | nil =>
      obtain ⟨rest, whole⟩ := toList_of_isPlaceholder segment opens
      have empty : beforeBrace (joinedChars (segment :: back)) = [] := by
        obtain ⟨more, parts⟩ := prefix_joinedChars_cons segment back
        rw [← parts, whole]
        rfl
      have filled : fill text segment = text := if_pos opens
      rw [List.nil_append, empty, List.map_cons, filled]
      exact prefix_joinedChars_cons text _
  | cons literal front ih =>
      rw [List.forall_mem_cons] at braceless
      have kept := fill_literal text literal (literal_of_braceless literal braceless.1)
      rw [List.cons_append, List.map_cons, kept, joinedChars_cons literal _ (by simp),
        joinedChars_cons literal _ (by simp), beforeBrace_append _ _ braceless.1]
      simpa [beforeBrace] using ih braceless.2

theorem brace_mem_of_opens (template : String) (opens : OpensPlaceholder template) :
    '{' ∈ template.toList := by
  obtain ⟨front, segment, back, whole, _, placeholder⟩ := opens
  obtain ⟨rest, brace⟩ := toList_of_isPlaceholder segment placeholder
  rw [← joinedChars_split template, whole]
  apply subset_joinedChars segment
  · simp
  · simp [brace]

theorem base_then_filledPath (text template : String) (separated : '/' ∉ text.toList)
    (opens : OpensPlaceholder template) :
    (basePath template).toList ++ text.toList <+: (filledPath text template).toList := by
  obtain ⟨front, segment, back, whole, braceless, placeholder⟩ := opens
  have begins := base_then_filled text front back segment braceless placeholder
  rwa [← whole, joinedChars_split, ← split_filled _ _ (fill_separated text template separated),
    joinedChars_split, ← toList_basePath] at begins

/-- What begins two texts that part behind a common start begins the start. -/
theorem prefix_of_parting (start text first second : List Char) (one other : Char)
    (differs : one ≠ other) (firstParts : start ++ [one] <+: first)
    (secondParts : start ++ [other] <+: second) (beginsFirst : text <+: first)
    (beginsSecond : text <+: second) : text <+: start := by
  -- A longer text would have both characters in the same place.
  by_contra longer
  have reaches (c : Char) (whole : List Char) (parts : start ++ [c] <+: whole)
      (begins : text <+: whole) : start ++ [c] <+: text := by
    rcases List.prefix_or_prefix_of_prefix begins parts with short | long
    · rcases List.prefix_concat_iff.mp short with same | inside
      · exact same ▸ List.prefix_rfl
      · exact absurd inside longer
    · exact long
  have both := List.prefix_of_prefix_length_le (reaches one first firstParts beginsFirst)
    (reaches other second secondParts beginsSecond) (by simp)
  have same := both.eq_of_length (by simp)
  simp [differs] at same

/-- The base begins every path that matches, up to the last slash of a template that is itself
the base. Where a placeholder opens behind it, nothing longer begins them all. -/
theorem basePath_begins_matches (template : String) :
    (∀ path result, params path template = .ok result →
      (basePath template).toList <+: path.toList ∨
        '{' ∉ template.toList ∧ EndsInSlash template ∧ path ++ "/" = template) ∧
    (OpensPlaceholder template →
      BeginsMatches template (basePath template) ∧
        ∀ text, BeginsMatches template text → text.toList <+: (basePath template).toList) := by
  refine ⟨fun path result => begins_or_lacks_slash path template result, ?_⟩
  intro opens
  constructor
  · intro path result matched
    exact basePath_prefix_of_brace path template result matched (brace_mem_of_opens template opens)
  · intro text begins
    obtain ⟨_, first⟩ := filledPath_matches "a" template (by decide) (by decide)
    obtain ⟨_, second⟩ := filledPath_matches "b" template (by decide) (by decide)
    exact prefix_of_parting _ _ _ _ 'a' 'b' (by decide)
      (base_then_filledPath "a" template (by decide) opens)
      (base_then_filledPath "b" template (by decide) opens)
      (begins _ _ first) (begins _ _ second)

/-- A path that is the base without its slash, and a base with a placeholder behind it. -/
theorem slashed_and_placed_bases :
    params "/users" "/users/" = .ok .empty ∧
    ((basePath "/users/").toList <+: "/users".toList ∨
      '{' ∉ "/users/".toList ∧ EndsInSlash "/users/" ∧ "/users" ++ "/" = "/users/") ∧
    OpensPlaceholder "/users/{id}/posts/{id}" ∧
    BeginsMatches "/users/{id}/posts/{id}" "/u" ∧
    "/u".toList <+: (basePath "/users/{id}/posts/{id}").toList ∧
    basePath "/users/{id}/posts/{id}" = "/users/" := by
  have matched : params "/users" "/users/" = .ok .empty := by cbv
  have opens : OpensPlaceholder "/users/{id}/posts/{id}" :=
    ⟨["", "users"], "{id}", ["posts", "{id}"], by decide +kernel, by decide, by decide +kernel⟩
  have base : basePath "/users/{id}/posts/{id}" = "/users/" := by decide +kernel
  have longest := (basePath_begins_matches "/users/{id}/posts/{id}").2 opens
  have begins : BeginsMatches "/users/{id}/posts/{id}" "/u" := by
    intro path result matched
    have whole := longest.1 path result matched
    rw [base] at whole
    exact List.IsPrefix.trans (by decide) whole
  exact ⟨matched, (basePath_begins_matches "/users/").1 _ _ matched, opens, begins,
    longest.2 "/u" begins, base⟩

end HttpBinding.Path
