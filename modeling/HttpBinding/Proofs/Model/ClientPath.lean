import HttpBinding.Proofs.Model.Placement
import HttpBinding.Proofs.Path.Matching
import HttpBinding.Proofs.Text.Quotation

/-!
Client and server agree on paths. A client evaluates the expressions of a binding,
one per segment of the template, and joins the results with slashes; the matcher finds
the values again under the names of the template.
-/
namespace HttpBinding.Model

open Text (split)

/-- What stands between `start` and `finish`, if the text begins and ends with them. -/
def between? (start finish text : List Char) : Option (List Char) :=
  let inner := (text.drop start.length).take (text.length - start.length - finish.length)
  if text = start ++ inner ++ finish then some inner else none

/-- The value of a client expression: a member of the request as a text, or else what a
literal denotes. -/
def evaluate? (members : String → String) (expression : String) : Option String :=
  match between? "req.".toList ".to_string()".toList expression.toList with
  | some name => some (members (String.ofList name))
  | none => Text.unquoteText? expression

/-- The path that a client requests. -/
def clientPath? (members : String → String) (binding : Binding) : Option String :=
  (binding.pathSections.mapM (evaluate? members)).map "/".intercalate

/-- What a client puts in the place of a segment. -/
def filled (members : String → String) (segment : String) : String :=
  match Path.placeholderName? segment with
  | some name => members (Identifier.snake name)
  | none => segment

theorem between?_append (start inner finish : List Char) :
    between? start finish (start ++ inner ++ finish) = some inner := by
  simp [between?]

theorem between?_eq_none_of_head (start finish text : List Char) (nonempty : start ≠ [])
    (differs : text.head? ≠ start.head?) : between? start finish text = none := by
  rw [between?, if_neg]
  intro whole
  have heads := congrArg List.head? whole
  cases start with
  | nil => exact nonempty rfl
  | cons first rest => exact differs heads

theorem between?_quotedText (text : String) :
    between? "req.".toList ".to_string()".toList (Text.quotedText text).toList = none := by
  rw [Text.toList_quotedText]
  exact between?_eq_none_of_head _ _ _ (by decide) (by simp)

theorem evaluate?_pathSection (members : String → String) (segment : String) :
    evaluate? members (Binding.pathSection segment) = some (filled members segment) := by
  unfold evaluate? Binding.pathSection filled
  cases named : Path.placeholderName? segment with
  | some name =>
      simp only [String.toList_append, between?_append, String.ofList_toList]
  | none => simp only [between?_quotedText, Text.unquoteText?_quotedText]

example : ["\"\"", "\"v1\"", "req.user_id.to_string()"].map (evaluate? fun name => name ++ "!")
    = [some "", some "v1", some "user_id!"] := by decide +kernel

theorem clientPath?_eq (members : String → String) (binding : Binding) :
    clientPath? members binding
      = some ("/".intercalate ((split '/' binding.template).map (filled members))) := by
  have evaluated (segments : List String) :
      (segments.map Binding.pathSection).mapM (evaluate? members)
        = some (segments.map (filled members)) := by
    rw [List.mapM_map]
    simp only [Function.comp_def, evaluate?_pathSection]
    exact List.mapM_pure
  rw [clientPath?, Binding.pathSections, evaluated, Option.map_some]

theorem filled_empty_iff (members : String → String) (segment : String)
    (given : ∀ name, Path.placeholderName? segment = some name →
      members (Identifier.snake name) ≠ "") :
    filled members segment = "" ↔ segment = "" := by
  unfold filled
  cases named : Path.placeholderName? segment with
  | none => rfl
  | some name => simp [given name named, Path.ne_empty_of_named segment name named]

/-- The client's path has the segments of the template, each filled in. -/
theorem segments_clientPath (members : String → String) (template : String)
    (separated : ∀ name ∈ Path.placeholders template,
      '/' ∉ (members (Identifier.snake name)).toList)
    (closed : ∀ segment name, (split '/' template).getLast? = some segment →
      Path.placeholderName? segment = some name → members (Identifier.snake name) ≠ "") :
    Path.segments ("/".intercalate ((split '/' template).map (filled members)))
      = (Path.segments template).map (filled members) := by
  apply Path.segments_filled (filled members)
  · intro segment inside
    unfold filled
    cases named : Path.placeholderName? segment with
    | some name => exact separated name (List.mem_filterMap.mpr ⟨segment, inside, named⟩)
    | none => exact Text.mark_not_mem_split '/' template segment inside
  · intro segment last
    exact filled_empty_iff members segment fun name => closed segment name last

theorem clientPath_matches_template (binding : Binding) (members : String → String)
    (separated : ∀ name ∈ Path.placeholders binding.template,
      '/' ∉ (members (Identifier.snake name)).toList)
    (closed : ∀ segment name, (split '/' binding.template).getLast? = some segment →
      Path.placeholderName? segment = some name → members (Identifier.snake name) ≠ "") :
    ∃ path params, clientPath? members binding = some path ∧
      Path.params path binding.template = .ok params ∧
      (∀ name, name ∈ params.names ↔ name ∈ Path.placeholders binding.template) ∧
      ∀ name ∈ Path.placeholders binding.template,
        params.get? name = some (members (Identifier.snake name)) := by
  have segments := segments_clientPath members binding.template separated closed
  have paired : (Path.segments binding.template).zip
      ((Path.segments binding.template).map (filled members))
        = (Path.segments binding.template).map fun segment => (segment, filled members segment) :=
    List.map_prod_left_eq_zip.symm
  have matched := (Path.params_ok_iff _ binding.template _).mpr ⟨by rw [segments, List.length_map],
    by
      rw [segments, paired]
      intro pair member literal
      obtain ⟨segment, _, rfl⟩ := List.mem_map.mp member
      simp only [filled, literal],
    rfl⟩
  refine ⟨_, _, clientPath?_eq members binding, matched, Path.mem_names_params _ _ _ matched, ?_⟩
  -- A name that occurs twice has the same value in both places.
  intro name bound
  rw [segments, paired]
  apply Path.get?_bindSegments_uniform
  · rw [List.map_map]
    simpa [Function.comp_def, Path.placeholders_segments] using bound
  · intro pair member named
    obtain ⟨segment, _, rfl⟩ := List.mem_map.mp member
    simp only [filled, named]

def sumMembers (name : String) : String := if name = "a" then "7" else ""

theorem sumBinding_clientPath :
    (∀ name ∈ Path.placeholders sumBinding.template,
      '/' ∉ (sumMembers (Identifier.snake name)).toList) ∧
    (∀ segment name, (split '/' sumBinding.template).getLast? = some segment →
      Path.placeholderName? segment = some name → sumMembers (Identifier.snake name) ≠ "") ∧
    ∃ path params, clientPath? sumMembers sumBinding = some path ∧
      Path.params path sumBinding.template = .ok params ∧
      (∀ name, name ∈ params.names ↔ name ∈ Path.placeholders sumBinding.template) ∧
      ∀ name ∈ Path.placeholders sumBinding.template,
        params.get? name = some (sumMembers (Identifier.snake name)) := by
  have separated : ∀ name ∈ Path.placeholders sumBinding.template,
      '/' ∉ (sumMembers (Identifier.snake name)).toList := by decide +kernel
  have closed : ∀ segment name, (split '/' sumBinding.template).getLast? = some segment →
      Path.placeholderName? segment = some name → sumMembers (Identifier.snake name) ≠ "" := by
    intro segment name last named
    have ending : (split '/' sumBinding.template).getLast? = some "{a}" := by decide +kernel
    have bound : Path.placeholderName? "{a}" = some "a" := by decide +kernel
    rw [ending, Option.some.injEq] at last
    rw [← last, bound, Option.some.injEq] at named
    subst named
    decide +kernel
  exact ⟨separated, closed, clientPath_matches_template sumBinding sumMembers separated closed⟩

end HttpBinding.Model
