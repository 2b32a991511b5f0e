import HttpBinding.Text.Split

/-!
Path templates: segments between slashes, where `{name}` stands for one segment
of a path and anything else stands for itself.
-/
namespace HttpBinding.Path

open Text (pieces split)

def placeholderChars? : List Char → Option (List Char)
  | '{' :: rest =>
      if rest.getLast? = some '}' ∧ rest.dropLast ≠ [] then some rest.dropLast else none
  | _ => none

def placeholderName? (segment : String) : Option String :=
  (placeholderChars? segment.toList).map String.ofList

def isPlaceholder (segment : String) : Bool := (placeholderName? segment).isSome

/-- Placeholder names in order; a repeated name is repeated. -/
def placeholders (template : String) : List String :=
  (split '/' template).filterMap placeholderName?

def basePath (template : String) : String :=
  String.ofList (template.toList.takeWhile (· ≠ '{'))

/-- Drops one empty piece at the end, unless it is the only one. -/
def dropTrailingEmpty (segments : List String) : List String :=
  if 1 < segments.length ∧ segments.getLast? = some "" then segments.dropLast else segments

def segments (text : String) : List String := dropTrailingEmpty (split '/' text)

end HttpBinding.Path
