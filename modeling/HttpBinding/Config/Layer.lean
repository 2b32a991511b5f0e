import HttpBinding.Config.Error
import HttpBinding.Yaml.Value

/-!
Layers of a configuration. A YAML value gives its scalars, lists and tagged values
dotted keys; those with a known key change the values of the layers below.
-/
namespace HttpBinding.Config

open Yaml (Value)

/-- A value and the dotted key that leads to it. -/
structure Setting where
  key : String
  value : Value

def segment (key : Value) : String := key.scalarText?.getD key.describe

def below (path segment : String) : String :=
  if path.isEmpty then segment else path ++ "." ++ segment

mutual

def settingsBelow (path : String) : Value → List Setting
  | .mapping entries => entrySettings path entries
  | value => if path.isEmpty then [] else [⟨path, value⟩]

def entrySettings (path : String) : List (Value × Value) → List Setting
  | [] => []
  | (key, value) :: rest =>
      settingsBelow (below path (segment key)) value ++ entrySettings path rest

end

def settings (document : Value) : List Setting := settingsBelow "" document

/-- A null with or without a tag. -/
def isNull : Value → Bool
  | .null => true
  | .tagged _ value => isNull value
  | _ => false

def kind : Value → String
  | .list _ => "a list"
  | .mapping _ => "a mapping"
  | .tagged .. => "a tagged value"
  | _ => "a scalar"

/-- Changes the value of the setting's key. A null takes it away. -/
def Setting.apply (origin : String) (values : Assignments) (setting : Setting) :
    Except Error Assignments :=
  if !isOwn setting.key then .ok values
  else if setting.key ∉ knownKeys then .error (.unknownKey setting.key origin)
  else
    match setting.value.scalarText? with
    | some text => .ok (values.set setting.key text)
    | none =>
        if isNull setting.value then .ok (values.unset setting.key)
        else .error (.invalidValue setting.key (.notText (kind setting.value) origin))

def mergeValue (origin : String) (values : Assignments) (document : Value) :
    Except Error Assignments :=
  (settings document).foldlM (Setting.apply origin) values

def mergeText (origin : String) (values : Assignments) (text : String) :
    Except Error Assignments :=
  match Value.read? text with
  | none => .error (.malformed origin)
  | some document => mergeValue origin values document

def mergeFile (files : Workspace.Files) (path : String) (values : Assignments) :
    Except Error Assignments :=
  match files path with
  | .error _ => .ok values
  | .ok entry =>
      match entry.text with
      | .error failure => .error (.unreadable path failure)
      | .ok text => mergeText path values text

end HttpBinding.Config
