import HttpBinding.Config.Key
import HttpBinding.Workspace.File

/-!
What may be wrong with a configuration.
-/
namespace HttpBinding.Config

inductive Objection where
  | notText (found origin : String)
  | emptySource
  | emptySeparator
deriving Repr, DecidableEq

inductive Error where
  | unreadable (origin : String) (failure : Workspace.Failure)
  | malformed (origin : String)
  | unknownKey (key origin : String)
  | invalidValue (key : String) (objection : Objection)
deriving Repr, DecidableEq

def Objection.message : Objection → String
  | notText found origin => s!"expected a string, found {found} in {origin}"
  | emptySource => "expected `embedded` or a path, found an empty string"
  | emptySeparator => "the separator must not be empty"

namespace Error

def isLoad : Error → Bool
  | unreadable .. | malformed _ => true
  | _ => false

def summary : Error → String
  | unreadable origin _ | malformed origin => s!"Config load error: {origin}"
  | unknownKey key origin =>
      s!"Unknown config key '{key}' in {origin} (known keys: " ++ ", ".intercalate knownKeys ++ ")"
  | invalidValue key objection =>
      s!"Invalid value for '{key}' (env `{variableOf key}`): {objection.message}"

def message (error : Error) : String :=
  match error with
  | unreadable _ failure => s!"{error.summary}: {failure.message}"
  | malformed _ => s!"{error.summary}: it is not well-formed"
  | _ => error.summary

end Error
end HttpBinding.Config
