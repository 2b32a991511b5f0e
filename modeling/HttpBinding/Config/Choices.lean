import HttpBinding.Config.Load
import HttpBinding.Model.Build

/-!
What a configuration chooses.
-/
namespace HttpBinding.Config

inductive Source where
  | embedded
  | disk (path : String)
deriving Repr, DecidableEq

def Source.paths : Source → List String
  | embedded => []
  | disk path => [path]

structure Choices where
  source : Source
  separator : String
deriving Repr, DecidableEq

def Source.ofValue (value : Option String) : Except Error Source :=
  match value with
  | none | some "embedded" => .ok .embedded
  | some "" => .error (.invalidValue helperSource .emptySource)
  | some path => .ok (.disk path)

def separatorOfValue (value : Option String) : Except Error String :=
  match value with
  | none => .ok Model.defaultSeparator
  | some "" => .error (.invalidValue separator .emptySeparator)
  | some text => .ok text

def choices (config : Config) : Except Error Choices := do
  let source ← Source.ofValue (config.get? helperSource)
  let separator ← separatorOfValue (config.get? separator)
  return ⟨source, separator⟩

end HttpBinding.Config
