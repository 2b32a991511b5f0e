import HttpBinding.Config.Layer
import HttpBinding.Dotenv.Reading
import HttpBinding.Text.Quoted

/-!
A configuration from the files of a directory and the environment. From the lowest
layer to the highest: the base file, the file of the profile, and the variables of the
known keys, which the `.env` files may set where they are not set. No variable can hold a
NUL: a `.env` file that gives an unset one such a text breaks off the whole program.
-/
namespace HttpBinding

structure Config where
  values : Assignments
  profile : String
deriving Repr, DecidableEq

namespace Config

open Workspace (Environment Files)

def get? (config : Config) (key : String) : Option String := config.values.get? key

def ofText (text profile : String) : Except Error Config :=
  (mergeText "<inline>" .empty text).map fun values => ⟨values, profile⟩

/-- The variable goes before the argument. -/
def activeProfile (environment : Environment) (profile : String) : String :=
  (environment.get? "STRUT_PROFILE").getD profile

def basePath (directory : String) : String := Workspace.join directory "strut.yaml"

def profilePath (directory profile : String) : String :=
  Workspace.join directory s!"strut-{profile}.yaml"

def dotenvPaths (directory profile : String) : List String :=
  [Workspace.join directory ".env", Workspace.join directory s!".env.{profile}"]

def paths (environment : Environment) (directory profile : String) : List String :=
  let profile := activeProfile environment profile
  basePath directory :: profilePath directory profile :: dotenvPaths directory profile

def fileValues (files : Files) (directory profile : String) : Except Error Assignments :=
  mergeFile files (basePath directory) .empty >>= mergeFile files (profilePath directory profile)

/-- The assignments of a `.env` file, of which there are none if it cannot be read. -/
def dotenvAssignments (files : Files) (environment : Environment) (path : String) :
    List (String × String) :=
  match files path >>= Workspace.Entry.bytes with
  | .ok content => Dotenv.assignments environment content
  | .error _ => []

/-- The variable that could not be given its text, and the environment by then. -/
structure Interruption where
  name : String
  text : String
  environment : Environment
deriving Repr, DecidableEq

def Interruption.message (interruption : Interruption) : String :=
  s!"failed to set environment variable `{Text.quotedText interruption.name}` to "
    ++ s!"`{Text.quotedText interruption.text}`: {Workspace.Failure.nulInName.message}"

/-- A variable that is set stays as it is. -/
def setVariable (environment : Environment) (assignment : String × String) :
    Except Interruption Environment :=
  let (name, text) := assignment
  if environment.get? name = none ∧ '\x00' ∈ text.toList then .error ⟨name, text, environment⟩
  else .ok (environment.add name text)

def withDotenv (files : Files) (environment : Environment) (path : String) :
    Except Interruption Environment :=
  (dotenvAssignments files environment path).foldlM setVariable environment

def override (environment : Environment) (values : Assignments) (key : String) : Assignments :=
  match environment.get? (variableOf key) with
  | some text => values.set key text
  | none => values

def load (files : Files) (environment : Environment) (directory profile : String) :
    Except Interruption (Except Error Config × Environment) :=
  let profile := activeProfile environment profile
  match fileValues files directory profile with
  | .error error => .ok (.error error, environment)
  | .ok values => do
      let after ← (dotenvPaths directory profile).foldlM (withDotenv files) environment
      return (.ok ⟨knownKeys.foldl (override after) values, profile⟩, after)

end Config
end HttpBinding
