import HttpBinding.Command.Request
import HttpBinding.Command.RouteTable
import HttpBinding.Service.Json
import HttpBinding.Service.Yaml
import HttpBinding.Transport.Generate

/-!
What a command does: what it writes, and how it ends.
-/
namespace HttpBinding.Command

open Workspace (Environment Files)

inductive Failure where
  | config (error : Config.Error)
  | unreadable (path : String) (failure : Workspace.Failure)
  | description (path : String) (error : Service.ReadError)
  | binding (error : Model.BindingError)
  | excerpt (error : Source.ExcerptError)
  | transport (error : Transport.Error)

def Failure.message : Failure → String
  | config error => error.message
  | unreadable path failure => s!"cannot read {path}: {failure.message}"
  | description path error => s!"{path}: " ++ error.message?.getD "it is not well-formed"
  | binding error => error.message
  | excerpt error => error.message
  | transport error => error.message

structure Outcome where
  code : Nat
  output : String
  errors : String
deriving Repr, DecidableEq

/-- What stands behind the last dot of a path's last segment, unless that dot is its
first character. -/
def extension? (path : String) : Option String :=
  let segment := (Text.split '/' path).getLastD ""
  match (Text.split '.' segment).reverse with
  | [] | [_] | [_, ""] => none
  | last :: _ => some last

def isJson (path : String) : Bool :=
  (extension? path).any fun extension =>
    extension.toList.map Char.toLower = "json".toList

def readService (path text : String) : Except Service.ReadError Service.ServiceDef :=
  if isJson path then Service.ServiceDef.ofJson text else Service.ServiceDef.ofYaml text

def loadService (files : Files) (path : String) : Except Failure Service.ServiceDef := do
  let text ← (Workspace.readText files path).mapError (Failure.unreadable path)
  (readService path text).mapError (Failure.description path)

def loadChoices (files : Files) (environment : Environment) (profile : String) :
    Except Config.Interruption (Except Failure Config.Choices × Environment) := do
  let (config, after) ← Config.load files environment "." profile
  return ((config >>= Config.choices).mapError .config, after)

def listRoutes (files : Files) (colours : Bool) (choices : Config.Choices) (path : String) :
    Except Failure String := do
  let definition ← loadService files path
  let service ← (Model.buildService definition choices.separator).mapError .binding
  return routeListing colours service

def showModel (files : Files) (choices : Config.Choices) (path : String) :
    Except Failure String := do
  let definition ← loadService files path
  let transport ← (Transport.generate files definition choices).mapError .transport
  return transport.toJson.pretty ++ "\n"

def showHelper (files : Files) (choices : Config.Choices) : Except Failure String := do
  return (← (Transport.matcherBundle files choices.source).mapError .excerpt) ++ "\n"

def Task.run (files : Files) (colours : Bool) (choices : Config.Choices) :
    Task → Except Failure String
  | routes path => listRoutes files colours choices path
  | model path => showModel files choices path
  | helper => showHelper files choices

def Task.paths (choices : Config.Choices) : Task → List String
  | routes path => [path]
  | model path => path :: choices.source.paths
  | helper => choices.source.paths

/-- How a command ends, by what its task comes to. One that fails writes nothing but its
error. -/
def ending (colours : Bool) : Except Failure String → Outcome
  | .ok output => ⟨0, output, ""⟩
  | .error failure => ⟨1, "", paint colours .red s!"Error: {failure.message}" ++ "\n"⟩

def brokenOff (interruption : Config.Interruption) : Outcome :=
  ⟨101, "", s!"thread 'main' panicked: {interruption.message}\n"⟩

def perform (files : Files) (environment : Environment) (terminal : Bool) (profile : String)
    (task : Task) : Outcome :=
  match loadChoices files environment profile with
  | .error interruption => brokenOff interruption
  | .ok (choices, after) =>
      let colours := showsColours after terminal
      ending colours (choices >>= task.run files colours)

def usage : String :=
  "Usage: strut [--profile PROFILE] <routes FILE | model FILE | helper>\n"

def versionText : String := "strut 0.1.0\n"

def run (files : Files) (environment : Environment) (terminal : Bool)
    (arguments : List String) : Outcome :=
  match Request.ofArguments arguments with
  | .misuse => ⟨2, "", usage⟩
  | .help => ⟨0, usage, ""⟩
  | .version => ⟨0, versionText, ""⟩
  | .perform profile task => perform files environment terminal profile task

end HttpBinding.Command
