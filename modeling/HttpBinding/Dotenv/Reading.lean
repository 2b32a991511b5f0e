import HttpBinding.Dotenv.Expansion
import HttpBinding.Dotenv.Line
import HttpBinding.Workspace.File

/-!
The assignments of a `.env` file, up to the first line that is none.
-/
namespace HttpBinding.Dotenv

open Workspace (Environment)

def isNameStart (c : Char) : Bool := c.isAlpha || c = '_'

def isNameContinue (c : Char) : Bool := c.isAlphanum || c = '_' || c = '.'

def name? (text : List Char) : Option (List Char × List Char) :=
  if text.head?.any isNameStart then
    some (text.takeWhile isNameContinue, text.dropWhile isNameContinue)
  else none

def assigned? (text : List Char) : Option (List Char) :=
  match Text.trimLeft text with
  | '=' :: rest => some (Text.trimLeft rest)
  | _ => none

/-- The name that is assigned to and the text behind the equals sign. The word `export`
may stand in front of the name, and may be the name. -/
def assignment? (line : List Char) : Option (List Char × List Char) := do
  let (name, rest) ← name? line
  match assigned? rest with
  | some text => return (name, text)
  | none =>
      if name ≠ "export".toList then none
      let (name, rest) ← name? (Text.trimLeft rest)
      return (name, ← assigned? rest)

/-- A value that starts with a comment is empty. -/
def value? (textOf : List Char → List Char) (text : List Char) : Option (List Char) :=
  if text.head? = some '#' then some [] else expanded? textOf false .text text

/-- A name stands for its text in the environment. One that holds an equals sign stands
for what follows it and a further equals sign in an assignment. -/
def textIn (environment : Environment) (name : List Char) : List Char :=
  let (wanted, more) := name.span (· ≠ '=')
  let text := ((environment.get? (String.ofList wanted)).getD "").toList
  if more.isEmpty then text
  else
    let start := more.drop 1 ++ ['=']
    if start.isPrefixOf text then text.drop start.length else []

/-- The assignments of lines in order. Each sees those before it, where they were not
set already. -/
def assignmentsOf (environment : Environment) : List (List Char) → List (String × String)
  | [] => []
  | line :: rest =>
      let line := Text.trimLeft (Text.trimRight line)
      if line.isEmpty || isComment line then assignmentsOf environment rest
      else
        match assignment? line with
        | none => []
        | some (name, text) =>
            match value? (textIn environment) text with
            | none => []
            | some value =>
                let name := String.ofList name
                let value := String.ofList value
                (name, value) :: assignmentsOf (environment.add name value) rest

def assignments (environment : Environment) (content : ByteArray) : List (String × String) :=
  assignmentsOf environment (lines content)

end HttpBinding.Dotenv
