import HttpBinding.Command.Run

/-!
The program: it reads the files that a command line needs and writes the outcome.
-/
namespace HttpBinding.Program

open Workspace (Entry Environment Failure Files)

def errorNumber (code : UInt32) : UInt32 := if code < 0x80000000 then code else 0 - code

def failureOf (error : IO.Error) : Failure :=
  match error with
  | .noFileOrDirectory .. => .notFound
  | .inappropriateType _ code _ =>
      if errorNumber code = 21 then .isADirectory else .notADirectory
  | .invalidArgument _ code details =>
      if errorNumber code = 36 then .nameTooLong else .other details
  | _ => .other (toString error)

def isThere (path : String) : IO Bool := do
  try
    let _ ← IO.FS.realPath path
    return true
  catch _ =>
    return false

/-- What cannot be read may still be there. -/
def readEntry (path : String) : IO (Except Failure Entry) := do
  try
    return .ok (.file (← IO.FS.readBinFile path))
  catch error =>
    match failureOf error with
    | .isADirectory => return .ok .directory
    | failure => return if ← isThere path then .ok (.closed failure) else .error failure

def readEntries (paths : List String) : IO Files := do
  let entries ← paths.mapM fun path => return (path, ← readEntry path)
  return fun path => (entries.lookup path).getD (.error .notFound)

def orElse (first second : Files) : Files := fun path =>
  match first path with
  | .error .notFound => second path
  | found => found

def assignedText? (bytes : List UInt8) : Option (String × String) := do
  let text ← String.fromUTF8? (ByteArray.mk bytes.toArray)
  let (name, value) := text.toList.span (· ≠ '=')
  return (String.ofList name, String.ofList (value.drop 1))

def environmentOf (content : ByteArray) : Environment :=
  ⟨(content.toList.splitOn 0).filterMap assignedText?⟩

def readEnvironment : IO Environment :=
  return environmentOf (← IO.FS.readBinFile "/proc/self/environ")

def readFiles (environment : Environment) : Command.Request → IO Files
  | .perform profile task => do
      let files ← readEntries (Config.paths environment "." profile)
      match Command.loadChoices files environment profile with
      | .ok (.ok choices, _) => return orElse files (← readEntries (task.paths choices))
      | _ => return files
  | _ => readEntries []

end HttpBinding.Program

open HttpBinding in
def main (arguments : List String) : IO UInt32 := do
  let environment ← Program.readEnvironment
  let files ← Program.readFiles environment (Command.Request.ofArguments arguments)
  let output ← IO.getStdout
  let outcome := Command.run files environment (← output.isTty) arguments
  output.putStr outcome.output
  (← IO.getStderr).putStr outcome.errors
  return outcome.code.toUInt32
