import HttpBinding.Assignments

/-!
What a path may lead to, and why it may not be read.
-/
namespace HttpBinding.Workspace

inductive Failure where
  | notFound
  | notADirectory
  | isADirectory
  | nameTooLong
  | nulInName
  | notUtf8
  | other (reason : String)
deriving Repr, DecidableEq

def Failure.message : Failure → String
  | notFound => "No such file or directory (os error 2)"
  | notADirectory => "Not a directory (os error 20)"
  | isADirectory => "Is a directory (os error 21)"
  | nameTooLong => "File name too long (os error 36)"
  | nulInName => "file name contained an unexpected NUL byte"
  | notUtf8 => "stream did not contain valid UTF-8"
  | other reason => reason

/-- What is there; it need not be open to reading. -/
inductive Entry where
  | file (content : ByteArray)
  | directory
  | closed (failure : Failure)

/-- What each path leads to, or why nothing is found there. -/
abbrev Files := String → Except Failure Entry

abbrev Environment := Assignments

def Entry.bytes : Entry → Except Failure ByteArray
  | file content => .ok content
  | directory => .error .isADirectory
  | closed failure => .error failure

def decoded (content : ByteArray) : Except Failure String :=
  match String.fromUTF8? content with
  | some text => .ok text
  | none => .error .notUtf8

def Entry.text (entry : Entry) : Except Failure String := entry.bytes >>= decoded

def readText (files : Files) (path : String) : Except Failure String := files path >>= Entry.text

def join (directory name : String) : String :=
  if directory.isEmpty || directory.toList.getLast? = some '/' then directory ++ name
  else directory ++ "/" ++ name

end HttpBinding.Workspace
