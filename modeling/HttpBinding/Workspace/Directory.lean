import HttpBinding.Text.Split
import HttpBinding.Workspace.File

/-!
A directory with all that is below it, as a value. A path leads through it segment by
segment; of what is outside of it nothing is known.
-/
namespace HttpBinding.Workspace

inductive Node where
  | file (content : ByteArray)
  | directory (entries : List (String × Node))

namespace Node

def empty : Node := directory []

def entry : Node → Entry
  | file content => .file content
  | directory _ => .directory

def entries : Node → List (String × Node)
  | file _ => []
  | directory entries => entries

/-- Follows the segments from a node on; `above` holds the directories that lead to
it, nearest first. -/
def follow (node : Node) (above : List Node) : List String → Except Failure Node
  | [] => .ok node
  | name :: rest =>
      match node with
      | file _ => .error .notADirectory
      | directory entries =>
          if name = "" || name = "." then follow node above rest
          else if name = ".." then
            match above with
            | [] => follow empty [] rest
            | outer :: more => follow outer more rest
          else if 255 < name.utf8ByteSize then .error .nameTooLong
          else
            match entries.lookup name with
            | some inner => follow inner (node :: above) rest
            | none => .error .notFound

def resolve (root : Node) (path : String) : Except Failure Node :=
  if '\x00' ∈ path.toList then .error .nulInName
  else if path.isEmpty then .error .notFound
  else if 4096 ≤ path.utf8ByteSize then .error .nameTooLong
  else
    let start := if path.toList.head? = some '/' then empty else root
    follow start [] (Text.split '/' path)

def files (root : Node) : Files := fun path => (root.resolve path).map Node.entry

/-! Changes -/

/-- Changes what stands at a place below a node, and makes the directories that lead
there. -/
def alter (change : Option Node → Option Node) : List String → Option Node → Option Node
  | [], node? => change node?
  | name :: rest, node? =>
      let others := (node?.map entries).getD []
      let inner := alter change rest (others.lookup name)
      some (directory (others.filter (·.1 ≠ name) ++ inner.toList.map ((name, ·))))

def steps (path : String) : List String :=
  (Text.split '/' path).filter fun name => name ≠ "" && name ≠ "."

def alterAt (root : Node) (path : String) (change : Option Node → Option Node) : Node :=
  (alter change (steps path) (some root)).getD empty

def write (root : Node) (path : String) (content : ByteArray) : Node :=
  root.alterAt path fun _ => some (file content)

def makeDirectory (root : Node) (path : String) : Node :=
  root.alterAt path fun
    | some (directory entries) => some (directory entries)
    | _ => some empty

def remove (root : Node) (path : String) : Node := root.alterAt path fun _ => none

end Node
end HttpBinding.Workspace
