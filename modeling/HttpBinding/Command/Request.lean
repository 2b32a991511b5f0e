/-!
What a command line asks for. An option with a value may stand in front of a command
and behind it; behind `--` there are no options.
-/
namespace HttpBinding.Command

inductive Task where
  | routes (file : String)
  | model (file : String)
  | helper
deriving Repr, DecidableEq

inductive Request where
  | misuse
  | help
  | version
  | perform (profile : String) (task : Task)
deriving Repr, DecidableEq

/-- An option with its value, or another word of a command line. A value is attached to
its option or is the word behind it. -/
inductive Item where
  | profile (attached : Bool) (name : String)
  | help
  | version
  | plain (word : String)
  | unknown
  | optionsEnd
deriving Repr, DecidableEq

def isOption (word : String) : Bool := word.toList.head? = some '-' && word ≠ "-"

def profileOption : String := "--profile"

def attachedProfile? (word : String) : Option String :=
  let start := (profileOption ++ "=").toList
  if start.isPrefixOf word.toList then some (String.ofList (word.toList.drop start.length))
  else none

/-- Of several short options in one word the first one counts. -/
def Item.ofWord (word : String) : Item :=
  match attachedProfile? word with
  | some name => profile true name
  | none =>
      if !isOption word then plain word
      else if word = "--help" || "-h".toList.isPrefixOf word.toList then help
      else if word = "--version" || "-V".toList.isPrefixOf word.toList then version
      else unknown

def items : List String → List Item
  | [] => []
  | [word] => [if word = "--" then .optionsEnd else .ofWord word]
  | word :: next :: rest =>
      if word = "--" then .optionsEnd :: .plain next :: rest.map .plain
      else if word = profileOption then
        if isOption next then [.unknown] else .profile false next :: items rest
      else .ofWord word :: items (next :: rest)

structure Operands where
  profile : Option String
  words : List String

/-- The operands of a command that takes `places` words, unless there is a mistake in
them; the first mistake counts. An option may stand there once, and no word is empty. -/
def operands (places : Nat) (found : Operands) : List Item → Except Request Operands
  | [] => .ok found
  | .profile _ name :: rest =>
      if found.profile.isSome then .error .misuse
      else operands places { found with profile := some name } rest
  | .plain word :: rest =>
      if word.isEmpty || found.words.length = places then .error .misuse
      else operands places { found with words := found.words ++ [word] } rest
  | .optionsEnd :: rest => operands places found rest
  | .help :: _ => .error .help
  | .version :: _ | .unknown :: _ => .error .misuse

def commandNames : List String := ["routes", "model", "helper"]

def wordCount (command : String) : Nat := if command = "helper" then 0 else 1

def Task.ofWords? (command : String) (words : List String) : Option Task :=
  match command, words with
  | "routes", [file] => some (routes file)
  | "model", [file] => some (model file)
  | "helper", [] => some helper
  | _, _ => none

def isHelpTopic : List Item → Bool
  | [] => true
  | [.plain word] => word = "help" || word ∈ commandNames
  | _ => false

/-- A command and its operands. An option behind the command goes before one in front
of it. -/
def ofCommand (outer : Option String) (command : String) (rest : List Item) : Request :=
  if command = "help" then (if isHelpTopic rest then .help else .misuse)
  else if command ∉ commandNames then .misuse
  else
    match operands (wordCount command) ⟨none, []⟩ rest with
    | .error request => request
    | .ok found =>
        match Task.ofWords? command found.words with
        | some task => .perform ((found.profile.or outer).getD "dev") task
        | none => .misuse

/-- What comes of a repeated option whose value is a word of its own: the mistake is told
behind the command, where help may have been asked for. -/
def ofRepeated : List Item → Request
  | .plain command :: rest => if ofCommand none command rest = .help then .help else .misuse
  | _ => .misuse

def ofItems (outer : Option String) : List Item → Request
  | [] => .misuse
  | .profile attached name :: rest =>
      if outer.isNone then ofItems (some name) rest
      else if attached then .misuse
      else ofRepeated rest
  | .help :: _ => .help
  | .version :: _ => .version
  | .plain command :: rest => ofCommand outer command rest
  | .unknown :: _ | .optionsEnd :: _ => .misuse

def Request.ofArguments (arguments : List String) : Request := ofItems none (items arguments)

end HttpBinding.Command
