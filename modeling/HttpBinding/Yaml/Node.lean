import HttpBinding.Iteration
import HttpBinding.Yaml.Lexer

/-!
From tokens to the nodes of a document. Anchors and aliases are numbered: an anchor
gets the number of different names in front of it, so a name that is used again can
take the number of another.
-/
namespace HttpBinding.Yaml

structure Properties where
  anchor : Option Nat
  tag : Option Octets
deriving Repr, DecidableEq

inductive Node where
  | reference (anchor : Nat)
  | scalar (properties : Properties) (style : ScalarStyle) (text : String)
  | sequence (properties : Properties) (items : List Node)
  | mapping (properties : Properties) (entries : List (Node × Node))
deriving Repr, Inhabited

namespace Node

def bare : Properties := ⟨none, none⟩

def nothing : Node := .scalar bare .plain ""

end Node

structure Reading where
  tokens : List Token
  handles : List (String × Octets)
  anchors : List (String × Nat)

abbrev Reader := StateT Reading Option

namespace Reader

def peek : Reader Token := do
  match (← get).tokens with
  | token :: _ => return token
  | [] => failure

def drop : Reader Unit := modify fun reading => { reading with tokens := reading.tokens.drop 1 }

def sees (token : Token) : Reader Bool := do return (← peek) = token

def seesAny (tokens : List Token) : Reader Bool := do return (← peek) ∈ tokens

def optional (token : Token) : Reader Bool := do
  if ← sees token then
    drop
    return true
  else return false

def expect (token : Token) : Reader Unit := do
  if !(← optional token) then failure

def untilDone (step : β → Reader (β ⊕ α)) (state : β) : Reader α := do
  iterate failure step ((← get).tokens.length + 1) state

/-! Anchors, aliases and tags -/

def defineAnchor (name : String) : Reader Nat := do
  let reading ← get
  let number := reading.anchors.length
  let others := reading.anchors.filter fun entry => entry.1 ≠ name
  set { reading with anchors := (name, number) :: others }
  return number

def aliasTarget (name : String) : Reader Nat := do
  match (← get).anchors.lookup name with
  | some number => return number
  | none => failure

/-- The tag that a handle and a suffix stand for; a zero ends either part of it. -/
def resolveTag (handle : String) (suffix : Octets) : Reader Octets := do
  if handle.isEmpty then return suffix.untilZero
  match (← get).handles.lookup handle with
  | some start => return start.untilZero ++ suffix.untilZero
  | none => failure

def properties : Reader (Option String × Option Octets) := do
  match ← peek with
  | .anchor name =>
      drop
      match ← peek with
      | .tag handle suffix =>
          drop
          return (some name, some (← resolveTag handle suffix))
      | _ => return (some name, none)
  | .tag handle suffix =>
      drop
      match ← peek with
      | .anchor name =>
          drop
          return (some name, some (← resolveTag handle suffix))
      | _ => return (none, some (← resolveTag handle suffix))
  | _ => return (none, none)

/-! Collections -/

inductive Context where
  | block | blockValue | flow
deriving Repr, DecidableEq

def nodeUnless (node : Context → Reader Node) (context : Context) (ends : List Token) :
    Reader Node := do
  if ← seesAny ends then return .nothing else node context

def blockSequence (node : Context → Reader Node) : Reader (List Node) := do
  drop
  untilDone (fun items => do
    if ← optional .blockEntry then
      return .inl ((← nodeUnless node .block [.blockEntry, .blockEnd]) :: items)
    expect .blockEnd
    return .inr items.reverse) []

/-- A sequence that is indented no more than the key in front of it. -/
def flatSequence (node : Context → Reader Node) : Reader (List Node) :=
  untilDone (fun items => do
    if ← optional .blockEntry then
      return .inl ((← nodeUnless node .block [.blockEntry, .key, .value, .blockEnd]) :: items)
    else return .inr items.reverse) []

def blockMapping (node : Context → Reader Node) : Reader (List (Node × Node)) := do
  drop
  let ends := [Token.key, .value, .blockEnd]
  untilDone (fun entries => do
    if ← optional .key then
      let key ← nodeUnless node .blockValue ends
      if ← optional .value then
        return .inl ((key, ← nodeUnless node .blockValue ends) :: entries)
      else return .inl ((key, .nothing) :: entries)
    expect .blockEnd
    return .inr entries.reverse) []

def separated (first : Bool) (stop : Token) : Reader Unit := do
  if !first && (← peek) ≠ stop then expect .flowEntry

/-- A mapping of one entry inside a sequence in brackets, behind its mark. Where the key
is left out, the token that follows is passed over. -/
def flowPair (node : Context → Reader Node) : Reader Node := do
  let key ← (do
    if ← seesAny [.value, .flowEntry, .flowSequenceEnd] then
      drop
      return Node.nothing
    else node .flow)
  let value ← (do
    if ← optional .value then nodeUnless node .flow [.flowEntry, .flowSequenceEnd]
    else return .nothing)
  return .mapping Node.bare [(key, value)]

def flowSequence (node : Context → Reader Node) : Reader (List Node) := do
  drop
  untilDone (fun items => do
    separated items.isEmpty .flowSequenceEnd
    if ← optional .flowSequenceEnd then return .inr items.reverse
    if ← optional .key then return .inl ((← flowPair node) :: items)
    else return .inl ((← node .flow) :: items)) []

def flowEntry (node : Context → Reader Node) : Reader (Node × Node) := do
  let ends := [Token.flowEntry, .flowMappingEnd]
  if ← optional .key then
    let key ← nodeUnless node .flow (.value :: ends)
    if ← optional .value then return (key, ← nodeUnless node .flow ends)
    else return (key, .nothing)
  else return (← node .flow, .nothing)

def flowMapping (node : Context → Reader Node) : Reader (List (Node × Node)) := do
  drop
  untilDone (fun entries => do
    separated entries.isEmpty .flowMappingEnd
    if ← optional .flowMappingEnd then return .inr entries.reverse
    return .inl ((← flowEntry node) :: entries)) []

/-! Nodes -/

def content (node : Context → Reader Node) (context : Context) (properties : Properties) :
    Reader Node := do
  let inBlock := context ≠ .flow
  match ← peek with
  | .scalar style text =>
      drop
      return .scalar properties style text
  | .flowSequence => return .sequence properties (← flowSequence node)
  | .flowMapping => return .mapping properties (← flowMapping node)
  | token =>
      if context = .blockValue && token = .blockEntry then
        return .sequence properties (← flatSequence node)
      else if inBlock && token = .blockSequence then
        return .sequence properties (← blockSequence node)
      else if inBlock && token = .blockMapping then
        return .mapping properties (← blockMapping node)
      else if properties = Node.bare then failure
      else return .scalar properties .plain ""

def nodeRule (node : Context → Reader Node) (context : Context) : Reader Node := do
  match ← peek with
  | .reference name =>
      drop
      return .reference (← aliasTarget name)
  | _ =>
      let (name, tag) ← properties
      let anchor ← name.mapM defineAnchor
      content node context ⟨anchor, tag⟩

def nodeTo : Nat → Context → Reader Node
  | 0, _ => failure
  | depth + 1, context => nodeRule (nodeTo depth) context

def node (context : Context) : Reader Node := do
  nodeTo ((← get).tokens.length + 1) context

/-! Documents -/

def defaultHandles : List (String × Octets) := [("!", Tag.bare), ("!!", Tag.standardStart)]

/-- A directive in front of a document. There is one version at most, which must be
known, and every handle is defined once at most. -/
def directive? (versioned : Bool) (handles : List (String × Octets)) :
    Token → Option (Bool × List (String × Octets))
  | .version major minor =>
      if versioned || major ≠ 1 || (minor ≠ 1 && minor ≠ 2) then none else some (true, handles)
  | .handle handle start =>
      if (handles.lookup handle).isSome then none else some (versioned, (handle, start) :: handles)
  | _ => none

def isDirective : Token → Bool
  | .version .. | .handle .. => true
  | _ => false

def directives : Reader Bool :=
  untilDone (fun (any, versioned) => do
    let token ← peek
    if !isDirective token then return .inr any
    match directive? versioned (← get).handles token with
    | some (versioned, handles) =>
        modify fun reading => { reading with handles := handles }
        drop
        return .inl (true, versioned)
    | none => failure) (false, false)

def closing : Reader Unit := do
  untilDone (fun () => do
    if ← optional .documentEnd then return .inl () else return .inr ()) ()
  expect .textEnd

def document : Reader (Option Node) := do
  if ← sees .textEnd then return none
  let directed ← directives
  modify fun reading => { reading with handles := reading.handles ++ defaultHandles }
  let root ← (do
    if ← optional .documentStart then
      nodeUnless node .block [.documentStart, .documentEnd, .textEnd]
    else if directed then failure
    else node .block)
  closing
  return some root

end Reader

/-- The document of a text. Nothing is given if the text is not well-formed or holds
more than one document. -/
def Node.document? (text : List Char) : Option (Option Node) := do
  let tokens ← tokens? text
  (·.1) <$> Reader.document ⟨tokens, [], []⟩

end HttpBinding.Yaml
