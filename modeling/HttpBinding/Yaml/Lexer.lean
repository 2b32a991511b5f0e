import HttpBinding.Yaml.Property
import HttpBinding.Yaml.Scalar.Block
import HttpBinding.Yaml.Scalar.Plain
import HttpBinding.Yaml.Scalar.Quoted

/-!
From a YAML text to tokens. A key is recognised by the colon behind it, so the place of
what could be a key is kept until the colon comes or can no longer come.
-/
namespace HttpBinding.Yaml

/-- What could be a key: the number of tokens in front of it and its place. One that is
needed must be followed by a colon. -/
structure PossibleKey where
  position : Nat
  index : Nat
  line : Nat
  column : Nat
  needed : Bool
deriving Repr, DecidableEq

/-- How far the text has been read. `indent` is the indentation of the block around,
`-1` outside of all, and `indents` those of the blocks around that. `outerKeys` has one
entry for each open bracket. -/
structure Scan where
  place : Place
  tokens : Array Token
  indent : Int
  indents : List Int
  key : Option PossibleKey
  outerKeys : List (Option PossibleKey)
  keyAllowed : Bool

namespace Scan

def start (text : List Char) : Scan := ⟨.start text, #[], -1, [], none, [], true⟩

def inFlow (scan : Scan) : Bool := !scan.outerKeys.isEmpty

def column (scan : Scan) : Int := scan.place.column

def push (scan : Scan) (token : Token) : Scan := { scan with tokens := scan.tokens.push token }

def pushAt (scan : Scan) (position : Nat) (token : Token) : Scan :=
  { scan with tokens := scan.tokens.insertIdxIfInBounds position token }

/-! Possible keys -/

/-- Gives up the possible key, which must not be needed. -/
def dropKey? (scan : Scan) : Option Scan :=
  if scan.key.any PossibleKey.needed then none else some { scan with key := none }

def saveKey? (scan : Scan) : Option Scan :=
  if !scan.keyAllowed then some scan
  else do
    let scan ← scan.dropKey?
    let place := scan.place
    let needed := !scan.inFlow && scan.indent == scan.column
    return { scan with
      key := some ⟨scan.tokens.size, place.index, place.line, place.column, needed⟩ }

/-- A key stands on one line and has at most 1024 characters. -/
def isStale (place : Place) (key : PossibleKey) : Bool :=
  key.line < place.line || key.index + 1024 < place.index

def freshKey? (place : Place) : Option PossibleKey → Option (Option PossibleKey)
  | none => some none
  | some key =>
      if !isStale place key then some (some key)
      else if key.needed then none
      else some none

def dropStale? (scan : Scan) : Option Scan := do
  let outerKeys ← scan.outerKeys.mapM (freshKey? scan.place)
  return { scan with key := ← freshKey? scan.place scan.key, outerKeys := outerKeys }

/-! Indentation -/

def openBlock (scan : Scan) (column : Int) (position : Nat) (token : Token) : Scan :=
  if scan.inFlow || column ≤ scan.indent then scan
  else { scan with indent := column, indents := scan.indent :: scan.indents }.pushAt position token

def closeBlocks (column : Int) (scan : Scan) : Scan :=
  if scan.inFlow then scan
  else
    let ended := (scan.indent :: scan.indents).takeWhile (column < ·)
    let left := (scan.indent :: scan.indents).dropWhile (column < ·)
    { scan with
      tokens := scan.tokens ++ (ended.map fun _ => Token.blockEnd).toArray
      indent := left.headD (-1)
      indents := left.drop 1 }

/-! Blanks and comments -/

def byteOrderMark : Char := Char.ofNat 0xFEFF

/-- Whether tabs may be passed: not where they could be taken for an indentation. -/
def passes (scan : Scan) (c : Char) : Bool :=
  c = ' ' || (c = '\t' && (scan.inFlow || !scan.keyAllowed))

def skipBlank : Nat → Scan → Scan
  | 0, scan => scan
  | fuel + 1, scan =>
      let place := scan.place
      let place := if place.column == 0 && place.sees byteOrderMark then place.skip 1 else place
      let place := place.skipWhile scan.passes
      let place := if place.sees '#' then place.skipLine else place
      match place.lineBreak? with
      | some (_, after) =>
          skipBlank fuel { scan with place := after, keyAllowed := scan.keyAllowed || !scan.inFlow }
      | none => { scan with place := place }

/-! Tokens -/

def take (scan : Scan) (count : Nat) (token : Token) : Scan :=
  { scan with place := scan.place.skip count }.push token

def takeTo (scan : Scan) (place : Place) (token : Token) : Scan :=
  { scan with place := place }.push token

def document? (scan : Scan) (token : Token) : Option Scan := do
  let scan ← (scan.closeBlocks (-1)).dropKey?
  return { scan with keyAllowed := false }.take 3 token

def directive? (scan : Scan) : Option Scan := do
  let scan ← (scan.closeBlocks (-1)).dropKey?
  let (token, place) ← Property.directive? scan.place
  return { scan with keyAllowed := false }.takeTo place token

def flowStart? (scan : Scan) (token : Token) : Option Scan := do
  let scan ← scan.saveKey?
  return { scan with
    outerKeys := scan.key :: scan.outerKeys
    key := none
    keyAllowed := true }.take 1 token

def flowEnd? (scan : Scan) (token : Token) : Option Scan := do
  let scan ← scan.dropKey?
  let scan := match scan.outerKeys with
    | key :: outer => { scan with key := key, outerKeys := outer }
    | [] => scan
  return { scan with keyAllowed := false }.take 1 token

def flowEntry? (scan : Scan) : Option Scan := do
  let scan ← scan.dropKey?
  return { scan with keyAllowed := true }.take 1 .flowEntry

def markedStart? (scan : Scan) (block : Token) : Option Scan :=
  if scan.inFlow then some scan
  else if !scan.keyAllowed then none
  else some (scan.openBlock scan.column scan.tokens.size block)

def blockEntry? (scan : Scan) : Option Scan := do
  let scan ← (← scan.markedStart? .blockSequence).dropKey?
  return { scan with keyAllowed := true }.take 1 .blockEntry

def markedKey? (scan : Scan) : Option Scan := do
  let scan ← (← scan.markedStart? .blockMapping).dropKey?
  return { scan with keyAllowed := !scan.inFlow }.take 1 .key

def value? (scan : Scan) : Option Scan :=
  match scan.key with
  | some key =>
      let scan := (scan.pushAt key.position .key).openBlock key.column key.position .blockMapping
      some ({ scan with key := none, keyAllowed := false }.take 1 .value)
  | none => do
      let scan ← scan.markedStart? .blockMapping
      return { scan with keyAllowed := !scan.inFlow }.take 1 .value

def anchor? (scan : Scan) (token : String → Token) : Option Scan := do
  let scan ← scan.saveKey?
  let (name, place) ← Property.name? scan.place
  return { scan with keyAllowed := false }.takeTo place (token name)

def tag? (scan : Scan) : Option Scan := do
  let scan ← scan.saveKey?
  let (token, place) ← Property.tag? scan.inFlow scan.place
  return { scan with keyAllowed := false }.takeTo place token

def blockScalar? (scan : Scan) (literal : Bool) : Option Scan := do
  let scan ← scan.dropKey?
  let (text, place) ← Block.at? literal scan.indent scan.place
  let style := if literal then ScalarStyle.literal else .folded
  return { scan with keyAllowed := true }.takeTo place (.scalar style (String.ofList text))

def quotedScalar? (scan : Scan) (quote : Char) : Option Scan := do
  let scan ← scan.saveKey?
  let (text, place) ← Quoted.at? quote scan.place
  let style := if quote = '\'' then ScalarStyle.singleQuoted else .doubleQuoted
  return { scan with keyAllowed := false }.takeTo place (.scalar style (String.ofList text))

def plainScalar? (scan : Scan) : Option Scan := do
  let scan ← scan.saveKey?
  let found ← Plain.at? scan.inFlow (scan.indent + 1).toNat scan.place
  return { scan with keyAllowed := found.broken }.takeTo found.place
    (.scalar .plain (String.ofList found.text))

def isIndicator (c : Char) : Bool := c ∈ "-?:,[]\x7b\x7d#&*!|>'\"%@\x60".toList

def startsPlain (scan : Scan) : Bool :=
  let place := scan.place
  !(place.seesSpace || place.seesSome isIndicator)
    || (place.sees '-' && !(place.peek? 1).any isBlank)
    || (!scan.inFlow && (place.sees '?' || place.sees ':') && !place.seesSpaceAt 1)

def seesMark (scan : Scan) (c : Char) : Bool :=
  scan.place.sees c && (scan.inFlow || scan.place.seesSpaceAt 1)

def token? (scan : Scan) : Option Scan :=
  let place := scan.place
  if place.column == 0 && place.sees '%' then scan.directive?
  else if place.seesIndicator '-' then scan.document? .documentStart
  else if place.seesIndicator '.' then scan.document? .documentEnd
  else if place.sees '[' then scan.flowStart? .flowSequence
  else if place.sees '\x7b' then scan.flowStart? .flowMapping
  else if place.sees ']' then scan.flowEnd? .flowSequenceEnd
  else if place.sees '\x7d' then scan.flowEnd? .flowMappingEnd
  else if place.sees ',' then scan.flowEntry?
  else if place.sees '-' && place.seesSpaceAt 1 then scan.blockEntry?
  else if scan.seesMark '?' then scan.markedKey?
  else if scan.seesMark ':' then scan.value?
  else if place.sees '*' then scan.anchor? .reference
  else if place.sees '&' then scan.anchor? .anchor
  else if place.sees '!' then scan.tag?
  else if place.sees '|' && !scan.inFlow then scan.blockScalar? true
  else if place.sees '>' && !scan.inFlow then scan.blockScalar? false
  else if place.sees '\'' then scan.quotedScalar? '\''
  else if place.sees '"' then scan.quotedScalar? '"'
  else if scan.startsPlain then scan.plainScalar?
  else none

def finish? (scan : Scan) : Option (Array Token) := do
  let scan ← (scan.closeBlocks (-1)).dropKey?
  return (scan.push .textEnd).tokens

/-- Every token takes a character at least, which bounds their number. -/
def run : Nat → Scan → Option (Array Token)
  | 0, _ => none
  | fuel + 1, scan => do
      let scan ← (scan.skipBlank (scan.place.rest.length + 1)).dropStale?
      let scan := scan.closeBlocks scan.column
      if scan.place.atEnd then scan.finish? else run fuel (← scan.token?)

end Scan

def tokens? (text : List Char) : Option (List Token) :=
  if text.all isAllowed then
    ((Scan.start text).run (text.length + 1)).map Array.toList
  else none

end HttpBinding.Yaml
