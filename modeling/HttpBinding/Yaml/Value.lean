import HttpBinding.Yaml.Number
import HttpBinding.Yaml.Tree
import HttpBinding.Yaml.Word

/-!
YAML values: what a document means when nothing is known about it beforehand.
-/
namespace HttpBinding.Yaml

inductive Value where
  | null
  | flag (value : Bool)
  | number (value : Number)
  | text (value : String)
  | list (items : List Value)
  | mapping (entries : List (Value × Value))
  | tagged (tag : String) (value : Value)
deriving Repr, Inhabited

namespace Value

mutual

/-- The order of the entries of a mapping does not count. -/
def sameAs : Value → Value → Bool
  | null, null => true
  | flag value, flag other => value = other
  | number value, number other => value.sameAs other
  | text value, text other => value = other
  | list items, list others => allSame items others
  | mapping entries, mapping others =>
      entries.length = others.length && allAmong entries others
  | tagged tag value, tagged otherTag other => tag = otherTag && sameAs value other
  | _, _ => false

def allSame : List Value → List Value → Bool
  | [], [] => true
  | item :: rest, other :: others => sameAs item other && allSame rest others
  | _, _ => false

def allAmong : List (Value × Value) → List (Value × Value) → Bool
  | [], _ => true
  | (key, value) :: rest, others =>
      (others.any fun other => sameAs key other.1 && sameAs value other.2) && allAmong rest others

end

/-! Scalars -/

def isWord (value : Int) : Bool := -(Nat.pow 2 63) ≤ value && value < Nat.pow 2 64

def isDoubleWord (value : Int) : Bool := -(Nat.pow 2 127) ≤ value && value < Nat.pow 2 128

/-- A whole number. One of more than 64 bits cannot be kept; one of more than 128 bits
does not count as whole. -/
def wholeValue? (text : String) : Option (Option Value) :=
  match Number.whole? text.toList with
  | some value =>
      if isWord value then some (some (.number (.whole value)))
      else if isDoubleWord value then some none
      else none
  | none => none

def fractionOrText (text : String) : Value :=
  if Number.hasLeadingZero text.toList then .text text
  else ((Number.fraction? text).map Value.number).getD (.text text)

def plainValue? (text : String) : Option Value :=
  if text.isEmpty || isNullWord text then some .null
  else
    match flagWord? text, wholeValue? text with
    | some value, _ => some (.flag value)
    | none, some value => value
    | none, none => some (fractionOrText text)

def styledValue? (style : ScalarStyle) (text : String) : Option Value :=
  if style = .plain then plainValue? text else some (.text text)

/-- A scalar with a tag of the standard, which must fit. Other such tags make a text. -/
def standardValue? (tag : Octets) (text : String) : Option Value :=
  if tag = Tag.flag then (flagWord? text).map .flag
  else if tag = Tag.whole then (wholeValue? text).join
  else if tag = Tag.decimal then (Number.fraction? text).map .number
  else if tag = Tag.null then (if isNullWord text then some .null else none)
  else some (.text text)

def underTag (tag : Option Octets) (value : Value) : Value :=
  match tag.bind Tag.localName? with
  | some name => .tagged name value
  | none => value

/-- A scalar. A local tag leaves its meaning to its style. -/
def scalar? (tag : Option Octets) (style : ScalarStyle) (text : String) : Option Value :=
  match tag with
  | none => styledValue? style text
  | some octets =>
      if Tag.isLocal octets then (styledValue? style text).map (underTag tag)
      else standardValue? octets text

/-! Documents -/

mutual

/-- The value of a tree, unless a key comes twice or a scalar does not fit its tag. -/
def ofTree? : Tree → Option Value
  | .scalar tag style content => scalar? tag style content
  | .sequence tag items => do return underTag tag (.list (← ofTrees? items))
  | .mapping tag entries => do return underTag tag (.mapping (← ofEntries? [] entries))
  | .cut => none

def ofTrees? : List Tree → Option (List Value)
  | [] => some []
  | item :: rest => do return (← ofTree? item) :: (← ofTrees? rest)

def ofEntries? (before : List (Value × Value)) :
    List (Tree × Tree) → Option (List (Value × Value))
  | [] => some before.reverse
  | (key, value) :: rest => do
      let key ← ofTree? key
      if before.any fun entry => entry.1.sameAs key then none
      ofEntries? ((key, ← ofTree? value) :: before) rest

end

def read? (text : String) : Option Value :=
  match Tree.document? text with
  | none => none
  | some none => some .null
  | some (some tree) => ofTree? tree

/-! Texts of values -/

def scalarText? : Value → Option String
  | text value => some value
  | number value => some value.render
  | flag value => some (if value then "true" else "false")
  | _ => none

def commas (texts : List String) : String := ", ".intercalate texts

/-- The name of a tag as it is shown: a second mark in front of it is left out. -/
def shownTag (name : String) : String :=
  match name.toList with
  | '!' :: c :: rest => String.ofList ('!' :: c :: rest)
  | rest => String.ofList ('!' :: rest)

mutual

def describe : Value → String
  | null => "Null"
  | flag value => s!"Bool({value})"
  | number value => s!"Number({value.render})"
  | text value => s!"String({Text.quotedText value})"
  | list items => s!"Sequence [{commas (describeAll items)}]"
  | mapping entries => "Mapping \x7b" ++ commas (describeEntries entries) ++ "\x7d"
  | tagged tag value =>
      "TaggedValue \x7b tag: " ++ shownTag tag ++ ", value: " ++ describe value ++ " \x7d"

def describeAll : List Value → List String
  | [] => []
  | item :: rest => describe item :: describeAll rest

/-- Keys that are scalars are shown without their kind. -/
def describeEntries : List (Value × Value) → List String
  | [] => []
  | (key, value) :: rest =>
      let shown := match key with
        | flag value => toString value
        | number value => value.render
        | text value => Text.quotedText value
        | other => describe other
      s!"{shown}: {describe value}" :: describeEntries rest

end
end Value
end HttpBinding.Yaml
