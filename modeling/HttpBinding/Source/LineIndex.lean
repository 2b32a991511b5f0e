import HttpBinding.Source.Position

/-!
A table of the lines of a text by octets. A position counts characters, the table octets, and
what lies inside of a character is no place in a text.
-/
namespace HttpBinding.Source

/-- A text with the octet offsets at which its lines start. -/
structure LineIndex where
  text : String
  starts : List Nat

namespace LineIndex

def startsBehind (offset : Nat) : List Char → List Nat
  | [] => []
  | c :: rest =>
      let next := offset + c.utf8Size
      if c = '\n' then next :: startsBehind next rest else startsBehind next rest

def ofText (text : String) : LineIndex := ⟨text, 0 :: startsBehind 0 text.toList⟩

def charsFrom? (offset : Nat) : List Char → Option (List Char)
  | [] => if offset = 0 then some [] else none
  | c :: rest =>
      if offset = 0 then some (c :: rest)
      else if c.utf8Size ≤ offset then charsFrom? (offset - c.utf8Size) rest
      else none

/-- The octets in front of a position; a column or line that is not there leads to the end. -/
def offset? (index : LineIndex) (position : Position) : Option Nat :=
  match index.starts[position.line - 1]? with
  | none => some index.text.utf8ByteSize
  | some start => (charsFrom? start index.text.toList).map fun line =>
      if position.column < line.length then
        start + (String.ofList (line.take position.column)).utf8ByteSize
      else index.text.utf8ByteSize

def between? (text : String) (start stop : Nat) : Option String :=
  (charsFrom? start text.toList).bind fun first =>
    (charsFrom? stop text.toList).bind fun last =>
      if start ≤ stop then some (String.ofList (first.take (first.length - last.length))) else none

def slice? (index : LineIndex) (start stop : Position) : Option String :=
  (index.offset? start).bind fun first =>
    (index.offset? stop).bind fun last => between? index.text first last

end LineIndex
end HttpBinding.Source
