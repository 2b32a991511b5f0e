import HttpBinding.Text.Case
import HttpBinding.Text.Split

/-!
Spellings of a schema name in generated code: CamelCase, lowerCamel, lower_snake
and the upper-case name of an environment variable.
-/
namespace HttpBinding.Identifier

open Text

def isSmallAscii (c : Char) : Bool := c.isLower

/-- CamelCase from a character on. An underscore before a small letter is dropped
and the letter raised, digits stay, and small letters follow the letter they
belong to unchanged. -/
def camelTail (raise : Bool) : List Char → List Char
  | [] => []
  | c :: rest =>
      if !raise && isSmallAscii c then c :: camelTail false rest
      else if c = '_' && rest.head?.any isSmallAscii then camelTail true rest
      else if c.isDigit then c :: camelTail true rest
      else c.toUpper :: camelTail false rest

def camelChars : List Char → List Char
  | '_' :: rest => 'X' :: camelTail true rest
  | name => camelTail true name

def camel (name : String) : String := String.ofList (camelChars name.toList)

def capitalized : List Char → List Char
  | [] => []
  | c :: rest => raised c ++ rest

/-- The first piece with its first letter lowered; `x` stands in front of a piece
that does not start with a letter. -/
def lowCamelHead : List Char → List Char
  | [] => ['x']
  | c :: rest => (if isAlphabetic c then [] else ['x']) ++ lowered c ++ rest

def lowCamelChars (name : List Char) : List Char :=
  match pieces '_' name with
  | [] => []
  | first :: later => lowCamelHead first ++ later.flatMap capitalized

def lowCamel (name : String) : String := String.ofList (lowCamelChars name.toList)

/-- A capital is lowered, after an underscore if a small letter or a digit came
before it. -/
def snakeFrom (previous : Option Char) : List Char → List Char
  | [] => []
  | c :: rest =>
      if isUppercase c then
        (if previous.any fun p => isLowercase p || p.isDigit then ['_'] else [])
          ++ lowered c ++ snakeFrom (some c) rest
      else c :: snakeFrom (some c) rest

def snake (name : String) : String := String.ofList (snakeFrom none name.toList)

def environmentName (key : String) : String :=
  String.ofList ((raiseAll key.toList).map fun c => if c = '.' then '_' else c)

end HttpBinding.Identifier
