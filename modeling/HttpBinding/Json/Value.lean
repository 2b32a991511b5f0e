import HttpBinding.Text.Quoted

/-!
JSON values and their written form, on one line or indented by two spaces.
-/
namespace HttpBinding.Json

open Text (hexDigit)

inductive Value where
  | null
  | flag (value : Bool)
  | number (value : Nat)
  | text (value : String)
  | list (items : List Value)
  | object (entries : List (String × Value))
deriving Repr, Inhabited

def unicodeEscape (c : Char) : List Char :=
  ['\\', 'u', '0', '0', hexDigit (c.toNat / 16), hexDigit (c.toNat % 16)]

/-- A character between quotes. Control characters, the quote and the backslash are
escaped, all else stands for itself. -/
def escapedChar (c : Char) : List Char :=
  if c = '"' then ['\\', '"']
  else if c = '\\' then ['\\', '\\']
  else if c = '\x08' then ['\\', 'b']
  else if c = '\x0c' then ['\\', 'f']
  else if c = '\n' then ['\\', 'n']
  else if c = '\r' then ['\\', 'r']
  else if c = '\t' then ['\\', 't']
  else if c.toNat < 0x20 then unicodeEscape c
  else [c]

def quoted (text : String) : List Char :=
  '"' :: text.toList.flatMap escapedChar ++ ['"']

def lineBreak (depth : Nat) : List Char := '\n' :: List.replicate (2 * depth) ' '

def separated (separator : List Char) : List (List Char) → List Char
  | [] => []
  | [text] => text
  | text :: rest => text ++ separator ++ separated separator rest

namespace Value

mutual

def compactChars : Value → List Char
  | null => "null".toList
  | flag true => "true".toList
  | flag false => "false".toList
  | number value => (toString value).toList
  | text value => quoted value
  | list items => '[' :: separated [','] (compactAll items) ++ [']']
  | object entries => '{' :: separated [','] (compactEntries entries) ++ ['}']

def compactAll : List Value → List (List Char)
  | [] => []
  | value :: rest => compactChars value :: compactAll rest

def compactEntries : List (String × Value) → List (List Char)
  | [] => []
  | (name, value) :: rest => (quoted name ++ ':' :: compactChars value) :: compactEntries rest

end

mutual

def prettyChars (depth : Nat) : Value → List Char
  | list (item :: rest) =>
      '[' :: lineBreak (depth + 1)
        ++ separated (',' :: lineBreak (depth + 1)) (prettyAll (depth + 1) (item :: rest))
        ++ lineBreak depth ++ [']']
  | object (entry :: rest) =>
      '{' :: lineBreak (depth + 1)
        ++ separated (',' :: lineBreak (depth + 1)) (prettyEntries (depth + 1) (entry :: rest))
        ++ lineBreak depth ++ ['}']
  | value => compactChars value

def prettyAll (depth : Nat) : List Value → List (List Char)
  | [] => []
  | value :: rest => prettyChars depth value :: prettyAll depth rest

def prettyEntries (depth : Nat) : List (String × Value) → List (List Char)
  | [] => []
  | (name, value) :: rest =>
      (quoted name ++ ':' :: ' ' :: prettyChars depth value) :: prettyEntries depth rest

end

def compact (value : Value) : String := String.ofList value.compactChars
def pretty (value : Value) : String := String.ofList (value.prettyChars 0)

end Value
end HttpBinding.Json
