import HttpBinding.Text.Case

/-!
Values of a `.env` file: quotations, escapes, and names that stand for their text.
-/
namespace HttpBinding.Dotenv

inductive Mode where
  | text
  | escape
  | strong
  | name (start : List Char)
  | braced (start : List Char)
  | ending

def escaped? (c : Char) : Option Char :=
  if c = 'n' then some '\n'
  else if c ∈ ['\\', '\'', '"', '$', ' '] then some c
  else none

/-- The text of a value. `weak` tells whether a weak quotation is open, and `textOf`
gives the text that a name stands for. -/
def expanded? (textOf : List Char → List Char) : (weak : Bool) → Mode → List Char →
    Option (List Char)
  | weak, .text, [] => if weak then none else some []
  | weak, .escape, [] => if weak then none else some []
  | weak, .name start, [] => if weak then none else some (textOf start)
  | _, .strong, [] => none
  | _, .braced _, [] => none
  | _, .ending, [] => some []
  | weak, .text, c :: rest =>
      if c = '$' then expanded? textOf weak (.name []) rest
      else if c = '"' then expanded? textOf (!weak) .text rest
      else if c = '\\' then expanded? textOf weak .escape rest
      else if weak then (expanded? textOf weak .text rest).map (c :: ·)
      else if c = '\'' then expanded? textOf weak .strong rest
      else if c = ' ' || c = '\t' then expanded? textOf weak .ending rest
      else (expanded? textOf weak .text rest).map (c :: ·)
  | weak, .escape, c :: rest =>
      match escaped? c with
      | some c => (expanded? textOf weak .text rest).map (c :: ·)
      | none => none
  | weak, .strong, c :: rest =>
      if c = '\'' then expanded? textOf weak .text rest
      else (expanded? textOf weak .strong rest).map (c :: ·)
  | weak, .name start, c :: rest =>
      if Text.isAlphanumeric c then expanded? textOf weak (.name (start ++ [c])) rest
      else if c = '\x7b' && start.isEmpty then expanded? textOf weak (.braced []) rest
      else if c = '$' then (expanded? textOf weak (.name []) rest).map (textOf start ++ ·)
      else (expanded? textOf weak .text rest).map (textOf start ++ c :: ·)
  | weak, .braced start, c :: rest =>
      if c = '\x7d' then (expanded? textOf weak .text rest).map (textOf start ++ ·)
      else expanded? textOf weak (.braced (start ++ [c])) rest
  | weak, .ending, c :: rest =>
      if c = ' ' || c = '\t' then expanded? textOf weak .ending rest
      else if c = '#' then some []
      else none

end HttpBinding.Dotenv
