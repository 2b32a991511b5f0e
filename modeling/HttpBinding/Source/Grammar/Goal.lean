import HttpBinding.Source.Reader

/-!
What can be read from tokens. The grammar is one reader for each goal; every rule of
it takes the readers of the goals it refers to as an argument, so that no rule calls
itself.
-/
namespace HttpBinding.Source

inductive Precedence where
  | jump | assign | range | or | and | letting | compare
  | bitOr | bitXor | bitAnd | shift | sum | product | cast
deriving Repr, DecidableEq

namespace Precedence

def rank : Precedence → Nat
  | jump => 0
  | assign => 1
  | range => 2
  | or => 3
  | and => 4
  | letting => 5
  | compare => 6
  | bitOr => 7
  | bitXor => 8
  | bitAnd => 9
  | shift => 10
  | sum => 11
  | product => 12
  | cast => 13

end Precedence

/-- An expression may or may not hold a structure literal, whose brace could start a
block. A bare expression ends where a statement could. -/
inductive Goal where
  | expression (structs : Bool)
  | bareExpression
  | unary (structs : Bool)
  | operators (left : Tree) (structs : Bool) (base : Precedence)
  | expressions
  | type (plus : Bool)
  | bound (capture : Bool) (const : Bool)
  | pattern
  | alternatives
  | statements
  | fields
  | item
  | traitItem
  | implItem
  | foreignItem

abbrev Grammar := Goal → Reader Tree

end HttpBinding.Source
