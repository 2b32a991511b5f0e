import HttpBinding.Source.Token

/-!
Syntax trees of a source unit. A tree keeps what a reader of names has to know: every
path that is written, in the order of the walk, and in which kind of node it stands.
Parts that are accepted but not looked into are left out.
-/
namespace HttpBinding.Source

inductive Arguments where
  | none | angled | parenthesized
deriving Repr, DecidableEq, Inhabited

/-- What the grammar must know about an expression that has been read. A block ends
a statement by itself, and so does a macro call in braces. A comparison and what else is
joined by an operator start with their left operand. -/
inductive ExpressionShape where
  | operand | range | comparison | joined | block | bracedCall | unread
deriving Repr, DecidableEq

inductive PatternShape where
  | plain | openRange | constant | unread
deriving Repr, DecidableEq

inductive TypeShape where
  | named | qualified | bounds | unread | plain
deriving Repr, DecidableEq

inductive Kind where
  | expression (shape : ExpressionShape)
  | pattern (shape : PatternShape)
  | type (shape : TypeShape)
  | bound (isTrait : Bool)
  | visibility (inherited : Bool)
  | generics
  | whereClause
  | signature
  | statement (ended : Bool)
  | item
  | parts
deriving Repr, DecidableEq

/-- A path has its names, and its generic arguments in order. A macro call keeps its
arguments as they are written, and what has been read from them when it was followed. -/
inductive Tree where
  | path (rooted : Bool) (names : List String) (style : Arguments) (arguments : List Tree)
  | node (kind : Kind) (children : List Tree)
  | metadata (name : Tree) (value : List Tree)
  | call (name : Tree) (arguments : List Token) (followed : List Tree)
deriving Repr, Inhabited

namespace Tree

def parts (children : List Tree) : Tree := node .parts children

def nothing : Tree := parts []

end Tree

/-- What a path names: whether it starts at the root, its first name, and whether
it has no other. -/
structure PathUse where
  rooted : Bool
  first : String
  single : Bool
deriving Repr, DecidableEq

namespace Tree

mutual

/-- Every path of a tree, in the order of the walk: a path before its arguments. -/
def paths : Tree → List PathUse
  | path rooted names _ arguments =>
      ⟨rooted, names.headD "", names.length == 1⟩ :: allPaths arguments
  | node _ children => allPaths children
  | metadata name value => paths name ++ allPaths value
  | call name _ followed => paths name ++ allPaths followed

def allPaths : List Tree → List PathUse
  | [] => []
  | tree :: rest => paths tree ++ allPaths rest

end

mutual

/-- Follows every macro call of a tree into what is read from its arguments. -/
def follow (read? : List Token → Option Tree) : Tree → Tree
  | path rooted names style arguments => path rooted names style (followAll read? arguments)
  | node kind children => node kind (followAll read? children)
  | metadata name value => metadata name (followAll read? value)
  | call name arguments _ => call name arguments (read? arguments).toList

def followAll (read? : List Token → Option Tree) : List Tree → List Tree
  | [] => []
  | tree :: rest => follow read? tree :: followAll read? rest

end
end Tree
end HttpBinding.Source
