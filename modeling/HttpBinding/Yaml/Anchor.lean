import HttpBinding.Yaml.Node

/-!
What aliases stand for, and how far a document may be unfolded by them.
-/
namespace HttpBinding.Yaml

namespace Node

mutual

def anchored : Node → List (Nat × Node)
  | reference _ => []
  | scalar properties style text =>
      (properties.anchor.map fun number => (number, scalar properties style text)).toList
  | sequence properties items =>
      (properties.anchor.map fun number => (number, sequence properties items)).toList
        ++ allAnchored items
  | mapping properties entries =>
      (properties.anchor.map fun number => (number, mapping properties entries)).toList
        ++ entriesAnchored entries

def allAnchored : List Node → List (Nat × Node)
  | [] => []
  | item :: rest => anchored item ++ allAnchored rest

def entriesAnchored : List (Node × Node) → List (Nat × Node)
  | [] => []
  | (key, value) :: rest => anchored key ++ anchored value ++ entriesAnchored rest

end

mutual

/-- The size of a document: a collection counts at its start and at its end. -/
def size : Node → Nat
  | reference _ => 1
  | scalar .. => 1
  | sequence _ items => totalSize items + 2
  | mapping _ entries => entriesSize entries + 2

def totalSize : List Node → Nat
  | [] => 0
  | item :: rest => size item + totalSize rest

def entriesSize : List (Node × Node) → Nat
  | [] => 0
  | (key, value) :: rest => size key + size value + entriesSize rest

end

def maxDepth : Nat := 128

/-- As many aliases are followed as a hundred times the size of the document. -/
def aliasLimit (node : Node) : Nat := size node * 100

end Node
end HttpBinding.Yaml
