import HttpBinding.Yaml.Anchor

/-!
Documents as trees: every alias is replaced by what it stands for.
-/
namespace HttpBinding.Yaml

/-- A tree is cut where it is too deep, and where too many aliases were followed. -/
inductive Tree where
  | scalar (tag : Option Octets) (style : ScalarStyle) (text : String)
  | sequence (tag : Option Octets) (items : List Tree)
  | mapping (tag : Option Octets) (entries : List (Tree × Tree))
  | cut
deriving Repr, Inhabited

namespace Node

/-- Follows an alias. The state counts how often that may still be done. -/
def follow (anchors : List (Nat × Node)) : Node → StateM Nat (Option Node)
  | reference number => do
      match ← get with
      | 0 => return none
      | left + 1 =>
          set left
          return (anchors.reverse.lookup number)
  | node => return some node

/-- The tree of a node whose parts are made into trees by `part`; without it, the tree
may not go deeper. -/
def toTreeWith (anchors : List (Nat × Node)) (part : Option (Node → StateM Nat Tree))
    (node : Node) : StateM Nat Tree := do
  match ← follow anchors node, part with
  | some (scalar properties style text), _ => return .scalar properties.tag style text
  | some (sequence properties items), some part =>
      return .sequence properties.tag (← items.mapM part)
  | some (mapping properties entries), some part =>
      return .mapping properties.tag
        (← entries.mapM fun (key, value) => do return (← part key, ← part value))
  | _, _ => return .cut

def toTreeTo (anchors : List (Nat × Node)) : Nat → Node → StateM Nat Tree
  | 0, node => toTreeWith anchors none node
  | depth + 1, node => toTreeWith anchors (some (toTreeTo anchors depth)) node

def toTree (node : Node) : Tree :=
  (toTreeTo (anchored node) maxDepth node (aliasLimit node)).1

end Node

def Tree.document? (text : String) : Option (Option Tree) :=
  (Node.document? text.toList).map (Option.map Node.toTree)

end HttpBinding.Yaml
