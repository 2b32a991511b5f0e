import HttpBinding.Service.Read
import HttpBinding.Yaml.Anchor
import HttpBinding.Yaml.Word

/-!
Descriptions as YAML. A scalar is what the description asks for at its place, whatever
it looks like. An alias is followed where its value is asked for.
-/
namespace HttpBinding.Service

open Yaml (Node Octets ScalarStyle)

def presenceOf (tag : Option Octets) (style : ScalarStyle) (text : String) : Presence :=
  let isNull := Yaml.isNullWord text
  if style ≠ .plain then .given
  else
    match tag with
    | some tag =>
        if tag ≠ Yaml.Tag.null then .given else if isNull then .absent else .contradictory
    | none => if text.isEmpty || isNull then .absent else .given

/-- A truth value is written without quotes, or tagged as one in a literal block. -/
def flagOf (tag : Option Octets) (style : ScalarStyle) (text : String) : Option Bool :=
  if style = .plain || (style = .literal && tag = some Yaml.Tag.flag) then Yaml.flagWord? text
  else none

def leafOf (tag : Option Octets) (style : ScalarStyle) (text : String) : Leaf :=
  ⟨some text, flagOf tag style text, presenceOf tag style text, style = .plain && text.isEmpty⟩

mutual

def documentOf : Node → Document
  | .reference target => .reference target
  | .scalar properties style text => .leaf (leafOf properties.tag style text)
  | .sequence _ items => .list (documentsOf items) true
  | .mapping _ entries => .object (entriesOf entries) true

def documentsOf : List Node → List Document
  | [] => []
  | item :: rest => documentOf item :: documentsOf rest

def entriesOf : List (Node × Node) → List (Document × Document)
  | [] => []
  | (key, value) :: rest => (documentOf key, documentOf value) :: entriesOf rest

end

/-- What the aliases of a document stand for. Of two nodes with one number the later
counts. -/
def targetsOf (node : Node) : List (Nat × Document) :=
  (node.anchored.map fun (number, node) => (number, documentOf node)).reverse

def yamlDialect (targets : List (Nat × Document)) : Dialect :=
  ⟨false, Node.maxDepth, .tooLarge, targets⟩

def blankDocument : Document := .leaf ⟨none, none, .absent, true⟩

/-- Reads a whole text. A text that is not one whole document is malformed, whatever
else is wrong with it. -/
def ServiceDef.ofYaml (text : String) : Except ReadError ServiceDef :=
  match Node.document? text.toList with
  | none => .error .malformed
  | some none => (readService (yamlDialect []) blankDocument).run' 0
  | some (some node) =>
      (readService (yamlDialect (targetsOf node)) (documentOf node)).run' node.aliasLimit

end HttpBinding.Service
