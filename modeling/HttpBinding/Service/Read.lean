import HttpBinding.Document
import HttpBinding.Service.Description

/-!
Reading a description from a document tree. The first fault in document order
decides; a missing field is found when its object ends, and the verbs of an
annotation are looked at when the whole annotation has been read.
-/
namespace HttpBinding.Service

/-- Why a text is no description. It is too large if it nests too deep, or if too many
references have to be followed. Only the text of some faults is told. -/
inductive ReadError where
  | malformed
  | tooLarge
  | wrongType
  | missingField (name : String)
  | duplicateField (name : String)
  | unknownField (name : String)
  | unknownType (text : String)
  | rule (error : RuleError)
deriving Repr, DecidableEq

namespace ReadError

def message? : ReadError → Option String
  | malformed => none
  | tooLarge => none
  | wrongType => none
  | missingField name => some s!"missing field `{name}`"
  | duplicateField name => some s!"duplicate field `{name}`"
  | unknownField name =>
      some (s!"unknown field `{name}`, expected one of `get`, `post`, `put`, `delete`, `patch`, "
        ++ "`body`, `additional_bindings`")
  | unknownType text =>
      some (s!"unknown field type `{text}` (expected a scalar, `message:Name` or `enum:Name`)")
  | rule error => some error.message

end ReadError

/-- What a format accepts: whether an object may be written as the list of its members
in order, how deep lists and objects may still nest, what is wrong with a text that nests
deeper, and what its references stand for. -/
structure Dialect where
  positional : Bool
  depth : Nat
  tooDeep : ReadError
  targets : List (Nat × Document)

/-- The state counts how many references may still be followed. -/
abbrev Reading := StateT Nat (Except ReadError)

namespace Dialect

def enter (dialect : Dialect) : Reading Dialect :=
  match dialect.depth with
  | 0 => throw dialect.tooDeep
  | depth + 1 => return { dialect with depth := depth }

def follow (dialect : Dialect) : Document → Reading Document
  | .reference target => do
      match ← get, dialect.targets.lookup target with
      | left + 1, some document =>
          set left
          return document
      | _, _ => throw .tooLarge
  | document => return document

end Dialect

abbrev Reads (α : Type) := Dialect → Document → Reading α

def following (read : Reads α) : Reads α := fun dialect document => do
  read dialect (← dialect.follow document)

/-! Leaves. -/

def ofLeaf (read : Leaf → Except ReadError α) : Document → Except ReadError α
  | .leaf leaf => read leaf
  | .list .. | .object .. => .error .wrongType
  | .reference _ | .damaged | .broken => .error .malformed

def leafText (leaf : Leaf) : Except ReadError String :=
  match leaf.text with
  | some text => .ok text
  | none => .error .wrongType

def leafFlag (leaf : Leaf) : Except ReadError Bool :=
  match leaf.flag with
  | some flag => .ok flag
  | none => .error .wrongType

def leafOptionalText (leaf : Leaf) : Except ReadError (Option String) :=
  match leaf.presence with
  | .absent => .ok none
  | .contradictory => .error .wrongType
  | .given => (leafText leaf).map some

def readLeaf (read : Leaf → Except ReadError α) : Reads α :=
  following fun _ document => ofLeaf read document

def readText : Reads String := readLeaf leafText
def readFlag : Reads Bool := readLeaf leafFlag
def readOptionalText : Reads (Option String) := readLeaf leafOptionalText

def readType : Reads FieldType := fun dialect document => do
  let text ← readText dialect document
  match FieldType.parse? text with
  | some type => return type
  | none => throw (.unknownType text)

/-! Lists. -/

def readItems (read : Reads α) (dialect : Dialect) (closed : Bool) :
    List Document → Reading (List α)
  | [] => if closed then return [] else throw .malformed
  | item :: rest => do
      let value ← read dialect item
      let later ← readItems read dialect closed rest
      return value :: later

def readList (read : Reads α) : Reads (List α) := following fun dialect document => do
  match document with
  | .list items closed => readItems read (← dialect.enter) closed items
  | .leaf leaf => if leaf.blank then return [] else throw .wrongType
  | .object .. => throw .wrongType
  | .reference _ | .damaged | .broken => throw .malformed

/-! Objects. A record is filled member by member. -/

structure Member (ρ : Type) where
  name : String
  fill : Dialect → Document → ρ → Reading ρ
  filled : ρ → Bool

def Member.of (name : String) (read : Reads β) (get : ρ → Option β) (set : ρ → β → ρ) :
    Member ρ where
  name := name
  fill dialect document record := set record <$> read dialect document
  filled record := (get record).isSome

/-- A record's members in order, whether other names are refused, and how the
filled record is finished. -/
structure Shape (ρ α : Type) where
  empty : ρ
  members : List (Member ρ)
  strict : Bool
  finish : ρ → Except ReadError α

namespace Shape

def readEntry (shape : Shape ρ α) (dialect : Dialect) (key value : Document) (record : ρ) :
    Reading ρ := do
  let name ← readText dialect key
  match shape.members.find? fun member => member.name = name with
  | some member =>
      if member.filled record then throw (.duplicateField name)
      else member.fill dialect value record
  | none =>
      if shape.strict then throw (.unknownField name)
      else if value.isComplete then return record
      else throw .malformed

def readEntries (shape : Shape ρ α) (dialect : Dialect) (closed : Bool) :
    List (Document × Document) → ρ → Reading α
  | [], record => if closed then shape.finish record else throw .malformed
  | (key, value) :: rest, record => do
      let record ← shape.readEntry dialect key value record
      shape.readEntries dialect closed rest record

def readPositions (shape : Shape ρ α) (required : List String) (dialect : Dialect)
    (closed : Bool) : List (Member ρ) → List Document → ρ → Reading α
  | [], [], record => if closed then shape.finish record else throw .malformed
  | [], _ :: _, _ => throw .malformed
  | member :: members, [], record =>
      if !closed then throw .malformed
      else if member.name ∈ required then throw .wrongType
      else shape.readPositions required dialect closed members [] record
  | member :: members, item :: items, record => do
      let record ← member.fill dialect item record
      shape.readPositions required dialect closed members items record

def read (shape : Shape ρ α) (required : List String) : Reads α :=
  following fun dialect document => do
    match document with
    | .object entries closed =>
        shape.readEntries (← dialect.enter) closed entries shape.empty
    | .list items closed =>
        if dialect.positional then
          shape.readPositions required (← dialect.enter) closed shape.members items shape.empty
        else throw .wrongType
    | .leaf leaf => if leaf.blank then shape.finish shape.empty else throw .wrongType
    | .reference _ | .damaged | .broken => throw .malformed

end Shape

def require (name : String) : Option α → Except ReadError α
  | some value => .ok value
  | none => .error (.missingField name)

structure FieldRecord where
  name : Option String
  type : Option FieldType
  repeated : Option Bool

def fieldShape : Shape FieldRecord FieldDef where
  empty := ⟨none, none, none⟩
  members := [
    .of "name" readText FieldRecord.name fun r v => { r with name := some v },
    .of "type" readType FieldRecord.type fun r v => { r with type := some v },
    .of "repeated" readFlag FieldRecord.repeated fun r v => { r with repeated := some v }]
  strict := false
  finish r := do
    let name ← require "name" r.name
    let type ← require "type" r.type
    return { name := name, type := type, repeated := r.repeated.getD false }

def readField : Reads FieldDef := fieldShape.read ["name", "type"]

structure MessageRecord where
  name : Option String
  fields : Option (List FieldDef)

def messageShape : Shape MessageRecord MessageDef where
  empty := ⟨none, none⟩
  members := [
    .of "name" readText MessageRecord.name fun r v => { r with name := some v },
    .of "fields" (readList readField) MessageRecord.fields fun r v => { r with fields := some v }]
  strict := false
  finish r := do
    let name ← require "name" r.name
    return { name := name, fields := r.fields.getD [] }

def readMessage : Reads MessageDef := messageShape.read ["name"]

structure RuleRecord where
  get : Option (Option String)
  post : Option (Option String)
  put : Option (Option String)
  delete : Option (Option String)
  patch : Option (Option String)
  body : Option (Option String)
  additional : Option (List WireRule)

namespace RuleRecord

def slots (r : RuleRecord) : VerbSlots :=
  ⟨r.get.join, r.post.join, r.put.join, r.delete.join, r.patch.join⟩

def toWireRule (r : RuleRecord) : WireRule :=
  .mk r.slots r.body.join (r.additional.getD [])

end RuleRecord

def ruleShape (nested : Reads WireRule) : Shape RuleRecord WireRule where
  empty := ⟨none, none, none, none, none, none, none⟩
  members := [
    .of "get" readOptionalText RuleRecord.get fun r v => { r with get := some v },
    .of "post" readOptionalText RuleRecord.post fun r v => { r with post := some v },
    .of "put" readOptionalText RuleRecord.put fun r v => { r with put := some v },
    .of "delete" readOptionalText RuleRecord.delete fun r v => { r with delete := some v },
    .of "patch" readOptionalText RuleRecord.patch fun r v => { r with patch := some v },
    .of "body" readOptionalText RuleRecord.body fun r v => { r with body := some v },
    .of "additional_bindings" (readList nested) RuleRecord.additional
      fun r v => { r with additional := some v }]
  strict := true
  finish r := .ok r.toWireRule

/-- An annotation as it is written. Every level of additional ones goes at least
one level deeper, so the depth that is left bounds them. -/
def readWireRuleWithin : Nat → Reads WireRule
  | 0 => fun _ _ => throw .malformed
  | fuel + 1 => (ruleShape (readWireRuleWithin fuel)).read []

def readWireRule : Reads WireRule := fun dialect document =>
  readWireRuleWithin (dialect.depth + 1) dialect document

def readRule : Reads Rule := fun dialect document => do
  match (← readWireRule dialect document).toRule with
  | .ok rule => return rule
  | .error e => throw (.rule e)

structure MethodRecord where
  name : Option String
  requestType : Option String
  responseType : Option String
  http : Option (List Rule)

def methodShape : Shape MethodRecord MethodDef where
  empty := ⟨none, none, none, none⟩
  members := [
    .of "name" readText MethodRecord.name fun r v => { r with name := some v },
    .of "request_type" readText MethodRecord.requestType
      fun r v => { r with requestType := some v },
    .of "response_type" readText MethodRecord.responseType
      fun r v => { r with responseType := some v },
    .of "http" (readList readRule) MethodRecord.http fun r v => { r with http := some v }]
  strict := false
  finish r := do
    let name ← require "name" r.name
    let requestType ← require "request_type" r.requestType
    let responseType ← require "response_type" r.responseType
    return {
      name := name
      requestType := requestType
      responseType := responseType
      http := r.http.getD [] }

def readMethod : Reads MethodDef :=
  methodShape.read ["name", "request_type", "response_type"]

structure ServiceRecord where
  name : Option String
  messages : Option (List MessageDef)
  methods : Option (List MethodDef)

def serviceShape : Shape ServiceRecord ServiceDef where
  empty := ⟨none, none, none⟩
  members := [
    .of "name" readText ServiceRecord.name fun r v => { r with name := some v },
    .of "messages" (readList readMessage) ServiceRecord.messages
      fun r v => { r with messages := some v },
    .of "methods" (readList readMethod) ServiceRecord.methods
      fun r v => { r with methods := some v }]
  strict := false
  finish r := do
    let name ← require "name" r.name
    return { name := name, messages := r.messages.getD [], methods := r.methods.getD [] }

def readService : Reads ServiceDef := serviceShape.read ["name"]

end HttpBinding.Service
