import HttpBinding.Identifier.Ordinal
import HttpBinding.Model.Binding
import HttpBinding.Model.Conversion

/-!
Building the model of a service. A method's annotations must fit its request
message: every placeholder names a scalar field, a body selector names a field, and
no two fields generate the same local variable.
-/
namespace HttpBinding.Model

open Service (FieldDef FieldType MessageDef MethodDef Rule ServiceDef)

inductive BindingError where
  | placeholderWithoutField (method template placeholder : String)
  | nonScalarPathField (method template field : String)
  | bodyWithoutField (method template body : String)
  | unknownMessage (method message : String)
  | localNameCollision (method template first second localName : String)
deriving Repr, DecidableEq

namespace BindingError

def message : BindingError → String
  | placeholderWithoutField method template placeholder =>
      s!"method `{method}`: path template `{template}` references `\x7b{placeholder}\x7d`, "
        ++ "which is not a field of the request message"
  | nonScalarPathField method template field =>
      s!"method `{method}`: path template `{template}` binds `{field}`, "
        ++ "which is not a scalar field and can only be sent in the body"
  | bodyWithoutField method template body =>
      s!"method `{method}`: annotation for `{template}` selects body `{body}`, "
        ++ "which is not a field of the request message"
  | unknownMessage method message =>
      s!"method `{method}`: request message `{message}` is not defined"
  | localNameCollision method template first second localName =>
      s!"method `{method}`: on `{template}`, fields `{first}` and `{second}` "
        ++ s!"both generate the variable `{localName}`"

end BindingError

inductive BodySelector where
  | unset
  | all
  | field (name : String)
deriving Repr, DecidableEq

namespace BodySelector

def selects : BodySelector → String → Bool
  | unset, _ => false
  | all, _ => true
  | field name, candidate => name = candidate

end BodySelector

def label (method : String) (position : Nat) : String := method ++ Identifier.ordinal position

/-- A path field by its name, a body field by the selector; composite fields can
only be sent in the body. -/
def fieldLocation (definition : FieldDef) (placeholders : List String)
    (body : BodySelector) : Location :=
  if definition.name ∈ placeholders then .path
  else if body.selects definition.name then .body
  else if definition.type.isScalar then .query
  else .body

def conversion? (definition : FieldDef) (location : Location)
    (localName separator : String) : Option Conversion :=
  match location, definition.type with
  | .path, .scalar scalar | .query, .scalar scalar =>
      some (.make scalar definition.repeated localName separator)
  | _, _ => none

def generatedType (definition : FieldDef) : String :=
  if definition.repeated then "Vec<" ++ definition.type.rustType ++ ">"
  else definition.type.rustType

def buildField (definition : FieldDef) (label : String) (location : Location)
    (separator : String) : Field :=
  let camelName := Identifier.camel definition.name
  let localName := camelName ++ label
  let conversion := conversion? definition location localName separator
  { name := definition.name
    queryName := Identifier.snake definition.name
    camelName := camelName
    lowCamelName := Identifier.lowCamel definition.name
    localName := localName
    location := location
    type := definition.type
    repeated := definition.repeated
    rustType := generatedType definition
    statement := (conversion.map Conversion.statement).getD ""
    needsCheck := (conversion.map Conversion.needsCheck).getD false
    value := (conversion.map Conversion.value).getD ""
    isScalar := definition.type.isScalar }

def checkPlaceholders (method template : String) (request : MessageDef) :
    List String → Except BindingError Unit
  | [] => .ok ()
  | placeholder :: rest =>
      match request.field? placeholder with
      | none => .error (.placeholderWithoutField method template placeholder)
      | some field =>
          if field.type.isScalar then checkPlaceholders method template request rest
          else .error (.nonScalarPathField method template field.name)

def selectBody (method template : String) (request : MessageDef) :
    Option String → Except BindingError BodySelector
  | none => .ok .unset
  | some "*" => .ok .all
  | some name =>
      if (request.field? name).isSome then .ok (.field name)
      else .error (.bodyWithoutField method template name)

/-- The first field that repeats a local name, after the latest one that claimed it. -/
def findCollision? (claimed : List Field) : List Field → Option (Field × Field)
  | [] => none
  | field :: rest =>
      match claimed.find? fun earlier => earlier.localName = field.localName with
      | some earlier => some (earlier, field)
      | none => findCollision? (field :: claimed) rest

def buildBinding (method : String) (request : MessageDef) (separator : String)
    (rule : Rule) (position : Nat) : Except BindingError Binding := do
  let placeholders := Path.placeholders rule.path
  checkPlaceholders method rule.path request placeholders
  let body ← selectBody method rule.path request rule.body
  let bindingLabel := label method position
  let fields := request.fields.map fun definition =>
    buildField definition bindingLabel (fieldLocation definition placeholders body) separator
  match findCollision? [] fields with
  | some (first, second) =>
      throw (.localNameCollision method rule.path first.name second.name second.localName)
  | none =>
      return {
        label := bindingLabel
        template := rule.path
        basePath := Path.basePath rule.path
        verb := rule.verb
        fields := fields }

def buildBindings (method : String) (request : MessageDef) (separator : String) :
    Nat → List Rule → Except BindingError (List Binding)
  | _, [] => .ok []
  | position, rule :: rest => do
      let binding ← buildBinding method request separator rule position
      let later ← buildBindings method request separator (position + 1) rest
      return binding :: later

def buildMethod (method : MethodDef) (request : MessageDef) (separator : String) :
    Except BindingError Method := do
  let bindings ← buildBindings method.name request separator 0 method.annotations
  return {
    name := method.name
    requestType := method.requestType
    responseType := method.responseType
    bindings := bindings }

def buildMethods (service : ServiceDef) (separator : String) :
    List MethodDef → Except BindingError (List Method)
  | [] => .ok []
  | method :: rest => do
      match service.message? method.requestType with
      | none => throw (.unknownMessage method.name method.requestType)
      | some request =>
          let built ← buildMethod method request separator
          let later ← buildMethods service separator rest
          return built :: later

def buildService (service : ServiceDef) (separator : String) :
    Except BindingError BoundService := do
  let methods ← buildMethods service separator service.methods
  return { name := service.name, methods := methods }

def defaultSeparator : String := ","

end HttpBinding.Model
