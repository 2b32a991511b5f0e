import HttpBinding.Json.Reader
import HttpBinding.Json.Value
import HttpBinding.Service.Read

/-!
Descriptions as JSON: reading them from text, and the value that writes them.
-/
namespace HttpBinding.Service

/-- JSON nests at most 127 levels, and has no references. -/
def jsonDialect : Dialect := ⟨true, 127, .malformed, []⟩

def readJsonText (read : Reads α) (text : String) : Except ReadError α :=
  let (document, ended) := Json.read text
  match (read jsonDialect document).run' 0 with
  | .error e => .error e
  | .ok value => if ended then .ok value else .error .malformed

def ServiceDef.ofJson (text : String) : Except ReadError ServiceDef := readJsonText readService text
def MethodDef.ofJson (text : String) : Except ReadError MethodDef := readJsonText readMethod text
def MessageDef.ofJson (text : String) : Except ReadError MessageDef := readJsonText readMessage text

def FieldDef.toJson (field : FieldDef) : Json.Value :=
  .object [
    ("name", .text field.name),
    ("type", .text field.type.render),
    ("repeated", .flag field.repeated)]

def MessageDef.toJson (message : MessageDef) : Json.Value :=
  .object [
    ("name", .text message.name),
    ("fields", .list (message.fields.map FieldDef.toJson))]

def ownMembers (slots : VerbSlots) (body : Option String) : List (String × Json.Value) :=
  (slots.given.map fun (verb, path) => (verb.name, .text path))
    ++ (body.map fun body => ("body", .text body)).toList

mutual

def WireRule.toJson : WireRule → Json.Value
  | .mk slots body additional =>
      .object (ownMembers slots body ++ match WireRule.allToJson additional with
        | [] => []
        | values => [("additional_bindings", .list values)])

def WireRule.allToJson : List WireRule → List Json.Value
  | [] => []
  | wire :: rest => wire.toJson :: WireRule.allToJson rest

end

def Rule.toJson (rule : Rule) : Json.Value := (WireRule.ofRule rule).toJson

def MethodDef.toJson (method : MethodDef) : Json.Value :=
  .object [
    ("name", .text method.name),
    ("request_type", .text method.requestType),
    ("response_type", .text method.responseType),
    ("http", .list (method.http.map Rule.toJson))]

def ServiceDef.toJson (service : ServiceDef) : Json.Value :=
  .object [
    ("name", .text service.name),
    ("messages", .list (service.messages.map MessageDef.toJson)),
    ("methods", .list (service.methods.map MethodDef.toJson))]

end HttpBinding.Service
