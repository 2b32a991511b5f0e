import HttpBinding.Service.FieldType
import HttpBinding.Service.Rule

/-!
A service description: messages with their fields, and methods with their HTTP
annotations. Names need not be unique; a lookup takes the first.
-/
namespace HttpBinding.Service

structure FieldDef where
  name : String
  type : FieldType
  repeated : Bool
deriving Repr, DecidableEq

structure MessageDef where
  name : String
  fields : List FieldDef
deriving Repr, DecidableEq

namespace MessageDef

def field? (message : MessageDef) (name : String) : Option FieldDef :=
  message.fields.find? fun field => field.name = name

end MessageDef

structure MethodDef where
  name : String
  requestType : String
  responseType : String
  http : List Rule
deriving Repr

namespace MethodDef

def annotations (method : MethodDef) : List Rule := Rule.flattenAll method.http

end MethodDef

structure ServiceDef where
  name : String
  messages : List MessageDef
  methods : List MethodDef
deriving Repr

namespace ServiceDef

def message? (service : ServiceDef) (name : String) : Option MessageDef :=
  service.messages.find? fun message => message.name = name

end ServiceDef
end HttpBinding.Service
