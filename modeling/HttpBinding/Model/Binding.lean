import HttpBinding.Identifier.Spelling
import HttpBinding.Path.Template
import HttpBinding.Service.Description
import HttpBinding.Text.Quoted

/-!
The binding model: the HTTP routes that invoke a method, and where every request
field is read from on each route.
-/
namespace HttpBinding.Model

open Service (FieldType Verb)

inductive Location where
  | path | query | body
deriving Repr, DecidableEq

namespace Location

def name : Location → String
  | path => "path"
  | query => "query"
  | body => "body"

end Location

/-- One request field on one route. The last three members that concern conversion
are empty for a body field. -/
structure Field where
  name : String
  queryName : String
  camelName : String
  lowCamelName : String
  localName : String
  location : Location
  type : FieldType
  repeated : Bool
  rustType : String
  statement : String
  needsCheck : Bool
  value : String
  isScalar : Bool
deriving Repr, DecidableEq

structure Binding where
  label : String
  template : String
  basePath : String
  verb : Verb
  fields : List Field
deriving Repr, DecidableEq

namespace Binding

def field? (binding : Binding) (name : String) : Option Field :=
  binding.fields.find? fun field => field.name = name

def fieldsAt (binding : Binding) (location : Location) : List Field :=
  binding.fields.filter fun field => field.location = location

def pathSection (segment : String) : String :=
  match Path.placeholderName? segment with
  | some name => "req." ++ Identifier.snake name ++ ".to_string()"
  | none => Text.quotedText segment

def pathSections (binding : Binding) : List String :=
  (Text.split '/' binding.template).map Binding.pathSection

end Binding

structure Method where
  name : String
  requestType : String
  responseType : String
  bindings : List Binding
deriving Repr, DecidableEq

namespace Method

def binding? (method : Method) (label : String) : Option Binding :=
  method.bindings.find? fun binding => binding.label = label

end Method

structure BoundService where
  name : String
  methods : List Method
deriving Repr, DecidableEq

end HttpBinding.Model
