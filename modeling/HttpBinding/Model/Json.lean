import HttpBinding.Json.Value
import HttpBinding.Model.Route

/-!
The binding model as JSON.
-/
namespace HttpBinding.Model

def Field.toJson (field : Field) : Json.Value :=
  .object [
    ("name", .text field.name),
    ("query_param_name", .text field.queryName),
    ("camel_name", .text field.camelName),
    ("low_camel_name", .text field.lowCamelName),
    ("local_name", .text field.localName),
    ("location", .text field.location.name),
    ("field_type", .text field.type.render),
    ("repeated", .flag field.repeated),
    ("rust_type", .text field.rustType),
    ("convert_func", .text field.statement),
    ("convert_func_needs_error_check", .flag field.needsCheck),
    ("type_conversion", .text field.value),
    ("is_base_type", .flag field.isScalar)]

def Binding.toJson (binding : Binding) : Json.Value :=
  .object [
    ("label", .text binding.label),
    ("path_template", .text binding.template),
    ("base_path", .text binding.basePath),
    ("verb", .text binding.verb.name),
    ("fields", .list (binding.fields.map Field.toJson))]

def Method.toJson (method : Method) : Json.Value :=
  .object [
    ("name", .text method.name),
    ("request_type", .text method.requestType),
    ("response_type", .text method.responseType),
    ("bindings", .list (method.bindings.map Binding.toJson))]

def BoundService.toJson (service : BoundService) : Json.Value :=
  .object [
    ("name", .text service.name),
    ("methods", .list (service.methods.map Method.toJson))]

end HttpBinding.Model
