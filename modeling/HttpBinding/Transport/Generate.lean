import HttpBinding.Model.Json
import HttpBinding.Transport.Matcher

/-!
All that the transport code of a service is made from: its binding model and the
matcher's text.
-/
namespace HttpBinding

structure Transport where
  service : Model.BoundService
  matcher : String

namespace Transport

open Workspace (Files)

inductive Error where
  | binding (error : Model.BindingError)
  | excerpt (error : Source.ExcerptError)
  | config (error : Config.Error)

def Error.message : Error → String
  | binding error => s!"Binding error: {error.message}"
  | excerpt error => s!"Helper embedding error: {error.message}"
  | config error => error.message

/-- The service is bound first. -/
def generate (files : Files) (service : Service.ServiceDef) (choices : Config.Choices) :
    Except Error Transport := do
  let bound ← (Model.buildService service choices.separator).mapError Error.binding
  let matcher ← (matcherBundle files choices.source).mapError Error.excerpt
  return ⟨bound, matcher⟩

def ofConfig (files : Files) (service : Service.ServiceDef) (config : Config) :
    Except Error Transport := do
  generate files service (← config.choices.mapError Error.config)

def bindings (transport : Transport) : List Model.Binding :=
  transport.service.methods.flatMap (·.bindings)

def toJson (transport : Transport) : Json.Value :=
  .object [
    ("service", transport.service.toJson),
    ("path_params_builder", .text transport.matcher)]

end Transport
end HttpBinding
