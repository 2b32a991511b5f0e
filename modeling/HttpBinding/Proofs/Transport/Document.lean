import HttpBinding.Proofs.Json.Reading
import HttpBinding.Transport.Generate

/-!
What a reader finds in a written model: the name of the service, the routes of its bindings
in method order, and the matcher's text. They are taken out by the names of the members,
whatever else stands there.
-/
namespace HttpBinding

namespace Document

def text? : Document → Option String
  | .leaf value => value.text
  | _ => none

def items? : Document → Option (List Document)
  | .list items true => some items
  | _ => none

/-- The first member of an object that has the name. -/
def member? (name : String) : Document → Option Document
  | .object entries true => (entries.find? fun entry => entry.1.text? = some name).map (·.2)
  | _ => none

def textAt? (name : String) (document : Document) : Option String :=
  (document.member? name).bind text?

def itemsAt? (name : String) (document : Document) : Option (List Document) :=
  (document.member? name).bind items?

end Document

namespace Transport

open Json (Value)
open Model (Binding BoundService Method Route)
open Service (Verb)

/-- The route of one binding of a model. -/
def routeIn? (method : String) (binding : Document) : Option Route := do
  let verb ← (← binding.textAt? "verb") |> Verb.ofName?
  let path ← binding.textAt? "path_template"
  let basePath ← binding.textAt? "base_path"
  let label ← binding.textAt? "label"
  return ⟨verb, path, basePath, method, label⟩

def methodRoutesIn? (method : Document) : Option (List Route) := do
  let name ← method.textAt? "name"
  (← method.itemsAt? "bindings").mapM (routeIn? name)

/-- The routes of all bindings of a model, in order. -/
def routesIn? (model : Document) : Option (List Route) := do
  let service ← model.member? "service"
  return (← (← service.itemsAt? "methods").mapM methodRoutesIn?).flatten

def nameIn? (model : Document) : Option String :=
  (model.member? "service").bind (Document.textAt? "name")

def matcherIn? (model : Document) : Option String := model.textAt? "path_params_builder"

theorem mapM_document {α β : Type} (write : α → Value) (read? : Document → Option β) (value : α → β)
    (written : ∀ item, read? (write item).document = some (value item)) (items : List α) :
    (Value.documents (items.map write)).mapM read? = some (items.map value) := by
  rw [Json.Value.documents_map, List.mapM_map]
  have each : (read? ∘ fun item => (write item).document) = fun item => pure (value item) :=
    funext written
  rw [each, List.mapM_pure]
  rfl

theorem routeIn?_binding (method : String) (binding : Binding) :
    routeIn? method binding.toJson.document = some (.ofBinding method binding) := by
  -- The name of the verb must be known for its reader to run.
  obtain ⟨label, template, basePath, verb, fields⟩ := binding
  cases verb <;> rfl

theorem methodRoutesIn?_method (method : Method) :
    methodRoutesIn? method.toJson.document
      = some (method.bindings.map (Route.ofBinding method.name)) :=
  mapM_document Binding.toJson _ _ (routeIn?_binding method.name) method.bindings

theorem routesIn?_document (transport : Transport) :
    routesIn? transport.toJson.document = some (Model.allRoutes transport.service) := by
  have methods := mapM_document Method.toJson _ _ methodRoutesIn?_method transport.service.methods
  have found : routesIn? transport.toJson.document
      = ((Value.documents (transport.service.methods.map Method.toJson)).mapM
          methodRoutesIn?).bind fun routes => some routes.flatten := rfl
  rw [found, methods, Option.bind_some, Model.allRoutes, List.flatMap_def]

theorem nameIn?_document (transport : Transport) :
    nameIn? transport.toJson.document = some transport.service.name := rfl

theorem matcherIn?_document (transport : Transport) :
    matcherIn? transport.toJson.document = some transport.matcher := rfl

end Transport
end HttpBinding
