import HttpBinding.Model.Binding

/-!
The routes of a service, one per binding, sorted by path and then by verb. Routes
that agree on both stay in method order.
-/
namespace HttpBinding.Model

open Service (Verb)

structure Route where
  verb : Verb
  path : String
  basePath : String
  method : String
  label : String
deriving Repr, DecidableEq

namespace Route

def ofBinding (method : String) (binding : Binding) : Route :=
  { verb := binding.verb
    path := binding.template
    basePath := binding.basePath
    method := method
    label := binding.label }

/-- By path first; two texts compare by their code points. -/
def le (first second : Route) : Bool :=
  if first.path = second.path then first.verb.name ≤ second.verb.name
  else first.path < second.path

end Route

def allRoutes (service : BoundService) : List Route :=
  service.methods.flatMap fun method => method.bindings.map (Route.ofBinding method.name)

def collectRoutes (service : BoundService) : List Route :=
  (allRoutes service).mergeSort Route.le

end HttpBinding.Model
