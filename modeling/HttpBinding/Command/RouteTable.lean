import HttpBinding.Command.Paint
import HttpBinding.Model.Route

/-!
The routes of a service as a table.
-/
namespace HttpBinding.Command

open Model (BoundService Route)
open Service (Verb)

def padded (width : Nat) (text : String) : String :=
  String.ofList (text.toList.rightpad width ' ')

def verbStyle : Verb → Style
  | .get => .green
  | .post => .blue
  | .put => .yellow
  | .delete => .red
  | .patch => .magenta

structure Row where
  verb : String
  path : String
  base : String
  method : String
  label : String
deriving Repr, DecidableEq

def Row.line (row : Row) (paintFirst paintOther : String → String) : String :=
  "  " ++ " ".intercalate [
    paintFirst (padded 8 row.verb),
    paintOther (padded 35 row.path),
    paintOther (padded 20 row.base),
    paintOther (padded 20 row.method),
    paintOther row.label]

def headings : Row := ⟨"VERB", "PATH", "BASE", "METHOD", "LABEL"⟩

def rowOf (route : Route) : Row :=
  ⟨String.ofList (route.verb.name.toList.map Char.toUpper), route.path, route.basePath,
    route.method, route.label⟩

def routeLine (colours : Bool) (route : Route) : String :=
  (rowOf route).line (paint colours (verbStyle route.verb)) id

def tableLines (colours : Bool) (service : BoundService) (routes : List Route) : List String :=
  let dim := paint colours .dimmed
  [paint colours .bold "Routes of" ++ " " ++ paint colours .bold service.name,
    "",
    headings.line dim dim,
    "  " ++ dim ("".pushn '-' 95)]
    ++ routes.map (routeLine colours)
    ++ ["", s!"  {routes.length} routes total"]

def routeLines (colours : Bool) (service : BoundService) : List String :=
  let routes := Model.collectRoutes service
  if routes.isEmpty then [paint colours .dimmed "No routes found."]
  else tableLines colours service routes

def routeListing (colours : Bool) (service : BoundService) : String :=
  String.join ((routeLines colours service).map (· ++ "\n"))

end HttpBinding.Command
