import HttpBinding.Command.Run
import HttpBinding.Proofs.Command.Request
import HttpBinding.Proofs.Config.Variables
import HttpBinding.Proofs.Transport.Document
import Mathlib.Data.List.Forall2

/-!
The three commands agree. They go through the same stages, the configuration first, then the
description, its binding and the matcher, as far as each of them needs them. So the model can
be shown exactly if the routes can be listed and the matcher's text can be had; it then holds
just these, and otherwise tells what they tell.
-/
namespace HttpBinding.Command

open Model (BindingError BoundService Route)
open Service (Verb)
open Source (ExcerptError)
open Workspace (Environment Files)

/-! Stages -/

section Stages
variable (files : Files) (environment : Environment) (profile path : String)

/-- The configuration or the description cannot be had. -/
inductive StopsEarly : Failure → Prop where
  | configuration (failure : Failure) (after : Environment)
      (stopped : loadChoices files environment profile = .ok (.error failure, after)) :
      StopsEarly failure
  | description (choices : Config.Choices) (after : Environment) (failure : Failure)
      (chosen : loadChoices files environment profile = .ok (.ok choices, after))
      (stopped : loadService files path = .error failure) : StopsEarly failure

/-- The description can be had, but its annotations do not fit. -/
def Unbound (error : BindingError) : Prop :=
  ∃ choices after definition, loadChoices files environment profile = .ok (.ok choices, after) ∧
    loadService files path = .ok definition ∧
    Model.buildService definition choices.separator = .error error

end Stages

/-! The listing -/

/-- A text with the blanks that fill its column; a longer text runs over. -/
def Fills (width : Nat) (text column : String) : Prop :=
  ∃ blanks, column = text ++ String.ofList (List.replicate blanks ' ') ∧
    text.length + blanks = max width text.length

/-- A verb as it is shown, and the number of its colour. -/
def shownVerb : Verb → String × String
  | .get => ("GET", "32")
  | .post => ("POST", "34")
  | .put => ("PUT", "33")
  | .delete => ("DELETE", "31")
  | .patch => ("PATCH", "35")

def coloured (colours : Bool) (number text : String) : String :=
  if colours then "\x1b[" ++ number ++ "m" ++ text ++ "\x1b[0m" else text

/-- The five columns of a route: only the verb has a colour. -/
def ShowsRoute (colours : Bool) (route : Route) (line : String) : Prop :=
  ∃ verb path base method, Fills 8 (shownVerb route.verb).1 verb ∧ Fills 35 route.path path ∧
    Fills 20 route.basePath base ∧ Fills 20 route.method method ∧
    line = "  " ++ coloured colours (shownVerb route.verb).2 verb ++ " " ++ path ++ " " ++ base
      ++ " " ++ method ++ " " ++ route.label

def headingLine (colours : Bool) : String :=
  let dimmed := coloured colours "2"
  "  " ++ dimmed "VERB    " ++ " " ++ dimmed "PATH                               " ++ " "
    ++ dimmed "BASE                " ++ " " ++ dimmed "METHOD              " ++ " " ++ dimmed "LABEL"

def dashLine (colours : Bool) : String :=
  "  " ++ coloured colours "2" (String.ofList (List.replicate 95 '-'))

def headLines (colours : Bool) (name : String) : List String :=
  [coloured colours "1" "Routes of" ++ " " ++ paint colours .bold name, "", headingLine colours,
    dashLine colours]

/-- A line for each route, between a head with the name of the service and the number of
routes. -/
def Lists (colours : Bool) (name : String) (routes : List Route) (output : String) : Prop :=
  if routes = [] then output = coloured colours "2" "No routes found." ++ "\n"
  else ∃ lines, List.Forall₂ (ShowsRoute colours) routes lines ∧
    output = String.join ((headLines colours name ++ lines
      ++ ["", s!"  {routes.length} routes total"]).map (· ++ "\n"))

theorem fills_padded (width : Nat) (text : String) : Fills width text (padded width text) := by
  refine ⟨width - text.length, ?_, ?_⟩
  · rw [padded, List.rightpad, String.ofList_append, String.ofList_toList, String.length_toList]
  · rcases Nat.le_total width text.length with longer | shorter
    · rw [Nat.sub_eq_zero_of_le longer, Nat.max_eq_right longer, Nat.add_zero]
    · rw [Nat.add_sub_cancel' shorter, Nat.max_eq_left shorter]

theorem paint_verb (colours : Bool) (verb : Verb) :
    paint colours (verbStyle verb) (padded 8 (String.ofList (verb.name.toList.map Char.toUpper)))
      = coloured colours (shownVerb verb).2 (padded 8 (shownVerb verb).1) := by
  cases colours <;> cases verb <;> decide

theorem intercalate_columns (verb path base method label : String) :
    " ".intercalate [verb, path, base, method, label]
      = verb ++ " " ++ path ++ " " ++ base ++ " " ++ method ++ " " ++ label := rfl

theorem showsRoute_routeLine (colours : Bool) (route : Route) :
    ShowsRoute colours route (routeLine colours route) := by
  refine ⟨_, _, _, _, fills_padded 8 _, fills_padded 35 _, fills_padded 20 _, fills_padded 20 _, ?_⟩
  simp only [routeLine, rowOf, Row.line, paint_verb, intercalate_columns, id, String.append_assoc]

theorem take_tableLines (colours : Bool) (service : BoundService) (routes : List Route) :
    (tableLines colours service routes).take 4 = headLines colours service.name := by
  have title : paint colours .bold "Routes of" = coloured colours "1" "Routes of" := by
    cases colours <;> decide
  have columns : headings.line (paint colours .dimmed) (paint colours .dimmed)
      = headingLine colours := by
    cases colours <;> decide +kernel
  have dashes : "  " ++ paint colours .dimmed ("".pushn '-' 95) = dashLine colours := by
    cases colours <;> decide +kernel
  simp only [tableLines, title, columns, dashes]
  rfl

theorem lists_routeListing (colours : Bool) (service : BoundService) :
    Lists colours service.name (Model.collectRoutes service) (routeListing colours service) := by
  rw [routeListing, routeLines]
  generalize Model.collectRoutes service = routes
  cases routes with
  | nil => cases colours <;> rfl
  | cons route rest =>
      rw [Lists, if_neg (List.cons_ne_nil route rest)]
      refine ⟨(route :: rest).map (routeLine colours), ?_, ?_⟩
      · rw [List.forall₂_map_right_iff, List.forall₂_same]
        exact fun shown _ => showsRoute_routeLine colours shown
      · rw [← take_tableLines colours service (route :: rest)]
        rfl

/-! Outcomes -/

/-- A command that fails ends with code 1 and writes nothing but its error. -/
def Reports (colours : Bool) (text : String) (outcome : Outcome) : Prop :=
  outcome = ⟨1, "", paint colours .red s!"Error: {text}" ++ "\n"⟩

/-- What is shown of a model that can be made: the routes of the listing, in some order, and
the matcher's text, which the helper ends with a line feed. -/
def ShowsBoth (colours : Bool) (routes model helper : Outcome) : Prop :=
  ∃ document name found listed matcher, Json.read model.output = (document, true) ∧
    Transport.nameIn? document = some name ∧ Transport.routesIn? document = some found ∧
    listed.Perm found ∧ Lists colours name listed routes.output ∧
    Transport.matcherIn? document = some matcher ∧ helper.output = matcher ++ "\n"

structure Agree (files : Files) (environment : Environment) (colours : Bool)
    (profile path : String) (routes model helper : Outcome) : Prop where
  succeeds : model.code = 0 ↔ routes.code = 0 ∧ helper.code = 0
  shows : model.code = 0 → ShowsBoth colours routes model helper
  bothFail : model.code ≠ 0 → routes.code ≠ 0 →
    (∃ failure, StopsEarly files environment profile path failure ∧
      Reports colours failure.message routes ∧ Reports colours failure.message model) ∨
    ∃ error, Unbound files environment profile path error ∧
      Reports colours error.message routes ∧
      Reports colours ("Binding error: " ++ error.message) model
  modelFails : model.code ≠ 0 → routes.code = 0 →
    ∃ error : ExcerptError, Reports colours error.message helper ∧
      Reports colours ("Helper embedding error: " ++ error.message) model
  silent : ∀ outcome ∈ [routes, model, helper],
    outcome.code ≠ 0 → outcome.code = 1 ∧ outcome.output = ""

theorem read_shown (transport : Transport) :
    Json.read (transport.toJson.pretty ++ "\n") = (transport.toJson.document, true) := by
  have blank : Json.IsGap ['\n'] := by
    simp [Json.IsGap, Json.isBlank]
  have read := Json.read_spelled transport.toJson [] _ ['\n'] Json.isGap_nil
    (transport.toJson.spells_prettyChars 0) blank
  rwa [List.nil_append, String.ofList_append] at read

theorem showsBoth (colours : Bool) (service : BoundService) (matcher : String)
    (routes model helper : Outcome) (listed : routes.output = routeListing colours service)
    (shown : model.output = (Transport.toJson ⟨service, matcher⟩).pretty ++ "\n")
    (had : helper.output = matcher ++ "\n") : ShowsBoth colours routes model helper := by
  refine ⟨_, service.name, Model.allRoutes service, Model.collectRoutes service, matcher, ?_,
    Transport.nameIn?_document ⟨service, matcher⟩, Transport.routesIn?_document _,
    List.mergeSort_perm _ _, ?_, Transport.matcherIn?_document ⟨service, matcher⟩, had⟩
  · rw [shown, read_shown]
  · rw [listed]
    exact lists_routeListing colours service

/-! Commands -/

theorem perform_of_loaded (files : Files) (environment : Environment) (terminal : Bool)
    (profile : String) (task : Task) (choices : Except Failure Config.Choices)
    (after : Environment) (loaded : loadChoices files environment profile = .ok (choices, after)) :
    perform files environment terminal profile task =
      ending (showsColours after terminal)
        (choices >>= task.run files (showsColours after terminal)) := by
  rw [perform, loaded]

/-- Where all variables can be set, the configuration is had or refused. -/
theorem loadChoices_of_settable (files : Files) (environment : Environment) (profile : String)
    (settable : Config.DotenvSettable files environment "."
      (Config.activeProfile environment profile)) :
    ∃ choices after, loadChoices files environment profile = .ok (choices, after) := by
  have set := (Config.foldlM_withDotenv_ok_iff files environment "."
    (Config.activeProfile environment profile) _).mpr ⟨settable, rfl⟩
  simp only [loadChoices, Config.load]
  cases Config.fileValues files "." (Config.activeProfile environment profile) with
  | error error => exact ⟨_, _, rfl⟩
  | ok values =>
      rw [set]
      exact ⟨_, _, rfl⟩

theorem endings_silent (colours : Bool) (results : List (Except Failure String)) :
    ∀ outcome ∈ results.map (ending colours),
      outcome.code ≠ 0 → outcome.code = 1 ∧ outcome.output = "" := by
  intro outcome member failed
  obtain ⟨result, _, rfl⟩ := List.mem_map.mp member
  cases result with
  | ok output => exact absurd rfl failed
  | error failure => exact ⟨rfl, rfl⟩

section Stages
variable (files : Files) (environment : Environment) (colours : Bool) (profile path : String)

/-- Without a configuration or a description the helper may still have its text. -/
theorem agree_of_stopsEarly (failure : Failure) (helped : Except Failure String)
    (early : StopsEarly files environment profile path failure) :
    Agree files environment colours profile path (ending colours (.error failure))
      (ending colours (.error failure)) (ending colours helped) where
  succeeds := by simp [ending]
  shows succeeded := by cases succeeded
  bothFail _ _ := .inl ⟨failure, early, rfl, rfl⟩
  modelFails _ succeeded := by cases succeeded
  silent := endings_silent colours [_, _, _]

theorem agree_of_unbound (error : BindingError) (helped : Except Failure String)
    (unbound : Unbound files environment profile path error) :
    Agree files environment colours profile path (ending colours (.error (.binding error)))
      (ending colours (.error (.transport (.binding error)))) (ending colours helped) where
  succeeds := by simp [ending]
  shows succeeded := by cases succeeded
  bothFail _ _ := .inr ⟨error, unbound, rfl, rfl⟩
  modelFails _ succeeded := by cases succeeded
  silent := endings_silent colours [_, _, _]

theorem agree_of_bound (service : BoundService) (bundled : Except ExcerptError String) :
    Agree files environment colours profile path
      (ending colours (.ok (routeListing colours service)))
      (ending colours ((bundled.mapError (Failure.transport ∘ .excerpt)).map fun matcher =>
        (Transport.toJson ⟨service, matcher⟩).pretty ++ "\n"))
      (ending colours ((bundled.mapError .excerpt).map (· ++ "\n"))) where
  succeeds := by cases bundled <;> simp [ending, Except.mapError, Except.map]
  shows succeeded := by
    cases bundled with
    | error error => cases succeeded
    | ok matcher => exact showsBoth colours service matcher _ _ _ rfl rfl rfl
  bothFail _ failed := absurd rfl failed
  modelFails failed _ := by
    cases bundled with
    | error error => exact ⟨error, rfl, rfl⟩
    | ok matcher => exact absurd rfl failed
  silent := endings_silent colours [_, _, _]

/-- The tasks, stage by stage. -/
theorem agree_of_loaded (loaded : Except Failure Config.Choices) (after : Environment)
    (same : loadChoices files environment profile = .ok (loaded, after)) :
    Agree files environment colours profile path
      (ending colours (loaded >>= (Task.routes path).run files colours))
      (ending colours (loaded >>= (Task.model path).run files colours))
      (ending colours (loaded >>= Task.helper.run files colours)) := by
  cases loaded with
  | error failure =>
      exact agree_of_stopsEarly files environment colours profile path failure _
        (.configuration failure after same)
  | ok choices =>
      cases described : loadService files path with
      | error failure =>
          have early := StopsEarly.description choices after failure same described
          have agree := agree_of_stopsEarly files environment colours profile path failure
            (showHelper files choices) early
          simpa [Task.run, listRoutes, showModel, described, bind, Except.bind] using agree
      | ok definition =>
          cases bound : Model.buildService definition choices.separator with
          | error error =>
              have agree := agree_of_unbound files environment colours profile path error
                (showHelper files choices) ⟨choices, after, definition, same, described, bound⟩
              simpa [Task.run, listRoutes, showModel, Transport.generate, described, bound, bind,
                Except.bind, Except.mapError] using agree
          | ok service =>
              -- Only the matcher's text is left, and the model and the helper ask for the same one.
              have agree := agree_of_bound files environment colours profile path service
                (Transport.matcherBundle files choices.source)
              cases bundled : Transport.matcherBundle files choices.source <;>
                simpa [Task.run, listRoutes, showModel, showHelper, Transport.generate, described,
                  bound, bundled, bind, Except.bind, Except.mapError, Except.map, pure,
                  Except.pure] using agree

end Stages

/-- Every file with a name can be asked for, and whatever the command lines look like, as long
as they ask for the routes and the model of one file and for the matcher under one profile,
the outcomes agree. -/
theorem commands_agree (files : Files) (environment : Environment) (terminal : Bool)
    (profile path : String)
    (settable : Config.DotenvSettable files environment "."
      (Config.activeProfile environment profile)) :
    (∀ task : Task, "" ∉ task.words →
      Request.ofArguments (task.line profile) = .perform profile task) ∧
    ∃ choices after, loadChoices files environment profile = .ok (choices, after) ∧
      ∀ listing showing helping,
        Request.ofArguments listing = .perform profile (.routes path) →
        Request.ofArguments showing = .perform profile (.model path) →
        Request.ofArguments helping = .perform profile .helper →
        Agree files environment (showsColours after terminal) profile path
          (run files environment terminal listing) (run files environment terminal showing)
          (run files environment terminal helping) := by
  obtain ⟨choices, after, loaded⟩ := loadChoices_of_settable files environment profile settable
  refine ⟨ofArguments_line profile, choices, after, loaded, ?_⟩
  intro listing showing helping asksRoutes asksModel asksHelper
  simp only [run, asksRoutes, asksModel, asksHelper,
    perform_of_loaded files environment terminal profile _ choices after loaded]
  exact agree_of_loaded files environment _ profile path choices after loaded

/-- A matcher of its own, and a service with two routes, the parts of which are written
as arrays. -/
def parcelFiles : Files
  | "./strut.yaml" => .ok (.file "strut.helpers.source: m.rs\n".toUTF8)
  | "./.env" => .ok (.file "UNIT=parcel\n".toUTF8)
  | "m.rs" => .ok (.file "fn path_params() {}\n".toUTF8)
  | "-s.json" => .ok (.file ("[\"S\",[[\"K\"]],[[\"A\",\"K\",\"K\","
      ++ "[\x7b\"get\":\"/a\"\x7d,\x7b\"post\":\"/a\"\x7d]]]]").toUTF8)
  | _ => .error .notFound

def parcelRoutes : List Route :=
  [⟨.get, "/a", "/a", "A", "AZero"⟩, ⟨.post, "/a", "/a", "A", "AOne"⟩]

theorem parcelFiles_settable : Config.DotenvSettable parcelFiles .empty "." "dev" := by
  have base : Config.baseAssignments parcelFiles .empty "." = [("UNIT", "parcel")] := by
    decide +kernel
  have own : Config.profileAssignments parcelFiles .empty "." "dev" = [] := by decide +kernel
  intro name text _ found
  rw [Config.dotenvText?, base, own, List.lookup_nil, Option.or_none] at found
  obtain ⟨_, rfl⟩ : name = "UNIT" ∧ "parcel" = text := by
    by_cases same : name = "UNIT"
    · exact ⟨same, by simpa [same] using found⟩
    · simp [Assignments.lookup_cons_ne _ _ _ _ same] at found
  decide

theorem loadChoices_parcelFiles : loadChoices parcelFiles .empty "dev"
    = .ok (.ok ⟨.disk "m.rs", ","⟩, ⟨[("UNIT", "parcel")]⟩) := by
  have loaded : Config.load parcelFiles .empty "." "dev" = .ok
      (.ok ⟨⟨[("strut.helpers.source", "m.rs")]⟩, "dev"⟩, ⟨[("UNIT", "parcel")]⟩) := by
    decide +kernel
  rw [loadChoices, loaded]
  rfl

theorem ok_of_toOption {ε α : Type} (outcome : Except ε α) (value : α)
    (succeeded : outcome.toOption = some value) : outcome = .ok value := by
  cases outcome with
  | error error => cases succeeded
  | ok found => rw [Option.some.inj succeeded]

theorem bound_parcelFiles : ∃ definition service,
    loadService parcelFiles "-s.json" = .ok definition ∧
      Model.buildService definition "," = .ok service ∧ service.name = "S" ∧
      Model.allRoutes service = parcelRoutes := by
  have bound : ((loadService parcelFiles "-s.json").toOption.bind fun definition =>
      (Model.buildService definition ",").toOption).map
        (fun service => (service.name, Model.allRoutes service)) = some ("S", parcelRoutes) := by
    decide +kernel
  obtain ⟨service, made, shown⟩ := Option.map_eq_some_iff.mp bound
  obtain ⟨definition, described, built⟩ := Option.bind_eq_some_iff.mp made
  obtain ⟨named, routes⟩ := Prod.mk.inj shown
  exact ⟨definition, service, ok_of_toOption _ _ described, ok_of_toOption _ _ built, named, routes⟩

theorem routes_parcelFiles : run parcelFiles .empty false ["routes", "--", "-s.json"]
    = ⟨0, String.join ["Routes of S\n\n",
        "  VERB     PATH                                BASE                 METHOD",
        "               LABEL\n  ", String.ofList (List.replicate 95 '-'), "\n",
        "  GET      /a                                  /a                   A     ",
        "               AZero\n",
        "  POST     /a                                  /a                   A     ",
        "               AOne\n",
        "\n  2 routes total\n"], ""⟩ := by
  obtain ⟨definition, service, described, built, named, routes⟩ := bound_parcelFiles
  have asked : Request.ofArguments ["routes", "--", "-s.json"]
      = .perform "dev" (.routes "-s.json") := by decide
  have plain : showsColours ⟨[("UNIT", "parcel")]⟩ false = false := by decide
  have ordered : Model.collectRoutes service = parcelRoutes := by
    rw [Model.collectRoutes, routes, List.mergeSort_of_pairwise (by decide)]
  have listed : (Task.routes "-s.json").run parcelFiles false ⟨.disk "m.rs", ","⟩
      = .ok (routeListing false service) := by
    simp [Task.run, listRoutes, described, built, Except.mapError, bind, Except.bind, pure,
      Except.pure]
  simp only [run, asked, perform_of_loaded _ _ _ _ _ _ _ loadChoices_parcelFiles, plain]
  simp only [bind, Except.bind, listed, ending, routeListing, routeLines, ordered, tableLines, named]
  decide +kernel

theorem parcelFiles_commands_agree :
    Config.DotenvSettable parcelFiles .empty "." "dev" ∧
    Request.ofArguments ["routes", "--", "-s.json"] = .perform "dev" (.routes "-s.json") ∧
    Request.ofArguments ((Task.model "-s.json").line "dev") = .perform "dev" (.model "-s.json") ∧
    Request.ofArguments ["helper"] = .perform "dev" .helper ∧
    Agree parcelFiles .empty false "dev" "-s.json"
      (run parcelFiles .empty false ["routes", "--", "-s.json"])
      (run parcelFiles .empty false ((Task.model "-s.json").line "dev"))
      (run parcelFiles .empty false ["helper"]) ∧
    (run parcelFiles .empty false ((Task.model "-s.json").line "dev")).code = 0 ∧
    (run parcelFiles .empty false ["helper"]).output = "fn path_params() {}\n" := by
  have asksRoutes : Request.ofArguments ["routes", "--", "-s.json"]
      = .perform "dev" (.routes "-s.json") := by decide
  have asksHelper : Request.ofArguments ["helper"] = .perform "dev" .helper := by decide
  obtain ⟨asked, choices, after, loaded, agree⟩ :=
    commands_agree parcelFiles .empty false "dev" "-s.json" parcelFiles_settable
  have asksModel := asked (.model "-s.json") (by decide)
  cases loaded.symm.trans loadChoices_parcelFiles
  have outcomes := agree _ _ _ asksRoutes asksModel asksHelper
  have helped : run parcelFiles .empty false ["helper"] = ⟨0, "fn path_params() {}\n", ""⟩ := by
    decide +kernel
  have made := outcomes.succeeds.mpr ⟨by rw [routes_parcelFiles], by rw [helped]⟩
  exact ⟨parcelFiles_settable, asksRoutes, asksModel, asksHelper, outcomes, made, by rw [helped]⟩

/-- A file whose name starts with a dash is asked for behind two dashes; without them the
command line is misused, and the program ends with another code than a task that fails. -/
theorem dashed_file_misused :
    run (fun _ => .error .notFound) .empty false ["routes", "-s.json"] = ⟨2, "", usage⟩ ∧
    run (fun _ => .error .notFound) .empty false ["routes", "--", "-s.json"]
      = ⟨1, "", "Error: cannot read -s.json: No such file or directory (os error 2)\n"⟩ := by
  decide +kernel

end HttpBinding.Command
