import HttpBinding.Proofs.Model.Collision
import HttpBinding.Proofs.Model.Fitting
import HttpBinding.Proofs.Service.RuleForest

/-!
What the builder accepts. A rule that fits the request message gives one binding,
which is written down here without the checks; any other rule gives its first fault.
A method is built if every rule of its forest fits, and otherwise reports the first
fault of the first rule in pre-order that does not.
-/
namespace HttpBinding.Model

open Service (FieldDef MessageDef MethodDef Rule)

/-- The rule alone fits the message; the forms of the fields are another matter. -/
def RuleFits (request : MessageDef) (rule : Rule) : Prop :=
  (∀ name ∈ Path.placeholders rule.path, BindsScalar request name) ∧ BodyFits request rule.body

def Accepted (request : MessageDef) (rule : Rule) : Prop :=
  RuleFits request rule ∧ DistinctForms request

instance (request : MessageDef) (rule : Rule) : Decidable (Accepted request rule) :=
  inferInstanceAs (Decidable (((∀ _ ∈ _, _) ∧ _) ∧ _))

/-- Why a rule is refused: a placeholder before the body, the body before the fields. -/
inductive RuleFault (method : String) (request : MessageDef) (rule : Rule) (position : Nat) :
    BindingError → Prop where
  | placeholder (error : BindingError)
      (first : FirstFault (BindsScalar request)
        (fun _ name => PlaceholderFault method rule.path request name error)
        (Path.placeholders rule.path)) :
      RuleFault method request rule position error
  | body (name : String) (bound : ∀ name ∈ Path.placeholders rule.path, BindsScalar request name)
      (chosen : rule.body = some name) (special : name ≠ "*")
      (absent : Undeclared request name) :
      RuleFault method request rule position (.bodyWithoutField method rule.path name)
  | collision (first second : FieldDef) (fits : RuleFits request rule)
      (collides : Collides request.fields first second) :
      RuleFault method request rule position
        (.localNameCollision method rule.path first.name second.name
          (camelForm second ++ label method position))

def fieldOf (separator bindingLabel : String) (rule : Rule) (definition : FieldDef) : Field :=
  buildField definition bindingLabel
    (fieldLocation definition (Path.placeholders rule.path) (.ofBody rule.body)) separator

def bindingOf (method : String) (request : MessageDef) (separator : String) (rule : Rule)
    (position : Nat) : Binding :=
  { label := label method position
    template := rule.path
    basePath := Path.basePath rule.path
    verb := rule.verb
    fields := request.fields.map (fieldOf separator (label method position) rule) }

def methodOf (method : MethodDef) (request : MessageDef) (separator : String) : Method :=
  { name := method.name
    requestType := method.requestType
    responseType := method.responseType
    bindings := method.annotations.mapIdx fun position rule =>
      bindingOf method.name request separator rule position }

theorem localName_fieldOf (separator bindingLabel : String) (rule : Rule)
    (definition : FieldDef) :
    (fieldOf separator bindingLabel rule definition).localName
      = camelForm definition ++ bindingLabel := rfl

section Rules
variable (method : String) (request : MessageDef) (separator : String) (rule : Rule)
  (position : Nat)

/-- Behind the first two checks only a collision can refuse a rule. -/
theorem buildBinding_of_fits (fits : RuleFits request rule) :
    buildBinding method request separator rule position =
      match findCollision? [] (bindingOf method request separator rule position).fields with
      | some (first, second) =>
          .error (.localNameCollision method rule.path first.name second.name second.localName)
      | none => .ok (bindingOf method request separator rule position) := by
  have checked := (checkPlaceholders_ok_iff method rule.path request _).mpr fits.1
  have selected := (selectBody_ok_iff method rule.path request _ _).mpr ⟨fits.2, rfl⟩
  simp only [buildBinding, checked, selected, bind, Except.bind]
  rfl

theorem buildBinding_of_accepted (accepted : Accepted request rule) :
    buildBinding method request separator rule position
      = .ok (bindingOf method request separator rule position) := by
  have none := (findCollision?_map_eq_none_iff _ _
    (localName_fieldOf separator (label method position) rule) request.fields).mpr accepted.2
  rw [buildBinding_of_fits method request separator rule position accepted.1]
  simp only [bindingOf, none]

theorem buildBinding_of_fault (error : BindingError)
    (fault : RuleFault method request rule position error) :
    buildBinding method request separator rule position = .error error := by
  cases fault with
  | placeholder _ first =>
      have refused := (checkPlaceholders_error_iff method rule.path request _ _).mpr first
      simp [buildBinding, refused, bind, Except.bind]
  | body name bound chosen special absent =>
      have checked := (checkPlaceholders_ok_iff method rule.path request _).mpr bound
      have refused := (selectBody_error_iff method rule.path request _ _).mpr
        ⟨name, chosen, special, absent, rfl⟩
      simp [buildBinding, checked, refused, bind, Except.bind]
  | collision first second fits collides =>
      have found := (findCollision?_map_eq_some_iff _ _
        (localName_fieldOf separator (label method position) rule) request.fields _ _).mpr
        ⟨first, second, collides, rfl, rfl⟩
      rw [buildBinding_of_fits method request separator rule position fits]
      simp only [bindingOf, found]
      rfl

theorem accepted_or_fault :
    Accepted request rule ∨ ∃ error, RuleFault method request rule position error := by
  cases checked : checkPlaceholders method rule.path request (Path.placeholders rule.path) with
  | error error =>
      exact .inr ⟨error, .placeholder error ((checkPlaceholders_error_iff ..).mp checked)⟩
  | ok _ =>
      have bound := (checkPlaceholders_ok_iff ..).mp checked
      cases selected : selectBody method rule.path request rule.body with
      | error error =>
          obtain ⟨name, chosen, special, absent, rfl⟩ := (selectBody_error_iff ..).mp selected
          exact .inr ⟨_, .body name bound chosen special absent⟩
      | ok selector =>
          have fits : RuleFits request rule := ⟨bound, ((selectBody_ok_iff ..).mp selected).1⟩
          -- Whether fields collide does not depend on the separator.
          have named := localName_fieldOf "" (label method position) rule
          cases found : findCollision? [] (request.fields.map
              (fieldOf "" (label method position) rule)) with
          | none => exact .inl ⟨fits, (findCollision?_map_eq_none_iff _ _ named _).mp found⟩
          | some pair =>
              obtain ⟨first, second, collides, _, _⟩ :=
                (findCollision?_map_eq_some_iff _ _ named _ pair.1 pair.2).mp found
              exact .inr ⟨_, .collision first second fits collides⟩

theorem buildBinding_ok_iff (binding : Binding) :
    buildBinding method request separator rule position = .ok binding ↔
      Accepted request rule ∧ binding = bindingOf method request separator rule position := by
  rcases accepted_or_fault method request rule position with accepted | ⟨error, fault⟩
  · simp [buildBinding_of_accepted method request separator rule position accepted, accepted,
      eq_comm]
  · have refused := buildBinding_of_fault method request separator rule position error fault
    have unaccepted : ¬ Accepted request rule := by
      intro accepted
      rw [buildBinding_of_accepted method request separator rule position accepted] at refused
      cases refused
    simp [refused, unaccepted]

theorem buildBinding_error_iff (error : BindingError) :
    buildBinding method request separator rule position = .error error ↔
      RuleFault method request rule position error := by
  refine ⟨fun refused => ?_, buildBinding_of_fault method request separator rule position error⟩
  rcases accepted_or_fault method request rule position with accepted | ⟨other, fault⟩
  · rw [buildBinding_of_accepted method request separator rule position accepted] at refused
    cases refused
  · rw [buildBinding_of_fault method request separator rule position other fault] at refused
    cases refused
    exact fault

end Rules

theorem buildBindings_ok_iff (method : String) (request : MessageDef) (separator : String)
    (position : Nat) (rules : List Rule) (bindings : List Binding) :
    buildBindings method request separator position rules = .ok bindings ↔
      (∀ rule ∈ rules, Accepted request rule) ∧
      bindings = rules.mapIdx fun index rule =>
        bindingOf method request separator rule (position + index) := by
  -- The position is general, since the rules behind the first are counted on from it.
  induction rules generalizing position bindings with
  | nil => simp [buildBindings, eq_comm]
  | cons rule rest ih =>
      have built := buildBinding_ok_iff method request separator rule position
      have later := ih (position + 1)
      simp only [List.forall_mem_cons, List.mapIdx_cons, Nat.add_zero]
      simp only [Nat.add_assoc, Nat.add_comm 1] at later
      cases first : buildBinding method request separator rule position with
      | error error =>
          have unaccepted := not_of_error _ _ _ built _ first
          simp [buildBindings, first, unaccepted, bind, Except.bind]
      | ok binding =>
          obtain ⟨accepted, rfl⟩ := (built binding).mp first
          cases others : buildBindings method request separator (position + 1) rest with
          | error error =>
              have unaccepted := not_of_error _ _ _ later error others
              simp [buildBindings, first, others, unaccepted, bind, Except.bind]
          | ok behind =>
              obtain ⟨all, rfl⟩ := (later behind).mp others
              simp only [buildBindings, first, others, bind, Except.bind, pure, Except.pure,
                Except.ok.injEq]
              exact ⟨fun same => ⟨⟨accepted, all⟩, same.symm⟩, fun same => same.2.symm⟩

theorem buildBindings_error_iff (method : String) (request : MessageDef) (separator : String)
    (position : Nat) (rules : List Rule) (error : BindingError) :
    buildBindings method request separator position rules = .error error ↔
      FirstFault (Accepted request)
        (fun index rule => RuleFault method request rule (position + index) error) rules := by
  induction rules generalizing position with
  | nil => simp [buildBindings, not_firstFault_nil]
  | cons rule rest ih =>
      have built := buildBinding_ok_iff method request separator rule position
      have refused := buildBinding_error_iff method request separator rule position
      have later := ih (position + 1)
      simp only [firstFault_cons, Nat.add_zero]
      simp only [Nat.add_assoc, Nat.add_comm 1] at later
      rw [← later, ← refused]
      cases first : buildBinding method request separator rule position with
      | error other =>
          have unaccepted := not_of_error _ _ _ built _ first
          simp [buildBindings, first, unaccepted, bind, Except.bind]
      | ok binding =>
          -- A built rule has no fault of its own, so the fault is one of those behind it.
          have accepted := ((built binding).mp first).1
          cases others : buildBindings method request separator (position + 1) rest with
          | error other => simp [buildBindings, first, others, accepted, bind, Except.bind]
          | ok behind =>
              simp [buildBindings, first, others, bind, Except.bind, pure, Except.pure]

theorem buildMethod_ok_iff (method : MethodDef) (request : MessageDef) (separator : String)
    (built : Method) :
    buildMethod method request separator = .ok built ↔
      (∀ rule ∈ method.annotations, Accepted request rule) ∧
      built = methodOf method request separator := by
  have bindings := buildBindings_ok_iff method.name request separator 0 method.annotations
  simp only [Nat.zero_add] at bindings
  cases made : buildBindings method.name request separator 0 method.annotations with
  | error error =>
      have unaccepted := not_of_error _ _ _ bindings error made
      simp [buildMethod, made, unaccepted, bind, Except.bind]
  | ok list =>
      obtain ⟨all, rfl⟩ := (bindings list).mp made
      simp only [buildMethod, made, bind, Except.bind, pure, Except.pure, Except.ok.injEq]
      exact ⟨fun same => ⟨all, same.symm⟩, fun same => same.2.symm⟩

theorem buildMethod_error_iff (method : MethodDef) (request : MessageDef) (separator : String)
    (error : BindingError) :
    buildMethod method request separator = .error error ↔
      FirstFault (Accepted request)
        (fun position rule => RuleFault method.name request rule position error)
        method.annotations := by
  have bindings := buildBindings_error_iff method.name request separator 0 method.annotations error
  simp only [Nat.zero_add] at bindings
  rw [← bindings]
  cases made : buildBindings method.name request separator 0 method.annotations with
  | error other => simp [buildMethod, made, bind, Except.bind]
  | ok list => simp [buildMethod, made, bind, Except.bind, pure, Except.pure]

/-- The first fault among the annotations stands at the first place of the forest that
holds a faulty rule. -/
theorem firstFault_annotations_iff (passes : Rule → Prop) (fault : Nat → Rule → Prop)
    (method : MethodDef) (places : List (List Nat))
    (preorder : Rule.InPreorder method.http places) :
    FirstFault passes fault method.annotations ↔
      ∃ (position : Nat) (place : List Nat) (rule : Rule), places[position]? = some place ∧
        Rule.forestAt? method.http place = some rule ∧
        (∀ earlier other, earlier < place → Rule.forestAt? method.http earlier = some other →
          passes other) ∧
        fault position rule := by
  rw [firstFault_iff_getElem?]
  have led := preorder.annotation_iff method places
  have ahead := preorder.before_iff method.http places
  constructor
  · rintro ⟨position, rule, annotated, fails, passed⟩
    obtain ⟨place, placed, there⟩ := (led position rule).mp annotated
    refine ⟨position, place, rule, placed, there, ?_, fails⟩
    intro earlier other before found
    obtain ⟨index, listed⟩ := preorder.position method.http places earlier other found
    exact passed index ((ahead index position earlier place listed placed).mp before) other
      ((led index other).mpr ⟨earlier, listed, found⟩)
  · rintro ⟨position, place, rule, placed, there, passed, fails⟩
    refine ⟨position, rule, (led position rule).mpr ⟨place, placed, there⟩, fails, ?_⟩
    intro index before other annotated
    obtain ⟨earlier, listed, found⟩ := (led index other).mp annotated
    exact passed earlier other ((ahead index position earlier place listed placed).mpr before) found

/-- Exactly when a method is built, and exactly which error it gives otherwise: that of the
first rule in pre-order that cannot be bound. -/
theorem buildMethod_outcome (method : MethodDef) (request : MessageDef) (separator : String)
    (places : List (List Nat)) (preorder : Rule.InPreorder method.http places) :
    ((∃ built, buildMethod method request separator = .ok built) ↔
      method.http = [] ∨
        (request.fields.map camelForm).Nodup ∧
        ∀ place rule, Rule.forestAt? method.http place = some rule → RuleFits request rule) ∧
    ∀ error, buildMethod method request separator = .error error ↔
      ∃ (position : Nat) (place : List Nat) (rule : Rule), places[position]? = some place ∧
        Rule.forestAt? method.http place = some rule ∧
        (∀ earlier other, earlier < place → Rule.forestAt? method.http earlier = some other →
          RuleFits request other ∧ (request.fields.map camelForm).Nodup) ∧
        RuleFault method.name request rule position error := by
  constructor
  · constructor
    · rintro ⟨built, success⟩
      have accepted := ((buildMethod_ok_iff method request separator built).mp success).1
      have each (place : List Nat) (rule : Rule)
          (there : Rule.forestAt? method.http place = some rule) : Accepted request rule := by
        obtain ⟨position, placed⟩ := preorder.position method.http places place rule there
        exact accepted rule (List.mem_of_getElem?
          ((preorder.annotation_iff method places position rule).mpr ⟨place, placed, there⟩))
      cases annotated : method.http with
      | nil => exact .inl rfl
      | cons rule rest =>
          rw [annotated] at each
          exact .inr ⟨(each [0] rule (by simp [Rule.forestAt?, Rule.at?])).2,
            fun place other there => (each place other there).1⟩
    · intro fitting
      refine ⟨_, (buildMethod_ok_iff method request separator _).mpr ⟨?_, rfl⟩⟩
      intro rule member
      obtain ⟨position, annotated⟩ := List.mem_iff_getElem?.mp member
      obtain ⟨place, _, there⟩ :=
        (preorder.annotation_iff method places position rule).mp annotated
      rcases fitting with none | ⟨distinct, fits⟩
      · cases place <;> simp [none, Rule.forestAt?] at there
      · exact ⟨fits place rule there, distinct⟩
  · intro error
    rw [buildMethod_error_iff]
    exact firstFault_annotations_iff _ _ method places preorder

/-- The second route has a placeholder for a list of messages in a rule below it, in front
of a rule whose body is no field. -/
def faultyMethod : MethodDef :=
  { name := "Move"
    requestType := "MoveRequest"
    responseType := "MoveReply"
    http := [
      .mk .get "/moves/{id}" none [],
      .mk .post "/moves" (some "*") [
        .mk .put "/moves/{id}/{stops}" none [],
        .mk .patch "/moves" (some "missing") []]] }

def faultyRequest : MessageDef :=
  { name := "MoveRequest"
    fields := [⟨"id", .scalar .int64, false⟩, ⟨"stops", .message "Stop", true⟩] }

def faultyPlaces : List (List Nat) :=
  [[0], [1], [1, 0], [1, 1]]

theorem faultyMethod_inPreorder : Rule.InPreorder faultyMethod.http faultyPlaces :=
  Rule.placesFrom_inPreorder faultyMethod.http

/-- The two rules in front of the nested one fit, and the one behind it is not looked at. -/
theorem buildMethod_faultyMethod :
    Rule.InPreorder faultyMethod.http faultyPlaces ∧
    buildMethod faultyMethod faultyRequest ","
      = .error (.nonScalarPathField "Move" "/moves/{id}/{stops}" "stops") := by
  have outcome := buildMethod_outcome faultyMethod faultyRequest "," faultyPlaces
    faultyMethod_inPreorder
  refine ⟨faultyMethod_inPreorder, (outcome.2 _).mpr ⟨2, [1, 0], _, rfl, rfl, ?_, ?_⟩⟩
  · intro earlier other before there
    obtain ⟨index, placed⟩ := faultyMethod_inPreorder.position _ _ earlier other there
    have inFront := (faultyMethod_inPreorder.before_iff _ _ index 2 earlier [1, 0] placed rfl).mp
      before
    obtain rfl | rfl : index = 0 ∨ index = 1 := by omega
    all_goals
      cases placed
      cases there
      exact show Accepted faultyRequest _ by decide +kernel
  · exact .placeholder _ ((checkPlaceholders_error_iff ..).mp (by decide +kernel))

end HttpBinding.Model
