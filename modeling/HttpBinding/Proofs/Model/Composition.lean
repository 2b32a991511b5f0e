import HttpBinding.Proofs.FirstFault
import HttpBinding.Proofs.Model.Placement

/-!
A service is built method by method. Each one goes by the first message with the name of its
request type and by nothing else of the service, so a method comes out the same in every
service that has this message. The first method in order that cannot be built decides the
error.
-/
namespace HttpBinding.Model

open Service (MessageDef MethodDef ServiceDef)

/-- The first message of a service that has the name. -/
def FirstMessage (service : ServiceDef) (name : String) (message : MessageDef) : Prop :=
  ∃ before after, service.messages = before ++ message :: after ∧ message.name = name ∧
    ∀ earlier ∈ before, earlier.name ≠ name

/-- What a method of the service is built into. -/
def BuiltIn (service : ServiceDef) (separator : String) (method : MethodDef) (made : Method) :
    Prop :=
  ∃ request, FirstMessage service method.requestType request ∧
    buildMethod method request separator = .ok made

/-- Why a method of the service cannot be built. The message is looked up first, whether or
not there is an annotation. -/
inductive FailsIn (service : ServiceDef) (separator : String) (method : MethodDef) :
    BindingError → Prop where
  | unknown (absent : ∀ message ∈ service.messages, message.name ≠ method.requestType) :
      FailsIn service separator method (.unknownMessage method.name method.requestType)
  | refused (request : MessageDef) (error : BindingError)
      (first : FirstMessage service method.requestType request)
      (unfit : buildMethod method request separator = .error error) :
      FailsIn service separator method error

theorem message?_eq_some_iff (service : ServiceDef) (name : String) (message : MessageDef) :
    service.message? name = some message ↔ FirstMessage service name message := by
  rw [ServiceDef.message?, List.find?_eq_some_iff_append]
  constructor
  · rintro ⟨named, before, after, whole, others⟩
    exact ⟨before, after, whole, by simpa using named, by simpa using others⟩
  · rintro ⟨before, after, whole, named, others⟩
    exact ⟨by simpa using named, before, after, whole, by simpa using others⟩

theorem message?_eq_none_iff (service : ServiceDef) (name : String) :
    service.message? name = none ↔ ∀ message ∈ service.messages, message.name ≠ name := by
  simp [ServiceDef.message?]

section Methods
variable (service : ServiceDef) (separator : String)

theorem builtIn_of_found (method : MethodDef) (request : MessageDef) (made : Method)
    (found : service.message? method.requestType = some request) :
    BuiltIn service separator method made ↔ buildMethod method request separator = .ok made := by
  simp [BuiltIn, ← message?_eq_some_iff, found]

theorem failsIn_of_found (method : MethodDef) (request : MessageDef) (error : BindingError)
    (found : service.message? method.requestType = some request) :
    FailsIn service separator method error ↔
      buildMethod method request separator = .error error := by
  constructor
  · rintro (absent | ⟨other, _, first, unfit⟩)
    · rw [(message?_eq_none_iff ..).mpr absent] at found
      cases found
    · rw [(message?_eq_some_iff ..).mpr first] at found
      cases found
      exact unfit
  · exact .refused request error ((message?_eq_some_iff ..).mp found)

theorem failsIn_of_absent (method : MethodDef) (error : BindingError)
    (absent : service.message? method.requestType = none) :
    FailsIn service separator method error ↔
      error = .unknownMessage method.name method.requestType := by
  constructor
  · rintro (_ | ⟨request, _, first, _⟩)
    · rfl
    · rw [(message?_eq_some_iff ..).mpr first] at absent
      cases absent
  · rintro rfl
    exact .unknown ((message?_eq_none_iff ..).mp absent)

theorem not_builtIn_of_absent (method : MethodDef) (made : Method)
    (absent : service.message? method.requestType = none) :
    ¬ BuiltIn service separator method made := by
  rintro ⟨request, first, _⟩
  rw [(message?_eq_some_iff ..).mpr first] at absent
  cases absent

theorem not_builtIn_of_failsIn (method : MethodDef) (error : BindingError) (made : Method)
    (fails : FailsIn service separator method error) : ¬ BuiltIn service separator method made := by
  intro builtIn
  cases found : service.message? method.requestType with
  | none => exact not_builtIn_of_absent service separator method made found builtIn
  | some request =>
      have refused := (failsIn_of_found service separator method request error found).mp fails
      rw [(builtIn_of_found service separator method request made found).mp builtIn] at refused
      cases refused

theorem buildMethods_ok_iff (methods : List MethodDef) (built : List Method) :
    buildMethods service separator methods = .ok built ↔
      List.Forall₂ (BuiltIn service separator) methods built := by
  -- Along the methods: first the message is looked up, then the method built, then the others.
  induction methods generalizing built with
  | nil => simp [buildMethods, eq_comm]
  | cons method rest ih =>
      rw [List.forall₂_cons_left_iff]
      cases found : service.message? method.requestType with
      | none =>
          have unbuilt := not_builtIn_of_absent service separator method
          simp [buildMethods, found, unbuilt]
      | some request =>
          simp only [builtIn_of_found service separator method request _ found, ← ih]
          cases made : buildMethod method request separator with
          | error error => simp [buildMethods, found, made, bind, Except.bind]
          | ok first =>
              cases others : buildMethods service separator rest with
              | error error => simp [buildMethods, found, made, others, bind, Except.bind]
              | ok later =>
                  simp [buildMethods, found, made, others, bind, Except.bind, pure, Except.pure,
                    eq_comm]

theorem buildMethods_error_iff (methods : List MethodDef) (error : BindingError) :
    buildMethods service separator methods = .error error ↔
      FirstFault (fun method => ∃ made, BuiltIn service separator method made)
        (fun _ method => FailsIn service separator method error) methods := by
  induction methods with
  | nil => simp [buildMethods, not_firstFault_nil]
  | cons method rest ih =>
      rw [firstFault_cons, ← ih]
      cases found : service.message? method.requestType with
      | none =>
          have unbuilt := not_builtIn_of_absent service separator method
          simp [buildMethods, found, unbuilt, failsIn_of_absent, throw, throwThe, MonadExceptOf.throw,
            eq_comm]
      | some request =>
          simp only [builtIn_of_found service separator method request _ found,
            failsIn_of_found service separator method request _ found]
          cases made : buildMethod method request separator with
          | error other => simp [buildMethods, found, made, bind, Except.bind]
          | ok first =>
              cases others : buildMethods service separator rest with
              | error other => simp [buildMethods, found, made, others, bind, Except.bind]
              | ok later =>
                  simp [buildMethods, found, made, others, bind, Except.bind, pure, Except.pure]

end Methods

/-! Services -/

theorem buildService_ok_iff (service : ServiceDef) (separator : String) (built : BoundService) :
    buildService service separator = .ok built ↔
      built.name = service.name ∧
        List.Forall₂ (BuiltIn service separator) service.methods built.methods := by
  rw [← buildMethods_ok_iff]
  obtain ⟨name, methods⟩ := built
  cases made : buildMethods service separator service.methods with
  | error error => simp [buildService, made, bind, Except.bind]
  | ok list => simp [buildService, made, bind, Except.bind, pure, Except.pure, eq_comm]

theorem buildService_error_iff (service : ServiceDef) (separator : String) (error : BindingError) :
    buildService service separator = .error error ↔
      FirstFault (fun method => ∃ made, BuiltIn service separator method made)
        (fun _ method => FailsIn service separator method error) service.methods := by
  rw [← buildMethods_error_iff]
  cases made : buildMethods service separator service.methods with
  | error other => simp [buildService, made, bind, Except.bind]
  | ok list => simp [buildService, made, bind, Except.bind, pure, Except.pure]

/-- The services have the same first message of a name, or both have none. -/
def SameMessage (service other : ServiceDef) (name : String) : Prop :=
  ∀ message, FirstMessage service name message ↔ FirstMessage other name message

theorem BuiltIn.unique (service : ServiceDef) (separator : String) (method : MethodDef)
    (made again : Method) (first : BuiltIn service separator method made)
    (second : BuiltIn service separator method again) : made = again := by
  obtain ⟨request, found, built⟩ := first
  have found := (message?_eq_some_iff ..).mpr found
  have rebuilt := (builtIn_of_found service separator method request again found).mp second
  exact Except.ok.inj (built.symm.trans rebuilt)

theorem BuiltIn.congr (service other : ServiceDef) (separator : String) (method : MethodDef)
    (made : Method) (same : SameMessage service other method.requestType) :
    BuiltIn service separator method made ↔ BuiltIn other separator method made :=
  exists_congr fun request => and_congr_left fun _ => same request

/-- The method that stands at a place is built into the one at the same place. -/
theorem builtIn_at_place (service : ServiceDef) (separator : String) (built : BoundService)
    (success : buildService service separator = .ok built) (place : Nat) (method : MethodDef)
    (stands : service.methods[place]? = some method) :
    ∃ made, built.methods[place]? = some made ∧ BuiltIn service separator method made := by
  have pairs := ((buildService_ok_iff service separator built).mp success).2
  obtain ⟨inside, rfl⟩ := List.getElem?_eq_some_iff.mp stands
  have within : place < built.methods.length := pairs.length_eq ▸ inside
  exact ⟨built.methods[place], List.getElem?_eq_getElem within, pairs.get inside within⟩

theorem builtIn_of_mem (service : ServiceDef) (separator : String) (built : BoundService)
    (success : buildService service separator = .ok built) (made : Method)
    (member : made ∈ built.methods) :
    ∃ method ∈ service.methods, BuiltIn service separator method made := by
  have pairs := ((buildService_ok_iff service separator built).mp success).2
  obtain ⟨place, inside, rfl⟩ := List.mem_iff_getElem.mp member
  have within : place < service.methods.length := pairs.length_eq ▸ inside
  exact ⟨service.methods[place], List.getElem_mem within, pairs.get within inside⟩

/-- When a service is built and into what, what stops it, and that its methods do not
interfere: a method that two services have comes out the same in both. -/
theorem buildService_compositional (service : ServiceDef) (separator : String) :
    ((∃ built, buildService service separator = .ok built) ↔
      ∀ method ∈ service.methods, ∃ made, BuiltIn service separator method made) ∧
    (∀ built, buildService service separator = .ok built ↔
      built.name = service.name ∧
        List.Forall₂ (BuiltIn service separator) service.methods built.methods) ∧
    (∀ error, buildService service separator = .error error ↔
      ∃ before method after, service.methods = before ++ method :: after ∧
        (∀ earlier ∈ before, ∃ made, BuiltIn service separator earlier made) ∧
        FailsIn service separator method error) ∧
    ∀ built other otherBuilt, buildService service separator = .ok built →
      buildService other separator = .ok otherBuilt →
      ∀ (place otherPlace : Nat) (method : MethodDef), service.methods[place]? = some method →
        other.methods[otherPlace]? = some method →
        SameMessage service other method.requestType →
        ∃ made, built.methods[place]? = some made ∧
          otherBuilt.methods[otherPlace]? = some made := by
  refine ⟨?_, buildService_ok_iff service separator, buildService_error_iff service separator, ?_⟩
  · constructor
    · rintro ⟨built, success⟩ method member
      obtain ⟨place, stands⟩ := List.mem_iff_getElem?.mp member
      obtain ⟨made, _, builtIn⟩ := builtIn_at_place service separator built success place _ stands
      exact ⟨made, builtIn⟩
    · intro all
      cases outcome : buildService service separator with
      | ok built => exact ⟨built, rfl⟩
      | error error =>
          obtain ⟨before, method, after, whole, _, fails⟩ :=
            (buildService_error_iff service separator error).mp outcome
          obtain ⟨made, builtIn⟩ := all method (by simp [whole])
          exact (not_builtIn_of_failsIn service separator method error made fails builtIn).elim
  · intro built other otherBuilt success otherSuccess place otherPlace method stands otherStands
      same
    obtain ⟨made, here, builtIn⟩ := builtIn_at_place service separator built success _ _ stands
    obtain ⟨again, there, otherIn⟩ :=
      builtIn_at_place other separator otherBuilt otherSuccess _ _ otherStands
    have builtThere := (BuiltIn.congr service other separator method made same).mp builtIn
    -- The message decides, and it is the same one, so both are what the other service makes of it.
    obtain rfl := BuiltIn.unique other separator method made again builtThere otherIn
    exact ⟨made, here, there⟩

/-- A method without annotations. -/
def pingMethod : MethodDef :=
  { name := "Ping"
    requestType := "Empty"
    responseType := "Empty"
    http := [] }

/-- The second message named `SumRequest` is never looked at. -/
def calculator : ServiceDef :=
  { name := "Calculator"
    messages := [⟨"Empty", []⟩, sumRequest, ⟨"SumRequest", []⟩]
    methods := [pingMethod, sumMethod] }

def adder : ServiceDef :=
  { name := "Adder"
    messages := [sumRequest, ⟨"Empty", [⟨"id", .enum "Id", true⟩]⟩]
    methods := [sumMethod, pingMethod, pingMethod] }

theorem sumMethod_same_in_both : ∃ built otherBuilt,
    buildService calculator "," = .ok built ∧ buildService adder "," = .ok otherBuilt ∧
    calculator.methods[1]? = some sumMethod ∧ adder.methods[0]? = some sumMethod ∧
    SameMessage calculator adder sumMethod.requestType ∧
    ∃ made, built.methods[1]? = some made ∧ otherBuilt.methods[0]? = some made := by
  have sum (service : ServiceDef) (found : service.message? "SumRequest" = some sumRequest) :
      BuiltIn service "," sumMethod (methodOf sumMethod sumRequest ",") :=
    (builtIn_of_found service "," sumMethod sumRequest _ found).mpr buildMethod_sumMethod
  have ping (service : ServiceDef) (empty : MessageDef)
      (found : service.message? "Empty" = some empty) :
      BuiltIn service "," pingMethod (methodOf pingMethod empty ",") :=
    (builtIn_of_found service "," pingMethod empty _ found).mpr
      ((buildMethod_ok_iff ..).mpr ⟨by rintro _ ⟨⟩, rfl⟩)
  have compositional := buildService_compositional calculator ","
  obtain ⟨built, success⟩ : ∃ built, buildService calculator "," = .ok built := by
    refine compositional.1.mpr ?_
    simp only [calculator, List.forall_mem_cons, List.not_mem_nil, false_implies, implies_true,
      and_true]
    exact ⟨⟨_, ping calculator _ rfl⟩, _, sum calculator rfl⟩
  obtain ⟨otherBuilt, otherSuccess⟩ : ∃ built, buildService adder "," = .ok built := by
    refine (buildService_compositional adder ",").1.mpr ?_
    simp only [adder, List.forall_mem_cons, List.not_mem_nil, false_implies, implies_true,
      and_true]
    exact ⟨⟨_, sum adder rfl⟩, ⟨_, ping adder _ rfl⟩, _, ping adder _ rfl⟩
  have same : SameMessage calculator adder sumMethod.requestType := by
    intro message
    rw [← message?_eq_some_iff, ← message?_eq_some_iff]
    exact Iff.rfl
  exact ⟨built, otherBuilt, success, otherSuccess, rfl, rfl, same,
    compositional.2.2.2 built adder otherBuilt success otherSuccess 1 0 sumMethod rfl rfl same⟩

end HttpBinding.Model
