/-!
HTTP annotations of a method. A rule has one verb, a path template, perhaps a body
selector, and further rules for the same method. On the wire the verb is the key
that holds the path, so a wire rule may set no verb or several.
-/
namespace HttpBinding.Service

inductive Verb where
  | get | post | put | delete | patch
deriving Repr, DecidableEq

namespace Verb

def name : Verb → String
  | get => "get"
  | post => "post"
  | put => "put"
  | delete => "delete"
  | patch => "patch"

def all : List Verb := [get, post, put, delete, patch]

def ofName? (text : String) : Option Verb := all.find? fun verb => verb.name = text

end Verb

inductive Rule where
  | mk (verb : Verb) (path : String) (body : Option String) (additional : List Rule)
deriving Repr

namespace Rule

def verb : Rule → Verb
  | mk verb _ _ _ => verb

def path : Rule → String
  | mk _ path _ _ => path

def body : Rule → Option String
  | mk _ _ body _ => body

def additional : Rule → List Rule
  | mk _ _ _ additional => additional

mutual

/-- A rule, then its additional rules, each followed by its own. -/
def flatten : Rule → List Rule
  | mk verb path body additional => mk verb path body additional :: flattenAll additional

def flattenAll : List Rule → List Rule
  | [] => []
  | rule :: rest => flatten rule ++ flattenAll rest

end
end Rule

structure VerbSlots where
  get : Option String
  post : Option String
  put : Option String
  delete : Option String
  patch : Option String
deriving Repr, DecidableEq

namespace VerbSlots

def empty : VerbSlots := ⟨none, none, none, none, none⟩

def slot (slots : VerbSlots) : Verb → Option String
  | .get => slots.get
  | .post => slots.post
  | .put => slots.put
  | .delete => slots.delete
  | .patch => slots.patch

def only (verb : Verb) (path : String) : VerbSlots :=
  match verb with
  | .get => { empty with get := some path }
  | .post => { empty with post := some path }
  | .put => { empty with put := some path }
  | .delete => { empty with delete := some path }
  | .patch => { empty with patch := some path }

def given (slots : VerbSlots) : List (Verb × String) :=
  Verb.all.filterMap fun verb => (slots.slot verb).map fun path => (verb, path)

end VerbSlots

inductive WireRule where
  | mk (slots : VerbSlots) (body : Option String) (additional : List WireRule)
deriving Repr

inductive RuleError where
  | noVerb
  | twoVerbs (first second : Verb)
deriving Repr, DecidableEq

namespace RuleError

def message : RuleError → String
  | noVerb => "http rule needs one of get, post, put, delete, patch"
  | twoVerbs first second => s!"http rule sets both `{first.name}` and `{second.name}`"

end RuleError

namespace WireRule

def choose (slots : VerbSlots) : Except RuleError (Verb × String) :=
  match slots.given with
  | [] => .error .noVerb
  | [chosen] => .ok chosen
  | (first, _) :: (second, _) :: _ => .error (.twoVerbs first second)

mutual

/-- The rule that a wire rule stands for. Its own verb is looked at before its
additional rules. -/
def toRule : WireRule → Except RuleError Rule
  | mk slots body additional =>
      match choose slots with
      | .error e => .error e
      | .ok (verb, path) =>
          match toRules additional with
          | .error e => .error e
          | .ok rules => .ok (.mk verb path body rules)

def toRules : List WireRule → Except RuleError (List Rule)
  | [] => .ok []
  | wire :: rest =>
      match toRule wire with
      | .error e => .error e
      | .ok rule =>
          match toRules rest with
          | .error e => .error e
          | .ok rules => .ok (rule :: rules)

end

mutual

def ofRule : Rule → WireRule
  | .mk verb path body additional => mk (.only verb path) body (ofRules additional)

def ofRules : List Rule → List WireRule
  | [] => []
  | rule :: rest => ofRule rule :: ofRules rest

end
end WireRule
end HttpBinding.Service
