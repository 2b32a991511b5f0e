import HttpBinding.Proofs.FirstFault
import HttpBinding.Service.Rule
import Mathlib.Data.List.Nodup
import Mathlib.Logic.ExistsUnique

/-!
The wire form of annotations. A wire rule stands for a rule exactly if it is the wire form of
that rule, which it is for one rule exactly if each of its nodes sets one verb; otherwise the
first node in pre-order that sets none or several is told.
-/
namespace HttpBinding.Service

namespace Verb

/-- The order in which verbs are looked at. -/
def ordered : List Verb := [get, post, put, delete, patch]

theorem mem_ordered (verb : Verb) : verb ∈ ordered := by
  cases verb <;> decide

end Verb

namespace VerbSlots

/-- The verbs that are set, in order. -/
def verbs (slots : VerbSlots) : List Verb :=
  Verb.ordered.filter fun verb => (slots.slot verb).isSome

def SetsOne (slots : VerbSlots) : Prop := ∃! verb, (slots.slot verb).isSome = true

/-- What is told of slots that do not set exactly one verb. -/
inductive Offends (slots : VerbSlots) : String → Prop
  | none (unset : ∀ verb, slots.slot verb = none) :
      Offends slots "http rule needs one of get, post, put, delete, patch"
  | several (first second : Verb) (rest : List Verb) (set : slots.verbs = first :: second :: rest) :
      Offends slots s!"http rule sets both `{first.name}` and `{second.name}`"

theorem mem_verbs (slots : VerbSlots) (verb : Verb) :
    verb ∈ slots.verbs ↔ (slots.slot verb).isSome = true := by
  simp [verbs, Verb.mem_ordered]

theorem nodup_verbs (slots : VerbSlots) : slots.verbs.Nodup :=
  List.Nodup.filter _ (by decide)

theorem map_given (slots : VerbSlots) : slots.given.map (·.1) = slots.verbs := by
  obtain ⟨get, post, put, delete, patch⟩ := slots
  cases get <;> cases post <;> cases put <;> cases delete <;> cases patch <;> rfl

theorem given_eq_singleton_iff (slots : VerbSlots) (verb : Verb) (path : String) :
    slots.given = [(verb, path)] ↔ slots = only verb path := by
  constructor
  · intro single
    obtain ⟨get, post, put, delete, patch⟩ := slots
    cases get <;> cases post <;> cases put <;> cases delete <;> cases patch <;>
      simp [given, Verb.all, slot] at single
    all_goals
      obtain ⟨rfl, rfl⟩ := single
      rfl
  · rintro rfl
    cases verb <;> rfl

theorem verbs_eq_nil_iff (slots : VerbSlots) :
    slots.verbs = [] ↔ ∀ verb, slots.slot verb = none := by
  simp [List.eq_nil_iff_forall_not_mem, mem_verbs]

theorem setsOne_iff (slots : VerbSlots) : slots.SetsOne ↔ ∃ verb, slots.verbs = [verb] := by
  simp only [SetsOne, ← mem_verbs]
  constructor
  · rintro ⟨verb, set, alone⟩
    refine ⟨verb, ?_⟩
    have distinct := slots.nodup_verbs
    cases found : slots.verbs with
    | nil => simp [found] at set
    | cons first rest =>
        rw [found] at alone distinct
        obtain rfl := alone first List.mem_cons_self
        cases rest with
        | nil => rfl
        | cons second rest =>
            have same := alone second (by simp)
            simp [same] at distinct
  · rintro ⟨verb, single⟩
    refine ⟨verb, by simp [single], ?_⟩
    intro other set
    simpa [single] using set

end VerbSlots

namespace WireRule

open VerbSlots

def slots : WireRule → VerbSlots
  | mk slots _ _ => slots

mutual

/-- A wire rule, then its additional ones, each followed by its own. -/
def nodes : WireRule → List WireRule
  | mk slots body additional => mk slots body additional :: nodesOfAll additional

def nodesOfAll : List WireRule → List WireRule
  | [] => []
  | wire :: rest => nodes wire ++ nodesOfAll rest

end

/-! The verb of one node -/

theorem choose_ok_iff (slots : VerbSlots) (verb : Verb) (path : String) :
    choose slots = .ok (verb, path) ↔ slots = only verb path := by
  rw [← given_eq_singleton_iff]
  unfold choose
  split <;> simp_all

theorem choose_error_iff (slots : VerbSlots) (message : String) :
    (∃ error, choose slots = .error error ∧ error.message = message) ↔ Offends slots message := by
  have told := slots.map_given
  unfold choose
  split
  · next nothing =>
      rw [nothing, List.map_nil] at told
      constructor
      · rintro ⟨_, failed, rfl⟩
        cases failed
        exact .none ((verbs_eq_nil_iff slots).mp told.symm)
      · rintro (_ | ⟨first, second, rest, set⟩)
        · exact ⟨_, rfl, rfl⟩
        · rw [set] at told
          cases told
  · next chosen single =>
      rw [single, List.map_singleton] at told
      constructor
      · rintro ⟨_, failed, _⟩
        cases failed
      · rintro (unset | ⟨first, second, rest, set⟩)
        · rw [(verbs_eq_nil_iff slots).mpr unset] at told
          cases told
        · rw [set] at told
          cases told
  · next first _ second _ rest several =>
      rw [several, List.map_cons, List.map_cons] at told
      constructor
      · rintro ⟨_, failed, rfl⟩
        cases failed
        exact .several first second _ told.symm
      · rintro (unset | ⟨_, _, _, set⟩)
        · rw [(verbs_eq_nil_iff slots).mpr unset] at told
          cases told
        · rw [set] at told
          cases told
          exact ⟨_, rfl, rfl⟩

theorem chooses_iff (slots : VerbSlots) :
    (∃ chosen, choose slots = .ok chosen) ↔ slots.SetsOne := by
  rw [setsOne_iff, ← map_given]
  unfold choose
  split
  · next nothing => simp [nothing]
  · next chosen single => simp [single]
  · next several => simp [several]

/-! Whole trees -/

-- A wire rule and the list of its additional ones are taken together, here and below.
mutual

theorem toRule_ok_iff (wire : WireRule) (rule : Rule) :
    wire.toRule = .ok rule ↔ wire = ofRule rule := by
  match wire, rule with
  | mk slots body additional, .mk verb path selector rules =>
      have below := toRules_ok_iff additional rules
      rw [ofRule, mk.injEq, ← choose_ok_iff, ← below, toRule]
      cases choose slots with
      | error error => simp
      | ok chosen =>
          obtain ⟨first, text⟩ := chosen
          cases toRules additional with
          | error error => simp
          | ok found => simp [and_assoc]

theorem toRules_ok_iff (wires : List WireRule) (rules : List Rule) :
    toRules wires = .ok rules ↔ wires = ofRules rules := by
  match wires, rules with
  | [], [] => simp [toRules, ofRules]
  | [], _ :: _ => simp [toRules, ofRules]
  | wire :: rest, rules =>
      rw [toRules]
      cases converted : toRule wire with
      | error error =>
          cases rules with
          | nil => simp [ofRules]
          | cons rule others => simp [ofRules, ← toRule_ok_iff wire rule, converted]
      | ok first =>
          cases later : toRules rest with
          | error error =>
              cases rules with
              | nil => simp [ofRules]
              | cons rule others => simp [ofRules, ← toRules_ok_iff rest others, later]
          | ok found =>
              cases rules with
              | nil => simp [ofRules]
              | cons rule others =>
                  simp [ofRules, ← toRule_ok_iff wire rule, ← toRules_ok_iff rest others,
                    converted, later]

end

mutual

theorem converts_iff (wire : WireRule) :
    (∃ rule, wire.toRule = .ok rule) ↔ ∀ node ∈ wire.nodes, node.slots.SetsOne := by
  match wire with
  | mk slots body additional =>
      rw [nodes, List.forall_mem_cons, ← convertAll_iff additional, WireRule.slots,
        ← chooses_iff, toRule]
      cases choose slots with
      | error error => simp
      | ok chosen => cases toRules additional <;> simp

theorem convertAll_iff (wires : List WireRule) :
    (∃ rules, toRules wires = .ok rules) ↔ ∀ node ∈ nodesOfAll wires, node.slots.SetsOne := by
  match wires with
  | [] => simp [toRules, nodesOfAll]
  | wire :: rest =>
      rw [nodesOfAll, List.forall_mem_append, ← converts_iff wire, ← convertAll_iff rest, toRules]
      cases toRule wire with
      | error error => simp
      | ok rule => cases toRules rest <;> simp

end

/-- The first node that does not set exactly one verb is the one that is told of. -/
def FirstOffence (message : String) (nodes : List WireRule) : Prop :=
  FirstFault (fun node => node.slots.SetsOne) (fun _ node => node.slots.Offends message) nodes

mutual

theorem refuses_iff (wire : WireRule) (message : String) :
    (∃ error, wire.toRule = .error error ∧ error.message = message) ↔
      FirstOffence message wire.nodes := by
  match wire with
  | mk slots body additional =>
      rw [FirstOffence, nodes, firstFault_cons, ← FirstOffence,
        ← refuseAny_iff additional message, WireRule.slots, ← choose_error_iff, ← chooses_iff,
        toRule]
      cases choose slots with
      | error error => simp
      | ok chosen => cases toRules additional <;> simp

theorem refuseAny_iff (wires : List WireRule) (message : String) :
    (∃ error, toRules wires = .error error ∧ error.message = message) ↔
      FirstOffence message (nodesOfAll wires) := by
  match wires with
  | [] => simp [toRules, nodesOfAll, FirstOffence, not_firstFault_nil]
  | wire :: rest =>
      rw [FirstOffence, nodesOfAll, firstFault_append, ← FirstOffence, ← FirstOffence,
        ← refuses_iff wire message, ← refuseAny_iff rest message, ← converts_iff wire, toRules]
      cases toRule wire with
      | error error => simp
      | ok rule => cases toRules rest <;> simp

end

/-- Rules and their wire forms correspond. A wire rule is converted exactly if each of its
nodes sets one verb, and then to the rule whose wire form it is. -/
theorem wireForm_exact :
    (∀ rule : Rule, (ofRule rule).toRule = .ok rule) ∧
    ∀ wire : WireRule,
      ((∃ rule, wire.toRule = .ok rule) ↔ ∀ node ∈ wire.nodes, node.slots.SetsOne) ∧
      (∀ rule, wire.toRule = .ok rule → ofRule rule = wire) ∧
      ∀ message, (∃ error, wire.toRule = .error error ∧ error.message = message) ↔
        FirstOffence message wire.nodes := by
  refine ⟨fun rule => (toRule_ok_iff _ rule).mpr rfl, fun wire => ?_⟩
  refine ⟨converts_iff wire, ?_, refuses_iff wire⟩
  intro rule converted
  exact ((toRule_ok_iff wire rule).mp converted).symm

def listingWire : WireRule :=
  .mk (.only .get "/users") none [.mk (.only .post "/users") (some "*") []]

def listingRule : Rule :=
  .mk .get "/users" none [.mk .post "/users" (some "*") []]

/-- The second of the additional rules sets two verbs, the third none. -/
def contestedWire : WireRule :=
  .mk (.only .get "/users") none [
    .mk (.only .put "/users") none [],
    .mk { VerbSlots.only .delete "/users" with post := some "/users" } none [],
    .mk .empty none []]

theorem listing_and_contested_wireForm :
    listingWire.toRule = .ok listingRule ∧ ofRule listingRule = listingWire ∧
      (∀ node ∈ listingWire.nodes, node.slots.SetsOne) ∧
      FirstOffence "http rule sets both `post` and `delete`" contestedWire.nodes := by
  have converted : listingWire.toRule = .ok listingRule := rfl
  obtain ⟨one, back, _⟩ := wireForm_exact.2 listingWire
  obtain ⟨_, _, told⟩ := wireForm_exact.2 contestedWire
  exact ⟨converted, back listingRule converted, one.mp ⟨listingRule, converted⟩,
    (told _).mp ⟨.twoVerbs .post .delete, rfl, rfl⟩⟩

end WireRule
end HttpBinding.Service
