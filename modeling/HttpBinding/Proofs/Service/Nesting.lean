import HttpBinding.Proofs.Service.Document
import HttpBinding.Service.Yaml

/-!
How deep the annotations of a description nest. Reading stops where lists and objects nest too
deep, so a rule that was read at some depth can be written there again.
-/
namespace HttpBinding.Service

/-! What holds of all that is read -/

/-- Whatever the action returns satisfies `Post`. -/
def Yields (action : Reading α) (Post : α → Prop) : Prop :=
  ∀ left value after, action.run left = .ok (value, after) → Post value

theorem yields_pure (value : α) (Post : α → Prop) (holds : Post value) :
    Yields (pure value) Post := by
  intro left found after returned
  cases returned
  exact holds

theorem yields_throw (error : ReadError) (Post : α → Prop) : Yields (throw error) Post := by
  intro left found after returned
  cases returned

theorem yields_bind (action : Reading α) (next : α → Reading β) (Mid : α → Prop) (Post : β → Prop)
    (first : Yields action Mid) (second : ∀ value, Mid value → Yields (next value) Post) :
    Yields (action >>= next) Post := by
  intro left found after returned
  rw [StateT.run_bind] at returned
  cases here : action.run left with
  | error error =>
      rw [here] at returned
      cases returned
  | ok reached =>
      obtain ⟨value, rest⟩ := reached
      rw [here] at returned
      exact second value (first left value rest here) rest found after returned

theorem yields_any (action : Reading α) : Yields action fun _ => True :=
  fun _ _ _ _ => trivial

theorem yields_map (action : Reading α) (change : α → β) (Post : β → Prop)
    (first : Yields action fun value => Post (change value)) : Yields (change <$> action) Post := by
  rw [map_eq_pure_bind]
  exact yields_bind action _ _ Post first fun value holds => yields_pure _ Post holds

theorem yields_lift (outcome : Except ReadError α) (Post : α → Prop)
    (holds : ∀ value, outcome = .ok value → Post value) :
    Yields (liftM outcome : Reading α) Post := by
  cases outcome with
  | error error => exact yields_throw error Post
  | ok value => exact yields_pure value Post (holds value rfl)

theorem yields_run' (action : Reading α) (Post : α → Prop) (holds : Yields action Post)
    (left : Nat) (value : α) (returned : action.run' left = .ok value) : Post value := by
  rw [StateT.run'_eq] at returned
  cases here : action.run left with
  | error error =>
      rw [here] at returned
      cases returned
  | ok reached =>
      rw [here] at returned
      cases returned
      exact holds left _ _ here

theorem yields_following (read : Reads α) (dialect : Dialect) (document : Document)
    (Post : α → Prop) (each : ∀ document, Yields (read dialect document) Post) :
    Yields (following read dialect document) Post :=
  yields_bind _ _ _ Post (yields_any _) fun document _ => each document

theorem yields_enter (dialect : Dialect) :
    Yields dialect.enter fun deeper => 0 < dialect.depth ∧ deeper = dialect.inner := by
  by_cases room : 0 < dialect.depth
  · rw [enter_of_room dialect room]
    exact yields_pure _ _ ⟨room, rfl⟩
  · have blocked : dialect.enter = throw dialect.tooDeep := by
      obtain ⟨positional, depth, tooDeep, targets⟩ := dialect
      obtain rfl : depth = 0 := by simpa using room
      rfl
    rw [blocked]
    exact yields_throw _ _

theorem yields_readItems (read : Reads α) (dialect : Dialect) (closed : Bool) (Post : α → Prop)
    (each : ∀ document, Yields (read dialect document) Post) (items : List Document) :
    Yields (readItems read dialect closed items) fun values => ∀ value ∈ values, Post value := by
  induction items with
  | nil =>
      rw [readItems]
      split
      · exact yields_pure _ _ (by simp)
      · exact yields_throw _ _
  | cons item rest ih =>
      rw [readItems]
      refine yields_bind _ _ Post _ (each item) fun value here => ?_
      refine yields_bind _ _ _ _ ih fun later below => ?_
      exact yields_pure _ _ (List.forall_mem_cons.mpr ⟨here, below⟩)

theorem yields_readList (read : Reads α) (dialect : Dialect) (document : Document)
    (Post : α → Prop) (each : ∀ document, Yields (read dialect.inner document) Post) :
    Yields (readList read dialect document) fun values => ∀ value ∈ values, Post value := by
  refine yields_following _ _ _ _ fun document => ?_
  split
  · refine yields_bind _ _ _ _ (yields_enter dialect) ?_
    rintro _ ⟨_, rfl⟩
    exact yields_readItems read _ _ Post each _
  · split
    · exact yields_pure _ _ (by simp)
    · exact yields_throw _ _
  · exact yields_throw _ _
  all_goals exact yields_throw _ _

/-! Records, member by member -/

section Record

variable (shape : Shape ρ α) (dialect : Dialect) (Filled : ρ → Prop) (Post : α → Prop)
  (fill : ∀ member ∈ shape.members, ∀ document record, Filled record →
    Yields (member.fill dialect document record) Filled)
  (finish : ∀ record value, Filled record → shape.finish record = .ok value → Post value)

include fill finish

theorem yields_readEntries (closed : Bool) (entries : List (Document × Document)) (record : ρ)
    (start : Filled record) : Yields (shape.readEntries dialect closed entries record) Post := by
  induction entries generalizing record with
  | nil =>
      rw [Shape.readEntries]
      split
      · exact yields_lift _ _ fun value => finish record value start
      · exact yields_throw _ _
  | cons entry rest ih =>
      obtain ⟨key, value⟩ := entry
      rw [Shape.readEntries]
      refine yields_bind _ _ Filled _ ?_ fun next filled => ih next filled
      refine yields_bind _ _ _ _ (yields_any _) fun name _ => ?_
      split
      · next member found =>
          split
          · exact yields_throw _ _
          · exact fill member (List.mem_of_find?_eq_some found) value record start
      · split
        · exact yields_throw _ _
        · split
          · exact yields_pure _ _ start
          · exact yields_throw _ _

theorem yields_readPositions (required : List String) (closed : Bool) (members : List (Member ρ))
    (known : members ⊆ shape.members) (items : List Document) (record : ρ)
    (start : Filled record) :
    Yields (shape.readPositions required dialect closed members items record) Post := by
  induction members generalizing items record with
  | nil =>
      cases items with
      | nil =>
          rw [Shape.readPositions]
          split
          · exact yields_lift _ _ fun value => finish record value start
          · exact yields_throw _ _
      | cons item items => exact yields_throw _ _
  | cons member members ih =>
      rw [List.cons_subset] at known
      cases items with
      | nil =>
          rw [Shape.readPositions]
          split
          · exact yields_throw _ _
          · split
            · exact yields_throw _ _
            · exact ih known.2 [] record start
      | cons item items =>
          rw [Shape.readPositions]
          exact yields_bind _ _ Filled _ (fill member known.1 item record start)
            fun next filled => ih known.2 items next filled

end Record

/-- What holds of the empty record in an object, and of every record that is filled further,
is known when the record is finished. -/
theorem yields_read (shape : Shape ρ α) (required : List String) (dialect : Dialect)
    (document : Document) (Filled : ρ → Prop) (Post : α → Prop)
    (blank : ∀ value, shape.finish shape.empty = .ok value → Post value)
    (start : 0 < dialect.depth → Filled shape.empty)
    (fill : ∀ member ∈ shape.members, ∀ document record, Filled record →
      Yields (member.fill dialect.inner document record) Filled)
    (finish : ∀ record value, Filled record → shape.finish record = .ok value → Post value) :
    Yields (shape.read required dialect document) Post := by
  refine yields_following _ _ _ _ fun document => ?_
  split
  · refine yields_bind _ _ _ _ (yields_enter dialect) ?_
    rintro _ ⟨room, rfl⟩
    exact yields_readEntries shape _ Filled Post fill finish _ _ _ (start room)
  · split
    · refine yields_bind _ _ _ _ (yields_enter dialect) ?_
      rintro _ ⟨room, rfl⟩
      exact yields_readPositions shape _ Filled Post fill finish required _ _
        (List.Subset.refl _) _ _ (start room)
    · exact yields_throw _ _
  · split
    · exact yields_lift _ _ blank
    · exact yields_throw _ _
  all_goals exact yields_throw _ _

/-! Rules -/

/-- There is room for the rule that a wire rule stands for. -/
def WireRule.Within (depth : Nat) (wire : WireRule) : Prop :=
  ∀ rule, wire = ofRule rule → rule.toJson.nesting ≤ depth

/-- A record that was filled in an object, with additional rules two levels deeper. -/
def RuleRecord.Within (depth : Nat) (record : RuleRecord) : Prop :=
  0 < depth ∧ ∀ wire ∈ record.additional.getD [], wire.Within (depth - 1 - 1)

theorem within_finish (nested : Reads WireRule) (depth : Nat) (record : RuleRecord)
    (wire : WireRule) (filled : record.Within depth)
    (finished : (ruleShape nested).finish record = .ok wire) : wire.Within depth := by
  intro rule wanted
  obtain ⟨verb, path, body, additional⟩ := rule
  obtain rfl : record.toWireRule = wire := Except.ok.inj finished
  obtain ⟨_, _, wires⟩ := WireRule.mk.inj wanted
  obtain ⟨room, below⟩ := filled
  rw [wires, WireRule.ofRules_eq_map, List.forall_mem_map] at below
  exact (nesting_rule_le_iff verb path body additional depth).mpr
    ⟨room, fun rule member => below rule member rule rfl⟩

/-- A blank stands for no rule. -/
theorem within_blank (nested : Reads WireRule) (depth : Nat) (wire : WireRule)
    (finished : (ruleShape nested).finish (ruleShape nested).empty = .ok wire) :
    wire.Within depth := by
  intro rule wanted
  obtain ⟨verb, path, body, additional⟩ := rule
  obtain rfl : WireRule.mk .empty none [] = wire := Except.ok.inj finished
  obtain ⟨slots, _, _⟩ := WireRule.mk.inj wanted
  cases verb <;> cases slots

theorem yields_readWireRuleWithin (fuel : Nat) (dialect : Dialect) (document : Document) :
    Yields (readWireRuleWithin fuel dialect document) (WireRule.Within dialect.depth) := by
  induction fuel generalizing dialect document with
  | zero => exact yields_throw _ _
  | succ fuel ih =>
      refine yields_read _ _ _ _ (RuleRecord.Within dialect.depth) _ (within_blank _ _)
        (fun room => ⟨room, by simp [ruleShape]⟩) ?_ (within_finish _ _)
      intro member known document record filled
      simp only [ruleShape, List.mem_cons, List.not_mem_nil, or_false] at known
      rcases known with rfl | rfl | rfl | rfl | rfl | rfl | rfl
      -- What the first six members fill is not asked for.
      iterate 6 exact yields_map _ _ _ fun _ _ _ _ => filled
      have list := yields_readList (readWireRuleWithin fuel) dialect.inner document _
        fun document => ih dialect.inner.inner document
      exact yields_map _ _ _ fun left wires after returned =>
        ⟨filled.1, list left wires after returned⟩

theorem yields_readRule (dialect : Dialect) (document : Document) :
    Yields (readRule dialect document) fun rule => rule.toJson.nesting ≤ dialect.depth := by
  refine yields_bind _ _ _ _ (yields_readWireRuleWithin _ dialect document) fun wire within => ?_
  split
  · next rule converted =>
      exact yields_pure _ _ (within rule ((WireRule.toRule_ok_iff wire rule).mp converted))
  · exact yields_throw _ _

/-! Methods and services -/

/-- Every annotation of the method nests at most so deep. -/
def MethodDef.AnnotatedWithin (depth : Nat) (method : MethodDef) : Prop :=
  ∀ rule ∈ method.http, rule.toJson.nesting ≤ depth

theorem yields_readMethod (dialect : Dialect) (document : Document) :
    Yields (readMethod dialect document) (MethodDef.AnnotatedWithin (dialect.depth - 1 - 1)) := by
  let Filled (record : MethodRecord) : Prop :=
    ∀ rule ∈ record.http.getD [], rule.toJson.nesting ≤ dialect.depth - 1 - 1
  refine yields_read methodShape _ _ _ Filled _ ?_ ?_ ?_ ?_
  · intro method finished
    cases finished
  · intro _
    simp [Filled, methodShape]
  · intro member known document record filled
    simp only [methodShape, List.mem_cons, List.not_mem_nil, or_false] at known
    rcases known with rfl | rfl | rfl | rfl
    iterate 3 exact yields_map _ _ _ fun _ _ _ _ => filled
    exact yields_map _ _ Filled <| yields_readList readRule dialect.inner document _
      fun document => yields_readRule dialect.inner.inner document
  · rintro ⟨name, requestType, responseType, http⟩ method filled finished
    cases name <;> cases requestType <;> cases responseType <;> cases finished
    exact filled

theorem yields_readService (dialect : Dialect) (document : Document) :
    Yields (readService dialect document) fun service =>
      ∀ method ∈ service.methods, method.AnnotatedWithin (dialect.depth - 1 - 1 - 1 - 1) := by
  let Filled (record : ServiceRecord) : Prop :=
    ∀ method ∈ record.methods.getD [], method.AnnotatedWithin (dialect.depth - 1 - 1 - 1 - 1)
  refine yields_read serviceShape _ _ _ Filled _ ?_ ?_ ?_ ?_
  · intro service finished
    cases finished
  · intro _
    simp [Filled, serviceShape]
  · intro member known document record filled
    simp only [serviceShape, List.mem_cons, List.not_mem_nil, or_false] at known
    rcases known with rfl | rfl | rfl
    iterate 2 exact yields_map _ _ _ fun _ _ _ _ => filled
    exact yields_map _ _ Filled <| yields_readList readMethod dialect.inner document _
      fun document => yields_readMethod dialect.inner.inner document
  · rintro ⟨name, messages, methods⟩ service filled finished
    cases name <;> cases finished
    exact filled

end HttpBinding.Service
