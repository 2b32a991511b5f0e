import HttpBinding.Proofs.Json.Reading
import HttpBinding.Proofs.Service.FieldType
import HttpBinding.Proofs.Service.WireForm
import HttpBinding.Service.Json

/-!
The documents of written descriptions. From what is written for a field, a message, a rule, a
method or a service, just that is read, if the dialect allows for its nesting.
-/
namespace HttpBinding.Json.Value

mutual

/-- How many lists and objects stand in one another at the deepest place. -/
def nesting : Value → Nat
  | list items => nestings items + 1
  | object entries => entryNestings entries + 1
  | null | flag _ | number _ | text _ => 0

def nestings : List Value → Nat
  | [] => 0
  | item :: rest => max (nesting item) (nestings rest)

def entryNestings : List (String × Value) → Nat
  | [] => 0
  | (_, value) :: rest => max (nesting value) (entryNestings rest)

end

theorem nestings_le_iff (items : List Value) (depth : Nat) :
    nestings items ≤ depth ↔ ∀ item ∈ items, item.nesting ≤ depth := by
  induction items with
  | nil => simp [nestings]
  | cons item rest ih => rw [nestings, Nat.max_le, ih, List.forall_mem_cons]

theorem entryNestings_le_iff (entries : List (String × Value)) (depth : Nat) :
    entryNestings entries ≤ depth ↔ ∀ entry ∈ entries, entry.2.nesting ≤ depth := by
  induction entries with
  | nil => simp [entryNestings]
  | cons entry rest ih => rw [entryNestings, Nat.max_le, ih, List.forall_mem_cons]

theorem nesting_list_le_iff (items : List Value) (depth : Nat) :
    (list items).nesting ≤ depth ↔ 0 < depth ∧ ∀ item ∈ items, item.nesting ≤ depth - 1 := by
  rw [nesting, ← nestings_le_iff]
  omega

theorem nesting_object_le_iff (entries : List (String × Value)) (depth : Nat) :
    (object entries).nesting ≤ depth ↔
      0 < depth ∧ ∀ entry ∈ entries, entry.2.nesting ≤ depth - 1 := by
  rw [nesting, ← entryNestings_le_iff]
  omega

end HttpBinding.Json.Value

namespace HttpBinding.Service

open Json (Value)

/-! One level -/

/-- The dialect one level deeper. -/
def Dialect.inner (dialect : Dialect) : Dialect := { dialect with depth := dialect.depth - 1 }

theorem enter_of_room (dialect : Dialect) (room : 0 < dialect.depth) :
    dialect.enter = pure dialect.inner := by
  obtain ⟨positional, depth, tooDeep, targets⟩ := dialect
  obtain ⟨depth, rfl⟩ : ∃ left, depth = left + 1 := ⟨depth - 1, by simp at room; omega⟩
  rfl

theorem readText_written (dialect : Dialect) (text : String) :
    readText dialect (Value.text text).document = pure text := rfl

theorem readFlag_written (dialect : Dialect) (flag : Bool) :
    readFlag dialect (Value.flag flag).document = pure flag := rfl

theorem readType_written (dialect : Dialect) (type : FieldType) :
    readType dialect (Value.text type.render).document = pure type := by
  simp only [readType, readText_written, pure_bind, FieldType.parse?_render]

/-! Lists -/

theorem readItems_map (read : Reads α) (dialect : Dialect) (write : α → Document)
    (values : List α) (each : ∀ value ∈ values, read dialect (write value) = pure value) :
    readItems read dialect true (values.map write) = pure values := by
  induction values with
  | nil => rfl
  | cons value rest ih =>
      rw [List.forall_mem_cons] at each
      rw [List.map_cons, readItems, each.1, pure_bind, ih each.2, pure_bind]

theorem readList_written (read : Reads α) (dialect : Dialect) (write : α → Value)
    (values : List α) (room : (Value.list (values.map write)).nesting ≤ dialect.depth)
    (each : ∀ value ∈ values, (write value).nesting ≤ dialect.inner.depth →
      read dialect.inner (write value).document = pure value) :
    readList read dialect (Value.list (values.map write)).document = pure values := by
  rw [Value.nesting_list_le_iff, List.forall_mem_map] at room
  have items := readItems_map read dialect.inner (fun value => (write value).document) values
    fun value member => each value member (room.2 value member)
  rw [← Value.documents_map] at items
  simp only [readList, following, Value.document, Dialect.follow, pure_bind,
    enter_of_room dialect room.1, items]

/-! Objects -/

theorem read_object (shape : Shape ρ α) (required : List String) (dialect : Dialect)
    (entries : List (String × Value)) (room : 0 < dialect.depth) :
    shape.read required dialect (Value.object entries).document =
      shape.readEntries dialect.inner true (Value.entryDocuments entries) shape.empty := by
  simp only [Shape.read, following, Value.document, Dialect.follow, pure_bind,
    enter_of_room dialect room]

/-- An entry whose member is not filled yet fills it. -/
theorem readEntries_cons {dialect : Dialect} {name : String} {written : Value}
    {rest : List (Document × Document)} {record : ρ} {read : Reads β} {get : ρ → Option β}
    {set : ρ → β → ρ} {value : β} (shape : Shape ρ α)
    (found : shape.members.find? (fun member => member.name = name)
      = some (.of name read get set))
    (fresh : get record = none) (here : read dialect written.document = pure value) :
    shape.readEntries dialect true ((.leaf (.ofText name), written.document) :: rest) record =
      shape.readEntries dialect true rest (set record value) := by
  have key : readText dialect (.leaf (.ofText name)) = pure name := rfl
  simp only [Shape.readEntries, Shape.readEntry, key, pure_bind, found, Member.of, fresh,
    Option.isSome_none, Bool.false_eq_true, if_false, here, map_pure]

/-! Fields and messages -/

theorem readField_written (dialect : Dialect) (field : FieldDef)
    (room : field.toJson.nesting ≤ dialect.depth) :
    readField dialect field.toJson.document = pure field := by
  rw [FieldDef.toJson, Value.nesting_object_le_iff] at room
  rw [readField, FieldDef.toJson, read_object fieldShape _ dialect _ room.1]
  simp only [Value.entryDocuments]
  rw [readEntries_cons fieldShape rfl rfl (readText_written _ field.name),
    readEntries_cons fieldShape rfl rfl (readType_written _ field.type),
    readEntries_cons fieldShape rfl rfl (readFlag_written _ field.repeated)]
  rfl

theorem readMessage_written (dialect : Dialect) (message : MessageDef)
    (room : message.toJson.nesting ≤ dialect.depth) :
    readMessage dialect message.toJson.document = pure message := by
  rw [MessageDef.toJson, Value.nesting_object_le_iff] at room
  have fields := readList_written readField dialect.inner FieldDef.toJson message.fields
    (room.2 ("fields", _) (by simp)) fun field _ => readField_written _ field
  rw [readMessage, MessageDef.toJson, read_object messageShape _ dialect _ room.1]
  simp only [Value.entryDocuments]
  rw [readEntries_cons messageShape rfl rfl (readText_written _ message.name),
    readEntries_cons messageShape rfl rfl fields]
  rfl

/-! Rules -/

theorem WireRule.ofRules_eq_map (rules : List Rule) : ofRules rules = rules.map ofRule := by
  induction rules with
  | nil => rfl
  | cons rule rest ih => rw [ofRules, ih, List.map_cons]

theorem WireRule.allToJson_eq_map (wires : List WireRule) :
    allToJson wires = wires.map toJson := by
  induction wires with
  | nil => rfl
  | cons wire rest ih => rw [allToJson, ih, List.map_cons]

/-- The entry of the additional rules, which is left out if there are none. -/
def additionalMember : List Rule → List (String × Value)
  | [] => []
  | first :: others => [("additional_bindings", .list ((first :: others).map Rule.toJson))]

theorem map_toJson_ofRules (rules : List Rule) :
    (WireRule.ofRules rules).map WireRule.toJson = rules.map Rule.toJson := by
  rw [WireRule.ofRules_eq_map, List.map_map]
  rfl

theorem toJson_rule (verb : Verb) (path : String) (body : Option String)
    (additional : List Rule) :
    (Rule.mk verb path body additional).toJson =
      .object (ownMembers (.only verb path) body ++ additionalMember additional) := by
  rw [Rule.toJson, WireRule.ofRule, WireRule.toJson]
  cases additional with
  | nil => rfl
  | cons first others =>
      rw [WireRule.allToJson_eq_map, map_toJson_ofRules, List.map_cons]
      rfl

theorem nesting_rule_pos (rule : Rule) : 0 < rule.toJson.nesting := by
  cases rule with
  | mk verb path body additional =>
      rw [toJson_rule, Value.nesting]
      exact Nat.succ_pos _

/-- Additional rules stand two levels below their rule. -/
theorem nesting_rule_le_iff (verb : Verb) (path : String) (body : Option String)
    (additional : List Rule) (depth : Nat) :
    (Rule.mk verb path body additional).toJson.nesting ≤ depth ↔
      0 < depth ∧ ∀ rule ∈ additional, rule.toJson.nesting ≤ depth - 1 - 1 := by
  have own : ∀ entry ∈ ownMembers (.only verb path) body, entry.2.nesting ≤ depth - 1 := by
    cases verb <;> cases body <;> simp [ownMembers, VerbSlots.given, VerbSlots.only,
      VerbSlots.empty, VerbSlots.slot, Verb.all, Value.nesting]
  rw [toJson_rule, Value.nesting_object_le_iff, List.forall_mem_append, and_iff_right own]
  cases additional with
  | nil => simp [additionalMember]
  | cons first others =>
      rw [additionalMember, List.forall_mem_singleton, Value.nesting_list_le_iff,
        List.forall_mem_map, List.forall_mem_cons]
      have tall := nesting_rule_pos first
      constructor
      · rintro ⟨room, _, below⟩
        exact ⟨room, below⟩
      · rintro ⟨room, below⟩
        have bound := below.1
        exact ⟨room, by omega, below⟩

/-- What is filled by the verb and the body of a rule. -/
def RuleRecord.own (verb : Verb) (path : String) (body : Option String) : RuleRecord :=
  let slots := VerbSlots.only verb path
  ⟨slots.get.map some, slots.post.map some, slots.put.map some, slots.delete.map some,
    slots.patch.map some, body.map some, none⟩

theorem readEntries_own (nested : Reads WireRule) (dialect : Dialect) (verb : Verb) (path : String)
    (body : Option String) (rest : List (Document × Document)) :
    (ruleShape nested).readEntries dialect true
        (Value.entryDocuments (ownMembers (.only verb path) body) ++ rest)
        (ruleShape nested).empty =
      (ruleShape nested).readEntries dialect true rest (.own verb path body) := by
  cases verb <;> cases body <;> rfl

theorem readEntries_last (nested : Reads WireRule) (dialect : Dialect) (record : RuleRecord) :
    (ruleShape nested).readEntries dialect true [] record = pure record.toWireRule := rfl

theorem toWireRule_own (verb : Verb) (path : String) (body : Option String)
    (additional : Option (List WireRule)) :
    { RuleRecord.own verb path body with additional := additional }.toWireRule =
      .mk (.only verb path) body (additional.getD []) := by
  cases verb <;> cases body <;> rfl

theorem readWireRuleWithin_written (fuel : Nat) (dialect : Dialect) (rule : Rule)
    (room : rule.toJson.nesting ≤ dialect.depth) (enough : dialect.depth < fuel) :
    readWireRuleWithin fuel dialect rule.toJson.document = pure (WireRule.ofRule rule) := by
  induction fuel generalizing dialect rule with
  | zero => exact absurd enough (Nat.not_lt_zero _)
  | succ fuel ih =>
      obtain ⟨verb, path, body, additional⟩ := rule
      rw [toJson_rule, Value.nesting_object_le_iff, List.forall_mem_append] at room
      rw [readWireRuleWithin, WireRule.ofRule, toJson_rule,
        read_object (ruleShape _) _ dialect _ room.1, Value.entryDocuments_append,
        readEntries_own]
      cases additional with
      | nil =>
          rw [additionalMember, Value.entryDocuments, readEntries_last]
          exact congrArg pure (toWireRule_own verb path body none)
      | cons first others =>
          rw [additionalMember, List.forall_mem_singleton, ← map_toJson_ofRules] at room
          have list : readList (readWireRuleWithin fuel) dialect.inner
              (Value.list ((first :: others).map Rule.toJson)).document =
                pure (WireRule.ofRules (first :: others)) := by
            rw [← map_toJson_ofRules]
            refine readList_written _ _ _ _ room.2.2 ?_
            rw [WireRule.ofRules_eq_map, List.forall_mem_map]
            intro rule _ within
            have below : dialect.inner.inner.depth = dialect.depth - 1 - 1 := rfl
            exact ih _ rule within (by omega)
          rw [additionalMember, Value.entryDocuments,
            readEntries_cons (ruleShape _) rfl rfl list, Value.entryDocuments,
            readEntries_last, toWireRule_own, Option.getD_some]

theorem readRule_written (dialect : Dialect) (rule : Rule)
    (room : rule.toJson.nesting ≤ dialect.depth) :
    readRule dialect rule.toJson.document = pure rule := by
  have wire := readWireRuleWithin_written (dialect.depth + 1) dialect rule room (Nat.lt_succ_self _)
  simp only [readRule, readWireRule, wire, pure_bind, (WireRule.toRule_ok_iff _ rule).mpr rfl]

/-! Methods and services -/

theorem readMethod_written (dialect : Dialect) (method : MethodDef)
    (room : method.toJson.nesting ≤ dialect.depth) :
    readMethod dialect method.toJson.document = pure method := by
  rw [MethodDef.toJson, Value.nesting_object_le_iff] at room
  have http := readList_written readRule dialect.inner Rule.toJson method.http
    (room.2 ("http", _) (by simp)) fun rule _ => readRule_written _ rule
  rw [readMethod, MethodDef.toJson, read_object methodShape _ dialect _ room.1]
  simp only [Value.entryDocuments]
  rw [readEntries_cons methodShape rfl rfl (readText_written _ method.name),
    readEntries_cons methodShape rfl rfl
      (readText_written _ method.requestType),
    readEntries_cons methodShape rfl rfl
      (readText_written _ method.responseType),
    readEntries_cons methodShape rfl rfl http]
  rfl

theorem readService_written (dialect : Dialect) (service : ServiceDef)
    (room : service.toJson.nesting ≤ dialect.depth) :
    readService dialect service.toJson.document = pure service := by
  rw [ServiceDef.toJson, Value.nesting_object_le_iff] at room
  have messages := readList_written readMessage dialect.inner MessageDef.toJson service.messages
    (room.2 ("messages", _) (by simp)) fun message _ => readMessage_written _ message
  have methods := readList_written readMethod dialect.inner MethodDef.toJson service.methods
    (room.2 ("methods", _) (by simp)) fun method _ => readMethod_written _ method
  rw [readService, ServiceDef.toJson, read_object serviceShape _ dialect _ room.1]
  simp only [Value.entryDocuments]
  rw [readEntries_cons serviceShape rfl rfl (readText_written _ service.name),
    readEntries_cons serviceShape rfl rfl messages,
    readEntries_cons serviceShape rfl rfl methods]
  rfl

end HttpBinding.Service
