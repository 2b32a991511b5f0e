import HttpBinding.Proofs.Service.Nesting

/-!
Written descriptions are read back. A description comes back from its JSON exactly if it does
not nest deeper than JSON may, and every description that was read from a text, JSON or YAML,
does not.
-/
namespace HttpBinding.Service

open Json (Value)

/-! Nesting of descriptions that were read -/

theorem nesting_field_le (field : FieldDef) : field.toJson.nesting ≤ 1 := by
  rw [FieldDef.toJson, Value.nesting_object_le_iff]
  simp [Value.nesting]

theorem nesting_message_le (message : MessageDef) : message.toJson.nesting ≤ 3 := by
  rw [MessageDef.toJson, Value.nesting_object_le_iff]
  simp [Value.nesting, Value.nestings_le_iff, nesting_field_le]

theorem nesting_method_le (method : MethodDef) (depth : Nat)
    (low : method.AnnotatedWithin depth) : method.toJson.nesting ≤ depth + 2 := by
  rw [MethodDef.toJson, Value.nesting_object_le_iff]
  simpa [Value.nesting, Value.nestings_le_iff, MethodDef.AnnotatedWithin] using low

theorem nesting_service_le (service : ServiceDef) (depth : Nat)
    (low : ∀ method ∈ service.methods, method.AnnotatedWithin depth) (positive : 0 < depth) :
    service.toJson.nesting ≤ depth + 4 := by
  rw [ServiceDef.toJson, Value.nesting_object_le_iff]
  have messages : ∀ message ∈ service.messages, message.toJson.nesting ≤ depth + 2 := by
    intro message _
    have bound := nesting_message_le message
    omega
  have methods : ∀ method ∈ service.methods, method.toJson.nesting ≤ depth + 2 :=
    fun method member => nesting_method_le method depth (low method member)
  simpa [Value.nesting, Value.nestings_le_iff] using ⟨messages, methods⟩

/-- The nesting of a rule is odd: a list stands between a rule and each of its additional ones. -/
theorem nesting_rule_le_of_even (half : Nat) (rule : Rule) (low : rule.toJson.nesting ≤ 2 * half) :
    rule.toJson.nesting ≤ 2 * half - 1 := by
  induction half generalizing rule with
  | zero => exact Nat.le_trans low (by omega)
  | succ half ih =>
      obtain ⟨verb, path, body, additional⟩ := rule
      rw [nesting_rule_le_iff] at low ⊢
      refine ⟨by omega, fun rule member => ?_⟩
      exact ih rule (low.2 rule member)

namespace ServiceDef

theorem nesting_of_returned (dialect : Dialect) (document : Document) (left : Nat)
    (service : ServiceDef) (deep : dialect.depth = 127 ∨ dialect.depth = 128)
    (returned : (readService dialect document).run' left = .ok service) :
    service.toJson.nesting ≤ 127 := by
  have low := yields_run' _ _ (yields_readService dialect document) left service returned
  refine nesting_service_le service 123 ?_ (by decide)
  intro method member rule annotated
  have bound := low method member rule annotated
  -- The level that YAML allows for beyond JSON is none that a rule could use.
  exact nesting_rule_le_of_even 62 rule (by omega)

theorem ofJson_ok_iff (text : String) (service : ServiceDef) :
    ofJson text = .ok service ↔
      (readService jsonDialect (Json.read text).1).run' 0 = .ok service ∧
        (Json.read text).2 = true := by
  rw [ofJson, readJsonText]
  obtain ⟨document, ended⟩ := Json.read text
  dsimp only
  cases (readService jsonDialect document).run' 0 with
  | error error => simp
  | ok found => cases ended <;> simp

theorem nesting_of_accepted (text : String) (service : ServiceDef)
    (accepted : ofJson text = .ok service ∨ ofYaml text = .ok service) :
    service.toJson.nesting ≤ 127 := by
  rcases accepted with accepted | accepted
  · exact nesting_of_returned jsonDialect _ 0 service (.inl rfl)
      ((ofJson_ok_iff text service).mp accepted).1
  · rw [ofYaml] at accepted
    split at accepted
    · cases accepted
    · exact nesting_of_returned _ _ _ service (.inr rfl) accepted
    · exact nesting_of_returned _ _ _ service (.inr rfl) accepted

/-- The texts of a description, on one line and indented. -/
def texts (service : ServiceDef) : List String := [service.toJson.compact, service.toJson.pretty]

theorem read_texts (service : ServiceDef) (text : String) (written : text ∈ service.texts) :
    Json.read text = (service.toJson.document, true) := by
  simp only [texts, List.mem_cons, List.not_mem_nil, or_false] at written
  rcases written with rfl | rfl
  · exact Json.read_compact _
  · exact Json.read_pretty _

theorem ofJson_text_iff (service : ServiceDef) (text : String) (written : text ∈ service.texts) :
    ofJson text = .ok service ↔ service.toJson.nesting ≤ 127 := by
  constructor
  · exact fun accepted => nesting_of_accepted text service (.inl accepted)
  · intro low
    rw [ofJson_ok_iff, read_texts service text written,
      readService_written jsonDialect service low]
    exact ⟨rfl, rfl⟩

/-- A description comes back from what is written for it exactly if lists and objects stand in
one another at most 127 times there. They do so in what is written for a description that was
read. -/
theorem json_roundTrip :
    (∀ service : ServiceDef, ∀ text ∈ service.texts,
      ofJson text = .ok service ↔ service.toJson.nesting ≤ 127) ∧
    ∀ source (service : ServiceDef),
      ofJson source = .ok service ∨ ofYaml source = .ok service →
        ∀ text ∈ service.texts,
          ofJson text = .ok service ∧ (ofJson text).map toJson = .ok service.toJson := by
  refine ⟨ofJson_text_iff, ?_⟩
  intro source service accepted text written
  have low := nesting_of_accepted source service accepted
  have again := (ofJson_text_iff service text written).mpr low
  refine ⟨again, ?_⟩
  rw [again, Except.map]

/-- A service as it may be described: without messages, and with members in another order. -/
def shelfSource : Value :=
  .object [
    ("methods", .list [.object [
      ("http", .list [.object [
        ("additional_bindings", .list [.object [("body", .text "*"), ("put", .text "/all")]]),
        ("get", .text "/\"one\"")]]),
      ("response_type", .text "Book"),
      ("request_type", .text "Key"),
      ("name", .text "find")]]),
    ("name", .text "Shelf")]

def shelf : ServiceDef :=
  ⟨"Shelf", [], [⟨"find", "Key", "Book",
    [.mk .get "/\"one\"" none [.mk .put "/all" (some "*") []]]⟩]⟩

theorem ofJson_shelfSource : ofJson shelfSource.pretty = .ok shelf := by
  rw [ofJson_ok_iff, Json.read_pretty]
  exact ⟨rfl, rfl⟩

theorem shelf_roundTrip :
    shelf.toJson.compact ∈ shelf.texts ∧ shelf.toJson.nesting ≤ 127 ∧
    ofJson shelfSource.pretty = .ok shelf ∧
    ofJson shelf.toJson.compact = .ok shelf ∧
    (ofJson shelf.toJson.compact).map toJson = .ok shelf.toJson := by
  have written : shelf.toJson.compact ∈ shelf.texts := List.mem_cons_self
  have again := json_roundTrip.1 shelf _ written
  have low : shelf.toJson.nesting ≤ 127 := by decide
  have kept := json_roundTrip.2 _ shelf (.inl ofJson_shelfSource) _ written
  exact ⟨written, low, ofJson_shelfSource, again.mpr low, kept.2⟩

end ServiceDef
end HttpBinding.Service
