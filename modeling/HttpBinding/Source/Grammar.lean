import HttpBinding.Source.Grammar.Item

/-!
The rules of the grammar tied together.
-/
namespace HttpBinding.Source

def rules (grammar : Grammar) : Grammar
  | .expression structs => expressionRule grammar structs
  | .bareExpression => bareExpressionRule grammar
  | .unary structs => unaryRule grammar structs
  | .operators left structs base => operatorsRule grammar left structs base
  | .expressions => expressionsRule grammar
  | .type plus => typeRule grammar plus
  | .bound capture const => bound grammar capture const
  | .pattern => patternRule grammar
  | .alternatives => alternativesRule grammar
  | .statements => statementsRule grammar
  | .fields => fieldsRule grammar
  | .item => itemRule grammar
  | .traitItem => attributed grammar (traitMember grammar)
  | .implItem => attributed grammar (implMember grammar)
  | .foreignItem => attributed grammar (foreignMember grammar)

def grammarTo : Nat → Goal → Reader Tree
  | 0, _ => failure
  | depth + 1, goal => rules (grammarTo depth) goal

/-- Every few references consume a token, and a token has a character at least, so a
text cannot lead deeper. -/
def grammarFor (text : List Char) : Grammar := grammarTo (16 * (text.length + 8))

def items (grammar : Grammar) : Reader (List Item) := do
  let _ ← innerTrees grammar
  Reader.many (fun tokens => !tokens.isEmpty) (item grammar)

end HttpBinding.Source
