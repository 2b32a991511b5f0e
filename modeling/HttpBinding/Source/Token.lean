/-!
Tokens of a source unit. Brackets are matched: what stands between a pair is one
token. Positions count characters from the start of the text.
-/
namespace HttpBinding.Source

inductive Delimiter where
  | parenthesis | bracket | brace
deriving Repr, DecidableEq

inductive LiteralKind where
  | text | byteText | zeroText | char | byte | whole | decimal | damaged
deriving Repr, DecidableEq

/-- Where a token stands: from `start` up to, but not including, `stop`. -/
structure Span where
  start : Nat
  stop : Nat
deriving Repr, DecidableEq

/-- A mark is joint if another mark follows it at once. A quote that starts a
lifetime is a joint mark before a word. A raw word keeps its `r#`. -/
inductive Token where
  | word (text : String) (span : Span)
  | mark (char : Char) (joint : Bool) (span : Span)
  | literal (kind : LiteralKind) (text : String) (span : Span)
  | group (delimiter : Delimiter) (inner : List Token) (span : Span)
deriving Repr

namespace Token

def span : Token → Span
  | word _ span | mark _ _ span | literal _ _ span | group _ _ span => span

end Token
end HttpBinding.Source
