import HttpBinding.Service.FieldType
import HttpBinding.Text.Quoted

/-!
Generated statements that decode one path or query value. The raw value is held in
the variable `{local}Str`; a repeated field arrives as one value joined by a
separator.
-/
namespace HttpBinding.Model

open Service (Scalar)
open Text (quotedChar quotedText)

/-- A `let` statement without its terminator, whether it yields a result to check,
and the expression that then holds the value. -/
structure Conversion where
  statement : String
  needsCheck : Bool
  value : String
deriving Repr, DecidableEq

namespace Conversion

def parseExpression (scalar : Scalar) (raw : String) : String :=
  match scalar with
  | .string => raw ++ ".to_owned()"
  | .bytes => raw ++ ".as_bytes().to_vec()"
  | other => raw ++ ".parse::<" ++ other.rustType ++ ">()"

def parseFunction : Scalar → String
  | .string => "str::to_owned"
  | .bytes => "|s| s.as_bytes().to_vec()"
  | other => "str::parse::<" ++ other.rustType ++ ">"

def separatorLiteral (separator : String) : String :=
  match separator.toList with
  | [c] => quotedChar c
  | _ => quotedText separator

def collection (scalar : Scalar) : String :=
  if scalar.isFallible then "Result<Vec<_>, _>" else "Vec<_>"

def splitExpression (scalar : Scalar) (raw separator : String) : String :=
  raw ++ ".split(" ++ separatorLiteral separator ++ ").map(" ++ parseFunction scalar
    ++ ").collect::<" ++ collection scalar ++ ">()"

def make (scalar : Scalar) (repeated : Bool) (localName separator : String) : Conversion :=
  let raw := localName ++ "Str"
  let expression :=
    if repeated then splitExpression scalar raw separator else parseExpression scalar raw
  { statement := "let " ++ localName ++ " = " ++ expression
    needsCheck := scalar.isFallible
    value := localName }

end Conversion
end HttpBinding.Model
