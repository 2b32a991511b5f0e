/-!
Field types of a message, and their one written form: a scalar's name,
`message:Name` or `enum:Name`.
-/
namespace HttpBinding.Service

inductive Scalar where
  | double | float
  | int32 | int64 | uint32 | uint64 | sint32 | sint64
  | fixed32 | fixed64 | sfixed32 | sfixed64
  | bool | string | bytes
deriving Repr, DecidableEq

namespace Scalar

def all : List Scalar :=
  [double, float, int32, int64, uint32, uint64, sint32, sint64,
    fixed32, fixed64, sfixed32, sfixed64, bool, string, bytes]

def name : Scalar → String
  | double => "double"
  | float => "float"
  | int32 => "int32"
  | int64 => "int64"
  | uint32 => "uint32"
  | uint64 => "uint64"
  | sint32 => "sint32"
  | sint64 => "sint64"
  | fixed32 => "fixed32"
  | fixed64 => "fixed64"
  | sfixed32 => "sfixed32"
  | sfixed64 => "sfixed64"
  | bool => "bool"
  | string => "string"
  | bytes => "bytes"

def ofName? (text : String) : Option Scalar := all.find? fun scalar => scalar.name = text

def rustType : Scalar → String
  | double => "f64"
  | float => "f32"
  | int32 | sint32 | sfixed32 => "i32"
  | int64 | sint64 | sfixed64 => "i64"
  | uint32 | fixed32 => "u32"
  | uint64 | fixed64 => "u64"
  | bool => "bool"
  | string => "String"
  | bytes => "Vec<u8>"

/-- Whether a raw text may fail to denote a value: text and bytes take anything. -/
def isFallible : Scalar → Bool
  | string | bytes => false
  | _ => true

end Scalar

inductive FieldType where
  | scalar (scalar : Scalar)
  | message (name : String)
  | enum (name : String)
deriving Repr, DecidableEq

namespace FieldType

def scalar? : FieldType → Option Scalar
  | scalar s => some s
  | _ => none

def isScalar (type : FieldType) : Bool := type.scalar?.isSome

def rustType : FieldType → String
  | scalar s => s.rustType
  | message name | enum name => name

def render : FieldType → String
  | scalar s => s.name
  | message name => "message:" ++ name
  | enum name => "enum:" ++ name

def afterStart? : List Char → List Char → Option (List Char)
  | [], text => some text
  | _ :: _, [] => none
  | s :: start, c :: text => if s = c then afterStart? start text else none

def parse? (text : String) : Option FieldType :=
  match afterStart? "message:".toList text.toList with
  | some name => some (message (String.ofList name))
  | none =>
      match afterStart? "enum:".toList text.toList with
      | some name => some (enum (String.ofList name))
      | none => (Scalar.ofName? text).map scalar

end FieldType
end HttpBinding.Service
