/-!
Tags of YAML nodes. A tag is a row of octets, as it may be written by their numbers and
then need not be a text. An octet of zero ends it.
-/
namespace HttpBinding.Yaml

abbrev Octets := List UInt8

namespace Octets

def ofAscii (text : List Char) : Octets := text.map fun c => c.toNat.toUInt8

def untilZero (octets : Octets) : Octets := octets.takeWhile (· ≠ 0)

def text? (octets : Octets) : Option String := String.fromUTF8? (ByteArray.mk octets.toArray)

end Octets

def mark : UInt8 := 0x21

namespace Tag

def bare : Octets := [mark]

def standardStart : Octets := Octets.ofAscii "tag:yaml.org,2002:".toList

def standard (name : String) : Octets := standardStart ++ Octets.ofAscii name.toList

def null : Octets := standard "null"
def flag : Octets := standard "bool"
def whole : Octets := standard "int"
def decimal : Octets := standard "float"

/-- A tag that is not meant to be a standard one. -/
def isLocal (tag : Octets) : Bool := tag.head? = some mark

def localName? (tag : Octets) : Option String :=
  match tag with
  | [] => none
  | first :: rest =>
      if first ≠ mark then none
      else if rest.isEmpty then some "!"
      else Octets.text? rest

end Tag
end HttpBinding.Yaml
