import HttpBinding.Text.Quoted
import HttpBinding.Yaml.Place
import HttpBinding.Yaml.Token

/-!
Anchors, aliases, tags and directives.
-/
namespace HttpBinding.Yaml.Property

/-! Names -/

def endsName (place : Place) : Bool :=
  place.seesSpace || place.seesSome fun c => c ∈ ['?', ':', ',', ']', '}', '%', '@', '\x60']

def name? (place : Place) : Option (String × Place) :=
  let (found, after) := (place.skip 1).takeWhile isWordChar
  if found.isEmpty || !endsName after then none else some (String.ofList found, after)

/-! Tags -/

def octetCount? (octet : Nat) : Option Nat :=
  if octet < 0x80 then some 1
  else if octet < 0xC0 then none
  else if octet < 0xE0 then some 2
  else if octet < 0xF0 then some 3
  else if octet < 0xF8 then some 4
  else none

def octet? (place : Place) : Option Nat := do
  if !place.sees '%' then none
  let high ← place.peek? 1
  let low ← place.peek? 2
  return (← Text.hexValue? high) * 16 + (← Text.hexValue? low)

def trailing? : Nat → Place → Option (Octets × Place)
  | 0, place => some ([], place)
  | count + 1, place => do
      let octet ← octet? place
      if octet < 0x80 || 0xC0 ≤ octet then none
      let (later, after) ← trailing? count (place.skip 3)
      return (octet.toUInt8 :: later, after)

/-- A character that is written as octets. Only their number has to be right. -/
def escaped? (place : Place) : Option (Octets × Place) := do
  let octet ← octet? place
  let (later, after) ← trailing? ((← octetCount? octet) - 1) (place.skip 3)
  return (octet.toUInt8 :: later, after)

/-- Characters of a tag. Those of collections in brackets count only where `verbatim`. -/
def isTagChar (verbatim : Bool) (c : Char) : Bool :=
  isWordChar c || c ∈ ";/?:@&=+$.%!~*'()".toList || (verbatim && c ∈ [',', '[', ']'])

def tagOctets (verbatim : Bool) : Nat → Octets → Place → Option (Octets × Place)
  | 0, _, _ => none
  | fuel + 1, read, place =>
      if !place.seesSome (isTagChar verbatim) then some (read, place)
      else if place.sees '%' then
        (escaped? place).bind fun (octets, after) => tagOctets verbatim fuel (read ++ octets) after
      else
        tagOctets verbatim fuel (read ++ Octets.ofAscii (place.rest.take 1)) (place.skip 1)

def tagOctets? (verbatim : Bool) (place : Place) : Option (Octets × Place) :=
  tagOctets verbatim (place.rest.length + 1) [] place

def someTagOctets? (verbatim : Bool) (place : Place) : Option (Octets × Place) := do
  let (octets, after) ← tagOctets? verbatim place
  if octets.isEmpty then none else return (octets, after)

def handle? (place : Place) : Option (List Char × Place) :=
  if !place.sees '!' then none
  else
    let (found, after) := (place.skip 1).takeWhile isWordChar
    if after.sees '!' then some ('!' :: found ++ ['!'], after.skip 1)
    else some ('!' :: found, after)

def verbatimTag? (place : Place) : Option (Token × Place) := do
  let (octets, after) ← someTagOctets? true (place.skip 2)
  if !after.sees '>' then none
  return (.tag "" octets, after.skip 1)

/-- A tag with a handle of its own, or with the handle of one mark. A mark alone is a
tag without handle. -/
def shortTag? (place : Place) : Option (Token × Place) := do
  let (handle, after) ← handle? place
  if handle.length ≥ 2 && handle.getLast? = some '!' then
    let (suffix, after) ← someTagOctets? false after
    return (.tag (String.ofList handle) suffix, after)
  let (more, after) ← tagOctets? false after
  let suffix := Octets.ofAscii (handle.drop 1) ++ more
  if suffix.untilZero.isEmpty then return (.tag "" Tag.bare, after)
  return (.tag "!" suffix, after)

def tag? (inFlow : Bool) (place : Place) : Option (Token × Place) := do
  let (token, after) ← if place.seesAt 1 '<' then verbatimTag? place else shortTag? place
  if after.seesSpace || (inFlow && after.sees ',') then return (token, after) else none

/-! Directives -/

def number? (place : Place) : Option (Nat × Place) :=
  let (digits, after) := place.takeWhile Char.isDigit
  if digits.isEmpty || 9 < digits.length then none
  else
    some (digits.foldl (fun value digit => value * 10 + (digit.toNat - '0'.toNat)) 0, after)

def version? (place : Place) : Option (Token × Place) := do
  let (major, after) ← number? (place.skipWhile isBlank)
  if !after.sees '.' then none
  let (minor, after) ← number? (after.skip 1)
  return (.version major minor, after)

/-- A handle that a directive defines: one or two marks, or a name between marks. -/
def definedHandle? (place : Place) : Option (List Char × Place) := do
  let (handle, after) ← handle? place
  if handle = ['!'] || handle.getLast? = some '!' then return (handle, after) else none

def handleDirective? (place : Place) : Option (Token × Place) := do
  let (handle, after) ← definedHandle? (place.skipWhile isBlank)
  if !after.seesBlank then none
  let (start, after) ← someTagOctets? true (after.skipWhile isBlank)
  if !after.seesSpace then none
  return (.handle (String.ofList handle) start, after)

def directive? (place : Place) : Option (Token × Place) := do
  let (name, after) := (place.skip 1).takeWhile isWordChar
  if !after.seesSpace then none
  let (token, after) ←
    if name = "YAML".toList then version? after
    else if name = "TAG".toList then handleDirective? after
    else none
  return (token, ← after.endOfLine?)

end HttpBinding.Yaml.Property
