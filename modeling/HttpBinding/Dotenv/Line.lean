import HttpBinding.Text.Blank

/-!
Lines of a `.env` file. A line goes on behind its end while a quotation is open, and
ends before a comment.
-/
namespace HttpBinding.Dotenv

inductive Standing where
  | complete
  | blank
  | escape
  | strong
  | strongEscape
  | weak
  | weakEscape
deriving Repr, DecidableEq

namespace Standing

def outside (c : Char) : Standing :=
  if c = '\\' then escape
  else if c = '"' then weak
  else if c = '\'' then strong
  else complete

def next : Standing → Char → Standing
  | complete, c =>
      if Text.isBlank c && c ≠ '\n' && c ≠ '\r' then blank else outside c
  | blank, c => outside c
  | escape, _ => complete
  | weak, c => if c = '\\' then weakEscape else if c = '"' then complete else weak
  | weakEscape, _ => weak
  | strong, c => if c = '\\' then strongEscape else if c = '\'' then complete else strong
  | strongEscape, _ => strong

end Standing

/-- The part of a line before a comment, which starts with a mark behind one blank, and
where the line stands at its end. -/
def beforeComment : Standing → List Char → List Char × Option Standing
  | standing, [] => ([], some standing)
  | standing, c :: rest =>
      if standing = .blank && c = '#' then ([], none)
      else
        let (kept, last) := beforeComment (standing.next c) rest
        (c :: kept, last)

def withoutBreak (line : List Char) : List Char :=
  match line.reverse with
  | '\n' :: '\r' :: rest => rest.reverse
  | '\n' :: rest => rest.reverse
  | _ => line

def isComment (line : List Char) : Bool := (Text.trimLeft line).head? = some '#'

/-- Puts lines together that belong together; `pending` is what the next one goes on
with. What is not complete in the end is dropped. -/
def gathered (pending : List Char) (standing : Standing) : List (List Char) → List (List Char)
  | [] => []
  | line :: rest =>
      if isComment (pending ++ line) then gathered [] .complete rest
      else
        match beforeComment standing line with
        | (kept, none) => (pending ++ kept) :: gathered [] .complete rest
        | (_, some .complete) =>
            withoutBreak (pending ++ line) :: gathered [] .complete rest
        | (_, some standing) => gathered (pending ++ line) standing rest

def byteLines : List UInt8 → List (List UInt8)
  | [] => []
  | byte :: rest =>
      if byte = 10 then [byte] :: byteLines rest
      else
        match byteLines rest with
        | [] => [[byte]]
        | line :: more => (byte :: line) :: more

def withoutMark : List UInt8 → List UInt8
  | 0xEF :: 0xBB :: 0xBF :: rest => rest
  | bytes => bytes

def readable : List (List UInt8) → List (List Char)
  | [] => []
  | line :: rest =>
      match String.fromUTF8? (ByteArray.mk line.toArray) with
      | some text => text.toList :: readable rest
      | none => []

def lines (content : ByteArray) : List (List Char) :=
  gathered [] .complete (readable (byteLines (withoutMark content.toList)))

end HttpBinding.Dotenv
