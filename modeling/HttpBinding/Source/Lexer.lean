import HttpBinding.Source.Literal

/-!
From text to tokens. Comments and blanks separate tokens; a documentation comment
stands for an attribute `#[doc = "..."]`.
-/
namespace HttpBinding.Source.Lexer

/-! Comments -/

def lineEnd : Nat → List Char → Cursor
  | offset, '\n' :: rest => ⟨offset, '\n' :: rest⟩
  | offset, '\r' :: '\n' :: rest => ⟨offset + 1, '\n' :: rest⟩
  | offset, _ :: rest => lineEnd (offset + 1) rest
  | offset, [] => ⟨offset, []⟩

def restOfLine (cursor : Cursor) : Cursor := lineEnd cursor.offset cursor.rest

def lineText : List Char → List Char
  | [] => []
  | '\n' :: _ => []
  | '\r' :: '\n' :: _ => []
  | c :: rest => c :: lineText rest

/-- A block comment may hold others. -/
def blockEnd? : Nat → Nat → List Char → Option Cursor
  | depth, offset, '/' :: '*' :: rest => blockEnd? (depth + 1) (offset + 2) rest
  | depth, offset, '*' :: '/' :: rest =>
      if depth ≤ 1 then some ⟨offset + 2, rest⟩ else blockEnd? (depth - 1) (offset + 2) rest
  | depth, offset, _ :: rest => blockEnd? depth (offset + 1) rest
  | _, _, [] => none

def blockComment? (cursor : Cursor) : Option Cursor := blockEnd? 0 cursor.offset cursor.rest

def plainComment? (cursor : Cursor) : Option Cursor :=
  if cursor.startsWith "//" && (!cursor.startsWith "///" || cursor.startsWith "////")
      && !cursor.startsWith "//!" then
    some (restOfLine cursor)
  else if cursor.startsWith "/**/" then some (cursor.advance 4)
  else if cursor.startsWith "/*" && (!cursor.startsWith "/**" || cursor.startsWith "/***")
      && !cursor.startsWith "/*!" then
    blockComment? cursor
  else none

def skipBlank : Nat → Cursor → Cursor
  | 0, cursor => cursor
  | fuel + 1, cursor =>
      match plainComment? cursor with
      | some after => skipBlank fuel after
      | none =>
          match cursor.next? with
          | some (c, after) => if isBlank c then skipBlank fuel after else cursor
          | none => cursor

def docText? (cursor : Cursor) : Option (Bool × List Char × Cursor) :=
  if cursor.startsWith "//!" then
    let start := cursor.advance 3
    some (true, lineText start.rest, restOfLine start)
  else if cursor.startsWith "/*!" then
    (blockComment? cursor).map fun after => (true, cursor.between after, after)
  else if cursor.startsWith "///" then
    if cursor.startsWith "////" then none
    else
      let start := cursor.advance 3
      some (false, lineText start.rest, restOfLine start)
  else if cursor.startsWith "/**" && !cursor.startsWith "/***" then
    (blockComment? cursor).map fun after => (false, cursor.between after, after)
  else none

def hasBareReturn : List Char → Bool
  | '\r' :: '\n' :: rest => hasBareReturn rest
  | '\r' :: _ => true
  | _ :: rest => hasBareReturn rest
  | [] => false

def docTokens (inner : Bool) (span : Span) : List Token :=
  let content := [
    Token.word "doc" span,
    Token.mark '=' false span,
    Token.literal .text "" span]
  [Token.mark '#' false span]
    ++ (if inner then [Token.mark '!' false span] else [])
    ++ [Token.group .bracket content span]

def docComment? (cursor : Cursor) : Option (List Token × Cursor) :=
  (docText? cursor).bind fun (inner, text, after) =>
    if hasBareReturn text then none
    else some (docTokens inner ⟨cursor.offset, after.offset⟩, after)

/-! Marks and words -/

def marks : List Char := "~!@#$%^&*-=+|;:,<.>/?'".toList

/-- A mark; a slash that starts a comment is none. -/
def markChar? (cursor : Cursor) : Option (Char × Cursor) :=
  if cursor.startsWith "//" || cursor.startsWith "/*" then none
  else cursor.next?.bind fun (c, after) => if c ∈ marks then some (c, after) else none

/-- A quote is a mark only in front of a lifetime's word. -/
def mark? (cursor : Cursor) : Option (Token × Cursor) :=
  (markChar? cursor).bind fun (c, after) =>
    let span : Span := ⟨cursor.offset, after.offset⟩
    if c = '\'' then
      (anyWord? after).bind fun stop =>
        if stop.startsWith "'" || (stop.startsWith "#" && !after.startsWith "r#") then none
        else some (.mark c true span, after)
    else some (.mark c (markChar? after).isSome span, after)

def literalStarts : List String :=
  ["r\"", "r#\"", "r##", "b\"", "b'", "br\"", "br#", "c\"", "cr\"", "cr#"]

def word? (cursor : Cursor) : Option (Token × Cursor) :=
  if literalStarts.any cursor.startsWith then none
  else (anyWord? cursor).map fun after =>
    (.word (String.ofList (cursor.between after)) ⟨cursor.offset, after.offset⟩, after)

def literal? (fuel : Nat) (cursor : Cursor) : Option (Token × Cursor) :=
  (Literal.read? fuel cursor).map fun (kind, after) =>
    (.literal kind (String.ofList (cursor.between after)) ⟨cursor.offset, after.offset⟩, after)

/-- What stands for a literal that was lost. It is a literal, and no parentheses. -/
def damagedLiteral : String := "(/*ERROR*/)"

def damaged? (cursor : Cursor) : Option (Token × Cursor) :=
  if cursor.startsWith damagedLiteral then
    let after := cursor.advance damagedLiteral.length
    some (.literal .damaged damagedLiteral ⟨cursor.offset, after.offset⟩, after)
  else none

def leaf? (fuel : Nat) (cursor : Cursor) : Option (Token × Cursor) :=
  literal? fuel cursor <|> mark? cursor <|> word? cursor <|> damaged? cursor

/-! Groups -/

def opening? (cursor : Cursor) : Option Delimiter :=
  if cursor.sees (· = '[') then some .bracket
  else if cursor.sees (· = '{') then some .brace
  else if cursor.sees (· = '(') && !cursor.startsWith damagedLiteral then some .parenthesis
  else none

def closing? : Char → Option Delimiter
  | ')' => some .parenthesis
  | ']' => some .bracket
  | '}' => some .brace
  | _ => none

/-- A group that is still open: where it started, and the tokens in front of it, last
one first. -/
structure Frame where
  delimiter : Delimiter
  start : Nat
  before : List Token

/-- The tokens of a text. `read` holds those of the innermost open group, last one
first. -/
def tokensFrom (limit : Nat) : Nat → List Frame → List Token → Cursor → Option (List Token)
  | 0, _, _, _ => none
  | fuel + 1, frames, read, cursor =>
      let cursor := skipBlank limit cursor
      match docComment? cursor with
      | some (tokens, after) => tokensFrom limit fuel frames (tokens.reverse ++ read) after
      | none =>
          match cursor.next? with
          | none => if frames.isEmpty then some read.reverse else none
          | some (c, after) =>
              match opening? cursor, closing? c, frames with
              | some delimiter, _, _ =>
                  tokensFrom limit fuel (⟨delimiter, cursor.offset, read⟩ :: frames) [] after
              | none, some _, [] => none
              | none, some delimiter, frame :: outer =>
                  if frame.delimiter = delimiter then
                    let group := .group delimiter read.reverse ⟨frame.start, after.offset⟩
                    tokensFrom limit fuel outer (group :: frame.before) after
                  else none
              | none, none, _ =>
                  (leaf? limit cursor).bind fun (token, stop) =>
                    tokensFrom limit fuel frames (token :: read) stop

def byteOrderMark : Char := Char.ofNat 0xFEFF

/-- The tokens of a text, or nothing if it cannot be divided into tokens. A byte order
mark at the start counts as a character, but is no token. -/
def tokens? (text : List Char) : Option (List Token) :=
  let limit := text.length + 1
  let start : Cursor := ⟨0, text⟩
  let start := if start.sees (· = byteOrderMark) then start.advance 1 else start
  tokensFrom limit (limit + 1) [] [] start

end HttpBinding.Source.Lexer
