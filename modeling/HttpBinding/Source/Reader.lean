import HttpBinding.Iteration
import HttpBinding.Source.Token
import HttpBinding.Source.Tree

/-!
Readers over a list of tokens. What comes next is asked of the list itself; a reader
consumes tokens or fails, and a failed reader leaves the list as it was. No reader goes
back behind where it started: what it leaves stands at the end of what it was given.
-/
namespace HttpBinding.Source

abbrev Tokens := List Token

structure Reading (α : Type) (tokens : Tokens) where
  value : α
  rest : Tokens
  onward : rest <:+ tokens

def Reader (α : Type) : Type := (tokens : Tokens) → Option (Reading α tokens)

namespace Reader

instance : Monad Reader where
  pure value := fun tokens => some ⟨value, tokens, List.suffix_refl tokens⟩
  bind first next := fun tokens =>
    match first tokens with
    | none => none
    | some ⟨value, between, onward⟩ =>
        match next value between with
        | none => none
        | some ⟨result, rest, further⟩ => some ⟨result, rest, further.trans onward⟩

instance : Alternative Reader where
  failure := fun _ => none
  orElse first second := fun tokens =>
    match first tokens with
    | some reading => some reading
    | none => second () tokens

end Reader

/-! Looking ahead -/

def reservedWords : List String :=
  ["_", "abstract", "as", "async", "await", "become", "box", "break", "const", "continue",
    "crate", "do", "dyn", "else", "enum", "extern", "false", "final", "fn", "for", "if",
    "impl", "in", "let", "loop", "macro", "match", "mod", "move", "mut", "override", "priv",
    "pub", "ref", "return", "Self", "self", "static", "struct", "super", "trait", "true",
    "try", "type", "typeof", "unsafe", "unsized", "use", "virtual", "where", "while", "yield"]

namespace Tokens

def seesAnyWord : Tokens → Bool
  | .word .. :: _ => true
  | _ => false

def seesWord (text : String) : Tokens → Bool
  | .word found _ :: _ => found = text
  | _ => false

def seesOneOf (words : List String) : Tokens → Bool
  | .word found _ :: _ => found ∈ words
  | _ => false

def seesName : Tokens → Bool
  | .word found _ :: _ => found ∉ reservedWords
  | _ => false

/-- The marks of `chars` in a row, each but the last joint. -/
def seesMarks : List Char → Tokens → Bool
  | [], _ => false
  | [c], .mark found _ _ :: _ => c = found && c ≠ '\''
  | c :: more, .mark found joint _ :: rest => c = found && joint && seesMarks more rest
  | _, _ => false

def sees (marks : String) (tokens : Tokens) : Bool := seesMarks marks.toList tokens

def seesGroup (delimiter : Delimiter) : Tokens → Bool
  | .group found _ _ :: _ => found = delimiter
  | _ => false

def seesAnyGroup : Tokens → Bool
  | .group .. :: _ => true
  | _ => false

def seesLifetime : Tokens → Bool
  | .mark '\'' true _ :: .word .. :: _ => true
  | _ => false

def isNumber : LiteralKind → Bool
  | .whole | .decimal => true
  | _ => false

def seesLiteral : Tokens → Bool
  | .literal .. :: _ => true
  | .word found _ :: _ => found = "true" || found = "false"
  | .mark '-' _ _ :: .literal kind _ _ :: _ => isNumber kind
  | _ => false

def seesTextLiteral : Tokens → Bool
  | .literal .text _ _ :: _ => true
  | _ => false

/-- What follows the next token; a lifetime counts as one. -/
def behind : Tokens → Tokens
  | .mark '\'' true _ :: .word .. :: rest => rest
  | _ :: rest => rest
  | [] => []

def behindTwo (tokens : Tokens) : Tokens := behind (behind tokens)

end Tokens

/-! Consuming -/

namespace Reader

def ahead : Reader Tokens := fun tokens => some ⟨tokens, tokens, List.suffix_refl tokens⟩

def test (holds : Tokens → Bool) : Reader Bool := do return holds (← ahead)

def check (holds : Tokens → Bool) : Reader Unit := do
  if holds (← ahead) then return else failure

def atEnd : Reader Bool := test List.isEmpty

def next : Reader Token := fun tokens =>
  match tokens with
  | [] => none
  | token :: rest => some ⟨token, rest, List.suffix_cons token rest⟩

def drop (count : Nat) : Reader Unit := fun tokens =>
  some ⟨(), tokens.drop count, List.drop_suffix count tokens⟩

def marks (text : String) : Reader Unit := do
  check (Tokens.sees text)
  drop text.length

def word (text : String) : Reader Unit := do
  check (Tokens.seesWord text)
  drop 1

def anyWord : Reader String := do
  match ← next with
  | .word text _ => return text
  | _ => failure

def name : Reader String := do
  check Tokens.seesName
  anyWord

def lifetime : Reader Unit := do
  check Tokens.seesLifetime
  drop 2

def literal : Reader Unit := do
  check Tokens.seesLiteral
  if ← test (Tokens.sees "-") then drop 2 else drop 1

def optionalMarks (text : String) : Reader Bool := do
  if ← test (Tokens.sees text) then
    marks text
    return true
  else return false

def optionalWord (text : String) : Reader Bool := do
  if ← test (Tokens.seesWord text) then
    word text
    return true
  else return false

def whole (inner : Reader α) (tokens : Tokens) : Option α :=
  match inner tokens with
  | some ⟨value, [], _⟩ => some value
  | _ => none

def within (delimiter : Delimiter) (inner : Reader α) : Reader α := do
  check (Tokens.seesGroup delimiter)
  match ← next with
  | .group _ tokens _ =>
      match whole inner tokens with
      | some value => return value
      | none => failure
  | _ => failure

def anyGroup : Reader (Delimiter × Tokens) := do
  match ← next with
  | .group delimiter tokens _ => return (delimiter, tokens)
  | _ => failure

def skipGroup (delimiter : Delimiter) : Reader Unit := do
  check (Tokens.seesGroup delimiter)
  drop 1

/-- Repeats a step that consumes a token whenever it gives no result, so that the number
of tokens bounds the steps. -/
def untilDone (step : β → Reader (β ⊕ α)) (state : β) : Reader α := do
  iterate failure step ((← ahead).length + 1) state

def many (holds : Tokens → Bool) (value : Reader α) : Reader (List α) :=
  untilDone (fun read => do
    if ← test holds then return .inl ((← value) :: read)
    else return .inr read.reverse) []

def commaList (value : Reader α) : Reader (List α) :=
  untilDone (fun read => do
    if ← atEnd then return .inr read.reverse
    let read := (← value) :: read
    if ← atEnd then return .inr read.reverse
    marks ","
    return .inl read) []

def separatedUntil (stop : Tokens → Bool) (separator : String) (value : Reader α) :
    Reader (List α) :=
  untilDone (fun read => do
    if ← test stop then return .inr read.reverse
    let read := (← value) :: read
    if ← test stop then return .inr read.reverse
    marks separator
    return .inl read) []

def plusList (stop : Tokens → Bool) (value : Reader α) : Reader (List α) :=
  untilDone (fun read => do
    if ← test stop then return .inr read.reverse
    let read := (← value) :: read
    if ← optionalMarks "+" then return .inl read
    else return .inr read.reverse) []

/-- `value`, unless it fails: then nothing is consumed. -/
def attempt (value : Reader α) : Reader (Option α) := fun tokens =>
  match value tokens with
  | some ⟨read, rest, onward⟩ => some ⟨some read, rest, onward⟩
  | none => some ⟨none, tokens, List.suffix_refl tokens⟩

/-- Reads on, unless what follows turns out to be for another reader: that one starts
where this one did. -/
def restarting (first : Reader (α ⊕ Reader α)) : Reader α := fun tokens =>
  match first tokens with
  | some ⟨.inl value, rest, onward⟩ => some ⟨value, rest, onward⟩
  | some ⟨.inr again, _, _⟩ => again tokens
  | none => none

end Reader
end HttpBinding.Source
