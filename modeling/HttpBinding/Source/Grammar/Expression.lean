import HttpBinding.Source.Grammar.Bound
import HttpBinding.Source.Grammar.Pattern
import HttpBinding.Text.Split

/-!
Expressions.
-/
namespace HttpBinding.Source

open Reader Tokens

def shaped (shape : ExpressionShape) (children : List Tree) : Tree :=
  .node (.expression shape) children

def operand (children : List Tree) : Tree := shaped .operand children

def hasShape (shape : ExpressionShape) : Tree → Bool
  | .node (.expression found) _ => found = shape
  | _ => false

/-! Operators -/

/-- Operators between two operands; of two that fit, the first in this list is meant. -/
def binaryOperators : List (String × Precedence) :=
  [("+=", .assign), ("-=", .assign), ("*=", .assign), ("/=", .assign), ("%=", .assign),
    ("^=", .assign), ("&=", .assign), ("|=", .assign), ("<<=", .assign), (">>=", .assign),
    ("&&", .and), ("||", .or), ("<<", .shift), (">>", .shift), ("==", .compare),
    ("<=", .compare), ("!=", .compare), (">=", .compare), ("+", .sum), ("-", .sum),
    ("*", .product), ("/", .product), ("%", .product), ("^", .bitXor), ("&", .bitAnd),
    ("|", .bitOr), ("<", .compare), (">", .compare)]

def binaryOperator? (tokens : Tokens) : Option (String × Precedence) :=
  binaryOperators.find? fun entry => sees entry.1 tokens

def seesAssign (tokens : Tokens) : Bool := sees "=" tokens && !sees "=>" tokens

def nextPrecedence (tokens : Tokens) : Precedence :=
  match binaryOperator? tokens with
  | some (_, precedence) => precedence
  | none =>
      if seesAssign tokens then .assign
      else if sees ".." tokens then .range
      else if seesWord "as" tokens then .cast
      else .jump

def rightOperand (grammar : Grammar) (structs : Bool) (precedence : Precedence) : Reader Tree := do
  let first ← grammar (.unary structs)
  untilDone (fun right => do
    let before ← ahead
    let next := nextPrecedence before
    if precedence.rank < next.rank || (next = precedence && precedence = .assign) then
      let right ← grammar (.operators right structs next)
      if (← ahead).length == before.length then return .inr right else return .inl right
    else return .inr right) first

def endsRange (structs : Bool) (tokens : Tokens) : Bool :=
  tokens.isEmpty || (sees "." tokens && !sees ".." tokens)
    || (!structs && seesGroup .brace tokens) || seesWord "as" tokens
    || [",", ";", "?", "=>", "=", "+", "/", "%", "^", ">", "<=", "!=", "-=", "*=", "&=", "|=",
        "<<="].any fun marks => sees marks tokens

def rangeEnd (grammar : Grammar) (structs : Bool) : Reader (List Tree) := do
  let closed ← rangeSign false
  if !closed && endsRange structs (← ahead) then return []
  else return [← rightOperand grammar structs .range]

/-- A cast cannot be called, indexed or looked into. -/
def seesAfterCast (tokens : Tokens) : Bool :=
  (sees "." tokens && !sees ".." tokens) || sees "?" tokens
    || seesGroup .bracket tokens || seesGroup .parenthesis tokens

/-- Continues an expression by operators that bind at least as tightly as `base`.
Comparisons cannot be chained, and a range ends the expression. -/
def operatorsRule (grammar : Grammar) (left : Tree) (structs : Bool) (base : Precedence) :
    Reader Tree :=
  untilDone (fun left => do
    let tokens ← ahead
    if hasShape .range left then return .inr left
    match binaryOperator? tokens with
    | some (text, precedence) =>
        if precedence.rank < base.rank then return .inr left
        if precedence = .compare && hasShape .comparison left then failure
        marks text
        let right ← rightOperand grammar structs precedence
        let shape := if precedence = .compare then .comparison else .joined
        return .inl (shaped shape [left, right])
    | none =>
        if base.rank ≤ Precedence.assign.rank && seesAssign tokens then
          marks "="
          let right ← rightOperand grammar structs .assign
          return .inl (shaped .joined [left, right])
        else if base.rank ≤ Precedence.range.rank && sees ".." tokens then
          return .inl (shaped .range (left :: (← rangeEnd grammar structs)))
        else if base.rank ≤ Precedence.cast.rank && seesWord "as" tokens then
          word "as"
          let type ← grammar (.type false)
          if seesAfterCast (← ahead) then failure
          return .inl (shaped .joined [left, type])
        else return .inr left) left

def expressionRule (grammar : Grammar) (structs : Bool) : Reader Tree := do
  let left ← grammar (.unary structs)
  grammar (.operators left structs .jump)

/-! Calls, members and indices -/

def callArguments (grammar : Grammar) : Reader (List Tree) :=
  within .parenthesis (commaList (grammar (.expression true)))

/-- Two or more numbered members that were read as one decimal: `0.1`, or `0.` in
front of another member. The flag tells whether a member must follow. -/
def decimalMembers? (text : String) : Option Bool :=
  let parts := Text.split '.' text
  match parts.reverse with
  | "" :: front =>
      if front.all isMemberNumber then some true else none
  | _ => if parts.all isMemberNumber then some false else none

def memberAccess (grammar : Grammar) (base : Tree) : Reader Tree := do
  let again ← (do
    match ← ahead with
    | .literal .decimal text _ :: _ =>
        drop 1
        match decimalMembers? text with
        | some again => return again
        | none => failure
    | _ => return true)
  if !again then return operand [base]
  else if ← optionalWord "await" then return operand [base]
  else
    let found ← member
    let turbofish ← (do
      if found.isSome && sees "::" (← ahead) then
        marks "::"
        return some (← angledArguments grammar)
      else return none)
    let called ← test (seesGroup .parenthesis)
    if found.isSome && (turbofish.isSome || called) then
      return operand (base :: turbofish.getD [] ++ (← callArguments grammar))
    else return operand [base]

def trailers (grammar : Grammar) (start : Tree) : Reader Tree :=
  untilDone (fun base => do
    let tokens ← ahead
    if seesGroup .parenthesis tokens then
      return .inl (operand (base :: (← callArguments grammar)))
    else if sees "." tokens && !sees ".." tokens && !hasShape .range base then
      marks "."
      return .inl (← memberAccess grammar base)
    else if seesGroup .bracket tokens then
      return .inl (operand [base, ← within .bracket (grammar (.expression true))])
    else if sees "?" tokens && !hasShape .range base then
      marks "?"
      return .inl (operand [base])
    else return .inr base) start

/-! Blocks -/

def blockExpression (children : List Tree) : Tree := shaped .block children

/-- Attributes at the start of a block come before what stands in front of it. -/
def blockWith (grammar : Grammar) (front : List Tree) : Reader Tree :=
  within .brace do
    let attributes ← innerTrees grammar
    return blockExpression (attributes ++ front ++ [← grammar .statements])

def ifExpression (grammar : Grammar) : Reader Tree :=
  untilDone (fun read => do
    word "if"
    let condition ← grammar (.expression false)
    let body ← plainBlock grammar
    let read := read ++ [condition, body]
    if !(← optionalWord "else") then return .inr (blockExpression read)
    if ← test (seesWord "if") then return .inl read
    else return .inr (blockExpression (read ++ [← plainBlock grammar]))) []

def whileExpression (grammar : Grammar) : Reader Tree := do
  word "while"
  let condition ← grammar (.expression false)
  blockWith grammar [condition]

def forExpression (grammar : Grammar) : Reader Tree := do
  word "for"
  let pattern ← grammar .alternatives
  word "in"
  let source ← grammar (.expression false)
  blockWith grammar [pattern, source]

def loopExpression (grammar : Grammar) : Reader Tree := do
  word "loop"
  blockWith grammar []

/-- One arm of a match. Its comma may be left out behind a block and at the end. -/
def arm (grammar : Grammar) : Reader Tree := do
  let attributes ← outerTrees grammar
  let pattern ← grammar .alternatives
  let guard ← (do
    if ← optionalWord "if" then return [← grammar (.expression true)]
    else return [])
  marks "=>"
  let body ← grammar .bareExpression
  if !hasShape .block body && !(← atEnd) then marks ","
  else
    let _ ← optionalMarks ","
  return .parts (attributes ++ [pattern] ++ guard ++ [body])

def matchExpression (grammar : Grammar) : Reader Tree := do
  word "match"
  let source ← grammar (.expression false)
  within .brace do
    let attributes ← innerTrees grammar
    let arms ← many (fun tokens => !tokens.isEmpty) (arm grammar)
    return blockExpression (attributes ++ [source] ++ arms)

def labeledExpression (grammar : Grammar) : Reader Tree := do
  lifetime
  marks ":"
  let tokens ← ahead
  if seesWord "while" tokens then whileExpression grammar
  else if seesWord "for" tokens then forExpression grammar
  else if seesWord "loop" tokens then loopExpression grammar
  else blockWith grammar []

/-! Closures and jumps -/

/-- The attributes of an argument without a type take the place of those of its pattern. -/
def closureArgument (grammar : Grammar) : Reader Tree := do
  let attributes ← outerTrees grammar
  let pattern ← grammar .pattern
  if ← optionalMarks ":" then
    return .parts (attributes ++ [pattern, ← grammar (.type true)])
  else return replaceAttributes attributes pattern

def closure (grammar : Grammar) (structs : Bool) : Reader Tree := do
  let lifetimes ← optionalBoundLifetimes grammar
  let _ ← optionalWord "const"
  let _ ← optionalWord "static"
  let _ ← optionalWord "async"
  let _ ← optionalWord "move"
  marks "|"
  let inputs ← separatedUntil (sees "|") "," (closureArgument grammar)
  marks "|"
  let front := lifetimes.getD [] ++ inputs
  if ← optionalMarks "->" then
    let output ← grammar (.type true)
    return operand (front ++ [output, ← plainBlock grammar])
  else return operand (front ++ [← grammar (.expression structs)])

def canBegin (tokens : Tokens) : Bool :=
  (seesAnyWord tokens && !seesWord "as" tokens) || seesAnyGroup tokens || seesLiteral tokens
    || (sees "!" tokens && !sees "!=" tokens)
    || (sees "-" tokens && !sees "-=" tokens && !sees "->" tokens)
    || (sees "*" tokens && !sees "*=" tokens)
    || (sees "|" tokens && !sees "|=" tokens)
    || (sees "&" tokens && !sees "&=" tokens)
    || sees ".." tokens
    || (sees "<" tokens && !sees "<=" tokens && !sees "<<=" tokens)
    || sees "::" tokens || seesLifetime tokens || sees "#" tokens

def jumpValue (grammar : Grammar) : Reader (List Tree) := do
  if canBegin (← ahead) then return [← grammar (.expression true)] else return []

def breakExpression (grammar : Grammar) (structs : Bool) : Reader Tree := do
  word "break"
  if ← test seesLifetime then
    lifetime
    if ← test (sees ":") then failure
  if !structs && seesGroup .brace (← ahead) then return operand []
  else return operand (← jumpValue grammar)

/-! Operands -/

def fieldValue (grammar : Grammar) : Reader Tree := do
  let attributes ← outerTrees grammar
  let found ← member
  let colon ← test (sees ":")
  match found, colon with
  | some name, false => return .parts (attributes ++ [.path false [name] .none []])
  | _, _ =>
      marks ":"
      return .parts (attributes ++ [← grammar (.expression true)])

def fieldValues (grammar : Grammar) : Reader (List Tree) :=
  untilDone (fun read => do
    if ← atEnd then return .inr read.reverse
    if ← optionalMarks ".." then
      if ← atEnd then return .inr read.reverse
      return .inr ((← grammar (.expression true)) :: read).reverse
    let read := (← fieldValue grammar) :: read
    if ← atEnd then return .inr read.reverse
    marks ","
    return .inl read) []

def pathOperand (grammar : Grammar) (structs : Bool) : Reader Tree := do
  let (qualifier, found) ← qualifiedPath grammar true
  let tokens ← ahead
  let start := qualifier.toList ++ [found.toTree]
  if qualifier.isNone && sees "!" tokens && !sees "!=" tokens && found.isPlain then
    let (delimiter, call) ← macroCall found.toTree
    return shaped (if delimiter = .brace then .bracedCall else .operand) [call]
  else if structs && seesGroup .brace tokens then
    return operand (start ++ (← within .brace (fieldValues grammar)))
  else return operand start

def arrayContent (grammar : Grammar) : Reader Tree := do
  if ← atEnd then return operand []
  let first ← grammar (.expression true)
  if ← optionalMarks ";" then return operand [first, ← grammar (.expression true)]
  else if ← atEnd then return operand [first]
  else
    marks ","
    return operand (first :: (← commaList (grammar (.expression true))))

def letExpression (grammar : Grammar) (structs : Bool) : Reader Tree := do
  word "let"
  let pattern ← grammar .alternatives
  marks "="
  let left ← grammar (.unary structs)
  return operand [pattern, ← grammar (.operators left structs .compare)]

def seesAsyncBlock (tokens : Tokens) : Bool :=
  let second := behind tokens
  seesWord "async" tokens
    && (seesGroup .brace second || (seesWord "move" second && seesGroup .brace (behindTwo tokens)))

def seesClosure (tokens : Tokens) : Bool :=
  let second := behind tokens
  sees "|" tokens || seesWord "move" tokens || (seesWord "for" tokens && seesGenerics second)
    || (seesWord "const" tokens && !seesGroup .brace second) || seesWord "static" tokens
    || (seesWord "async" tokens && (sees "|" second || seesWord "move" second))

def seesPathOperand (tokens : Tokens) : Bool :=
  let second := behind tokens
  seesPathWord tokens || sees "::" tokens || sees "<" tokens
    || (seesWord "try" tokens && (sees "!" second || sees "::" second))

def keywordOperand (grammar : Grammar) (structs : Bool) : Reader Tree := do
  let tokens ← ahead
  if seesWord "break" tokens then breakExpression grammar structs
  else if seesWord "continue" tokens then
    word "continue"
    if ← test seesLifetime then lifetime
    return operand []
  else if seesOneOf ["return", "yield"] tokens then
    drop 1
    return operand (← jumpValue grammar)
  else if seesWord "become" tokens then
    word "become"
    let _ ← grammar (.expression true)
    return shaped .unread []
  else if seesWord "let" tokens then letExpression grammar structs
  else if seesWord "if" tokens then ifExpression grammar
  else if seesWord "while" tokens then whileExpression grammar
  else if seesWord "for" tokens then forExpression grammar
  else if seesWord "loop" tokens then loopExpression grammar
  else if seesWord "match" tokens then matchExpression grammar
  else if seesOneOf ["unsafe", "const"] tokens then
    drop 1
    blockWith grammar []
  else if seesWord "_" tokens then
    word "_"
    return operand []
  else failure

def atom (grammar : Grammar) (structs : Bool) : Reader Tree := do
  let tokens ← ahead
  if seesLiteral tokens then
    literal
    return operand []
  else if seesAsyncBlock tokens then
    word "async"
    let _ ← optionalWord "move"
    return operand [← plainBlock grammar]
  else if seesWord "try" tokens && seesGroup .brace (behind tokens) then
    word "try"
    return blockExpression [← plainBlock grammar]
  else if seesClosure tokens then closure grammar structs
  else if seesBuiltinCall tokens then
    builtinCall
    return shaped .unread []
  else if seesPathOperand tokens then pathOperand grammar structs
  else if seesGroup .parenthesis tokens then
    return operand (← within .parenthesis (commaList (grammar (.expression true))))
  else if seesGroup .bracket tokens then within .bracket (arrayContent grammar)
  else if seesGroup .brace tokens then blockWith grammar []
  else if sees ".." tokens then return shaped .range (← rangeEnd grammar structs)
  else if seesLifetime tokens then labeledExpression grammar
  else keywordOperand grammar structs

/-- An atom with its trailers. Attributes cannot stand in front of a range. -/
def trailed (grammar : Grammar) (structs : Bool) (attributes : List Tree) : Reader Tree := do
  let found ← trailers grammar (← atom grammar structs)
  if !attributes.isEmpty && hasShape .range found then failure
  return withAttributes attributes found

def unaryRule (grammar : Grammar) (structs : Bool) : Reader Tree := do
  let attributes ← outerTrees grammar
  let tokens ← ahead
  if sees "&" tokens then
    marks "&"
    let raw ← test fun tokens =>
      seesWord "raw" tokens && seesOneOf ["mut", "const"] (behind tokens)
    if raw then drop 1
    let mutable ← optionalWord "mut"
    if raw && !mutable then word "const"
    return operand (attributes ++ [← grammar (.unary structs)])
  else if sees "*" tokens || sees "!" tokens || sees "-" tokens then
    drop 1
    return operand (attributes ++ [← grammar (.unary structs)])
  else trailed grammar structs attributes

/-! Where a statement could end -/

def blockLike (grammar : Grammar) : Reader (Option Tree) := do
  let tokens ← ahead
  let second := behind tokens
  if seesWord "if" tokens then return some (← ifExpression grammar)
  else if seesWord "while" tokens then return some (← whileExpression grammar)
  else if seesWord "for" tokens && !seesGenerics second then return some (← forExpression grammar)
  else if seesWord "loop" tokens then return some (← loopExpression grammar)
  else if seesWord "match" tokens then return some (← matchExpression grammar)
  else if seesWord "try" tokens && seesGroup .brace second then
    word "try"
    return some (blockExpression [← plainBlock grammar])
  else if seesWord "unsafe" tokens || (seesWord "const" tokens && seesGroup .brace second) then
    drop 1
    return some (← blockWith grammar [])
  else if seesGroup .brace tokens then return some (← blockWith grammar [])
  else if seesLifetime tokens then return some (← labeledExpression grammar)
  else return none

/-- An expression that ends behind a block, unless a member of it is asked for. -/
def bareExpressionRule (grammar : Grammar) : Reader Tree := do
  let attributes ← outerTrees grammar
  match ← blockLike grammar with
  | some block =>
      let tokens ← ahead
      if (sees "." tokens && !sees ".." tokens) || sees "?" tokens then
        let found ← trailers grammar block
        grammar (.operators (withAttributes attributes found) true .jump)
      else return withAttributes attributes block
  | none =>
      let found ← grammar (.unary true)
      grammar (.operators (withAttributes attributes found) true .jump)

def expressionsRule (grammar : Grammar) : Reader Tree := do
  return .parts (← commaList (grammar (.expression true)))

end HttpBinding.Source
