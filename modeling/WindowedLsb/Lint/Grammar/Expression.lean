import WindowedLsb.Lint.Grammar.Pattern

/-!
Expressions: operands with what follows them, operators by how tightly they bind, and the blocks,
loops and matches that are expressions too.
-/

namespace WindowedLsb.Lint.Grammar

open WindowedLsb.Lint.Parser

/-! ## Operators -/

/-- Operators between two operands; of those that start alike the longer comes first. -/
def binaryOperators : List (String × Binding) :=
  [("+=", .assign), ("-=", .assign), ("*=", .assign), ("/=", .assign), ("%=", .assign),
    ("^=", .assign), ("&=", .assign), ("|=", .assign), ("<<=", .assign), (">>=", .assign),
    ("&&", .and), ("||", .or), ("<<", .shift), (">>", .shift), ("==", .comparison),
    ("<=", .comparison), ("!=", .comparison), (">=", .comparison), ("+", .sum), ("-", .sum),
    ("*", .product), ("/", .product), ("%", .product), ("^", .bitXor), ("&", .bitAnd),
    ("|", .bitOr), ("<", .comparison), (">", .comparison)]

def nextOperator : Parser (Option (String × Binding)) := do
  let ts := (← get).rest
  return binaryOperators.find? fun (marks, _) => Token.areMarks marks.toList ts

/-- Whether an assignment follows, and not the arrow of a match arm. -/
def seesAssign : Parser Bool := do return (← sees "=") && !(← sees "=>")

/-- How tightly what comes next binds to the operand in front of it. -/
def nextBinding : Parser Binding := do
  match ← nextOperator with
  | some (_, b) => return b
  | none =>
      if ← seesAssign then return .assign
      else if ← sees ".." then return .range
      else if ← seesWord "as" then return .cast
      else return .any

def startsExpression : Parser Bool := do
  return ((← ahead Token.isAnyWord) && !(← seesWord "as")) || (← seesGroup .paren) ||
    (← seesGroup .bracket) || (← seesGroup .brace) || (← ahead Token.isLiteral) ||
    ((← sees "!") && !(← sees "!=")) ||
    ((← sees "-") && !(← sees "-=") && !(← sees "->")) ||
    ((← sees "*") && !(← sees "*=")) || ((← sees "|") && !(← sees "|=")) ||
    ((← sees "&") && !(← sees "&=")) || (← sees "..") ||
    ((← sees "<") && !(← sees "<=") && !(← sees "<<=")) || (← sees "::") || (← seesLifetime) ||
    (← sees "#")

/-! ## Blocks -/

/-- A block that takes no attributes. -/
def block (g : Grammar) : Parser (List Node) := group .brace g.statements

def body (g : Grammar) : Parser (Attributes × List Node) := enclosed g g.statements

def wordAndBody (g : Grammar) (w : String) : Parser Expression := do
  expectWord w
  return .block (← bodyBlock g)

def ifRounds (g : Grammar) : (steps : Nat) → Parser (List Node)
  | 0 => fail
  | steps + 1 => do
      expectWord "if"
      let condition ← g.expression false
      let positive ← block g
      let nodes := condition.nodes ++ positive
      if ← acceptWord "else" then
        if ← seesWord "if" then return nodes ++ (← ifRounds g steps)
        else return nodes ++ (← block g)
      else return nodes

def ifExpression (g : Grammar) : Parser Expression := do
  return .block (← ifRounds g (← maxRounds))

def whileExpression (g : Grammar) : Parser Expression := do
  expectWord "while"
  let condition ← g.expression false
  let (attributes, nodes) ← body g
  return .block (attributes.nodes ++ condition.nodes ++ nodes)

def forExpression (g : Grammar) : Parser Expression := do
  expectWord "for"
  let p ← nestedPattern g
  expectWord "in"
  let source ← g.expression false
  let (attributes, nodes) ← body g
  return .block (attributes.nodes ++ p.nodes ++ source.nodes ++ nodes)

def labelledExpression (g : Grammar) : Parser Expression := do
  if ← seesWord "while" then whileExpression g
  else if ← seesWord "for" then forExpression g
  else if ← seesWord "loop" then wordAndBody g "loop"
  else if ← seesGroup .brace then return .block (← bodyBlock g)
  else fail

def tryExpression (g : Grammar) : Parser Expression := do
  expectWord "try"
  return .block (← block g)

/-- A block that is run later. -/
def asyncExpression (g : Grammar) : Parser Expression := do
  expectWord "async"
  let _ ← acceptWord "move"
  return .plain (← block g) true

/-! ## Paths, macros and structs -/

/-- A field of a struct with its value, or the struct that gives the fields left out. -/
def fieldValue (g : Grammar) : Parser (List Node × Bool) := do
  if ← accept ".." then
    if ← atEnd then return ([], true) else return ((← g.expression true).nodes, true)
  else
    let attributes ← outerAttributes g
    let named ← member
    if (← sees ":") || !named then
      expect ":"
      return (attributes.nodes ++ (← g.expression true).nodes, false)
    else return (attributes.nodes, false)

/-- A path, or the macro call or struct that it starts. -/
def pathExpression (g : Grammar) (allowStruct : Bool) : Parser Expression := do
  let (qualified, p) ← qualifiedPath g true
  if !qualified && p.bare && (← seesBang) then
    expect "!"
    let (inBraces, arguments) ← macroArguments
    return { Expression.plain (p.nodes ++ arguments) inBraces with
      form := if inBraces then .braceMacro else .other }
  else if allowStruct && (← seesGroup .brace) then
    let fields ← group .brace (listedUntil (fieldValue g))
    return .plain (p.nodes ++ fields.flatten) true
  else return .plain p.nodes false

/-! ## Closures and jumps -/

/-- A parameter of a closure. One that is kept as tokens only takes no attributes without a type. -/
def closureParameter (g : Grammar) : Parser (List Node) := do
  let attributes ← outerAttributes g
  let p ← g.pattern
  if ← accept ":" then return attributes.nodes ++ p.nodes ++ (← g.type true).nodes
  else if p.form = .verbatim then return p.nodes
  else return attributes.nodes ++ p.nodes

def closure (g : Grammar) (allowStruct : Bool) : Parser Expression := do
  let parameters ← forParameters g
  let _ ← acceptWord "const"
  let _ ← acceptWord "static"
  let _ ← acceptWord "async"
  let _ ← acceptWord "move"
  expect "|"
  let inputs ← separated "," (sees "|") (closureParameter g)
  expect "|"
  let head := parameters.getD [] ++ inputs.flatten
  if ← accept "->" then
    let type ← g.type true
    return .plain (head ++ type.nodes ++ (← block g)) true
  else
    let e ← g.expression allowStruct
    return .plain (head ++ e.nodes) e.endsInBrace

/-- What a jump takes with it, if anything. A brace is part of it only if `allowBrace`. -/
def jumpValue (g : Grammar) (allowBrace : Bool) : Parser Expression := do
  if (← startsExpression) && (allowBrace || !(← seesGroup .brace)) then
    let e ← g.expression true
    return .plain e.nodes e.endsInBrace
  else return .plain [] false

/-- A jump out of a loop. A labelled loop as its value must stand in parentheses. -/
def breakExpression (g : Grammar) (allowStruct : Bool) : Parser Expression := do
  expectWord "break"
  if (← seesLifetime) && (← ahead fun ts => Token.areMarks [':'] (ts.drop 1)) then
    let line := (← get).line
    let _ ← g.expression true
    failAt line
  else
    let _ ← acceptLifetime
    jumpValue g allowStruct

def letExpression (g : Grammar) (allowStruct : Bool) : Parser Expression := do
  expectWord "let"
  let p ← nestedPattern g
  expect "="
  let operand ← g.unary allowStruct
  let e ← g.operators operand allowStruct .comparison
  return .plain (p.nodes ++ e.nodes) e.endsInBrace

/-! ## Behind an operand -/

/-- The places of nested tuples that are written like one number with points. -/
def arePlaces (written : List Char) : Bool :=
  let isPlace (part : List Char) : Bool :=
    match part with
    | [] => false
    | c :: _ =>
        let digits := part.filter Char.isDigit
        c.isDigit && part.all (fun c => c.isDigit || c == '_') &&
          digits.foldl (fun n c => 10 * n + (c.toNat - '0'.toNat)) 0 < twoPow 32
  (written.splitOn '.').all isPlace

/-- Places of nested tuples behind a point. Says whether a further member follows, which is so if
they end in a point. -/
def nestedPlaces : Parser Bool := do
  match (← get).rest with
  | .literal (.float written) line :: _ =>
      let open_ := written.getLast? == some '.'
      if arePlaces (if open_ then written.dropLast else written) then
        skip 1
        return open_
      else failAt line
  | _ => return true

/-- Behind the member that the given tokens start with: its call, if it is a method. -/
def callOf (g : Grammar) (e : Expression) (arguments : Option (List Node)) :
    List Token → Parser Expression
  | .word method line :: _ => do
      if arguments.isSome || (← seesGroup .paren) then
        let values ← group .paren (listed (g.expression true))
        let children := e.nodes ++ arguments.getD [] ++ values.flatMap Expression.nodes
        return { Expression.plain [.call method line children] false with attributePlace := .inCall }
      else return .plain e.nodes false
  | _ => return .plain e.nodes false

def memberOf (g : Grammar) (e : Expression) : Parser Expression := do
  if ← acceptWord "await" then return .plain e.nodes false
  else
    let start := (← get).rest
    let named ← member
    let arguments ← if named && (← sees "::") then pure (some (← turbofish g)) else pure none
    callOf g e arguments start

/-- Calls, members, indices and question marks behind an operand. -/
def trailers (g : Grammar) : (steps : Nat) → Expression → Parser Expression
  | 0, e => return e
  | steps + 1, e => do
      if ← seesGroup .paren then
        let values ← group .paren (listed (g.expression true))
        trailers g steps (.plain (e.nodes ++ values.flatMap Expression.nodes) false)
      else if (← sees ".") && !(← sees "..") && e.form ≠ .range then
        expect "."
        if ← nestedPlaces then trailers g steps (← memberOf g e)
        else trailers g steps (.plain e.nodes false)
      else if ← seesGroup .bracket then
        let index ← group .bracket (g.expression true)
        trailers g steps (.plain (e.nodes ++ index.nodes) false)
      else if (← sees "?") && e.form ≠ .range then
        expect "?"
        trailers g steps (.plain e.nodes false)
      else return e

def withTrailers (g : Grammar) (e : Expression) : Parser Expression := do
  trailers g (← maxRounds) e

/-! ## Operands and operators

An operand needs the expressions behind the dots of a range, and these need operands; the two meet
in the parsers that follow. -/

/-- Whether a range that excludes its end has none. -/
def endsRange (allowStruct : Bool) : Parser Bool := do
  return (← atEnd) || (← sees ",") || (← sees ";") || ((← sees ".") && !(← sees "..")) ||
    (← sees "?") || (← sees "=>") || (!allowStruct && (← seesGroup .brace)) || (← sees "=") ||
    (← sees "+") || (← sees "/") || (← sees "%") || (← sees "^") || (← sees ">") ||
    (← sees "<=") || (← sees "!=") || (← sees "-=") || (← sees "*=") || (← sees "&=") ||
    (← sees "|=") || (← sees "<<=") || (← seesWord "as")

def rightRounds (g : Grammar) (allowStruct : Bool) (binding : Binding) :
    (steps : Nat) → Expression → Parser Expression
  | 0, e => return e
  | steps + 1, e => do
      let next ← nextBinding
      if binding < next ∨ (next = binding ∧ binding = .assign) then
        if e.form = .range then return e
        else rightRounds g allowStruct binding steps (← g.operators e allowStruct next)
      else return e

def rightOperand (g : Grammar) (allowStruct : Bool) (binding : Binding) : Parser Expression := do
  let e ← g.unary allowStruct
  rightRounds g allowStruct binding (← maxRounds) e

def rangeRest (g : Grammar) (start : List Node) (allowStruct : Bool) : Parser Expression := do
  let closed ← rangeDots false
  if !closed && (← endsRange allowStruct) then
    return { Expression.plain start false with form := .range }
  else
    let stop ← rightOperand g allowStruct .range
    return { Expression.plain (start ++ stop.nodes) stop.endsInBrace with form := .range }

/-- A list of values, or one value and how often it is repeated. -/
def arrayContent (g : Grammar) : Parser (List Node) := do
  if ← atEnd then return []
  else
    let first ← g.expression true
    if ← accept ";" then return first.nodes ++ (← g.expression true).nodes
    else if ← atEnd then return first.nodes
    else
      expect ","
      let rest ← listed (g.expression true)
      return first.nodes ++ rest.flatMap Expression.nodes

def startsClosure : Parser Bool := do
  let second (test : List Token → Bool) : Parser Bool := ahead fun ts => test (ts.drop 1)
  return (← sees "|") || (← seesWord "move") ||
    ((← seesWord "for") && (← second startsParameters)) ||
    ((← seesWord "const") && !(← second (Token.isGroup .brace))) || (← seesWord "static") ||
    ((← seesWord "async") &&
      ((← second (Token.areMarks ['|'])) || (← second (Token.isWord "move"))))

def startsPathExpression : Parser Bool := do
  return (← startsPathType) ||
    ((← seesWord "try") && (← ahead fun ts =>
      Token.areMarks ['!'] (ts.drop 1) || Token.areMarks [':', ':'] (ts.drop 1)))

/-- Whether a block comes behind the next word, possibly with one word more between. -/
def seesBlockBehind (between : Option String) : Parser Bool :=
  ahead fun ts => Token.isGroup .brace (ts.drop 1) ||
    match between with
    | some w => Token.isWord w (ts.drop 1) && Token.isGroup .brace (ts.drop 2)
    | none => false

/-- One arm of a match: patterns, a condition and what it gives. -/
def arm (g : Grammar) : Parser (List Node) := do
  let attributes ← outerAttributes g
  let p ← nestedPattern g
  let guard ← if ← acceptWord "if" then pure (← g.expression true).nodes else pure []
  expect "=>"
  let e ← g.early
  if e.form ≠ .block && !(← atEnd) then expect ","
  else
    let _ ← accept ","
  return attributes.nodes ++ p.nodes ++ guard ++ e.nodes

def matchExpression (g : Grammar) : Parser Expression := do
  expectWord "match"
  let scrutinee ← g.expression false
  let (attributes, arms) ← enclosed g (untilEnd (arm g))
  return .block (attributes.nodes ++ scrutinee.nodes ++ arms.flatten)

/-- A call that takes the place of the caller's own, which is kept as tokens only. -/
def becomeExpression (g : Grammar) : Parser Expression := do
  expectWord "become"
  let tokens := (← get).rest
  let _ ← g.expression true
  return .verbatim (← tookBraces tokens)

/-- An operand without what stands in front of it or behind it. -/
def atom (g : Grammar) (allowStruct : Bool) : Parser Expression := do
  if ← ahead Token.isLiteral then
    literal
    return .plain [] false
  else if (← seesWord "async") && (← seesBlockBehind (some "move")) then asyncExpression g
  else if (← seesWord "try") && (← seesBlockBehind none) then tryExpression g
  else if ← startsClosure then closure g allowStruct
  else if ← seesBuiltin then
    builtin
    return .verbatim false
  else if ← startsPathExpression then pathExpression g allowStruct
  else if ← seesGroup .paren then
    let values ← group .paren (listed (g.expression true))
    return .plain (values.flatMap Expression.nodes) false
  else if ← seesWord "break" then breakExpression g allowStruct
  else if ← acceptWord "continue" then
    let _ ← acceptLifetime
    return .plain [] false
  else if (← seesWord "return") || (← seesWord "yield") then
    skip 1
    jumpValue g true
  else if ← seesWord "become" then becomeExpression g
  else if ← seesGroup .bracket then return .plain (← group .bracket (arrayContent g)) false
  else if ← seesWord "let" then letExpression g allowStruct
  else if ← seesWord "if" then ifExpression g
  else if ← seesWord "while" then whileExpression g
  else if ← seesWord "for" then forExpression g
  else if ← seesWord "loop" then wordAndBody g "loop"
  else if ← seesWord "match" then matchExpression g
  else if ← seesWord "unsafe" then wordAndBody g "unsafe"
  else if ← seesWord "const" then wordAndBody g "const"
  else if ← seesGroup .brace then return .block (← bodyBlock g)
  else if ← sees ".." then rangeRest g [] allowStruct
  else if ← acceptWord "_" then return .plain [] false
  else if ← seesLifetime then
    acceptLabel
    labelledExpression g
  else fail

/-- An operand with what stands behind it. A range without a start takes no attributes. -/
def operand (g : Grammar) (allowStruct : Bool) (attributes : Option Attributes) :
    Parser Expression := do
  let line := (← get).line
  let e ← withTrailers g (← atom g allowStruct)
  match attributes with
  | none => return e
  | some as => if e.form = .range then failAt line else return e.withAttributes as

def attributesInFront (g : Grammar) : Parser (Option Attributes) := do
  if ← sees "#" then return some (← outerAttributes g) else return none

/-- An operand with the operators in front of it. -/
def unaryPhrase (g : Grammar) (allowStruct : Bool) : Parser Expression := do
  let attributes ← attributesInFront g
  let nodes := (attributes.getD .none).nodes
  if ← accept "&" then
    let raw ← ahead fun ts => Token.isWord "raw" ts &&
      (Token.isWord "mut" (ts.drop 1) || Token.isWord "const" (ts.drop 1))
    if raw then skip 1
    let mutable ← acceptWord "mut"
    if raw && !mutable then expectWord "const"
    let e ← g.unary allowStruct
    return .plain (nodes ++ e.nodes) e.endsInBrace
  else if (← sees "*") || (← sees "!") || (← sees "-") then
    skip 1
    let e ← g.unary allowStruct
    return .plain (nodes ++ e.nodes) e.endsInBrace
  else operand g allowStruct attributes

/-- Nothing that binds like a member or call may follow a conversion. -/
def endCast : Parser Unit := do
  if ((← sees ".") && !(← sees "..")) || (← sees "?") || (← seesGroup .bracket) ||
      (← seesGroup .paren) then
    fail

/-- Operators behind an operand, as long as they bind at least as tightly as `least`. A range is no
left operand, and comparisons are not chained. -/
def operatorRounds (g : Grammar) (allowStruct : Bool) (least : Binding) :
    (steps : Nat) → Expression → Parser Expression
  | 0, e => return e
  | steps + 1, e => do
      if e.form = .range then return e
      match ← nextOperator with
      | some (marks, binding) =>
          if binding < least then return e
          if binding = .comparison ∧ e.form = .comparison then fail
          expect marks
          let right ← rightOperand g allowStruct binding
          let form := if binding = .comparison then .comparison else .other
          operatorRounds g allowStruct least steps
            ⟨e.nodes ++ right.nodes, form, right.endsInBrace, e.attributePlace⟩
      | none =>
          if least ≤ .assign ∧ (← seesAssign) then
            expect "="
            let right ← rightOperand g allowStruct .assign
            operatorRounds g allowStruct least steps
              ⟨e.nodes ++ right.nodes, .other, right.endsInBrace, e.attributePlace⟩
          else if least ≤ .range ∧ (← sees "..") then
            operatorRounds g allowStruct least steps (← rangeRest g e.nodes allowStruct)
          else if ← allowing (least ≤ .cast) (acceptWord "as") then
            let type ← g.type false
            endCast
            operatorRounds g allowStruct least steps
              ⟨e.nodes ++ type.nodes, .other, type.endsInBrace, e.attributePlace⟩
          else return e

def operatorsPhrase (g : Grammar) (e : Expression) (allowStruct : Bool) (least : Binding) :
    Parser Expression := do
  operatorRounds g allowStruct least (← maxRounds) e

/-! ## Whole expressions -/

/-- An expression. Where a brace would start the body of a loop or condition, no struct is read. -/
def expressionPhrase (g : Grammar) (allowStruct : Bool) : Parser Expression := do
  let e ← unaryPhrase g allowStruct
  operatorsPhrase g e allowStruct .any

/-- A loop, condition, match or block, which is complete as a statement. -/
def completeExpression (g : Grammar) : Parser (Option Expression) := do
  if ← seesWord "if" then return some (← ifExpression g)
  else if ← seesWord "while" then return some (← whileExpression g)
  else if (← seesWord "for") && !(← ahead fun ts => startsParameters (ts.drop 1)) then
    return some (← forExpression g)
  else if ← seesWord "loop" then return some (← wordAndBody g "loop")
  else if ← seesWord "match" then return some (← matchExpression g)
  else if (← seesWord "try") && (← seesBlockBehind none) then return some (← tryExpression g)
  else if ← seesWord "unsafe" then return some (← wordAndBody g "unsafe")
  else if (← seesWord "const") && (← seesBlockBehind none) then
    return some (← wordAndBody g "const")
  else if ← seesGroup .brace then return some (.block (← bodyBlock g))
  else if ← seesLifetime then
    acceptLabel
    return some (← labelledExpression g)
  else return none

/-- An expression at the start of a statement or behind the arrow of an arm. One that is complete as
a statement goes on only with a member or a question mark. -/
def earlyPhrase (g : Grammar) : Parser Expression := do
  let attributes ← outerAttributes g
  match ← completeExpression g with
  | some e =>
      if ((← sees ".") && !(← sees "..")) || (← sees "?") then
        let e ← withTrailers g e
        operatorsPhrase g (e.withAttributes attributes) true .any
      else return e.withAttributes attributes
  | none =>
      let e ← unaryPhrase g true
      operatorsPhrase g (e.withAttributes attributes) true .any

end WindowedLsb.Lint.Grammar
