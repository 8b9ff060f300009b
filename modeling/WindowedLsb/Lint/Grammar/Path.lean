import WindowedLsb.Lint.Grammar.Attribute

/-!
Paths, their generic arguments, and the generic parameters and bounds that items declare. Only the
expressions nested in them reach the outline.
-/

namespace WindowedLsb.Lint.Grammar

open WindowedLsb.Lint.Parser

/-! ## Blocks -/

/-- A block whose first tokens may be attributes of what it is the body of. -/
def bodyBlock (g : Grammar) : Parser (List Node) := do
  let (attributes, nodes) ← enclosed g g.statements
  return attributes.nodes ++ nodes

def acceptLabel : Parser Unit := do
  if ← acceptLifetime then expect ":"

/-- A constant as a generic argument: a literal, a name or a block. -/
def constArgument (g : Grammar) : Parser (List Node) := do
  if ← ahead Token.isLiteral then
    literal
    return []
  else if ← seesName then
    let _ ← name
    return []
  else bodyBlock g

/-! ## Arguments -/

/-- A type whose form does not matter to what is around it. -/
def plainType (nodes : List Node) : TypePhrase := ⟨nodes, .other, false⟩

/-- The type behind an arrow, or that of no value. -/
def returnType (g : Grammar) (allowPlus : Bool) : Parser TypePhrase := do
  if ← accept "->" then g.type allowPlus else return plainType []

def parenArguments (g : Grammar) : Parser TypePhrase := do
  let inputs ← group .paren (listed (g.type true))
  let output ← returnType g false
  return { output with nodes := inputs.flatMap TypePhrase.nodes ++ output.nodes }

/-- Whether arguments in parentheses come next, with or without colons in front. -/
def seesParenArguments : Parser Bool := do
  return (← seesGroup .paren) ||
    ((← sees "::") && (← ahead fun ts => Token.isGroup .paren (ts.drop 2)))

/-- A generic argument: a lifetime, a constant, a type, or an associated item with its value or
bounds. -/
def genericArgument (g : Grammar) : Parser (List Node) := do
  if (← seesLifetime) && !(← ahead fun ts => Token.areMarks ['+'] (ts.drop 1)) then
    lifetime
    return []
  else if (← ahead Token.isLiteral) || (← seesGroup .brace) then constArgument g
  else
    let argument ← g.type true
    if argument.form ≠ .path true then return argument.nodes
    else if ← accept "=" then
      if (← ahead Token.isLiteral) || (← seesGroup .brace) then
        return argument.nodes ++ (← constArgument g)
      else return argument.nodes ++ (← g.type true).nodes
    else if ← accept ":" then
      let bounds ← joined "+" (do return (← sees ",") || (← sees ">")) g.bound
      return argument.nodes ++ bounds.flatMap Bound.nodes
    else return argument.nodes

def angleArguments (g : Grammar) : Parser (List (List Node)) := do
  expect "<"
  let arguments ← separated "," (sees ">") (genericArgument g)
  expect ">"
  return arguments

def turbofish (g : Grammar) : Parser (List Node) := do
  expect "::"
  return (← angleArguments g).flatten

/-! ## Paths -/

/-- A path of one segment. In an expression its arguments need colons in front. -/
def segment (g : Grammar) (inExpression : Bool) : Parser PathPhrase := do
  let plain : PathPhrase := ⟨[], true, true, false⟩
  if (← seesWord "super") || (← seesWord "self") || (← seesWord "crate") || (← seesWord "try") then
    let _ ← anyWord
    return plain
  else
    if ← acceptWord "Self" then pure () else
      let _ ← name
    let direct := !inExpression && (← sees "<") && !(← sees "<=") && !(← sees "<<=")
    let colons := (← sees "::") && (← ahead fun ts => Token.areMarks ['<'] (ts.drop 2))
    if direct || colons then
      let _ ← accept "::"
      let arguments ← angleArguments g
      return { plain with nodes := arguments.flatten, bare := false, applied := !arguments.isEmpty }
    else return plain

def extend (p s : PathPhrase) : PathPhrase :=
  ⟨p.nodes ++ s.nodes, false, p.bare && s.bare, s.applied⟩

/-- A path. Colons in front of parentheses end it. -/
def path (g : Grammar) (inExpression : Bool) : Parser PathPhrase := do
  let leading ← accept "::"
  let first ← segment g inExpression
  let more : Parser Bool := do
    return (← sees "::") && !(← ahead fun ts => Token.isGroup .paren (ts.drop 2))
  let rest ← repeatWhile more (do expect "::"; segment g inExpression)
  return rest.foldl extend { first with single := !leading }

/-- A path that may start with a type in angle brackets; the type makes it qualified. -/
def qualifiedPath (g : Grammar) (inExpression : Bool) : Parser (Bool × PathPhrase) := do
  if ← accept "<" then
    let self ← g.type true
    let trait ← if ← acceptWord "as" then path g false else pure ⟨[], false, true, false⟩
    expect ">"
    expect "::"
    let first ← segment g inExpression
    let rest ← repeatWhile (sees "::") (do expect "::"; segment g inExpression)
    let p := rest.foldl extend (extend trait first)
    return (true, { p with nodes := self.nodes ++ p.nodes })
  else return (false, ← path g inExpression)

/-! ## Generic parameters -/

/-- A list of lifetimes joined by plus signs, up to one of the given ends. -/
def lifetimeBounds (stop : Parser Bool) : Parser Unit := do
  let _ ← joined "+" stop lifetime

/-- A lifetime, type or constant parameter, or one without a name if `allowUnnamed`. -/
def genericParameter (g : Grammar) (allowUnnamed : Bool) : Parser (List Node) := do
  let attributes ← outerAttributes g
  if ← acceptLifetime then
    if ← accept ":" then lifetimeBounds (do return (← sees ",") || (← sees ">"))
    return attributes.nodes
  else if ← seesName then
    let _ ← name
    let stop : Parser Bool := do return (← sees ",") || (← sees ">") || (← sees "=")
    let bounds ← announced ":" (joined "+" stop g.bound)
    let value ← announced "=" do return (← g.type true).nodes
    return attributes.nodes ++ bounds.flatMap Bound.nodes ++ value
  else if ← acceptWord "const" then
    let _ ← name
    expect ":"
    let type ← g.type true
    let value ← announced "=" (constArgument g)
    return attributes.nodes ++ type.nodes ++ value
  else if ← allowing allowUnnamed (acceptWord "_") then return attributes.nodes
  else fail

def parameterList (g : Grammar) (allowUnnamed : Bool) : Parser (List Node) := do
  expect "<"
  let parameters ← separated "," (sees ">") (genericParameter g allowUnnamed)
  expect ">"
  return parameters.flatten

def generics (g : Grammar) : Parser (Bool × List Node) := do
  if ← sees "<" then return (true, ← parameterList g true) else return (false, [])

/-- Parameters declared in front of a type, bound or closure, all of which have names. -/
def forParameters (g : Grammar) : Parser (Option (List Node)) := do
  if ← acceptWord "for" then return some (← parameterList g false) else return none

/-- Whether the tokens start a list of generic parameters rather than a type in angle brackets. -/
def startsParameters (ts : List Token) : Bool :=
  let second := ts.drop 1
  let third := ts.drop 2
  Token.areMarks ['<'] ts &&
    (Token.areMarks ['>'] second || Token.areMarks ['#'] second || Token.isWord "const" second ||
      ((Token.isLifetime second || Token.isName second) &&
        ((Token.areMarks [':'] third && !Token.areMarks [':', ':'] third) ||
          Token.areMarks [','] third || Token.areMarks ['>'] third || Token.areMarks ['='] third)))

/-! ## Bounds -/

def captures : Parser Unit := do
  expectWord "use"
  expect "<"
  let _ ← separated "," (sees ">") do
    if ← acceptLifetime then return
    else if ← acceptWord "Self" then return
    else
      let _ ← name
  expect ">"

/-- Whether a mark in front of a bound says that it holds for constants too. -/
def acceptConstMark (place : BoundPlace) : Parser Bool := do
  let line := (← get).line
  let marked ←
    if ← seesGroup .bracket then do
      group .bracket (expectWord "const")
      pure true
    else acceptWord "const"
  if marked ∧ place = .object then failAt line else return marked

/-- A trait as a bound, with what may stand in front of it, and whether it is marked for constants.
A relaxed bound declares no parameters. -/
def traitBound (g : Grammar) (place : BoundPlace) : Parser (Bool × Bound) := do
  let parameters ← forParameters g
  let marked ← acceptConstMark place
  let line := (← get).line
  let relaxed ← accept "?"
  let parameters ←
    if parameters.isNone && relaxed then forParameters g else pure parameters
  let p ← path g false
  let arguments ←
    if !p.applied && (← seesParenArguments) then do
      let _ ← accept "::"
      parenArguments g
    else pure (plainType [])
  if relaxed && parameters.isSome then failAt line
  else
    return (marked,
      ⟨parameters.getD [] ++ p.nodes ++ arguments.nodes, true, arguments.endsInBrace⟩)

/-- A trait as a bound, possibly in parentheses. One that is marked for constants is kept as tokens
only and leaves nothing in the outline. -/
def markedBound (g : Grammar) (place : BoundPlace) : Parser Bound := do
  let tokens := (← get).rest
  let (marked, bound) ←
    if ← seesGroup .paren then group .paren (traitBound g place) else traitBound g place
  if marked then return ⟨[], true, ← tookBraces tokens⟩ else return bound

def boundPhrase (g : Grammar) (place : BoundPlace) : Parser Bound := do
  if ← acceptLifetime then return ⟨[], false, false⟩
  else if ← seesWord "use" then
    let line := (← get).line
    captures
    if place = .hidden then return ⟨[], false, false⟩ else failAt line
  else markedBound g place

/-- Whether a bound starts here, behind a plus sign. -/
def startsBound (place : BoundPlace) : Parser Bool := do
  return (← ahead Token.isAnyWord) || (← sees "::") || (← sees "?") || (← seesLifetime) ||
    (← seesGroup .paren) || (place ≠ .object && (← seesGroup .bracket))

def furtherBounds (g : Grammar) (place : BoundPlace) : Parser (List Bound) :=
  joined "+" (return !(← startsBound place)) (boundPhrase g place)

/-- Bounds joined by plus signs, of which more than one only if `allowPlus`. -/
def bounds (g : Grammar) (allowPlus : Bool) (place : BoundPlace) : Parser (List Bound) := do
  let first ← boundPhrase g place
  if ← allowing allowPlus (accept "+") then return first :: (← furtherBounds g place)
  else return [first]

/-! ## Where clauses -/

def endsWhere : Parser Bool := do
  return (← atEnd) || (← seesGroup .brace) || (← sees ",") || (← sees ";") ||
    ((← sees ":") && !(← sees "::")) || (← sees "=")

def whereCondition (g : Grammar) : Parser (List Node) := do
  if (← seesLifetime) && (← ahead fun ts => Token.areMarks [':'] (ts.drop 1)) then
    lifetime
    expect ":"
    lifetimeBounds endsWhere
    return []
  else
    let parameters ← forParameters g
    let type ← g.type true
    expect ":"
    let bounds ← joined "+" endsWhere (boundPhrase g .parameter)
    return parameters.getD [] ++ type.nodes ++ bounds.flatMap Bound.nodes

/-- A where clause, and whether there is one. It has no generic parameters of its own. -/
def whereClause (g : Grammar) : Parser (Bool × List Node) := do
  if ← acceptWord "where" then
    if ← ahead startsParameters then fail
    return (true, (← joined "," endsWhere (whereCondition g)).flatten)
  else return (false, [])

end WindowedLsb.Lint.Grammar
