import WindowedLsb.Lint.Grammar.Path

/-!
Types. Their outline is that of the array lengths and constant arguments in them.
-/

namespace WindowedLsb.Lint.Grammar

open WindowedLsb.Lint.Parser

/-! ## Macros -/

def seesBang : Parser Bool := do return (← sees "!") && !(← sees "!=")

/-- The arguments of a macro behind its exclamation mark, and whether they stand in braces. -/
def macroArguments : Parser (Bool × List Node) := do
  let (d, content) ← anyGroup
  return (d = .brace, [.arguments content])

/-! ## Forms of the compiler -/

/-- Whether a form starts here that the compiler defines. -/
def seesBuiltin : Parser Bool := do
  return (← seesWord "builtin") && (← ahead fun ts => Token.areMarks ['#'] (ts.drop 1))

/-- A form that the compiler defines: its name and tokens in parentheses. -/
def builtin : Parser Unit := do
  expectWord "builtin"
  expect "#"
  let _ ← name
  takeIf (Token.isGroup .paren)

/-! ## Function types -/

def acceptAbi : Parser Unit := do
  if ← acceptWord "extern" then
    if ← ahead Token.isText then skip 1

/-- Whether the second token is a colon of its own. -/
def colonFollows (ts : List Token) : Bool :=
  Token.areMarks [':'] (ts.drop 1) && !Token.areMarks [':', ':'] (ts.drop 1)

/-- Three dots for any number of parameters, which may have a name in front. -/
def seesVariadic : Parser Bool := do
  return (← sees "...") ||
    (((← seesName) || (← seesWord "_")) && (← ahead fun ts =>
      Token.areMarks [':'] (ts.drop 1) && Token.areMarks ['.', '.', '.'] (ts.drop 2)))

def variadic : Parser Unit := do
  if (← seesName) || (← seesWord "_") then
    skip 1
    expect ":"
  expect "..."
  let _ ← accept ","

def seesMutSelf : Parser Bool :=
  ahead fun ts => Token.isWord "mut" ts && Token.isWord "self" (ts.drop 1)

/-- A parameter of a function type, which may have a name in front. The first may be the object that
a method is called on; if it is marked as changeable, its type is kept as tokens only. -/
def functionTypeParameter (g : Grammar) (isFirst : Bool) : Parser (List Node) := do
  let mutSelf := isFirst && (← seesMutSelf)
  if mutSelf then skip 1
  let startsSelf := isFirst && (← seesWord "self")
  let named :=
    ((← seesName) || (← seesWord "_") || startsSelf) && (← ahead colonFollows)
  if named then skip 2
  if isFirst && !(named && startsSelf) && (← seesMutSelf) then
    skip 2
    return []
  else if mutSelf && !named then
    expectWord "self"
    return []
  else
    let type ← g.type true
    return if mutSelf then [] else type.nodes

/-- Parameters of a function type, commas between. What stands behind dots is left over. -/
def functionTypeRounds (g : Grammar) : (isFirst : Bool) → (steps : Nat) → Parser (List Node)
  | _, 0 => return []
  | isFirst, steps + 1 => do
      if ← atEnd then return []
      let attributes ← outerAttributes g
      if ← seesVariadic then
        variadic
        return attributes.nodes
      let nodes ← functionTypeParameter g isFirst
      if ← atEnd then return attributes.nodes ++ nodes
      expect ","
      return attributes.nodes ++ nodes ++ (← functionTypeRounds g false steps)

/-- A function type from its qualifiers on. -/
def functionType (g : Grammar) : Parser TypePhrase := do
  let _ ← acceptWord "unsafe"
  acceptAbi
  expectWord "fn"
  let (parameters, left) ← openGroup .paren do functionTypeRounds g true (← maxRounds)
  let output ← returnType g false
  noteStray left
  return { plainType (parameters ++ output.nodes) with endsInBrace := output.endsInBrace }

/-! ## Paths as types -/

/-- A type that starts with a path: the path itself, a macro call, or bounds without a keyword. -/
def typeOfPath (g : Grammar) (allowPlus : Bool) (parameters : Option (List Node)) :
    Parser TypePhrase := do
  let (qualified, p) ← qualifiedPath g false
  if qualified then return plainType p.nodes
  else if p.bare && (← seesBang) then
    expect "!"
    let (inBraces, arguments) ← macroArguments
    return { plainType arguments with endsInBrace := inBraces }
  else
    let nodes := parameters.getD [] ++ p.nodes
    if ← allowing allowPlus (accept "+") then
      let rest ← furtherBounds g .object
      return ⟨nodes ++ rest.flatMap Bound.nodes, .bounds false, false⟩
    else if parameters.isSome then return ⟨nodes, .bounds true, false⟩
    else return ⟨nodes, .path p.single, false⟩

/-! ## Parentheses -/

inductive ParenContent where
  /-- A tuple, or bounds that cannot be continued behind the parentheses. -/
  | complete (nodes : List Node)
  /-- A relaxed bound, behind which more bounds may come. -/
  | relaxed (bound : Bound)
  | single (type : TypePhrase)

def parenContent (g : Grammar) : Parser ParenContent := do
  if ← atEnd then return .complete []
  else if ← seesLifetime then return .complete (← g.type true).nodes
  else if ← sees "?" then return .relaxed (← traitBound g .object).2
  else
    let first ← g.type true
    if ← accept "," then
      let rest ← listed (g.type true)
      return .complete (first.nodes ++ rest.flatMap TypePhrase.nodes)
    else return .single first

/-- A type in parentheses, a tuple, or bounds of which the first stands in parentheses. What the
parentheses leave over counts behind all the bounds. -/
def parenType (g : Grammar) (allowPlus : Bool) : Parser TypePhrase := do
  let (content, left) ← openGroup .paren (parenContent g)
  let type ←
    match content with
    | .complete nodes => pure (plainType nodes)
    | .relaxed bound => moreBounds bound
    | .single type =>
        let continues : Bool := match type.form with
          | .path _ | .bounds true => true
          | .bounds false | .other => false
        if allowPlus && continues && (← sees "+") then moreBounds ⟨type.nodes, true, false⟩
        else pure (plainType type.nodes)
  noteStray left
  return type
where
  moreBounds (first : Bound) : Parser TypePhrase := do
    let rest ← repeatWhile (sees "+") (do expect "+"; boundPhrase g .object)
    return ⟨first.nodes ++ rest.flatMap Bound.nodes, .bounds rest.isEmpty,
      (rest.getLast?.getD first).endsInBrace⟩

/-! ## All types -/

/-- The bounds that make up a type, one of which must be a trait. The fault of its lack is at the
given line. -/
def boundsType (g : Grammar) (allowPlus : Bool) (place : BoundPlace) (line : Nat) :
    Parser TypePhrase := do
  let bs ← bounds g allowPlus place
  if bs.any Bound.isTrait then
    return ⟨bs.flatMap Bound.nodes, .other, (bs.getLast?.map Bound.endsInBrace).getD false⟩
  else failAt line

/-- A trait object behind its keyword. One that is marked by a star is kept as tokens only. -/
def objectType (g : Grammar) (allowPlus : Bool) (line : Nat) : Parser TypePhrase := do
  if ← accept "*" then
    let tokens := (← get).rest
    let _ ← boundsType g allowPlus .object line
    return { plainType [] with endsInBrace := ← tookBraces tokens }
  else boundsType g allowPlus .object line

def bracketType (g : Grammar) : Parser (List Node) :=
  group .bracket do
    let element ← g.type true
    let length ← announced ";" do return (← g.expression true).nodes
    return element.nodes ++ length

def targetType (g : Grammar) : Parser TypePhrase := do
  return { ← g.type false with form := .other }

def startsPathType : Parser Bool := do
  return (← seesSegment) || (← sees "::") || (← sees "<")

def startsFunctionType : Parser Bool := do
  return (← seesWord "fn") || (← seesWord "unsafe") || (← seesWord "extern")

/-- A type. Bounds joined by plus signs are part of it only if `allowPlus`. -/
def typePhrase (g : Grammar) (allowPlus : Bool) : Parser TypePhrase := do
  let line := (← get).line
  let parameters ← forParameters g
  if parameters.isSome then
    if (← startsFunctionType) || (← seesSegment) then pure () else fail
  if ← seesGroup .paren then parenType g allowPlus
  else if ← startsFunctionType then
    let type ← functionType g
    return { type with nodes := parameters.getD [] ++ type.nodes }
  else if ← seesBuiltin then
    builtin
    return plainType []
  else if ← startsPathType then typeOfPath g allowPlus parameters
  else if ← acceptWord "dyn" then objectType g allowPlus line
  else if ← seesGroup .bracket then return plainType (← bracketType g)
  else if ← accept "*" then
    if ← acceptWord "const" then targetType g
    else
      expectWord "mut"
      targetType g
  else if ← accept "&" then
    let _ ← acceptLifetime
    let _ ← acceptWord "mut"
    targetType g
  else if (← sees "!") && !(← sees "=") then
    expect "!"
    return plainType []
  else if ← acceptWord "impl" then boundsType g allowPlus .hidden line
  else if ← acceptWord "_" then return plainType []
  else if ← seesLifetime then
    return { ← boundsType g true .object line with form := .bounds false }
  else fail

end WindowedLsb.Lint.Grammar
