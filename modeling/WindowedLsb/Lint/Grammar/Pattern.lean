import WindowedLsb.Bits
import WindowedLsb.Lint.Grammar.Type

/-!
Patterns. Their outline is that of the constants and types in them; a pattern that binds one name
keeps it.
-/

namespace WindowedLsb.Lint.Grammar

open WindowedLsb.Lint.Parser

def plainPattern (nodes : List Node) : Pattern := ⟨nodes, .other⟩

/-! ## Alternatives -/

def seesAlternative : Parser Bool := do
  return (← sees "|") && !(← sees "||") && !(← sees "|=")

def alternatives (first : Pattern) (leading : Bool) (next : Parser Pattern) : Parser Pattern := do
  if leading || (← seesAlternative) then
    let rest ← repeatWhile seesAlternative (do expect "|"; next)
    return plainPattern (first.nodes ++ rest.flatMap Pattern.nodes)
  else return first

/-- A pattern with its alternatives, the first of which may have a bar in front. -/
def nestedPattern (g : Grammar) : Parser Pattern := do
  let leading ← accept "|"
  alternatives (← g.pattern) leading g.pattern

/-! ## Ranges -/

/-- The dots of a range, and whether its end is part of it. -/
def rangeDots (allowObsolete : Bool) : Parser Bool := do
  if ← accept "..=" then return true
  else if ← sees "..." then
    if allowObsolete then
      expect "..."
      return true
    else fail
  else
    expect ".."
    return false

def endsBound : Parser Bool := do
  return (← atEnd) || (← sees "|") || (← sees "=") || ((← sees ":") && !(← sees "::")) ||
    (← sees ",") || (← sees ";") || (← seesWord "if")

/-- A constant in a pattern: a block that is evaluated at compile time. -/
def constBlock (g : Grammar) : Parser (List Node) := do
  expectWord "const"
  bodyBlock g

def rangeBound (g : Grammar) : Parser (Option (List Node)) := do
  if ← endsBound then return none
  else if ← ahead Token.isLiteral then
    literal
    return some []
  else if ← startsPathType then return some (← qualifiedPath g true).2.nodes
  else if ← seesWord "const" then return some (← constBlock g)
  else fail

def rangeFrom (g : Grammar) (start : List Node) : Parser Pattern := do
  let line := (← get).line
  let closed ← rangeDots true
  match ← rangeBound g with
  | some stop => return plainPattern (start ++ stop)
  | none => if closed then fail else return ⟨start, .openRange line⟩

/-- A range without a start, or the rest of a tuple or list. -/
def rangeTo (g : Grammar) : Parser Pattern := do
  let line := (← get).line
  let closed ← rangeDots false
  match ← rangeBound g with
  | some stop => return ⟨stop, .openRange line⟩
  | none => if closed then fail else return ⟨[], .rest⟩

/-- A literal, constant block or path as a pattern of its own or as the start of a range. -/
def literalPattern (g : Grammar) : Parser Pattern := do
  match ← rangeBound g with
  | none => fail
  | some start => if ← sees ".." then rangeFrom g start else return plainPattern start

/-! ## Patterns with parts -/

def patternList (g : Grammar) : Parser (List Pattern) := listed (nestedPattern g)

def parenPattern (g : Grammar) : Parser Pattern := do
  return plainPattern ((← group .paren (patternList g)).flatMap Pattern.nodes)

/-- A list pattern, in which a range that lacks an end must stand in parentheses. -/
def slicePattern (g : Grammar) : Parser Pattern := do
  let element : Parser Pattern := do
    let p ← nestedPattern g
    match p.form with
    | .openRange line => failAt line
    | .binding _ | .rest | .verbatim | .other => return p
  return plainPattern ((← group .bracket (listed element)).flatMap Pattern.nodes)

/-- A member of a struct: a name, or the number of a place. Says whether it is a name. -/
def member : Parser Bool := do
  match (← get).rest with
  | .literal (.integer value typed) _ :: _ =>
      if typed || value ≥ twoPow 32 then fail
      else
        skip 1
        return false
  | _ =>
      let _ ← name
      return true

/-- The pattern of a field, which may be left out where it binds the name of the field. Two dots
stand for the fields left out and come last. -/
def fieldPattern (g : Grammar) : Parser (List Node × Bool) := do
  let attributes ← outerAttributes g
  if ← accept ".." then return (attributes.nodes, true)
  else
    let boxed ← acceptWord "box"
    let byRef ← acceptWord "ref"
    let mutable ← acceptWord "mut"
    if boxed || byRef || mutable then
      let _ ← name
      return (attributes.nodes, false)
    else
      let named ← member
      if (← sees ":") || !named then
        expect ":"
        return (attributes.nodes ++ (← nestedPattern g).nodes, false)
      else return (attributes.nodes, false)

def fieldPatterns (g : Grammar) : Parser (List Node) := do
  return (← listedUntil (fieldPattern g)).flatten

def pathPattern (g : Grammar) : Parser Pattern := do
  let (qualified, p) ← qualifiedPath g true
  if !qualified && p.bare && (← seesBang) then
    expect "!"
    return plainPattern (p.nodes ++ (← macroArguments).2)
  else if ← seesGroup .brace then
    return plainPattern (p.nodes ++ (← group .brace (fieldPatterns g)))
  else if ← seesGroup .paren then
    return plainPattern (p.nodes ++ (← parenPattern g).nodes)
  else if ← sees ".." then rangeFrom g p.nodes
  else return plainPattern p.nodes

/-- A name that is bound, with what it has to match besides. -/
def bindingPattern (g : Grammar) : Parser Pattern := do
  let _ ← acceptWord "ref"
  let _ ← acceptWord "mut"
  let (bound, line) ← if ← seesWord "self" then anyWord else name
  let sub ← announced "@" do return (← g.pattern).nodes
  return ⟨sub, .binding ⟨bound, line⟩⟩

/-! ## All patterns -/

/-- Whether a name is the start of a path, macro, struct or range rather than a binding. -/
def namesMore (ts : List Token) : Bool :=
  let second := ts.drop 1
  Token.areMarks [':', ':'] second || Token.areMarks ['!'] second ||
    Token.isGroup .brace second || Token.isGroup .paren second || Token.areMarks ['.', '.'] second

def patternPhrase (g : Grammar) : Parser Pattern := do
  if ((← seesName) && (← ahead namesMore)) ||
      ((← seesWord "self") && (← ahead fun ts => Token.areMarks [':', ':'] (ts.drop 1))) ||
      (← sees "::") || (← sees "<") || (← seesWord "Self") || (← seesWord "super") ||
      (← seesWord "crate") then
    pathPattern g
  else if ← acceptWord "_" then return plainPattern []
  else if ← acceptWord "box" then
    let _ ← g.pattern
    return ⟨[], .verbatim⟩
  else if (← sees "-") || (← ahead Token.isLiteral) || (← seesWord "const") then literalPattern g
  else if (← seesWord "ref") || (← seesWord "mut") || (← seesWord "self") || (← seesName) then
    bindingPattern g
  else if ← accept "&" then
    let _ ← acceptWord "mut"
    return plainPattern (← g.pattern).nodes
  else if ← seesGroup .paren then parenPattern g
  else if ← seesGroup .bracket then slicePattern g
  else if (← sees "..") && !(← sees "...") then rangeTo g
  else fail

end WindowedLsb.Lint.Grammar
