import WindowedLsb.Lint.Grammar.Statement

/-!
Visibility and function signatures. Of a signature the outline keeps the function's name and the
parameters that bind one name.
-/

namespace WindowedLsb.Lint.Grammar

open WindowedLsb.Lint.Parser

/-! ## Visibility -/

inductive Visibility where
  | inherited
  /-- Public without restriction. -/
  | everywhere
  | restricted
  deriving DecidableEq

def restriction : Parser Unit := do
  if (← seesWord "crate") || (← seesWord "self") || (← seesWord "super") then
    skip 1
    if ← atEnd then pure () else fail
  else
    expectWord "in"
    let _ ← plainPath

/-- A visibility. Parentheses that hold no restriction are the type of a tuple's field, unless they
start with the word for a path. -/
def visibility : Parser Visibility := do
  if ← acceptWord "pub" then
    if ← ahead startsPathRestriction then
      group .paren restriction
      return .restricted
    else if (← attempt (group .paren restriction)).isSome then return .restricted
    else return .everywhere
  else return .inherited
where
  startsPathRestriction : List Token → Bool
    | .group .paren _ _ content :: _ => Token.isWord "in" content
    | _ => false

/-- Looks with `p` behind the visibility, and goes back. -/
def pastVisibility {α : Type} (p : Visibility → Parser α) : Parser α := do
  let here ← get
  let a ← p (← visibility)
  set here
  return a

/-! ## Qualifiers -/

/-- Whether a function starts here, going by the words in front of its keyword. -/
def seesSignature (allowSafe : Bool) : Parser Bool := do
  let found ← tryAhead do
    let _ ← acceptWord "const"
    let _ ← acceptWord "async"
    if ← allowing allowSafe (acceptWord "safe") then pure () else
      let _ ← acceptWord "unsafe"
    acceptAbi
    seesWord "fn"
  return found.getD false

/-! ## Parameters -/

/-- The object that a method is called on, with the line of its name and its type. Colons behind its
name make it a path instead. -/
def receiver (g : Grammar) : Parser (Nat × List Node) := do
  let byRef ← accept "&"
  if byRef then
    let _ ← acceptLifetime
  let _ ← acceptWord "mut"
  let line := (← get).line
  expectWord "self"
  if ← sees "::" then fail
  if ← allowing (!byRef) (accept ":") then return (line, (← g.type true).nodes)
  else return (line, [])

inductive Parameter where
  | receiver (line : Nat) (nodes : List Node)
  | typed (bound : Option Param) (nodes : List Node)
  /-- Any number of further arguments. -/
  | variadic (nodes : List Node)

namespace Parameter

def nodes : Parameter → List Node
  | receiver _ ns | typed _ ns | variadic ns => ns

def bound? : Parameter → Option Param
  | typed p _ => p
  | receiver .. | variadic _ => none

end Parameter

/-- A parameter with its type. A name in front of an angle bracket is a type without a name for the
parameter. -/
def typedParameter (g : Grammar) (attributes : Attributes) : Parser Parameter := do
  if (← seesName) && (← ahead fun ts => Token.areMarks ['<'] (ts.drop 1)) then
    return .typed none (attributes.nodes ++ (← g.type true).nodes)
  else
    let p ← patternPhrase g
    expect ":"
    if ← accept "..." then return .variadic (attributes.nodes ++ p.nodes)
    else
      let bound := match p.form with
        | .binding param => some param
        | .rest | .openRange _ | .verbatim | .other => none
      return .typed bound (attributes.nodes ++ p.nodes ++ (← g.type true).nodes)

def parameter (g : Grammar) : Parser Parameter := do
  let attributes ← outerAttributes g
  if ← accept "..." then return .variadic attributes.nodes
  else
    match ← attempt (receiver g) with
    | some (line, nodes) => return .receiver line (attributes.nodes ++ nodes)
    | none => typedParameter g attributes

/-- Parameters, commas between. A receiver comes first, a variadic parameter last. -/
def parameterRounds (g : Grammar) : (isFirst : Bool) → (steps : Nat) → Parser (List Parameter)
  | _, 0 => return []
  | isFirst, steps + 1 => do
      if ← atEnd then return []
      let p ← parameter g
      match p with
      | .variadic _ =>
          if ← atEnd then pure () else expect ","
          return [p]
      | .receiver line _ => if !isFirst then failAt line
      | .typed .. => pure ()
      if ← atEnd then return [p]
      expect ","
      return p :: (← parameterRounds g false steps)

def parameters (g : Grammar) : Parser (List Parameter) := do
  parameterRounds g true (← maxRounds)

/-! ## Signatures -/

structure Signature where
  name : String
  line : Nat
  params : List Param
  nodes : List Node
  /-- It is declared safe to call. -/
  isSafe : Bool

def signature (g : Grammar) (allowSafe : Bool) : Parser Signature := do
  let _ ← acceptWord "const"
  let _ ← acceptWord "async"
  let isUnsafe ← acceptWord "unsafe"
  let isSafe ← allowing (allowSafe && !isUnsafe) (acceptWord "safe")
  acceptAbi
  expectWord "fn"
  let (name, line) ← name
  let (_, generic) ← generics g
  let (inputs, left) ← openGroup .paren (parameters g)
  let output ← returnType g true
  let (_, conditions) ← whereClause g
  noteStray left
  return ⟨name, line, inputs.filterMap Parameter.bound?,
    generic ++ conditions ++ inputs.flatMap Parameter.nodes ++ output.nodes, isSafe⟩

/-- What follows a signature: a body, of which `item` makes an item, or a semicolon, which leaves
nothing in the outline. -/
def behindSignature (g : Grammar) (item : Attributes → List Node → List Node) :
    Parser (List Node) := do
  if ← accept ";" then return []
  else
    let (inner, nodes) ← body g
    return item inner nodes

end WindowedLsb.Lint.Grammar
