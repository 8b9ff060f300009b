import WindowedLsb.Lint.Grammar.Member

/-!
Items. The first words behind the visibility tell which item it is.
-/

namespace WindowedLsb.Lint.Grammar

open WindowedLsb.Lint.Parser

/-! ## What an item is -/

inductive ItemForm where
  | function
  | externCrate
  | foreignBlock
  | useTree
  | staticValue
  | constant
  | module
  | typeName
  | structType
  | enumType
  | unionType
  | traitType
  | implBlock
  | macroDefinition
  | macroCall

def seesTrait : Parser Bool := do
  return (← seesWord "trait") || ((← seesWord "auto") && (← seesSecond ["trait"]))

/-- An item behind the word for unchecked code. -/
def guardedForm : Parser ItemForm := do
  if ← seesTrait then return .traitType
  else if ← seesWord "impl" then return .implBlock
  else if ← seesWord "extern" then return .foreignBlock
  else if ← seesWord "mod" then return .module
  else fail

/-- An item behind the word for what comes from elsewhere. -/
def externForm : Parser ItemForm := do
  if ← seesWord "crate" then return .externCrate
  else
    if ← ahead Token.isText then skip 1
    if ← seesGroup .brace then return .foreignBlock else fail

def itemForm (v : Visibility) : Parser ItemForm := do
  if ← seesSignature false then return .function
  else if ← acceptWord "extern" then externForm
  else if ← seesWord "use" then return .useTree
  else if ← seesWord "static" then return .staticValue
  else if ← seesWord "const" then return .constant
  else if ← acceptWord "unsafe" then guardedForm
  else if ← seesWord "mod" then return .module
  else if ← seesWord "type" then return .typeName
  else if ← seesWord "struct" then return .structType
  else if ← seesWord "enum" then return .enumType
  else if (← seesWord "union") && (← ahead fun ts => Token.isName (ts.drop 1)) then
    return .unionType
  else if ← seesTrait then return .traitType
  else if (← seesWord "impl") ||
      ((← seesWord "default") && !(← ahead fun ts => Token.areMarks ['!'] (ts.drop 1))) then
    return .implBlock
  else if ← seesWord "macro" then return .macroDefinition
  else if v = .inherited && (← startsMacroPath) then return .macroCall
  else fail

/-! ## Functions and modules -/

def functionItem (g : Grammar) (attributes : Attributes) : Parser (List Node) := do
  let v ← visibility
  let s ← signature g false
  behindSignature g fun inner nodes =>
    namedItem (.function s.params) (s.name, s.line) v (attributes ++ inner) (s.nodes ++ nodes)

def members (g : Grammar) (p : Parser (List Node)) : Parser (Attributes × List Node) := do
  let (inner, parts) ← enclosed g (untilEnd p)
  return (inner, parts.flatten)

def attributedItem (g : Grammar) : Parser (List Node) := do g.item (← outerAttributes g)

/-- The visibility and the name of a module. -/
def moduleHead : Parser (Visibility × String × Nat) := do
  let v ← visibility
  let _ ← acceptWord "unsafe"
  expectWord "mod"
  let n ← if ← seesWord "try" then anyWord else name
  return (v, n)

def moduleItem (g : Grammar) (attributes : Attributes) : Parser (List Node) := do
  let (v, n) ← moduleHead
  if ← accept ";" then return namedItem .module n v attributes []
  else
    let (inner, nodes) ← members g (attributedItem g)
    return namedItem .module n v (attributes ++ inner) nodes

/-! ## Names from elsewhere -/

/-- A new name for something, or none at all. -/
def newName : Parser Unit := do
  if ← acceptWord "_" then pure () else
    let _ ← name

def externCrate (attributes : Attributes) : Parser (List Node) := do
  let _ ← visibility
  expectWord "extern"
  expectWord "crate"
  if ← acceptWord "self" then pure () else
    let _ ← name
  if ← acceptWord "as" then newName
  expect ";"
  return otherItem attributes []

def useTreePhrase (g : Grammar) (allowRoot : Bool) : Parser Bool := do
  if (← seesName) || (← seesWord "self") || (← seesWord "super") || (← seesWord "crate") ||
      (← seesWord "try") then
    skip 1
    if ← accept "::" then
      let _ ← g.useTree false
    else if ← acceptWord "as" then newName
    return false
  else if ← accept "*" then return false
  else if ← seesGroup .brace then
    let roots ← group .brace <| listed do
      let root ← if allowRoot then accept "::" else pure false
      return (← g.useTree (allowRoot && !root)) || root
    return roots.any id
  else fail

/-- An import. One with a root inside braces leaves nothing in the outline. -/
def useItem (g : Grammar) (attributes : Attributes) : Parser (List Node) := do
  let _ ← visibility
  expectWord "use"
  let leading ← accept "::"
  let rooted ← useTreePhrase g (!leading)
  expect ";"
  return if rooted then [] else otherItem attributes []

/-- Foreign items in braces, which have no visibility together. -/
def foreignBlock (g : Grammar) (attributes : Attributes) : Parser (List Node) := do
  let _ ← acceptWord "unsafe"
  if ← seesWord "extern" then acceptAbi else fail
  let (inner, nodes) ← members g (foreignMember g)
  return otherItem (attributes ++ inner) nodes

/-! ## Traits and implementations -/

/-- A trait, or a name for several traits together. -/
def traitItem (g : Grammar) (attributes : Attributes) : Parser (List Node) := do
  let v ← visibility
  let isGuarded ← acceptWord "unsafe"
  let isAuto ← acceptWord "auto"
  expectWord "trait"
  let n ← name
  let (_, parameters) ← generics g
  if ← allowing (!isGuarded && !isAuto) (accept "=") then
    let stop : Parser Bool := do return (← seesWord "where") || (← sees ";")
    let bounds ← separated "+" stop (boundPhrase g .object)
    let (_, conditions) ← whereClause g
    expect ";"
    return otherItem attributes (parameters ++ conditions ++ bounds.flatMap Bound.nodes)
  else
    let stop : Parser Bool := do return (← seesWord "where") || (← seesGroup .brace)
    let bounds ← announced ":" (separated "+" stop (boundPhrase g .parameter))
    let (_, conditions) ← whereClause g
    let (inner, nodes) ← members g (traitMember g)
    return namedItem .traitType n v (attributes ++ inner)
      (parameters ++ conditions ++ bounds.flatMap Bound.nodes ++ nodes)

/-- The mark that a type lacks a trait, with its line. -/
def acceptNegation : Parser (Option Nat) := do
  if (← sees "!") && !(← ahead fun ts => Token.isGroup .brace (ts.drop 1)) then
    let line := (← get).line
    expect "!"
    return some line
  else return none

def acceptConstTrait : Parser Bool := do
  if (← seesWord "const") || ((← sees "?") && (← seesSecond ["const"])) then
    let _ ← accept "?"
    acceptWord "const"
  else return false

/-- What stands in front of the members of an implementation. -/
structure ImplHead where
  nodes : List Node
  /-- It has a visibility, or is of something that is no trait. -/
  verbatim : Bool

/-- The head of an implementation. Only an implementation of a trait can be negated. -/
def implHead (g : Grammar) : Parser ImplHead := do
  let v ← visibility
  let _ ← acceptWord "default"
  let _ ← acceptWord "unsafe"
  expectWord "impl"
  let parameters ← if ← ahead startsParameters then parameterList g true else pure []
  let isConst ← acceptConstTrait
  let negation ← acceptNegation
  let first ← g.type true
  let target ←
    if ← acceptWord "for" then pure (some (← g.type true).nodes)
    else match negation with
      | some line => failAt line
      | none => pure none
  let (_, conditions) ← whereClause g
  let ofTrait : Bool := match first.form with
    | .path _ => true
    | .bounds _ | .other => false
  return ⟨parameters ++ conditions ++ first.nodes ++ target.getD [],
    v ≠ .inherited || isConst || (target.isSome && !ofTrait)⟩

/-- An implementation. One that is kept as tokens only leaves nothing in the outline. -/
def implBlock (g : Grammar) (attributes : Attributes) : Parser (List Node) := do
  let head ← implHead g
  let (inner, nodes) ← members g (implMember g)
  return if head.verbatim then [] else otherItem (attributes ++ inner) (head.nodes ++ nodes)

/-! ## All items -/

/-- A macro that is defined by one rule, which leaves nothing in the outline. -/
def macroDefinition : Parser (List Node) := do
  let _ ← visibility
  expectWord "macro"
  let _ ← name
  if ← seesGroup .paren then skip 1
  if ← seesGroup .brace then skip 1 else fail
  return []

def itemPhrase (g : Grammar) (attributes : Attributes) : Parser (List Node) := do
  match ← pastVisibility itemForm with
  | .function => functionItem g attributes
  | .externCrate => externCrate attributes
  | .foreignBlock => foreignBlock g attributes
  | .useTree => useItem g attributes
  | .staticValue => staticItem g attributes
  | .constant =>
      let _ ← visibility
      return completeConst attributes (← constDefinition g)
  | .module => moduleItem g attributes
  | .typeName =>
      let _ ← visibility
      return completeType attributes (← typeDefinition g .inFront)
  | .structType => structItem g attributes
  | .enumType => enumItem g attributes
  | .unionType => unionItem g attributes
  | .traitType => traitItem g attributes
  | .implBlock => implBlock g attributes
  | .macroDefinition => macroDefinition
  | .macroCall => macroItem attributes true

end WindowedLsb.Lint.Grammar
