import WindowedLsb.Lint.Grammar.Signature

/-!
Definitions of types, constants and statics. Forms that no compiler accepts, which code generators
may still read, leave nothing in the outline.
-/

namespace WindowedLsb.Lint.Grammar

open WindowedLsb.Lint.Parser

/-! ## Items in the outline -/

/-- An item of one of the kinds that have rules of their own. -/
def namedItem (kind : Kind) (name : String × Nat) (v : Visibility) (attributes : Attributes)
    (nodes : List Node) : List Node :=
  [.item ⟨kind, name.1, name.2, v = .everywhere, attributes.documented, attributes.gated⟩
    (attributes.nodes ++ nodes)]

/-- Any other item, without name and line. -/
def otherItem (attributes : Attributes) (nodes : List Node) : List Node :=
  [.item ⟨.other, "", 0, false, attributes.documented, attributes.gated⟩
    (attributes.nodes ++ nodes)]

/-! ## Fields -/

/-- A field with its name. A field without one may have an unnamed struct or union as its type. -/
def namedField (g : Grammar) : Parser (List Node) := do
  let attributes ← outerAttributes g
  let _ ← visibility
  if ← acceptWord "_" then
    expect ":"
    if (← seesWord "struct") ||
        ((← seesWord "union") && (← ahead fun ts => Token.isGroup .brace (ts.drop 1))) then
      skip 1
      let _ ← group .brace g.namedFields
      return attributes.nodes
    else return attributes.nodes ++ (← g.type true).nodes
  else
    let _ ← name
    expect ":"
    return attributes.nodes ++ (← g.type true).nodes

def namedFieldsPhrase (g : Grammar) : Parser (List (List Node)) := listed (namedField g)

def bracedFields (g : Grammar) : Parser (List (List Node)) := group .brace (namedFieldsPhrase g)

def tupleFields (g : Grammar) : Parser (List (List Node)) :=
  group .paren <| listed do
    let attributes ← outerAttributes g
    let _ ← visibility
    return attributes.nodes ++ (← g.type true).nodes

/-! ## Structs, enumerations and unions -/

/-- What follows the name of a struct: its fields, and the conditions on its parameters. -/
def structBody (g : Grammar) : Parser (List (List Node) × List Node) := do
  let (conditional, conditions) ← whereClause g
  if !conditional && (← seesGroup .paren) then
    let fields ← tupleFields g
    let (_, conditions) ← whereClause g
    expect ";"
    return (fields, conditions)
  else if ← seesGroup .brace then return (← bracedFields g, conditions)
  else
    expect ";"
    return ([], conditions)

def structItem (g : Grammar) (attributes : Attributes) : Parser (List Node) := do
  let v ← visibility
  expectWord "struct"
  let n ← name
  let (_, parameters) ← generics g
  let (fields, conditions) ← structBody g
  return namedItem (.structType fields.length) n v attributes
    (parameters ++ conditions ++ fields.flatten)

def variant (g : Grammar) : Parser (List Node) := do
  let attributes ← outerAttributes g
  let _ ← visibility
  let _ ← name
  let fields ←
    if ← seesGroup .brace then bracedFields g
    else if ← seesGroup .paren then tupleFields g
    else pure []
  let value ← announced "=" do return (← g.expression true).nodes
  return attributes.nodes ++ fields.flatten ++ value

def enumItem (g : Grammar) (attributes : Attributes) : Parser (List Node) := do
  let v ← visibility
  expectWord "enum"
  let n ← name
  let (_, parameters) ← generics g
  let (_, conditions) ← whereClause g
  let variants ← group .brace (listed (variant g))
  return namedItem .enumType n v attributes (parameters ++ conditions ++ variants.flatten)

def unionItem (g : Grammar) (attributes : Attributes) : Parser (List Node) := do
  let _ ← visibility
  expectWord "union"
  let _ ← name
  let (_, parameters) ← generics g
  let (_, conditions) ← whereClause g
  let fields ← bracedFields g
  return otherItem attributes (parameters ++ conditions ++ fields.flatten)

/-! ## Types with a name -/

/-- Where the conditions of a type definition may stand: in front of its value, behind it, or at
either place. -/
inductive Conditions where
  | inFront
  | behind
  | anywhere
  deriving DecidableEq

structure TypeDefinition where
  parameters : List Node
  /-- What bounds the type, if there is a colon. -/
  bounds : Option (List Node)
  value : Option (List Node)

def typeDefinition (g : Grammar) (place : Conditions) : Parser TypeDefinition := do
  expectWord "type"
  let _ ← name
  let (_, parameters) ← generics g
  let bounds ←
    if ← accept ":" then do
      let stop : Parser Bool := do return (← seesWord "where") || (← sees "=") || (← sees ";")
      pure (some ((← separated "+" stop (boundPhrase g .parameter)).flatMap Bound.nodes))
    else pure none
  let (early, conditions) ← if place ≠ .behind then whereClause g else pure (false, [])
  let value ← if ← accept "=" then pure (some (← g.type true).nodes) else pure none
  let (_, later) ← if place ≠ .inFront ∧ early = false then whereClause g else pure (false, [])
  expect ";"
  return ⟨parameters ++ conditions ++ later, bounds, value⟩

/-- A type definition that is complete: it has a value and no bounds. -/
def completeType (attributes : Attributes) (d : TypeDefinition) : List Node :=
  match d.bounds, d.value with
  | none, some value => otherItem attributes (d.parameters ++ value)
  | _, _ => []

/-! ## Constants and statics -/

structure ConstDefinition where
  type : List Node
  value : Option (List Node)
  /-- It has neither parameters nor conditions. -/
  isPlain : Bool

def constDefinition (g : Grammar) : Parser ConstDefinition := do
  expectWord "const"
  if ← acceptWord "_" then pure () else
    let _ ← name
  let (generic, _) ← generics g
  expect ":"
  let type ← g.type true
  let value ← if ← accept "=" then pure (some (← g.expression true).nodes) else pure none
  let (conditional, _) ← whereClause g
  expect ";"
  return ⟨type.nodes, value, !generic && !conditional⟩

def completeConst (attributes : Attributes) (d : ConstDefinition) : List Node :=
  match d.isPlain, d.value with
  | true, some value => otherItem attributes (d.type ++ value)
  | _, _ => []

def staticItem (g : Grammar) (attributes : Attributes) : Parser (List Node) := do
  let _ ← visibility
  expectWord "static"
  let _ ← acceptWord "mut"
  let _ ← name
  if ← accept "=" then
    let _ ← g.expression true
    expect ";"
    return []
  else
    expect ":"
    let type ← g.type true
    if ← accept ";" then return []
    else
      expect "="
      let value ← g.expression true
      expect ";"
      return otherItem attributes (type.nodes ++ value.nodes)

end WindowedLsb.Lint.Grammar
