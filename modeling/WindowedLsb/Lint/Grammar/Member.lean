import WindowedLsb.Lint.Grammar.Data

/-!
What stands between the braces of a trait, an implementation or a block of foreign items.
-/

namespace WindowedLsb.Lint.Grammar

open WindowedLsb.Lint.Parser

/-! ## Macro calls -/

/-- Whether a path starts here that a macro may have. -/
def startsMacroPath : Parser Bool := do
  return (← seesName) || (← seesWord "self") || (← seesWord "super") || (← seesWord "crate") ||
    (← sees "::")

/-- A macro call in the place of an item, which may define a name. Without braces it needs a
semicolon. -/
def macroItem (attributes : Attributes) (allowName : Bool) : Parser (List Node) := do
  let _ ← plainPath
  expect "!"
  if allowName then
    if (← seesWord "try") || (← seesName) then skip 1
  let (inBraces, arguments) ← macroArguments
  if inBraces then pure () else expect ";"
  return otherItem attributes arguments

/-! ## Members -/

/-- What a member is, going by its first words. -/
inductive MemberForm where
  | function
  | constant
  | staticValue
  | typeName
  | macroCall

def seesSecond (words : List String) : Parser Bool :=
  ahead fun ts => words.any fun w => Token.isWord w (ts.drop 1)

/-- A function with a body or a semicolon. -/
def traitFunction (g : Grammar) (attributes : Attributes) : Parser (List Node) := do
  let s ← signature g false
  if ← seesGroup .brace then
    let (inner, nodes) ← body g
    return otherItem (attributes ++ inner) (s.nodes ++ nodes)
  else
    expect ";"
    return otherItem attributes s.nodes

/-- A member of a trait. With a visibility of its own it leaves nothing in the outline. -/
def traitMember (g : Grammar) : Parser (List Node) := do
  let attributes ← outerAttributes g
  let v ← visibility
  let isDefault ← acceptWord "default"
  let plain := v = .inherited && !isDefault
  let nodes ←
    if ← seesSignature false then traitFunction g attributes
    else if ← seesWord "const" then
      if ← seesSecond ["async", "unsafe", "extern", "fn"] then traitFunction g attributes
      else do
        let d ← constDefinition g
        pure (if d.isPlain then otherItem attributes (d.type ++ d.value.getD []) else [])
    else if ← seesWord "type" then do
      let d ← typeDefinition g .behind
      pure (otherItem attributes (d.parameters ++ d.bounds.getD [] ++ d.value.getD []))
    else if plain && (← startsMacroPath) then macroItem attributes false
    else fail
  return if plain then nodes else []

/-- A function of an implementation. -/
def method (g : Grammar) (attributes : Attributes) : Parser (List Node) := do
  let v ← visibility
  let _ ← acceptWord "default"
  let s ← signature g false
  behindSignature g fun inner nodes =>
    namedItem (.method s.params) (s.name, s.line) v (attributes ++ inner) (s.nodes ++ nodes)

def memberForm (v : Visibility) : Parser MemberForm := do
  let isDefault ←
    if (← seesWord "default") && !(← ahead fun ts => Token.areMarks ['!'] (ts.drop 1)) then
      acceptWord "default"
    else pure false
  if ← seesSignature false then return .function
  else if ← seesWord "const" then return .constant
  else if ← seesWord "type" then return .typeName
  else if v = .inherited && !isDefault && (← startsMacroPath) then return .macroCall
  else fail

def implMember (g : Grammar) : Parser (List Node) := do
  let attributes ← outerAttributes g
  match ← pastVisibility memberForm with
  | .function => method g attributes
  | .constant =>
      let _ ← visibility
      let _ ← acceptWord "default"
      return completeConst attributes (← constDefinition g)
  | .typeName =>
      let _ ← visibility
      let _ ← acceptWord "default"
      return completeType attributes (← typeDefinition g .behind)
  | .macroCall => macroItem attributes false
  | .staticValue => fail

/-! ## Foreign items -/

def foreignForm (v : Visibility) : Parser MemberForm := do
  if ← seesSignature true then return .function
  else if (← seesWord "static") ||
      (((← seesWord "unsafe") || (← seesWord "safe")) && (← seesSecond ["static"])) then
    return .staticValue
  else if ← seesWord "type" then return .typeName
  else if v = .inherited && (← startsMacroPath) then return .macroCall
  else fail

/-- A foreign function. With a body it leaves nothing in the outline. -/
def foreignFunction (g : Grammar) (attributes : Attributes) : Parser (List Node) := do
  let _ ← visibility
  let s ← signature g true
  if ← seesGroup .brace then
    let _ ← body g
    return []
  else
    expect ";"
    return if s.isSafe then [] else otherItem attributes s.nodes

def foreignStatic (g : Grammar) (attributes : Attributes) : Parser (List Node) := do
  let _ ← visibility
  let isMarked ← do
    if ← acceptWord "unsafe" then pure true else acceptWord "safe"
  expectWord "static"
  let _ ← acceptWord "mut"
  let _ ← name
  expect ":"
  let type ← g.type true
  let hasValue ← accept "="
  if hasValue then
    let _ ← g.expression true
  expect ";"
  return if isMarked || hasValue then [] else otherItem attributes type.nodes

def foreignMember (g : Grammar) : Parser (List Node) := do
  let attributes ← outerAttributes g
  match ← pastVisibility foreignForm with
  | .function => foreignFunction g attributes
  | .staticValue => foreignStatic g attributes
  | .typeName =>
      let _ ← visibility
      let d ← typeDefinition g .anywhere
      return if d.bounds.isSome || d.value.isSome then [] else otherItem attributes d.parameters
  | .macroCall => macroItem attributes false
  | .constant => fail

end WindowedLsb.Lint.Grammar
