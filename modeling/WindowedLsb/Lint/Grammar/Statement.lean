import WindowedLsb.Lint.Grammar.Expression

/-!
Statements: what stands between the braces of a block. A statement that needs a semicolon may do
without one only at the end of its block.
-/

namespace WindowedLsb.Lint.Grammar

open WindowedLsb.Lint.Parser

/-! ## What a statement starts with -/

/-- The tokens behind a path, or none if there is no path. -/
def behindPath : Parser (List Token) := do
  let rest ← tryAhead do
    let _ ← plainPath
    return (← get).rest
  return rest.getD []

/-- Behind a path: a macro call that defines a name, which is an item. -/
def namesMacro (ts : List Token) : Bool :=
  Token.areMarks ['!'] ts && (Token.isName (ts.drop 1) || Token.isWord "try" (ts.drop 1))

/-- Behind a path: a macro call with braces that no member or question mark makes an operand. -/
def bracesMacro (ts : List Token) : Bool :=
  let third := ts.drop 2
  Token.areMarks ['!'] ts && Token.isGroup .brace (ts.drop 1) &&
    !((Token.areMarks ['.'] third && !Token.areMarks ['.', '.'] third) ||
      Token.areMarks ['?'] third)

/-- Whether the tokens start an item, going by their first words. -/
def startsItem : List Token → Bool
  | .word first _ :: second =>
      let third := second.drop 1
      let is (words : List String) (ts : List Token) : Bool := words.any fun w => Token.isWord w ts
      match first with
      | "pub" | "extern" | "use" | "fn" | "mod" | "type" | "struct" | "enum" | "trait" | "impl"
      | "macro" => true
      | "crate" => !Token.areMarks [':', ':'] second
      | "static" => is ["mut"] second || Token.isName second
      | "const" =>
          !(Token.isGroup .brace second || is ["static", "move"] second ||
            Token.areMarks ['|'] second ||
            (is ["async"] second && !is ["unsafe", "extern", "fn"] third))
      | "unsafe" => !Token.isGroup .brace second
      | "async" => is ["unsafe", "extern", "fn"] second
      | "union" => Token.isName second
      | "auto" => is ["trait"] second
      | "default" => is ["unsafe", "impl"] second
      | _ => false
  | _ => false

/-! ## Statements -/

structure Statement where
  nodes : List Node
  /-- Another statement may follow at once. -/
  complete : Bool

/-- The value that names are bound to. The block for a value that does not fit cannot follow a
brace. -/
def boundValue (g : Grammar) : Parser (List Node) := do
  let e ← g.expression true
  if ← allowing (!e.endsInBrace) (acceptWord "else") then return e.nodes ++ (← block g)
  else return e.nodes

def letStatement (g : Grammar) (attributes : Attributes) : Parser Statement := do
  expectWord "let"
  let p ← patternPhrase g
  let type ← announced ":" do return (← g.type true).nodes
  let value ← announced "=" (boundValue g)
  expect ";"
  return ⟨attributes.nodes ++ p.nodes ++ type ++ value, true⟩

def macroStatement (attributes : Attributes) : Parser Statement := do
  let _ ← plainPath
  expect "!"
  let (_, arguments) ← macroArguments
  let _ ← accept ";"
  return ⟨attributes.nodes ++ arguments, true⟩

def expressionStatement (g : Grammar) (attributes : Attributes) : Parser Statement := do
  let e ← g.early
  let closed ← accept ";"
  return ⟨(e.withAttributes attributes).nodes, closed || e.form = .block || e.form = .braceMacro⟩

def statement (g : Grammar) : Parser Statement := do
  let attributes ← outerAttributes g
  let behind ← behindPath
  if bracesMacro behind then macroStatement attributes
  else if ← seesWord "let" then letStatement g attributes
  else if namesMacro behind || (← ahead startsItem) then return ⟨← g.item attributes, true⟩
  else expressionStatement g attributes

def statementRounds (g : Grammar) : (steps : Nat) → Parser (List Node)
  | 0 => return []
  | steps + 1 => do
      let _ ← repeatWhile (sees ";") (expect ";")
      if ← atEnd then return []
      let s ← statement g
      if s.complete then return s.nodes ++ (← statementRounds g steps)
      else if ← atEnd then return s.nodes
      else fail

def statementsPhrase (g : Grammar) : Parser (List Node) := do
  statementRounds g (← maxRounds)

end WindowedLsb.Lint.Grammar
