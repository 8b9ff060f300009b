import WindowedLsb.Lint.Grammar.Basic

/-!
Attributes in brackets. Of most only the path matters; a value behind an equals sign is an
expression of the file.
-/

namespace WindowedLsb.Lint.Grammar

open WindowedLsb.Lint.Parser

/-- A segment of a path without arguments. -/
def seesSegment : Parser Bool := do
  return (← seesName) || (← seesWord "super") || (← seesWord "self") || (← seesWord "Self") ||
    (← seesWord "crate")

/-- A path without arguments: its names, the first of them empty if colons lead it. -/
def plainPath : Parser (List String) := do
  let leading ← accept "::"
  let segment : Parser String := do
    if ← seesSegment then return (← anyWord).1 else fail
  let first ← segment
  let rest ← repeatWhile (sees "::") (do expect "::"; segment)
  return (if leading then [""] else []) ++ first :: rest

def attributePath : Parser (List String) := do
  if ← acceptWord "unsafe" then return ["unsafe"] else plainPath

/-- Whether the arguments of an attribute are the single name of the test configuration. -/
def isTestOnly : List Token → Bool
  | [.word name _] => name == "test"
  | _ => false

def attributeContent (g : Grammar) : Parser Attributes := do
  let path ← attributePath
  let documented := path == ["doc"]
  if (← seesGroup .paren) || (← seesGroup .bracket) || (← seesGroup .brace) then
    let (_, content) ← anyGroup
    return ⟨[], documented, path == ["cfg"] && isTestOnly content⟩
  else if (← sees "=") && !(← sees "==") && !(← sees "=>") then
    expect "="
    if (← sees "#") && (← ahead fun ts => Token.isGroup .bracket (ts.drop 1)) then fail
    return ⟨(← g.expression true).nodes, documented, false⟩
  else return ⟨[], documented, false⟩

def outerAttributes (g : Grammar) : Parser Attributes := do
  return Attributes.join (← repeatWhile (sees "#") do
    expect "#"
    group .bracket (attributeContent g))

/-- Whether an attribute of the enclosing item comes next. -/
def seesInner : Parser Bool :=
  ahead fun ts => Token.areMarks ['#'] ts && Token.areMarks ['!'] (ts.drop 1)

/-- Attributes at the start of a body, which belong to the item around it. -/
def innerAttributes (g : Grammar) : Parser Attributes := do
  return Attributes.join (← repeatWhile seesInner do
    expect "#"
    expect "!"
    group .bracket (attributeContent g))

/-- Braces with attributes of the item around them at the start, and what `p` reads behind these. -/
def enclosed {α : Type} (g : Grammar) (p : Parser α) : Parser (Attributes × α) :=
  group .brace do return (← innerAttributes g, ← p)

end WindowedLsb.Lint.Grammar
