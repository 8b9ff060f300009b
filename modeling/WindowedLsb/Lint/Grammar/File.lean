import WindowedLsb.Lint.Grammar.Item
import WindowedLsb.Lint.Lexer

/-!
The outline of a source file. Phrases nest without bound in the language, but in one file not deeper
than its tokens allow.
-/

namespace WindowedLsb.Lint

namespace Grammar

open WindowedLsb.Lint.Parser

/-- The parsers for what is nested at most so deep. -/
def ofDepth : (depth : Nat) → Grammar
  | 0 => bottom
  | depth + 1 =>
      let g := ofDepth depth
      { expression := expressionPhrase g
        unary := unaryPhrase g
        early := earlyPhrase g
        operators := operatorsPhrase g
        type := typePhrase g
        bound := boundPhrase g .parameter
        pattern := patternPhrase g
        statements := statementsPhrase g
        namedFields := namedFieldsPhrase g
        item := itemPhrase g
        useTree := useTreePhrase g }

def file (g : Grammar) : Parser (List Node) := do
  let attributes ← innerAttributes g
  return attributes.nodes ++ (← untilEnd (attributedItem g)).flatten

/-- No token starts more than this many levels of nesting. -/
def levelsPerToken : Nat := 4

def depthFor (ts : List Token) : Nat := levelsPerToken * (Token.countAll ts + 2)

end Grammar

/-- The outline of the tokens of a file, or the line of one that does not fit. -/
def outlineOfTokens (ts : List Token) : Except Nat (List Node) :=
  match Grammar.file (Grammar.ofDepth (Grammar.depthFor ts)) ⟨ts, ts.length, 1, none⟩ with
  | .error line => .error line
  | .ok (nodes, behind) =>
      match behind.stray.or (behind.rest.head?.map Token.line) with
      | some line => .error line
      | none => .ok nodes

/-- The outline of a source file, or the line that keeps it from being one. -/
def outline (text : String) : Except Nat (List Node) := Source.lexFile text >>= outlineOfTokens

end WindowedLsb.Lint
