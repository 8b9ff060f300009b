/-!
Source code as a tree of tokens: brackets are matched, and every token knows its line.
-/

namespace WindowedLsb.Lint

inductive Delimiter where
  | paren
  | bracket
  | brace
  deriving DecidableEq

inductive Literal where
  /-- A string in double quotes, plain or raw. -/
  | text
  /-- An integer, and whether a type is written behind it. -/
  | integer (value : Nat) (typed : Bool)
  /-- A number with a point or an exponent, as written. -/
  | float (written : List Char)
  /-- A character, or a string of bytes. -/
  | other
  deriving DecidableEq

inductive Token where
  /-- A name or keyword; a raw name keeps its mark. -/
  | word (name : String) (line : Nat)
  | lifetime (name : String) (line : Nat)
  /-- A punctuation character; `joint` says that another one follows at once. -/
  | mark (char : Char) (joint : Bool) (line : Nat)
  | literal (kind : Literal) (line : Nat)
  /-- Brackets and what stands between them, with the lines of both. -/
  | group (delimiter : Delimiter) (opened closed : Nat) (content : List Token)

namespace Token

/-- The line in which the token starts. -/
def line : Token → Nat
  | word _ line | lifetime _ line | mark _ _ line | literal _ line | group _ line _ _ => line

end Token
end WindowedLsb.Lint
