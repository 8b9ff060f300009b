import WindowedLsb.Lint.Grammar.Input
import WindowedLsb.Lint.Outline

/-!
What the parsers of the grammar give: for every phrase the nodes of the outline that it holds, in
the order of the text, and the little that the phrases around it must know of its form.
-/

namespace WindowedLsb.Lint

structure Attributes where
  nodes : List Node
  documented : Bool
  gated : Bool

namespace Attributes

def none : Attributes := ⟨[], false, false⟩

instance : Append Attributes :=
  ⟨fun a b => ⟨a.nodes ++ b.nodes, a.documented || b.documented, a.gated || b.gated⟩⟩

def join (as : List Attributes) : Attributes := as.foldl (· ++ ·) none

end Attributes

/-! ## Expressions -/

/-- How tightly operators bind, loosest first. -/
inductive Binding where
  | any
  | assign
  | range
  | or
  | and
  | comparison
  | bitOr
  | bitXor
  | bitAnd
  | shift
  | sum
  | product
  | cast
  deriving DecidableEq

namespace Binding

def rank : Binding → Nat
  | any => 0
  | assign => 1
  | range => 2
  | or => 3
  | and => 4
  | comparison => 5
  | bitOr => 6
  | bitXor => 7
  | bitAnd => 8
  | shift => 9
  | sum => 10
  | product => 11
  | cast => 12

instance : LT Binding := ⟨fun a b => a.rank < b.rank⟩

instance : LE Binding := ⟨fun a b => a.rank ≤ b.rank⟩

instance (a b : Binding) : Decidable (a < b) := inferInstanceAs (Decidable (a.rank < b.rank))

instance (a b : Binding) : Decidable (a ≤ b) := inferInstanceAs (Decidable (a.rank ≤ b.rank))

end Binding

inductive Form where
  /-- A block, loop, condition or match: complete as a statement. -/
  | block
  | range
  | comparison
  /-- A macro called with braces. -/
  | braceMacro
  | other
  deriving DecidableEq

/-- Where attributes in front of an expression go. -/
inductive AttributePlace where
  | inFront
  /-- Into the method call that is the first node: it is met before its attributes are. -/
  | inCall
  /-- Nowhere: the expression is kept as tokens only. -/
  | nowhere
  deriving DecidableEq

structure Expression where
  nodes : List Node
  form : Form
  /-- Its last token is a brace that belongs to it. -/
  endsInBrace : Bool
  attributePlace : AttributePlace

namespace Expression

def plain (nodes : List Node) (endsInBrace : Bool) : Expression :=
  ⟨nodes, .other, endsInBrace, .inFront⟩

/-- An expression that is complete as a statement. -/
def block (nodes : List Node) : Expression := ⟨nodes, .block, true, .inFront⟩

/-- An expression that is kept as tokens only and leaves nothing in the outline. -/
def verbatim (endsInBrace : Bool) : Expression := ⟨[], .other, endsInBrace, .nowhere⟩

def withAttributes (e : Expression) (as : Attributes) : Expression :=
  match e.attributePlace, e.nodes with
  | .inCall, .call method line children :: rest =>
      { e with nodes := .call method line (as.nodes ++ children) :: rest }
  | .nowhere, _ => e
  | _, _ => { e with nodes := as.nodes ++ e.nodes }

end Expression

/-! ## Types, patterns and paths -/

inductive TypeForm where
  /-- A path that may be a trait; `lone` if it is one name, so that it can name an associated
  item. -/
  | path (lone : Bool)
  /-- Bounds without a keyword in front, and whether there is just one, without a plus sign. -/
  | bounds (single : Bool)
  | other
  deriving DecidableEq

structure TypePhrase where
  nodes : List Node
  form : TypeForm
  /-- Its last token is a brace that belongs to it. -/
  endsInBrace : Bool

inductive PatternForm where
  | binding (param : Param)
  /-- The rest of a tuple or list. -/
  | rest
  /-- A range that lacks an end. -/
  | openRange (line : Nat)
  /-- It is kept as tokens only. -/
  | verbatim
  | other
  deriving DecidableEq

structure Pattern where
  nodes : List Node
  form : PatternForm

/-- A path: the nodes in its arguments, and what its form allows. -/
structure PathPhrase where
  nodes : List Node
  /-- It has one segment and no leading colons. -/
  single : Bool
  /-- No segment has arguments. -/
  bare : Bool
  /-- The last segment has arguments. -/
  applied : Bool

/-- What bounds a type parameter or makes up a type. -/
structure Bound where
  nodes : List Node
  /-- It is a trait: neither a lifetime nor a list of captured parameters. -/
  isTrait : Bool
  /-- The type of the result of its last arguments ends in a brace. -/
  endsInBrace : Bool

/-- Where a bound stands, which tells what may stand in front of it. -/
inductive BoundPlace where
  /-- It bounds a type parameter, an associated type or a trait, and may be marked as holding for
  constants. -/
  | parameter
  /-- It makes up a type that is known by its traits only; besides, captured parameters may be
  listed. -/
  | hidden
  /-- It makes up a trait object or a name for several traits together; no mark is allowed. -/
  | object
  deriving DecidableEq

/-! ## Recursion -/

/-- The parsers that call each other, at one depth of nesting. A parser of the next depth uses these
for what is nested in its phrase. -/
structure Grammar where
  expression : (allowStruct : Bool) → Parser Expression
  unary : (allowStruct : Bool) → Parser Expression
  /-- An expression at the start of a statement or behind the arrow of a match arm. -/
  early : Parser Expression
  /-- Goes on behind an operand with operators that bind at least so tightly. -/
  operators : Expression → (allowStruct : Bool) → Binding → Parser Expression
  type : (allowPlus : Bool) → Parser TypePhrase
  /-- What bounds a type parameter. -/
  bound : Parser Bound
  pattern : Parser Pattern
  /-- The statements between the braces of a block. -/
  statements : Parser (List Node)
  /-- The named fields between the braces of a struct or variant. -/
  namedFields : Parser (List (List Node))
  /-- An item behind its outer attributes. -/
  item : Attributes → Parser (List Node)
  /-- A tree of imported names; says whether a name in it starts at the root of all crates, which is
  allowed inside braces only if `allowRoot`. -/
  useTree : (allowRoot : Bool) → Parser Bool

/-- No nesting at all. -/
def Grammar.bottom : Grammar :=
  ⟨fun _ => Parser.fail, fun _ => Parser.fail, Parser.fail, fun _ _ _ => Parser.fail,
    fun _ => Parser.fail, Parser.fail, Parser.fail, Parser.fail, Parser.fail,
    fun _ => Parser.fail, fun _ => Parser.fail⟩

end WindowedLsb.Lint
