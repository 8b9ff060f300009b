import WindowedLsb.Lint.Token

/-!
The outline of a source file: its items, and inside them the nested items, the method calls and the
macro arguments, each below what it stands in and in the order in which they are written. All other
syntax is left out.
-/

namespace WindowedLsb.Lint

/-- A parameter that is bound to one name. -/
structure Param where
  name : String
  line : Nat
  deriving DecidableEq

inductive Kind where
  | module
  | function (params : List Param)
  /-- A function of an implementation block. -/
  | method (params : List Param)
  | structType (fields : Nat)
  | enumType
  | traitType
  /-- Any other item: a constant, an implementation block, a function of a trait, and so on. -/
  | other
  deriving DecidableEq

/-- What an item says about itself. Of an item of another kind than those that have rules, neither
name nor line is kept. -/
structure Head where
  kind : Kind
  name : String
  /-- The line of the name. -/
  line : Nat
  /-- It is public without restriction. -/
  isPublic : Bool
  isDocumented : Bool
  /-- It is compiled for tests only. -/
  isGated : Bool
  deriving DecidableEq

inductive Node where
  | item (head : Head) (children : List Node)
  /-- A method call, the line of the method's name, and what stands in the receiver and in the
  arguments. -/
  | call (method : String) (line : Nat) (children : List Node)
  /-- The arguments of a macro, which are tokens and no syntax. -/
  | arguments (content : List Token)

end WindowedLsb.Lint
