import WindowedLsb.Lint.Outline

/-!
The rules that the nodes of an outline are held to. Each node has findings of its own; the findings
of a file are those of all its nodes, a node before what stands in it, except that modules,
functions and methods for tests are passed over with all that stands in them.
-/

namespace WindowedLsb.Lint

/-! ## Findings -/

/-- How grave a finding is: critical ones are mended at once, a ratchet is a limit that may be
raised on purpose. -/
inductive Severity where
  | critical
  | ratchet
  deriving DecidableEq

/-- A rule that does not hold, with what the report says about it. -/
inductive Breach where
  /-- A module's name says nothing about what is in it. -/
  | vagueModule
  | longModule (lines : Nat)
  /-- A line holds the marker of unfinished work. -/
  | unfinished
  /-- The file has no outline. What the parser says about the fault is left out of the message: only
  the line at which it stopped is known here. -/
  | unreadable
  | undocumented (kind : Kind) (name : String)
  | abbreviated (param function preferred : String)
  | wideStruct (name : String) (fields : Nat)
  /-- A call that stops the program when there is no value. -/
  | hastyCall (method : String)
  deriving DecidableEq

structure Finding where
  breach : Breach
  line : Nat
  deriving DecidableEq

/-! ## Limits -/

def maxFields : Nat := 12

def maxLines : Nat := 800

def unfinishedMarker : String := "FIXME"

/-- Names that public parameters must not have, with the names to take for them. -/
def abbreviations : List (String × String) :=
  [("ctx", "context"), ("sn", "sequence_number"), ("seq_num", "sequence_number"),
    ("seq", "sequence_number")]

def hastyMethods : List String := ["unwrap", "expect"]

/-! ## Wording -/

/-- What a kind of item is called in a report. -/
def Kind.word : Kind → String
  | module => "module"
  | function _ => "function"
  | method _ => "method"
  | structType _ => "struct"
  | enumType => "enum"
  | traitType => "trait"
  | other => "item"

namespace Breach

def severity : Breach → Severity
  | longModule _ | wideStruct .. => .ratchet
  | vagueModule | unfinished | unreadable | undocumented .. | abbreviated .. | hastyCall _ =>
      .critical

def message : Breach → String
  | vagueModule => "Anti-pattern module name; use a focused, descriptive module name."
  | longModule lines =>
      "Module has " ++ toString lines ++ " lines, exceeding the high-water mark of " ++
        toString maxLines ++ "."
  | unfinished => unfinishedMarker ++ " comments are not allowed in the main branch."
  | unreadable => "Failed to parse file"
  | undocumented kind name =>
      "Public " ++ kind.word ++ " '" ++ name ++ "' must have documentation."
  | abbreviated param function preferred =>
      "Public parameter '" ++ param ++ "' in '" ++ function ++ "' must be named '" ++
        preferred ++ "'."
  | wideStruct name fields =>
      "Struct '" ++ name ++ "' has " ++ toString fields ++ " fields, exceeding the max of " ++
        toString maxFields ++ "."
  | hastyCall method =>
      "Do not use ." ++ method ++ "() in production code; return a WlsbError instead."

end Breach

/-! ## Findings of one node -/

namespace Head

/-- Whether the item is passed over with all that stands in it. -/
def isSkipped (h : Head) : Bool :=
  match h.kind with
  | .module | .function _ | .method _ => h.isGated
  | .structType _ | .enumType | .traitType | .other => false

def documentation (h : Head) : List Finding :=
  if h.isPublic && !h.isDocumented then [⟨.undocumented h.kind h.name, h.line⟩] else []

/-- What the name of a parameter should be, if it is abbreviated. -/
def preferredName (name : String) : Option String :=
  (abbreviations.find? fun (short, _) => short == name).map Prod.snd

def parameterNames (h : Head) (params : List Param) : List Finding :=
  if h.isPublic then
    params.filterMap fun p =>
      (preferredName p.name).map fun preferred => ⟨.abbreviated p.name h.name preferred, p.line⟩
  else []

def fieldCount (h : Head) (fields : Nat) : List Finding :=
  if fields > maxFields then [⟨.wideStruct h.name fields, h.line⟩] else []

def findings (h : Head) : List Finding :=
  match h.kind with
  | .function params | .method params => h.documentation ++ h.parameterNames params
  | .structType fields => h.fieldCount fields ++ h.documentation
  | .enumType | .traitType => h.documentation
  | .module | .other => []

end Head

namespace Node

def ownFindings : Node → List Finding
  | item head _ => head.findings
  | call method line _ => if method ∈ hastyMethods then [⟨.hastyCall method, line⟩] else []
  | arguments _ => []

/-- Whether the node is passed over with all that stands in it. -/
def isSkipped : Node → Bool
  | item head _ => head.isSkipped
  | call .. | arguments _ => false

/-! ## Findings of a file -/

mutual

def findings : Node → List Finding
  | item head children => if head.isSkipped then [] else head.findings ++ findingsAll children
  | call method line children => ownFindings (call method line []) ++ findingsAll children
  | arguments _ => []

def findingsAll : List Node → List Finding
  | [] => []
  | n :: ns => n.findings ++ findingsAll ns

end

end Node
end WindowedLsb.Lint
