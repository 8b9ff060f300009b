import WindowedLsb.Lint.Finding
import WindowedLsb.Lint.Grammar.File

/-!
The report on the files of a source tree: what breaks a rule, the gravest first, then by path and line.
Findings of one line of one file stand in the order in which the rules are applied.
-/

namespace WindowedLsb.Lint

structure SourceFile where
  /-- The path below the source directory, its parts divided by slashes. -/
  path : String
  text : String
  deriving DecidableEq

namespace SourceFile

/-! ## Names -/

def name (f : SourceFile) : List Char := (f.path.toList.splitOn '/').getLastD []

def fileExtension : List Char := ".rs".toList

/-- Whether the file is source code: its name is more than the bare extension and ends in it. -/
def isSource (f : SourceFile) : Bool :=
  fileExtension.isSuffixOf f.name && f.name.length > fileExtension.length

/-- Names that say nothing about what is in a module. -/
def vagueNames : List String := ["utils.rs", "helpers.rs", "misc.rs", "common.rs"]

def hasName (f : SourceFile) (name : String) : Bool := f.name == name.toList

/-- The file of the rules themselves, whose text is not held to them. -/
def isExempt (f : SourceFile) : Bool := f.hasName "tidy.rs"

/-! ## Lines -/

/-- Takes off what follows the last line break if that is empty. -/
def dropEmptyLast (lines : List (List Char)) : List (List Char) :=
  if lines.getLast? = some [] then lines.dropLast else lines

/-- The lines of the text. A line break at the end starts no further line. -/
def lines (f : SourceFile) : List (List Char) := dropEmptyLast (f.text.toList.splitOn '\n')

def occurs (word : List Char) : List Char → Bool
  | [] => word.isEmpty
  | c :: cs => word.isPrefixOf (c :: cs) || occurs word cs

/-! ## Findings -/

def nameFindings (f : SourceFile) : List Finding :=
  if vagueNames.any f.hasName then [⟨.vagueModule, 0⟩] else []

def lengthFindings (f : SourceFile) : List Finding :=
  if f.lines.length > maxLines then [⟨.longModule f.lines.length, 0⟩] else []

def unfinishedFindings (f : SourceFile) : List Finding :=
  (f.lines.zipIdx 1).filterMap fun (text, line) =>
    if occurs unfinishedMarker.toList text then some ⟨.unfinished, line⟩ else none

def outlineFindings (f : SourceFile) : List Finding :=
  match outline f.text with
  | .ok nodes => Node.findingsAll nodes
  | .error line => [⟨.unreadable, line⟩]

/-- All findings in a file, in the order in which the rules are applied. -/
def findings (f : SourceFile) : List Finding :=
  if !f.isSource then []
  else if f.isExempt then f.nameFindings
  else f.nameFindings ++ f.lengthFindings ++ f.unfinishedFindings ++ f.outlineFindings

end SourceFile

/-! ## Reports -/

/-- The files under the source directory, in the order in which they are found. -/
structure SourceTree where
  files : List SourceFile
  /-- No two files have the same path. -/
  nodup_paths : (files.map SourceFile.path).Nodup

/-- A tree of one file. -/
def SourceTree.single (f : SourceFile) : SourceTree := ⟨[f], List.pairwise_singleton _ _⟩

structure Entry where
  path : String
  finding : Finding
  deriving DecidableEq

namespace Severity

def label : Severity → String
  | critical => "Critical"
  | ratchet => "Ratchet"

def rank : Severity → Nat
  | critical => 0
  | ratchet => 1

end Severity

namespace Entry

def severity (e : Entry) : Severity := e.finding.breach.severity

/-- The order of a report: the gravest first, then by path and line. -/
def order (a b : Entry) : Ordering :=
  (compare a.severity.rank b.severity.rank).then
    ((compare a.path b.path).then (compare a.finding.line b.finding.line))

def render (e : Entry) : String :=
  "[" ++ e.severity.label ++ "] " ++ e.path ++ ":" ++ toString e.finding.line ++ ": " ++
    e.finding.breach.message

end Entry

def SourceFile.entries (f : SourceFile) : List Entry := f.findings.map (Entry.mk f.path)

namespace SourceTree

/-- All findings in the order of the report. -/
def entries (t : SourceTree) : List Entry :=
  (t.files.flatMap SourceFile.entries).mergeSort fun a b => (Entry.order a b).isLE

/-- The lines of the report, none if all rules hold. -/
def report (t : SourceTree) : List String := t.entries.map Entry.render

end SourceTree

end WindowedLsb.Lint
