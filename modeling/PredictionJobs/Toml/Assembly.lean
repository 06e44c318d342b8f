import PredictionJobs.Toml.Quotation

/-! # Building tables

Where a value goes. The header of a table leads through tables and to the last of repeated ones,
and makes those that are missing; such a table may get a header of its own later, once, and then
takes its place among its siblings anew. A dotted key leads only through tables that dotted keys or
headers of inner tables made, and adds only to tables that dotted keys made. No key is given twice.

A message about a header shows its last key as a document spells it; other messages show a key as it
is.
-/

namespace PredictionJobs.Toml

/-- How a path leads through tables. -/
inductive Descent where
  | byHeader
  | byKey
  /-- By a dotted key between braces. -/
  | byInlineKey
  deriving DecidableEq, Repr

def Descent.missing : Descent → Table
  | .byHeader => .new .mentioned none
  | .byKey | .byInlineKey => .new .dotted none

/-- Why a path to `here`, a table that has been made in this way, cannot lead on. -/
def Descent.refusal? (descent : Descent) (here : List String) (name : String) :
    Origin → Option Cause
  | .dotted => none
  | .mentioned => none
  | .header => if descent = .byHeader then none else some (.duplicate name none)
  | .braces =>
    if descent = .byInlineKey then some (.duplicate name none)
    else some (.notTable here "inline table")

/-- Changes the table that `path` leads to from `t`, which lies under the names `before`. A path
that leads nowhere gives a fault by `refused`. -/
def changeAt (descent : Descent) (refused : Cause → Fault) (change : Table → Except Fault Table)
    (before : List String) (t : Table) : List Key → Except Fault Table
  | [] => change t
  | key :: path => do
    let here := before ++ [key.name]
    match t.get? key.name with
    | none =>
      let child ← changeAt descent refused change here descent.missing path
      return t.add key (.table child)
    | some (.table child) =>
      match descent.refusal? here key.name child.origin with
      | some cause => throw (refused cause)
      | none =>
        let child ← changeAt descent refused change here child path
        return t.replace key.name (.table child)
    | some (.rows earlier last) =>
      let last ← changeAt descent refused change here last path
      return t.replace key.name (.rows earlier last)
    | some item => throw (refused (.notTable here item.kindName))

/-- Adds a value under a dotted key. `place` are the names of the table, where it has a place of its
own. -/
def addPair (descent : Descent) (refused : Cause → Fault) (place : Option (List String))
    (path : KeyPath) (value : Item) (t : Table) : Except Fault Table :=
  changeAt descent refused (fun child => do
    if !path.parents.isEmpty && child.origin != .dotted then
      throw (refused (.duplicate path.last.name none))
    else if (child.get? path.last.name).isSome then
      throw (refused (.duplicate path.last.name place))
    else return child.add path.last value) [] t path.parents

/-- A value under a dotted key, and where this starts in the text. -/
structure Pair where
  offset : Nat
  path : KeyPath
  value : Item
  stop : Nat

structure Section where
  path : KeyPath
  repeated : Bool
  span : Span
  pairs : List Pair

def Pair.refused (pair : Pair) (cause : Cause) : Fault := .refusal pair.offset cause

def Section.refused (s : Section) (cause : Cause) : Fault :=
  (Fault.refusal s.span.start cause).within .tableHeader

def addPairs (place : List String) (pairs : List Pair) (t : Table) : Except Fault Table :=
  pairs.foldlM (fun t pair => addPair .byKey pair.refused (some place) pair.path pair.value t) t

/-- The part of the text from a header to the end of the last pair below it. -/
def Section.extent (s : Section) : Span :=
  ⟨s.span.start, (s.pairs.getLast?.map Pair.stop).getD s.span.stop⟩

def Section.fill (s : Section) (entries : List (Key × Item)) : Except Fault Table :=
  addPairs (s.path.parts.map Key.name) s.pairs ⟨.header, some s.extent, entries⟩

def Section.addTo (s : Section) (t : Table) : Except Fault Table := do
  let key := s.path.last
  let taken : Fault :=
    s.refused (.duplicate (spelled key.name) (some (s.path.parents.map Key.name)))
  match s.repeated, t.get? key.name with
  | false, none => return t.add key (.table (← s.fill []))
  | false, some (.table before) =>
    if before.origin = .mentioned then
      return (t.remove key.name).add key (.table (← s.fill before.entries))
    else throw taken
  | true, none => return t.add key (.rows [] (← s.fill []))
  | true, some (.rows earlier last) =>
    return t.replace key.name (.rows (earlier ++ [last]) (← s.fill []))
  | _, _ => throw taken

/-- The document of the pairs before the first header and of the sections. -/
def document (pairs : List Pair) (sections : List Section) : Except Fault Table := do
  let root ← addPairs [] pairs (.new .header none)
  sections.foldlM (fun root s =>
    changeAt .byHeader s.refused s.addTo [] root s.path.parents) root

/-- The table of the pairs between braces, which start at `offset`. -/
def inlineTable (offset : Nat) (pairs : List (KeyPath × Item)) : Except Fault Table :=
  pairs.foldlM (fun t pair =>
    addPair .byInlineKey (Fault.refusal offset) none pair.1 pair.2 t)
    (.new .braces none)

end PredictionJobs.Toml
