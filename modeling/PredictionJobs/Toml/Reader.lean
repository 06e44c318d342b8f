import PredictionJobs.Toml.Assembly
import PredictionJobs.Toml.Numeral

/-! # Reading TOML

A text is a sequence of lines: pairs, headers, comments and blank lines. Lists may run over several
lines and end in a comma; inline tables may do neither. A byte order mark at the start counts for
nothing. Of two faults the one of the earlier statement counts.
-/

namespace PredictionJobs.Toml

open Reader

/-! ### Blanks, comments and line ends -/

/-- A comment, from its number sign up to the end of its line. -/
private def comment : Reader Unit := do
  demand "#"
  let _ ← takeWhile isPlain

private def lineOrTextEnd : Reader Unit := do
  unless (← ahead).isEmpty do
    if (← attempt lineEnd).isNone then unwanted

/-- The end of a line behind a statement and perhaps a comment. -/
private def statementEnd : Reader Unit := expecting ["newline", "`#`"] do
  skipSpaces
  let _ ← attempt comment
  lineOrTextEnd

/-- Blanks, and comments and empty lines with ends that `ending` reads. -/
private def skipBlankLines (ending : Reader Unit) : Reader Unit := do
  let _ ← gather do
    skipSpaces
    match ← peek? with
    | some '#' =>
      comment
      ending
      return some ()
    | some '\n' | some '\r' =>
      ending
      return some ()
    | _ => return none

/-! ### Values -/

private def listItem (item : Reader Item) : Reader Item := do
  skipBlankLines lineEnd
  let value ← item
  skipBlankLines lineEnd
  return value

private def listOver (item : Reader Item) : Reader (List Item) := do
  demand "["
  let items ← firmly do
    let items? ← attempt do
      let (first, later) ← separated (demand ",") (listItem item)
      let _ ← accept ","
      return first :: later
    skipBlankLines lineEnd
    return items?.getD []
  firmly (expecting ["`]`"] (within .list (demand "]")))
  return items

private def equalsSign : Reader Unit := expecting ["`.`", "`=`"] (demand "=")

private def inlinePair (item : Reader Item) : Reader (KeyPath × Item) := do
  let path ← keyPath
  let value ← firmly do
    equalsSign
    skipSpaces
    let value ← item
    skipSpaces
    return value
  return (path, value)

private def inlineTableOver (item : Reader Item) : Reader Table := do
  demand "\x7b"
  let t ← firmly do
    let offset := (← get).offset
    let pairs? ← attempt (separated (demand ",") (inlinePair item))
    skipSpaces
    match inlineTable offset (pairs?.elim [] fun (first, later) => first :: later) with
    | .ok t => pure t
    | .error fault => stop fault
  firmly (expecting ["`\x7d`"] (within .inlineTable (demand "\x7d")))
  return t

private def noValue {α : Type} (reader : Reader α) : Reader α :=
  expecting ["`\"`", "`\'`"] (within .string reader)

private def truth (word : String) (value : Bool) : Reader Scalar := noValue <| firmly do
  demand word
  return .boolean value

private def scalar : Reader Scalar := do
  match ← peek? with
  | none => unwanted
  | some '"' | some '\'' => .string <$> text
  | some 't' => truth "true" true
  | some 'f' => truth "false" false
  | some '_' => expecting ["leading digit"] integer
  | some '.' => expecting ["leading digit"] float
  | some c =>
    if c.isDigit || c = '+' || c = '-' then numeral
    else noValue (namedFloat false)

private def valueOver (inner : Reader Item) : Reader Item := do
  match ← peek? with
  | some '[' =>
    let (items, span) ← spanned (listOver inner)
    return .list items span
  | some '\x7b' =>
    let (t, span) ← spanned (inlineTableOver inner)
    return .table { t with span? := some span }
  | _ =>
    let (value, span) ← spanned scalar
    return .scalar value span

/-- A value in which lists and inline tables are nested at most `depth` deep. -/
def value : (depth : Nat) → Reader Item
  | 0 => do
    match ← peek? with
    | some '[' | some '\x7b' => firmly (refuse (← get).offset .tooDeep)
    | _ =>
      let (value, span) ← spanned scalar
      return .scalar value span
  | depth + 1 => valueOver (value depth)

/-! ### Statements -/

inductive Statement where
  | pair (pair : Pair)
  | header (path : KeyPath) (repeated : Bool) (span : Span)

private def pair : Reader Pair := do
  let offset := (← get).offset
  let path ← keyPath
  equalsSign
  skipSpaces
  let item ← value (depthLimit - 1)
  let stop := (← get).offset
  statementEnd
  return ⟨offset, path, item, stop⟩

private def bracketed (opening closing : String) : Reader KeyPath := do
  demand opening
  let path ← keyPath
  expecting ["`.`", s!"`{closing}`"] (demand closing)
  return path

/-- A header. A single bracket at the end of the text starts none. -/
private def header : Reader Statement := within .tableHeader do
  match ← ahead with
  | [_] => unwanted
  | cs =>
    let repeated := "[[".toList.isPrefixOf cs
    let (path, span) ← spanned (if repeated then bracketed "[[" "]]" else bracketed "[" "]")
    statementEnd
    return .header path repeated span

private def statement? : Reader (Option Statement) := do
  skipBlankLines lineOrTextEnd
  match ← peek? with
  | none => return none
  | some '[' => some <$> header
  | some _ => (fun p => some (.pair p)) <$> pair

/-- The statements of a text that come before its first fault, if there is one. -/
private def statements (text : List Char) : List Statement × Option Fault :=
  let start : Cursor := ⟨0, text⟩
  let start := if text.head? = some '\ufeff' then start.advance 1 else start
  match collect statement? start with
  | (found, .ok _) => (found, none)
  | (found, .error stop) => (found, some stop.fault)

private def Statement.group : List Statement → List Pair × List Section
  | [] => ([], [])
  | .pair p :: rest =>
    let (pairs, sections) := Statement.group rest
    (p :: pairs, sections)
  | .header path repeated span :: rest =>
    let (pairs, sections) := Statement.group rest
    ([], ⟨path, repeated, span, pairs⟩ :: sections)

def read (text : List Char) : Except Fault Table := do
  let (found, fault?) := statements text
  let (pairs, sections) := Statement.group found
  let root ← document pairs sections
  match fault? with
  | some fault => throw fault
  | none => return root

end PredictionJobs.Toml
