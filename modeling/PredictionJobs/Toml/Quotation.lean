import PredictionJobs.Text.Digits
import PredictionJobs.Toml.Cursor

/-! # Quoted texts and keys

A text stands between double quotes, where a backslash starts an escape, or between single quotes,
where nothing does. Three quotes open a text of several lines; a line end right behind them does not
belong to it, and up to two quotes may stand directly before the three that close it.
-/

namespace PredictionJobs.Toml

open Reader

/-! ### Escapes -/

private def codePoint (count : Nat) : Reader Char := do
  let offset := (← get).offset
  let digits := ((← ahead).take count).takeWhile fun c => (Text.hexValue? c).isSome
  let n := (Text.hexNumber? digits).getD 0
  if digits.length < count then unwanted
  else if n.isValidChar then
    skip count
    return Char.ofNat n
  else refuse offset .outOfRange

private def escapeWords : List String :=
  ["`b`", "`f`", "`n`", "`r`", "`t`", "`u`", "`U`", "`\\`", "`\"`"]

private def escape : Reader Char := do
  demand "\\"
  match ← peek? with
  | none => unwanted
  | some 'b' => skip 1; return '\x08'
  | some 'f' => skip 1; return '\x0c'
  | some 'n' => skip 1; return '\n'
  | some 'r' => skip 1; return '\r'
  | some 't' => skip 1; return '\t'
  | some '"' => skip 1; return '"'
  | some '\\' => skip 1; return '\\'
  | some 'u' => skip 1; firmly (within .shortCodePoint (codePoint 4))
  | some 'U' => skip 1; firmly (within .longCodePoint (codePoint 8))
  | some _ => firmly (expecting escapeWords (within .escape unwantedBehind))

private def someWhile (p : Char → Bool) : Reader (List Char) := do
  let cs ← takeWhile p
  if cs.isEmpty then unwanted else return cs

private def isBasicPlain (c : Char) : Bool := isPlain c && c != '"' && c != '\\'

private def isLiteralPlain (c : Char) : Bool := isPlain c && c != '\''

/-! ### One line -/

private def basicPiece : Reader (List Char) :=
  orElse (someWhile isBasicPlain) ((fun c => [c]) <$> escape)

def basicText : Reader (List Char) := do
  demand "\""
  let pieces ← many basicPiece
  firmly (within .basicString (demand "\""))
  return pieces.flatten

def literalText : Reader (List Char) := within .literalString do
  demand "\'"
  let cs ← takeWhile isLiteralPlain
  firmly (demand "\'")
  return cs

/-! ### Several lines -/

private def quotesAhead (quote : Char) : Reader Nat := do
  return ((← ahead).takeWhile (· = quote)).length

/-- One or two quotes with something else behind them. -/
private def looseQuotes (quote : Char) : Reader (List Char) := do
  let count ← quotesAhead quote
  if (count = 1 ∨ count = 2) ∧ count < (← ahead).length then
    skip count
    return List.replicate count quote
  else unwanted

/-- The quotes directly before the three that close a text. -/
private def lastQuotes (quote : Char) : Reader (List Char) := do
  let count := min (← quotesAhead quote) 5 - 3
  skip count
  return List.replicate count quote

private def lineJoin : Reader (List Char) := do
  demand "\\"
  skipSpaces
  lineEnd
  let _ ← many (orElse lineEnd (discard (someWhile fun c => c = ' ' || c = '\t')))
  return []

private def lineFeed : Reader (List Char) := do
  lineEnd
  return ['\n']

private def multilineBasicPiece : Reader (List Char) :=
  orElse (someWhile isBasicPlain) <| orElse lineJoin <|
    orElse ((fun c => [c]) <$> escape) lineFeed

def multilineBasicText : Reader (List Char) := within .multilineBasicString do
  demand "\"\"\""
  let _ ← attempt lineEnd
  let pieces ← firmly (many (orElse multilineBasicPiece (looseQuotes '"')))
  let last ← lastQuotes '"'
  firmly (demand "\"\"\"")
  return pieces.flatten ++ last

private def multilineLiteralPiece : Reader (List Char) :=
  orElse (someWhile isLiteralPlain) lineFeed

private def literalQuotes : Reader (List Char) := do
  return (← looseQuotes '\'') ++ (← multilineLiteralPiece)

def multilineLiteralText : Reader (List Char) := within .multilineLiteralString do
  demand "\'\'\'"
  let _ ← attempt lineEnd
  let pieces ← firmly (many (orElse multilineLiteralPiece literalQuotes))
  let last ← lastQuotes '\''
  firmly (demand "\'\'\'")
  return pieces.flatten ++ last

def text : Reader String :=
  String.ofList <$>
    orElse multilineBasicText (orElse basicText (orElse multilineLiteralText literalText))

/-! ### Keys -/

/-- The greatest number of parts of a dotted key, and one more than the greatest depth of lists and
inline tables. -/
def depthLimit : Nat := 80

private def name : Reader (List Char) := do
  match ← peek? with
  | some '"' => basicText
  | some '\'' => literalText
  | _ => someWhile isBare

def keyPart : Reader Key := do
  skipSpaces
  let (cs, span) ← spanned name
  skipSpaces
  return ⟨String.ofList cs, span⟩

structure KeyPath where
  parents : List Key
  last : Key

namespace KeyPath

def parts (path : KeyPath) : List Key := path.parents ++ [path.last]

def ofParts (first : Key) : List Key → KeyPath
  | [] => ⟨[], first⟩
  | second :: rest =>
    let path := ofParts second rest
    ⟨first :: path.parents, path.last⟩

end KeyPath

def keyPath : Reader KeyPath := do
  let offset := (← get).offset
  let (first, later) ← within .key (separated (demand ".") keyPart)
  if depthLimit ≤ later.length + 1 then refuse offset .tooDeep
  else return .ofParts first later

end PredictionJobs.Toml
