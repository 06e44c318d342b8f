import PredictionJobs.Text.Extent
import PredictionJobs.Text.Lines
import PredictionJobs.Toml.Document

/-! # Reports on a TOML text

A report says where something is wrong, repeats the line, and puts carets under the part in
question. Columns count characters, or bytes where a character of several bytes stands; carets count
bytes, but there are not more of them than the line is long and there is at least one.
-/

namespace PredictionJobs.Toml

/-- A line of a text and a column in it, both from 0. -/
structure Place where
  line : Nat
  column : Nat
  deriving DecidableEq, Repr

/-- The place `bytes` bytes behind `here`, which is `width` bytes behind the start of its line. The
end of a text is one column behind its last character, even if that is a line feed. -/
def Place.advance (here : Place) (width bytes : Nat) : List Char → Place
  | [] => here
  | c :: rest =>
    let next : Place := ⟨here.line, here.column + 1⟩
    if bytes < c.utf8Size then (if c.utf8Size = 1 then here else ⟨here.line, width⟩)
    else if rest.isEmpty then next
    else if c = '\n' then Place.advance ⟨here.line + 1, 0⟩ 0 (bytes - 1) rest
    else Place.advance next (width + c.utf8Size) (bytes - c.utf8Size) rest

/-- A line of a text without its line feed. -/
def lineAt (cs : List Char) (line : Nat) : List Char :=
  ((Text.cutBehind '\n' cs)[line]?.getD []).takeWhile (· ≠ '\n')

def copies (count : Nat) (c : Char) : String := String.ofList (List.replicate count c)

/-- The report of a message about a part of a text. -/
def report (text : List Char) (span : Span) (message : String) : String :=
  let place := Place.advance ⟨0, 0⟩ 0 span.start text
  let line := lineAt text place.line
  let number := toString (place.line + 1)
  let gutter := copies (number.length + 1) ' '
  let width := max 1 (min (span.stop - span.start) (Text.byteCount line - place.column))
  let margin := copies place.column ' '
  let carets := copies width '^'
  s!"TOML parse error at line {number}, column {place.column + 1}\n"
    ++ s!"{gutter}|\n"
    ++ s!"{number} | {String.ofList line}\n"
    ++ s!"{gutter}| {margin}{carets}\n"
    ++ s!"{message}\n"

end PredictionJobs.Toml
