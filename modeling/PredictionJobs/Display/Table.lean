/-! # Tables of two columns

A heading, a rule and a line per row. The left column is as wide as its widest cell, the heading
included; the right column is not filled up. Widths count characters.
-/

namespace PredictionJobs.Display

def columnWidth (heading : String) (cells : List String) : Nat :=
  (cells.map String.length).foldr max heading.length

/-- A text filled up with spaces. -/
def padRight (width : Nat) (s : String) : String :=
  s ++ String.ofList (List.replicate (width - s.length) ' ')

structure Table where
  left : String
  right : String
  rows : List (String × String)
  deriving DecidableEq

namespace Table

def leftWidth (t : Table) : Nat := columnWidth t.left (t.rows.map Prod.fst)

def rightWidth (t : Table) : Nat := columnWidth t.right (t.rows.map Prod.snd)

def line (t : Table) (row : String × String) : String :=
  padRight t.leftWidth row.1 ++ " | " ++ row.2

/-- The rule under the heading. -/
def rule (t : Table) : String :=
  String.ofList (List.replicate t.leftWidth '-') ++ "-+-"
    ++ String.ofList (List.replicate t.rightWidth '-')

def lines (t : Table) : List String := t.line (t.left, t.right) :: t.rule :: t.rows.map t.line

/-- The text of the table, every line ended by a line feed. -/
def render (t : Table) : String := String.join (t.lines.map (· ++ "\n"))

end Table

end PredictionJobs.Display
