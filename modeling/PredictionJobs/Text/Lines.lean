/-! # Lines of an input

An input is cut behind every line feed; what follows the last one is a line too unless it is empty.
Each line of bytes is a text on its own, or no text at all.
-/

namespace PredictionJobs.Text

/-- The pieces of a list that end behind each occurrence of `mark`, and the rest. -/
def cutBehind {α : Type} [DecidableEq α] (mark : α) : List α → List (List α)
  | [] => []
  | a :: rest =>
    if a = mark then [a] :: cutBehind mark rest
    else
      match cutBehind mark rest with
      | [] => [[a]]
      | piece :: pieces => (a :: piece) :: pieces

/-- The text that bytes encode in UTF-8. -/
def decode? (bytes : List UInt8) : Option String := String.fromUTF8? ⟨bytes.toArray⟩

/-- The lines of an input; a line that is not UTF-8 is `none`. -/
def lines (input : List UInt8) : List (Option String) :=
  (cutBehind (0x0A : UInt8) input).map decode?

/-- The lines that are ended by a line feed. -/
def endedLines (input : List UInt8) : List (Option String) :=
  ((cutBehind (0x0A : UInt8) input).filter fun line => line.getLast? = some 0x0A).map decode?

end PredictionJobs.Text
