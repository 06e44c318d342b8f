/-! # Extents of texts

How many bytes a text takes in UTF-8, and the part of it between two numbers of bytes.
-/

namespace PredictionJobs.Text

/-- The number of bytes in UTF-8. -/
def byteCount : List Char → Nat
  | [] => 0
  | c :: cs => c.utf8Size + byteCount cs

/-- The characters that start before byte `stop`, but not before byte `start`. -/
def between : (start stop : Nat) → List Char → List Char
  | _, _, [] => []
  | start, stop, c :: cs =>
    let rest := between (start - c.utf8Size) (stop - c.utf8Size) cs
    if start = 0 ∧ 0 < stop then c :: rest else rest

end PredictionJobs.Text
