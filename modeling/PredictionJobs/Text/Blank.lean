/-! # Blank characters

The characters that count as white space in a command, and trimming of them at both ends of a text.
-/

namespace PredictionJobs.Text

/-- The characters with the Unicode property `White_Space`. The zero width space, the byte order
mark and the information separators are not among them. -/
def isBlank (c : Char) : Bool :=
  let n := c.toNat
  (0x9 ≤ n && n ≤ 0xD) || n == 0x20 || n == 0x85 || n == 0xA0 || n == 0x1680
    || (0x2000 ≤ n && n ≤ 0x200A) || n == 0x2028 || n == 0x2029 || n == 0x202F || n == 0x205F
    || n == 0x3000

theorem isBlank_space : isBlank ' ' = true := by decide

/-- `cs` without the characters at its end that satisfy `p`. -/
def dropTrailing (p : Char → Bool) (cs : List Char) : List Char :=
  (cs.reverse.dropWhile p).reverse

/-- `cs` without blank characters at either end. -/
def trimChars (cs : List Char) : List Char :=
  dropTrailing isBlank (cs.dropWhile isBlank)

/-- `s` without blank characters at either end. -/
def trim (s : String) : String := String.ofList (trimChars s.toList)

@[simp] theorem toList_trim (s : String) : (trim s).toList = trimChars s.toList := by
  simp [trim]

/-- `s` without the characters at its end that equal `c`. -/
def trimEnd (c : Char) (s : String) : String :=
  String.ofList (dropTrailing (· == c) s.toList)

/-- Whether nothing but blank characters occur in `s`. -/
def isBlankText (s : String) : Bool := s.toList.all isBlank

end PredictionJobs.Text
