import PredictionJobs.Text.Unshown

/-! # Quoted texts in messages

A text between double quotes, with escapes for what would not show, as reports on documents quote
the texts that they found.
-/

namespace PredictionJobs.Text

/-- The spelling of a character inside double quotes. -/
def quotedChar (c : Char) : List Char :=
  match c with
  | '"' => ['\\', '"']
  | '\\' => ['\\', '\\']
  | '\t' => ['\\', 't']
  | '\r' => ['\\', 'r']
  | '\n' => ['\\', 'n']
  | '\x00' => ['\\', '0']
  | c =>
    if c.toNat < 0x20 || isUnshown c then
      "\\u\x7b".toList ++ Nat.toDigits 16 c.toNat ++ ['\x7d']
    else [c]

/-- The text between double quotes. -/
def quoted (s : String) : String :=
  String.ofList ('"' :: s.toList.flatMap quotedChar ++ ['"'])

end PredictionJobs.Text
