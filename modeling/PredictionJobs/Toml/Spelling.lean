/-! # Keys in messages

A message spells a key as a document could: bare where possible, else between double quotes, unless
single quotes save escapes.
-/

namespace PredictionJobs.Toml

/-- Characters of a key without quotes. -/
def isBare (c : Char) : Bool := c.isAlphanum || c = '-' || c = '_'

/-- Control characters other than tabs, which only escapes can give. -/
def isControl (c : Char) : Bool := c ≠ '\t' && (c.toNat < 0x20 || c.toNat = 0x7F)

/-- The four hexadecimal digits of a control character. -/
private def controlDigits (c : Char) : List Char :=
  let digits := (Nat.toDigits 16 c.toNat).map Char.toUpper
  List.replicate (4 - digits.length) '0' ++ digits

def escaped (c : Char) : List Char :=
  match c with
  | '\x08' => ['\\', 'b']
  | '\t' => ['\\', 't']
  | '\n' => ['\\', 'n']
  | '\x0c' => ['\\', 'f']
  | '\r' => ['\\', 'r']
  | '"' => ['\\', '"']
  | '\\' => ['\\', '\\']
  | c => if isControl c then '\\' :: 'u' :: controlDigits c else [c]

def spelled (name : String) : String :=
  let cs := name.toList
  let doubled := '"' :: cs.flatMap escaped ++ ['"']
  let singled := '\'' :: cs ++ ['\'']
  if !cs.isEmpty && cs.all isBare then name
  else if cs.any isControl then String.ofList doubled
  else if cs.all (fun c => c ≠ '"' && c ≠ '\\') then String.ofList doubled
  else if cs.all (· ≠ '\'') then String.ofList singled
  else String.ofList doubled

end PredictionJobs.Toml
