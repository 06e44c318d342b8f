import PredictionJobs.Toml.Fault

/-! # Reading step by step

A reader moves over the rest of a text, counts the bytes it has moved over, and may stop with a
fault. A tentative stop leaves it open that the text can be read in another way from where the
reader began; a final one does not.
-/

namespace PredictionJobs.Toml

/-- What is still unread, and how many bytes stand before it. -/
structure Cursor where
  offset : Nat
  rest : List Char

structure Stop where
  fault : Fault
  isFinal : Bool

abbrev Reader := StateT Cursor (Except Stop)

def Cursor.advance (c : Cursor) (count : Nat) : Cursor :=
  ⟨c.offset + Text.byteCount (c.rest.take count), c.rest.drop count⟩

/-- Applies `step` as long as it gives something and moves on, and collects what it gives before the
end or a stop. -/
def collect {α : Type} (step : Reader (Option α)) (c : Cursor) : List α × Except Stop Cursor :=
  match step c with
  | .error stop => ([], .error stop)
  | .ok (none, d) => ([], .ok d)
  | .ok (some a, d) =>
    if _h : d.rest.length < c.rest.length then
      let (as, result) := collect step d
      (a :: as, result)
    else ([a], .ok d)
termination_by c.rest.length

namespace Reader

variable {α β : Type}

/-! ### Steps -/

def ahead : Reader (List Char) := return (← get).rest

def peek? : Reader (Option Char) := return (← get).rest.head?

def skip (count : Nat) : Reader Unit := modify (·.advance count)

def takeWhile (p : Char → Bool) : Reader (List Char) := do
  let cs := (← ahead).takeWhile p
  skip cs.length
  return cs

def accept (word : String) : Reader Bool := do
  if word.toList.isPrefixOf (← ahead) then
    skip word.length
    return true
  else return false

/-! ### Stops -/

def stop (fault : Fault) : Reader α := throw ⟨fault, false⟩

def unwanted : Reader α := do stop (.unwanted (← get).offset)

/-- Stops tentatively behind the next character, or at it if it is not ASCII. -/
def unwantedBehind : Reader α := do
  if (← peek?).any (·.utf8Size = 1) then skip 1
  unwanted

def refuse (offset : Nat) (cause : Cause) : Reader α := stop (.refusal offset cause)

def onStop (change : Stop → Stop) (reader : Reader α) : Reader α := fun c =>
  match reader c with
  | .ok result => .ok result
  | .error stop => .error (change stop)

def firmly (reader : Reader α) : Reader α := onStop ({ · with isFinal := true }) reader

def within (part : Part) (reader : Reader α) : Reader α :=
  onStop (fun stop => { stop with fault := stop.fault.within part }) reader

/-- Reads something that one of `words` describes or could come before. -/
def expecting (words : List String) (reader : Reader α) : Reader α :=
  onStop (fun stop => { stop with fault := stop.fault.expecting words }) reader

/-- Applies `second` where `first` stops tentatively. -/
def orElse (first second : Reader α) : Reader α := fun c =>
  match first c with
  | .error stop => if stop.isFinal then .error stop else second c
  | result => result

/-- Gives nothing and stays where `reader` stops tentatively. -/
def attempt (reader : Reader α) : Reader (Option α) :=
  orElse (some <$> reader) (pure none)

/-! ### Combinations -/

def demand (word : String) : Reader Unit := do
  unless ← accept word do unwanted

def demandOne (p : Char → Bool) : Reader Char := do
  match ← peek? with
  | some c =>
    if p c then
      skip 1
      return c
    else unwanted
  | none => unwanted

/-- Applies `step` as long as it gives something and moves on. -/
def gather (step : Reader (Option α)) : Reader (List α) := fun c =>
  match collect step c with
  | (as, .ok d) => .ok (as, d)
  | (_, .error stop) => .error stop

def many (reader : Reader α) : Reader (List α) := gather (attempt reader)

def separated (separator : Reader β) (reader : Reader α) : Reader (α × List α) := do
  let first ← reader
  let later ← many do
    let _ ← separator
    reader
  return (first, later)

def spanned (reader : Reader α) : Reader (α × Span) := do
  let start := (← get).offset
  let a ← reader
  return (a, ⟨start, (← get).offset⟩)

def consumed (reader : Reader α) : Reader (List Char) := do
  let before ← ahead
  let _ ← reader
  let after ← ahead
  return before.take (before.length - after.length)

/-! ### Spaces and line ends -/

def skipSpaces : Reader Unit := do
  let _ ← takeWhile fun c => c = ' ' ∨ c = '\t'

/-- Moves over a line end, which must come next. What comes instead is looked at first. -/
def lineEnd : Reader Unit := do
  match ← peek? with
  | some '\n' => skip 1
  | some '\r' =>
    skip 1
    demand "\n"
  | _ => unwantedBehind

end Reader

/-- Characters that texts and comments may hold as they are: tabs, and no other controls. -/
def isPlain (c : Char) : Bool := !isControl c

end PredictionJobs.Toml
