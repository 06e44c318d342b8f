import PredictionJobs.Text.Alphanumeric
import PredictionJobs.Text.Blank
import PredictionJobs.Text.Digits

/-! # Patterns for field values

Which texts are regular expressions. A pattern is read item by item into the groups and brackets
that are still open. Of each group only the depth of what has been read counts, and whether a
repetition may follow. Letters in any case, shorthands for classes and word boundaries need tables
of characters that there are not, so they are refused, except where a flag confines them to ASCII.
A pattern holds no closing brace, since that would end the field; so it cannot count repetitions.
-/

namespace PredictionJobs.Log.Pattern

/-- The flags that count for what is allowed. -/
structure Mode where
  caseless : Bool
  unicode : Bool
  /-- Blanks and comments are ignored. -/
  verbose : Bool
  deriving DecidableEq, Repr

/-- What has been read of alternatives. -/
structure Alternatives where
  /-- The depths of the items of the last alternative, the last one first. -/
  items : List Nat
  branches : List Nat
  repeatable : Bool
  deriving Repr

/-- A group that is still open: what is around it, and the flags there. -/
structure Group where
  around : Alternatives
  mode : Mode
  deriving Repr

structure Bracket where
  items : List Nat
  /-- The depth of what stands before the last operator. -/
  left? : Option Nat
  /-- Whether there has been nothing but hyphens. -/
  atStart : Bool
  deriving Repr

structure Progress where
  mode : Mode
  names : List (List Char)
  groups : List Group
  here : Alternatives
  /-- Open brackets, the innermost first. -/
  brackets : List Bracket
  deriving Repr

/-- The greatest depth of a pattern. -/
def depthLimit : Nat := 250

/-- The depth of several things in one: a thing alone is as deep as it is. -/
private def jointDepth : List Nat → Nat
  | [] => 0
  | [depth] => depth
  | depths => depths.foldl max 0 + 1

namespace Alternatives

def empty : Alternatives := ⟨[], [], false⟩

def add (a : Alternatives) (depth : Nat) : Alternatives := ⟨depth :: a.items, a.branches, true⟩

/-- With a change of flags, which cannot be repeated. -/
def addChange (a : Alternatives) : Alternatives := ⟨0 :: a.items, a.branches, false⟩

def repeatLast (a : Alternatives) : Option Alternatives :=
  match a.items with
  | depth :: items => if a.repeatable then some ⟨(depth + 1) :: items, a.branches, true⟩ else none
  | [] => none

def branch (a : Alternatives) : Alternatives := ⟨[], jointDepth a.items :: a.branches, false⟩

def depth (a : Alternatives) : Nat := jointDepth (jointDepth a.items :: a.branches)

end Alternatives

namespace Bracket

def empty : Bracket := ⟨[], none, true⟩

def add (bracket : Bracket) (depth : Nat) : Bracket :=
  { bracket with items := depth :: bracket.items, atStart := false }

def addHyphen (bracket : Bracket) : Bracket := { bracket with items := 0 :: bracket.items }

def innerDepth (bracket : Bracket) : Nat :=
  match bracket.left? with
  | none => jointDepth bracket.items
  | some left => max left (jointDepth bracket.items) + 1

def operator (bracket : Bracket) : Bracket := ⟨[], some bracket.innerDepth, false⟩

end Bracket

/-! ### Items -/

/-- What one character, or what follows a backslash, stands for. -/
inductive Atom where
  /-- A character; a `byte` is given by two hexadecimal digits. -/
  | char (c : Char) (byte : Bool)
  | shorthand (negated : Bool)
  | assertion (ofWord : Bool)
  deriving DecidableEq, Repr

def Mode.allows (mode : Mode) : Atom → Bool
  | .char c byte => if mode.unicode then !mode.caseless else !byte || c.toNat < 0x80
  | .shorthand negated => !mode.unicode && !negated
  | .assertion ofWord => !mode.unicode || !ofWord

def Mode.allowsInBrackets (mode : Mode) : Atom → Bool
  | .char c _ => if mode.unicode then !mode.caseless else c.toNat < 0x80
  | .shorthand negated => !mode.unicode && !negated
  | .assertion _ => false

private def behindIgnored : (inComment : Bool) → List Char → List Char
  | _, [] => []
  | true, c :: cs => behindIgnored (c ≠ '\n') cs
  | false, c :: cs =>
    if Text.isBlank c then behindIgnored false cs
    else if c = '#' then behindIgnored true cs
    else c :: cs

private def Mode.next (mode : Mode) (cs : List Char) : List Char :=
  if mode.verbose then behindIgnored false cs else cs

private def hexadecimal (mode : Mode) (value : Nat) : (count : Nat) → List Char →
    Option (Nat × List Char)
  | 0, cs => some (value, cs)
  | count + 1, cs =>
    match mode.next cs with
    | [] => none
    | c :: rest => do hexadecimal mode (value * 16 + (← Text.hexValue? c)) count rest

private def codePoint (mode : Mode) (count : Nat) (cs : List Char) :
    Option (Atom × List Char) := do
  let (value, rest) ← hexadecimal mode 0 count cs
  if value.isValidChar then some (.char (Char.ofNat value) (count = 2), rest) else none

/-- What follows a backslash. Punctuation stands for itself, and letters have their meanings. -/
private def escape (mode : Mode) : List Char → Option (Atom × List Char)
  | [] => none
  | c :: rest =>
    match c with
    | 'x' => codePoint mode 2 rest
    | 'u' => codePoint mode 4 rest
    | 'U' => codePoint mode 8 rest
    | 'd' | 's' | 'w' => some (.shorthand false, rest)
    | 'D' | 'S' | 'W' => some (.shorthand true, rest)
    | 'a' => some (.char '\x07' false, rest)
    | 'f' => some (.char '\x0c' false, rest)
    | 't' => some (.char '\t' false, rest)
    | 'n' => some (.char '\n' false, rest)
    | 'r' => some (.char '\r' false, rest)
    | 'v' => some (.char '\x0b' false, rest)
    | 'A' | 'z' => some (.assertion false, rest)
    | 'b' | 'B' | '<' | '>' => some (.assertion true, rest)
    | c => if c.toNat < 0x80 && !c.isAlphanum then some (.char c false, rest) else none

private def atom (mode : Mode) : List Char → Option (Atom × List Char)
  | [] => none
  | '\\' :: rest => escape mode rest
  | c :: rest => some (.char c false, rest)

/-! ### Brackets -/

private def classNames : List String :=
  ["alnum", "alpha", "ascii", "blank", "cntrl", "digit", "graph", "lower", "print", "punct",
    "space", "upper", "word", "xdigit"]

/-- A named class between colons, from behind its bracket: whether it is negated. -/
private def namedClass? : List Char → Option (Bool × List Char)
  | ':' :: cs =>
    let (negated, cs) := match cs with
      | '^' :: cs => (true, cs)
      | cs => (false, cs)
    match cs.dropWhile (· ≠ ':') with
    | ':' :: ']' :: rest =>
      if String.ofList (cs.takeWhile (· ≠ ':')) ∈ classNames then some (negated, rest) else none
    | _ => none
  | _ => none

private def openBracket (p : Progress) (cs : List Char) : Option (Progress × List Char) :=
  let opened : Progress := { p with brackets := .empty :: p.brackets }
  match p.mode.next cs with
  | '^' :: rest => if p.mode.unicode then some (opened, rest) else none
  | rest => some (opened, rest)

private def bracketItem (mode : Mode) (cs : List Char) : Option (List Char) := do
  let (first, rest) ← atom mode cs
  guard (mode.allowsInBrackets first)
  match mode.next rest with
  | '-' :: behind =>
    match mode.next behind with
    | [] => none
    | ']' :: _ | '-' :: _ => some rest
    | behind =>
      let (last, rest) ← atom mode behind
      guard (mode.allowsInBrackets last)
      match first, last with
      | .char c _, .char d _ => if c ≤ d then some rest else none
      | _, _ => none
  | _ => some rest

/-- Reads one item between the innermost brackets. A closing bracket is an item where there is none
yet, and so are hyphens before all others. -/
private def bracketStep (p : Progress) (bracket : Bracket) (outer : List Bracket) (cs : List Char) :
    Option (Progress × List Char) :=
  let within (bracket : Bracket) (rest : List Char) : Option (Progress × List Char) :=
    some ({ p with brackets := bracket :: outer }, rest)
  let plain (bracket : Bracket) (rest : List Char) : Option (Progress × List Char) :=
    if p.mode.allowsInBrackets (.char '-' false) then within bracket rest else none
  match cs with
  | ']' :: rest =>
    if bracket.atStart && bracket.items.isEmpty then plain (bracket.add 0) rest
    else
      let depth := bracket.innerDepth + 1
      match outer with
      | [] => some ({ p with brackets := [], here := p.here.add depth }, rest)
      | next :: outer => some ({ p with brackets := next.add depth :: outer }, rest)
  | '-' :: '-' :: rest =>
    if bracket.atStart then plain bracket.addHyphen ('-' :: rest) else within bracket.operator rest
  | '&' :: '&' :: rest | '~' :: '~' :: rest => within bracket.operator rest
  | '[' :: rest =>
    match namedClass? rest with
    | some (negated, rest) =>
      if if p.mode.unicode then p.mode.caseless else negated then none
      else within (bracket.add 0) rest
    | none => openBracket p rest
  | '-' :: rest =>
    if bracket.atStart then plain bracket.addHyphen rest
    else do within (bracket.add 0) (← bracketItem p.mode cs)
  | cs => do within (bracket.add 0) (← bracketItem p.mode cs)

/-! ### Groups -/

private def groupName? (cs : List Char) : Option (List Char × List Char) :=
  let name := cs.takeWhile (· ≠ '>')
  let goesOn (c : Char) : Bool :=
    Text.isAlphanumeric c || c = '_' || c = '.' || c = '[' || c = ']'
  match name, cs.dropWhile (· ≠ '>') with
  | first :: later, _ :: rest =>
    if (Text.isAlphabetic first || first = '_') && later.all goesOn then some (name, rest) else none
  | _, _ => none

/-- The flags up to a colon or a closing parenthesis, none of them twice: the mode they make. -/
private def flags (mode : Mode) (on : Bool) (seen : List Char) : List Char →
    Option (Mode × List Char)
  | [] => none
  | c :: rest =>
    if c = ':' ∨ c = ')' then
      if seen.head? = some '-' then none else some (mode, c :: rest)
    else if c ∈ seen then none
    else
      match c with
      | '-' => flags mode false (c :: seen) rest
      | 'i' => flags { mode with caseless := on } on (c :: seen) rest
      | 'u' => flags { mode with unicode := on } on (c :: seen) rest
      | 'x' => flags { mode with verbose := on } on (c :: seen) rest
      | 'm' | 's' | 'U' | 'R' => flags mode on (c :: seen) rest
      | _ => none

private def openGroup (p : Progress) (mode : Mode) : Progress :=
  { p with groups := ⟨p.here, p.mode⟩ :: p.groups, here := .empty, mode := mode }

private def openNamed (p : Progress) (cs : List Char) : Option (Progress × List Char) := do
  let (name, rest) ← groupName? cs
  if name ∈ p.names then none
  else some ({ openGroup p p.mode with names := name :: p.names }, rest)

/-- Reads what follows an opening parenthesis: the start of a group, or flags for the rest of the
group around. Looking ahead or behind is refused. -/
private def parenthesis (p : Progress) (cs : List Char) : Option (Progress × List Char) :=
  match p.mode.next cs with
  | '?' :: 'P' :: '<' :: rest => openNamed p rest
  | '?' :: '<' :: '=' :: _ | '?' :: '<' :: '!' :: _ => none
  | '?' :: '<' :: rest => openNamed p rest
  | '?' :: ')' :: _ => none
  | '?' :: rest =>
    match flags p.mode true [] rest with
    | some (mode, ':' :: rest) => some (openGroup p mode, rest)
    | some (mode, _ :: rest) => some ({ p with mode := mode, here := p.here.addChange }, rest)
    | _ => none
  | rest => some (openGroup p p.mode, rest)

/-! ### Patterns -/

private def itemStep (p : Progress) (cs : List Char) : Option (Progress × List Char) :=
  let on (a : Alternatives) (rest : List Char) : Option (Progress × List Char) :=
    some ({ p with here := a }, rest)
  match cs with
  | '(' :: rest => parenthesis p rest
  | ')' :: rest =>
    match p.groups with
    | [] => none
    | group :: groups =>
      some ({ p with
        groups := groups, mode := group.mode, here := group.around.add (p.here.depth + 1) }, rest)
  | '|' :: rest => on p.here.branch rest
  | '[' :: rest => openBracket p rest
  | '?' :: '?' :: rest | '*' :: '?' :: rest | '+' :: '?' :: rest
  | '?' :: rest | '*' :: rest | '+' :: rest => do on (← p.here.repeatLast) rest
  | '\x7b' :: _ => none
  | '.' :: rest => if p.mode.unicode then on (p.here.add 0) rest else none
  | '^' :: rest | '$' :: rest => on (p.here.add 0) rest
  | cs => do
    let (atom, rest) ← atom p.mode cs
    if p.mode.allows atom then on (p.here.add 0) rest else none

private def step (p : Progress) (cs : List Char) : Option (Progress × List Char) :=
  match p.mode.next cs with
  | [] => some (p, [])
  | cs =>
    match p.brackets with
    | [] => itemStep p cs
    | bracket :: outer => bracketStep p bracket outer cs

private def run (p : Progress) (cs : List Char) : Option Progress :=
  if cs.isEmpty then some p
  else
    match step p cs with
    | none => none
    | some (q, rest) => if _h : rest.length < cs.length then run q rest else none
termination_by cs.length

def start : Progress := ⟨⟨false, true, false⟩, [], [], .empty, []⟩

def Progress.isComplete (p : Progress) : Bool :=
  p.brackets.isEmpty && p.groups.isEmpty && p.here.depth ≤ depthLimit

def isPattern (cs : List Char) : Bool := (run start cs).any Progress.isComplete

end PredictionJobs.Log.Pattern
