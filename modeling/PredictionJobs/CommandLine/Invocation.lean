import PredictionJobs.CommandLine.Usage
import PredictionJobs.Session

/-! # Invocations

What the arguments of the program ask for. Options may stand before the name of a command and behind
it; of a value given in both places the latter counts. `submit` and `check` take words: from the
first of them on, every argument is a word.

The value of an option is looked at only when the next argument has to be placed, and that of an
option before the name of a command only when the arguments behind it have been read.
-/

namespace PredictionJobs.CommandLine

inductive Verb where
  | submit
  | check
  | keywords
  | predict
  | shell
  deriving DecidableEq, Repr

namespace Verb

def name : Verb → String
  | .submit => "submit"
  | .check => "check"
  | .keywords => "keywords"
  | .predict => "predict"
  | .shell => "shell"

def all : List Verb := [.submit, .check, .keywords, .predict, .shell]

def ofName? (name : String) : Option Verb := all.find? (·.name = name)

def takesWords : Verb → Bool
  | .submit | .check => true
  | _ => false

end Verb

def helpVerb : String := "help"

/-- Where an argument stands: before the name of a command, or behind it. -/
abbrev Place := Option Verb

inductive Flag where
  | quiet
  | verbose
  | simple
  deriving DecidableEq, Repr

inductive Setting where
  | output
  | config
  | serviceUrl
  | columns
  deriving DecidableEq, Repr

inductive Switch where
  | flag (flag : Flag)
  | setting (setting : Setting)
  | help
  | version
  deriving DecidableEq, Repr

def Switch.ofName? (place : Place) : String → Option Switch
  | "output" => some (.setting .output)
  | "quiet" => some (.flag .quiet)
  | "verbose" => some (.flag .verbose)
  | "config" => some (.setting .config)
  | "service-url" => some (.setting .serviceUrl)
  | "help" => some .help
  | "version" => if place.isNone then some .version else none
  | "columns" => if place = some .predict then some (.setting .columns) else none
  | "simple" => if place = some .predict then some (.flag .simple) else none
  | _ => none

def Switch.ofLetter? (place : Place) : Char → Option Switch
  | 'v' => some (.flag .verbose)
  | 'h' => some .help
  | 'V' => if place.isNone then some .version else none
  | _ => none

/-! ### What has been given -/

structure Given where
  output? : Option OutputFormat
  config? : Option String
  serviceUrl? : Option String
  columns? : Option (List String)
  flags : List Flag
  deriving DecidableEq

namespace Given

def nothing : Given := ⟨none, none, none, none, []⟩

def has (given : Given) (flag : Flag) : Bool := given.flags.contains flag

def setFlag (given : Given) (flag : Flag) : Except Usage Given :=
  if given.has flag then .error .repeated else .ok { given with flags := flag :: given.flags }

private def once {α : Type} (earlier? : Option α) (value : α) : Except Usage (Option α) :=
  if earlier?.isSome then .error .repeated else .ok (some value)

def columnsOf (text : String) : List String :=
  (text.toList.splitOnP (· == ',')).map String.ofList

/-- The given options with a value. Columns may be given repeatedly. -/
def setValue (given : Given) (setting : Setting) (value : String) : Except Usage Given :=
  match setting with
  | .output => do
    let output? ← once given.output? OutputFormat.text
    match value with
    | "text" => return { given with output? := output? }
    | "json" => return { given with output? := some .json }
    | _ => throw .invalidValue
  | .config => do
    let config? ← once given.config? value
    if value.isEmpty then throw .invalidValue
    else return { given with config? := config? }
  | .serviceUrl => do
    return { given with serviceUrl? := ← once given.serviceUrl? value }
  | .columns => .ok { given with columns? := some (given.columns?.getD [] ++ columnsOf value) }

/-- What is given behind the name of a command counts before what is given before it. -/
def above (inner outer : Given) : Given :=
  ⟨inner.output?.or outer.output?, inner.config?.or outer.config?,
    inner.serviceUrl?.or outer.serviceUrl?, inner.columns?.or outer.columns?,
    inner.flags ++ outer.flags⟩

end Given

/-! ### Reading -/

/-- What has been read in one place: the options, and the last one if its value has not been looked
at; it may still be missing. -/
structure Progress where
  given : Given
  pending? : Option (Setting × Option String)

namespace Progress

def start : Progress := ⟨.nothing, none⟩

def awaits (p : Progress) : Bool := p.pending?.any (·.2.isNone)

def settle (p : Progress) : Except Usage Progress :=
  match p.pending? with
  | none => .ok p
  | some (_, none) => .error .invalidValue
  | some (setting, some value) => do return ⟨← p.given.setValue setting value, none⟩

def take (p : Progress) (value : String) : Progress :=
  { p with pending? := p.pending?.map fun pending => (pending.1, some value) }

def switch (p : Progress) (s : Switch) (value? : Option String) : Except Usage Progress :=
  match s, value? with
  | .setting setting, none => do return ⟨(← p.settle).given, some (setting, none)⟩
  | .setting setting, some value => do
    return ⟨← (← p.settle).given.setValue setting value, none⟩
  | _, some _ => .error .needlessValue
  | .flag flag, none => do return ⟨← (← p.settle).given.setFlag flag, none⟩
  | .help, none => do
    let _ ← p.settle
    throw .help
  | .version, none => do
    let _ ← p.settle
    throw .version

def letters (place : Place) (p : Progress) (cs : List Char) : Except Usage Progress :=
  cs.foldlM (fun p c =>
    match Switch.ofLetter? place c with
    | some s => p.switch s none
    | none => .error .unknownArgument) p

end Progress

/-- The forms of an argument. A hyphen alone is plain. -/
inductive Form where
  | separator
  | long (name : String) (value? : Option String)
  | short (letters : List Char)
  | plain
  deriving DecidableEq

def Form.of (argument : String) : Form :=
  match argument.toList with
  | ['-', '-'] => .separator
  | '-' :: '-' :: rest =>
    let name := String.ofList (rest.takeWhile (· ≠ '='))
    match rest.dropWhile (· ≠ '=') with
    | [] => .long name none
    | _ :: value => .long name (some (String.ofList value))
  | ['-'] => .plain
  | '-' :: rest => .short rest
  | _ => .plain

inductive Finish where
  | ended
  | command (verb : Verb) (rest : List String)
  | words (words : List String)

/-- The answer to a request for help on commands: there are no commands inside commands. -/
def helpOn : List String → Usage
  | [] => .help
  | [name] =>
    if (Verb.ofName? name).isSome || name = helpVerb then .help else .unknownCommand
  | _ => .unknownCommand

/-- What is wrong with an argument that is no option and has no place. -/
def misplaced (place : Place) : Usage :=
  if place.isNone then .unknownCommand else .unknownArgument

def takesWords (place : Place) : Bool := place.any Verb.takesWords

def fromWord (place : Place) (p : Progress) (words : List String) :
    Except Usage (Progress × Finish) :=
  if takesWords place then do return (← p.settle, .words words) else .error (misplaced place)

/-- Arguments behind two hyphens. The name of a command is none there. -/
def fromSeparator (place : Place) (p : Progress) :
    List String → Except Usage (Progress × Finish)
  | [] => .ok (p, .ended)
  | argument :: rest =>
    if place.isNone && ((Verb.ofName? argument).isSome || argument = helpVerb) then
      .error .unknownArgument
    else fromWord place p (argument :: rest)

/-- Reads the arguments of one place. An unknown option is a word or a value where words are
taken. -/
def scan (place : Place) (p : Progress) : List String → Except Usage (Progress × Finish)
  | [] => .ok (p, .ended)
  | argument :: rest =>
    let plain : Except Usage (Progress × Finish) :=
      if p.awaits then scan place (p.take argument) rest
      else
        match place, Verb.ofName? argument with
        | none, some verb => .ok (p, .command verb rest)
        | none, none =>
          .error (if argument = helpVerb then helpOn rest else .unknownCommand)
        | place, _ => fromWord place p (argument :: rest)
    match Form.of argument with
    | .separator => fromSeparator place p rest
    | .long name value? =>
      match Switch.ofName? place name with
      | some s => do scan place (← p.switch s value?) rest
      | none => if takesWords place then plain else .error .unknownArgument
    | .short letters =>
      if takesWords place && letters.any fun c => (Switch.ofLetter? place c).isNone then plain
      else do scan place (← p.letters place letters) rest
    | .plain => plain

/-! ### Invocations -/

inductive Task where
  /-- Without words the command is read from the standard input. -/
  | submit (words : List String)
  | check (words : List String)
  | keywords
  | predict (columns : List String) (simple : Bool)
  | shell
  deriving DecidableEq

structure Presentation where
  format : OutputFormat
  quiet : Bool
  verbose : Bool
  deriving DecidableEq

structure Invocation where
  presentation : Presentation
  config? : Option String
  serviceUrl? : Option String
  task : Task
  deriving DecidableEq

def task (verb : Verb) (given : Given) (words : List String) : Except Usage Task :=
  match verb with
  | .submit => .ok (.submit words)
  | .check => if words.isEmpty then .error .missingArgument else .ok (.check words)
  | .keywords => .ok .keywords
  | .predict =>
    match given.columns? with
    | none => .error .missingArgument
    | some columns => .ok (.predict columns (given.has .simple))
  | .shell => .ok .shell

def readCommand (verb : Verb) (arguments : List String) : Except Usage (Given × Task) := do
  let (p, finish) ← scan (some verb) .start arguments
  let p ← p.settle
  let words := match finish with
    | .words words => words
    | _ => []
  return (p.given, ← task verb p.given words)

def invocation (given : Given) (task : Task) : Invocation :=
  ⟨⟨given.output?.getD .text, given.has .quiet, given.has .verbose⟩, given.config?,
    given.serviceUrl?, task⟩

def read (arguments : List String) : Except Usage Invocation := do
  let (p, finish) ← scan none .start arguments
  match finish with
  | .command verb rest =>
    let (inner, task) ← readCommand verb rest
    let p ← p.settle
    return invocation (inner.above p.given) task
  | _ =>
    let p ← p.settle
    throw (if p.given = .nothing then .nothingGiven else .missingCommand)

end PredictionJobs.CommandLine
