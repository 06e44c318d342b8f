import PredictionJobs.Binary64.Literal
import PredictionJobs.Log.Event
import PredictionJobs.Log.Pattern
import PredictionJobs.Text.Extent

/-! # Log filters

A filter is written as directives between commas. A directive `target[span{field}]=level` lets
events pass up to a level; each of its parts may be missing. Of the directives that fit an event the
most specific one decides: the one with the longest target, then with the most fields. A directive
for a span, or for the value of a field, decides nothing, since events happen in no span; still the
value has to be a number, a truth value or a pattern.
-/

namespace PredictionJobs.Log

/-- The finest level that passes; none does if there is none. -/
abbrev Threshold := Option Level

def Threshold.passes (threshold : Threshold) (level : Level) : Bool :=
  threshold.any fun finest => level.rank ≤ finest.rank

structure FieldMatch where
  name : String
  value? : Option String
  deriving DecidableEq, Repr

structure Directive where
  target? : Option String
  span? : Option String
  fields : List FieldMatch
  threshold : Threshold
  deriving DecidableEq, Repr

namespace Directive

def decides (d : Directive) : Bool := d.span?.isNone && d.fields.all (·.value?.isNone)

/-- Whether an event comes from the target of a directive and has all its fields. -/
def fits (d : Directive) (event : Event) : Bool :=
  d.target?.all (fun target => target.toList.isPrefixOf event.topic.target.toList)
    && d.fields.all fun field =>
      field.name = "message" || event.fields.any (·.1 = field.name)

/-- Whether `d` counts less than `e`, which comes later. Both fit one event, so targets of one
length are equal. -/
def yieldsTo (d e : Directive) : Bool :=
  let length (x : Directive) : Nat := (x.target?.map (·.utf8ByteSize + 1)).getD 0
  let names (x : Directive) : List String := x.fields.map FieldMatch.name
  if length d ≠ length e then length d < length e
  else if d.fields.length ≠ e.fields.length then d.fields.length < e.fields.length
  else ¬names e < names d

end Directive

/-! ### Reading -/

/-- Numbers as levels; `0` lets nothing pass. -/
private def numbered : Nat → Option Threshold
  | 0 => some none
  | 1 => some (some .error)
  | 2 => some (some .warn)
  | 3 => some (some .info)
  | 4 => some (some .debug)
  | 5 => some (some .trace)
  | _ => none

/-- The number that digits denote, a plus sign before them aside. -/
private def number? (cs : List Char) : Option Nat :=
  let digits := match cs with
    | '+' :: rest => rest
    | cs => cs
  if digits.isEmpty || !digits.all Char.isDigit then none
  else some (Text.digitsValue digits)

private def named (cs : List Char) : Option Threshold :=
  match String.ofList (cs.map Char.toLower) with
  | "off" => some none
  | "error" => some (some .error)
  | "warn" => some (some .warn)
  | "info" => some (some .info)
  | "debug" => some (some .debug)
  | "trace" => some (some .trace)
  | _ => none

def threshold? (cs : List Char) : Option Threshold :=
  (number? cs >>= numbered).or (named cs)

private def everything : Threshold := some .trace

private def describesValue (cs : List Char) : Bool :=
  (Binary64.parse? (String.ofList cs)).isSome || Pattern.isPattern cs

/-- The field that a text names. A second equals sign ends the value. -/
private def fieldMatch (cs : List Char) : Option FieldMatch :=
  let name := String.ofList (cs.takeWhile (· ≠ '='))
  match cs.dropWhile (· ≠ '=') with
  | [] => some ⟨name, none⟩
  | _ :: rest =>
    let value := rest.takeWhile (· ≠ '=')
    if describesValue value then some ⟨name, some (String.ofList value)⟩ else none

private def startsTarget (c : Char) : Bool :=
  Text.isAlphanumeric c || c = '-' || c = ':' || c = '_'

/-- A part of a text, by the numbers of bytes before its start and before its end. -/
private structure Extent where
  start : Nat
  stop : Nat

private structure Form where
  target? : Option Extent
  span? : Option Extent
  field? : Option Extent
  /-- Where the level starts; it goes to the end. -/
  level? : Option Nat

private def Form.behindBracket (form : Form) (offset : Nat) : List Char → Option Form
  | [] => some form
  | '=' :: _ => some { form with level? := some (offset + 1) }
  | _ => none

/-- What follows the opening bracket of a directive at `offset`: a span or a field or both. -/
private def Form.inBrackets (form : Form) (offset : Nat) (cs : List Char) : Option Form :=
  let goesOn (c : Char) : Bool := c ≠ ']' && c ≠ '\x7b'
  let span : Extent := ⟨offset, offset + Text.byteCount (cs.takeWhile goesOn)⟩
  match cs.dropWhile goesOn with
  | ']' :: rest => Form.behindBracket { form with span? := some span } (span.stop + 1) rest
  | '\x7b' :: rest =>
    let span? := if span.start = span.stop then none else some span
    let start := span.stop + 1
    let field : Extent := ⟨start, start + Text.byteCount (rest.takeWhile (· ≠ '\x7d'))⟩
    match rest.dropWhile (· ≠ '\x7d') with
    | '\x7d' :: ']' :: rest =>
      if field.start = field.stop then none
      else
        Form.behindBracket { form with span? := span?, field? := some field } (field.stop + 2) rest
    | _ => none
  | _ => none

/-- Where the parts of a directive without blanks around it stand. A word alone is none of them. -/
private def Form.read (cs : List Char) : Option Form :=
  match cs with
  | [] => none
  | '[' :: rest => Form.inBrackets ⟨none, none, none, none⟩ 1 rest
  | c :: _ =>
    if !startsTarget c then none
    else
      let goesOn (c : Char) : Bool := c ≠ '=' && c ≠ '['
      let target : Extent := ⟨0, Text.byteCount (cs.takeWhile goesOn)⟩
      match cs.dropWhile goesOn with
      | [] => some ⟨none, none, none, none⟩
      | '[' :: rest => Form.inBrackets ⟨some target, none, none, none⟩ (target.stop + 1) rest
      | _ => some ⟨some target, none, none, some (target.stop + 1)⟩

private def writtenThreshold? (cs : List Char) : Option Threshold :=
  if cs.isEmpty then some everything else threshold? cs

/-- Reads a directive. Its parts are sought without the blanks around it, but are cut from the text
with them, so blanks before it push everything out of place. A word alone is a level if it can be
one, and else a target; a blank at either end keeps it from being a level. -/
def Directive.read (cs : List Char) : Option Directive := do
  let form ← Form.read (Text.trimChars cs)
  let cut (extent : Extent) : List Char := Text.between extent.start extent.stop cs
  let target? := form.target?.map fun extent => String.ofList (cut extent)
  let span? := form.span?.map fun extent => String.ofList (cut extent)
  let fields ← form.field?.toList.mapM fun extent => fieldMatch (cut extent)
  match form.level? with
  | some start =>
    let threshold ← writtenThreshold? (cut ⟨start, Text.byteCount cs⟩)
    return ⟨target?, span?, fields, threshold⟩
  | none =>
    if target?.isSome || span?.isSome || !fields.isEmpty then
      return ⟨target?, span?, fields, everything⟩
    else
      match threshold? cs with
      | some threshold => return ⟨none, none, [], threshold⟩
      | none => return ⟨some (String.ofList cs), none, [], everything⟩

/-- A list of directives; nothing but errors passes if it is empty. -/
structure Filter where
  directives : List Directive
  deriving DecidableEq

namespace Filter

def onlyErrors : Filter := ⟨[⟨none, none, [], some .error⟩]⟩

def debugging : Filter := ⟨[⟨none, none, [], some .debug⟩]⟩

private def pieces (cs : List Char) : List (List Char) :=
  (cs.splitOnP (· == ',')).filter (!·.isEmpty)

/-- The filter that a text describes; one wrong directive spoils it. -/
def read (text : String) : Option Filter :=
  ((pieces text.toList).mapM Directive.read).map (⟨·⟩)

def deciding? (filter : Filter) (event : Event) : Option Directive :=
  (filter.directives.filter fun d => d.decides && d.fits event).foldl
    (fun best? d =>
      match best? with
      | some best => if best.yieldsTo d then some d else some best
      | none => some d) none

def passes (filter : Filter) (event : Event) : Bool :=
  if filter.directives.isEmpty then event.level = .error
  else (filter.deciding? event).any (·.threshold.passes event.level)

def variableName : String := "PREDICTOR_LOG"

/-- The filter of a run: everything but the finest if it is `verbose`, else what the environment
says unless that is blank or wrong, else nothing but errors. -/
def active (verbose : Bool) (described? : Option String) : Filter :=
  if verbose then debugging
  else
    match described?.filter fun text => !Text.isBlankText text with
    | some text => (read text).getD onlyErrors
    | none => onlyErrors

end Filter

end PredictionJobs.Log
