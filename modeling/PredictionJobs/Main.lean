import PredictionJobs.Program
import PredictionJobs.Service.Address

/-! # Command line

Gathers what a run finds, runs the program, and writes what it leaves. No service can be reached
from here, so every request fails.
-/

namespace PredictionJobs.Main

open Program (Situation)

/-- The number of a failure, which may be given as its negative. -/
def failureNumber (code : UInt32) : UInt32 := if code < 0x80000000 then code else 0 - code

def systemFault : IO.Error → SystemFault
  | .alreadyExists _ code text | .interrupted _ code text | .noFileOrDirectory _ code text
  | .invalidArgument _ code text | .permissionDenied _ code text
  | .resourceExhausted _ code text | .inappropriateType _ code text | .noSuchThing _ code text
  | .otherError code text | .resourceBusy code text | .resourceVanished code text
  | .unsupportedOperation code text | .hardwareFault code text | .unsatisfiedConstraints code text
  | .illegalOperation code text | .protocolError code text | .timeExpired code text =>
    ⟨(failureNumber code).toNat, text⟩
  | .userError text => ⟨0, text⟩
  | .unexpectedEof => ⟨0, "unexpected end of file"⟩

def attempt {α : Type} (action : IO α) : IO (Except SystemFault α) := do
  try return .ok (← action) catch error => return .error (systemFault error)

def isRegularFile (path : String) : IO Bool := do
  match ← attempt ((← IO.currentDir) / path).metadata with
  | .ok metadata => return metadata.type == .file
  | .error _ => return false

def fileState (path : String) : IO FileState := do
  if path.toList.contains '\x00' then return .unwritable
  let regular ← isRegularFile path
  match ← attempt (IO.FS.readBinFile path) with
  | .ok bytes => return if regular then .content bytes.toList else .stream bytes.toList
  | .error fault =>
    if regular then return .sealed fault
    match fault.number with
    | 2 => return .missing
    | 20 => return .behindFile
    | 21 => return .directory
    | 36 => return .overlong
    | _ => return .unreachable fault

/-- All that a stream gives. A stream that is closed gives nothing. -/
partial def readAll (stream : IO.FS.Stream) (before : ByteArray) : IO Input := do
  match ← attempt (stream.read 65536) with
  | .ok bytes => if bytes.isEmpty then return before.toList else readAll stream (before ++ bytes)
  | .error fault => return ⟨before.toList, if fault.number = 9 then none else some fault⟩

def readsInput : CommandLine.Task → Bool
  | .submit [] | .shell => true
  | _ => false

/-- The file that settings may be in, and what stands there. Unless it is asked for, nothing but a
regular file is looked into. -/
def settingsFile (directory : String) (path? : Option String) : IO (String × FileState) := do
  match path? with
  | some path => return (path, ← fileState path)
  | none =>
    let path := pathIn directory usualFileName
    if ← isRegularFile path then return (path, ← fileState path) else return (path, .missing)

def situation (arguments : List String) : IO Situation := do
  let url? ← IO.getEnv serviceUrlVariable
  let filter? ← IO.getEnv Log.Filter.variableName
  let invocation? := (CommandLine.read arguments).toOption
  let input ←
    if invocation?.any (readsInput ·.task) then readAll (← IO.getStdin) .empty
    else pure ⟨[], none⟩
  let found : Situation := {
    arguments := arguments
    environment := fun name =>
      if name = serviceUrlVariable then url?
      else if name = Log.Filter.variableName then filter?
      else none
    directory := .error ⟨2, "No such file or directory"⟩
    files := fun _ => .missing
    input := input }
  -- Why the directory cannot be determined is not told; it has been removed as a rule.
  match ← attempt ((·.toString) <$> IO.currentDir) with
  | .error _ => return found
  | .ok directory =>
    let (path, state) ← settingsFile directory (invocation? >>= CommandLine.Invocation.config?)
    return { found with directory, files := fun other => if other = path then state else .missing }

/-- Sends nothing, since nothing is connected. -/
def send : Sender Id := Service.isolatedReply

def run (arguments : List String) : IO UInt32 := do
  match Id.run (Program.run send (← situation arguments)) with
  | .error usage =>
    if usage.exitCode = 0 then IO.println usage.message else IO.eprintln usage.message
    return usage.exitCode.toUInt32
  | .ok ⟨result, log⟩ =>
    for event in log do
      IO.eprintln event.line
    IO.print result.output
    IO.eprint result.errors
    return result.exitCode.toUInt32

end PredictionJobs.Main

def main (arguments : List String) : IO UInt32 := PredictionJobs.Main.run arguments
