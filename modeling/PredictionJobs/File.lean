import PredictionJobs.Text.Lines

/-! # Files and inputs

What stands under a path, what an input gives, and reading them as text.
-/

namespace PredictionJobs

/-- Why the system refuses something: the number of the error and its description. -/
structure SystemFault where
  number : Nat
  text : String
  deriving DecidableEq, Repr

def SystemFault.message (fault : SystemFault) : String := s!"{fault.text} (os error {fault.number})"

inductive FileState where
  | missing
  | directory
  | content (bytes : List UInt8)
  /-- A regular file that cannot be read. -/
  | sealed (fault : SystemFault)
  /-- Not a regular file, but it can be read like one. -/
  | stream (bytes : List UInt8)
  /-- The path leads through a file. -/
  | behindFile
  /-- A name on the path is too long. -/
  | overlong
  /-- No path can be written so, since it holds a NUL. -/
  | unwritable
  /-- It cannot be read for another reason, and is no regular file as far as can be seen. -/
  | unreachable (fault : SystemFault)
  deriving DecidableEq

/-- Why an input cannot be read as text. -/
inductive ReadFault where
  | missing
  | directory
  | behindFile
  | overlong
  | unwritable
  | system (fault : SystemFault)
  | notText
  deriving DecidableEq, Repr

def ReadFault.message : ReadFault → String
  | .missing => "No such file or directory (os error 2)"
  | .directory => "Is a directory (os error 21)"
  | .behindFile => "Not a directory (os error 20)"
  | .overlong => "File name too long (os error 36)"
  | .unwritable => "file name contained an unexpected NUL byte"
  | .system fault => fault.message
  | .notText => "stream did not contain valid UTF-8"

def readText (bytes : List UInt8) : Except ReadFault String :=
  match Text.decode? bytes with
  | some text => .ok text
  | none => .error .notText

namespace FileState

def isFile : FileState → Bool
  | .content _ | .sealed _ => true
  | _ => false

def read : FileState → Except ReadFault String
  | .missing => .error .missing
  | .directory => .error .directory
  | .behindFile => .error .behindFile
  | .overlong => .error .overlong
  | .unwritable => .error .unwritable
  | .sealed fault | .unreachable fault => .error (.system fault)
  | .content bytes | .stream bytes => readText bytes

end FileState

/-- What an input gives, and the fault that reading it ends in, unless it comes to the end. -/
structure Input where
  bytes : List UInt8
  fault? : Option SystemFault

instance : Coe (List UInt8) Input := ⟨fun bytes => ⟨bytes, none⟩⟩

namespace Input

def read (input : Input) : Except ReadFault String :=
  match input.fault? with
  | some fault => .error (.system fault)
  | none => readText input.bytes

/-- The lines of an input; a line that cannot be read is `none`. A fault takes the place of the line
that it interrupts. -/
def lines (input : Input) : List (Option String) :=
  match input.fault? with
  | some _ => Text.endedLines input.bytes ++ [none]
  | none => Text.lines input.bytes

/-- Why the first line that cannot be read cannot. -/
def lineFault (input : Input) : ReadFault :=
  match input.fault? with
  | some fault => if none ∈ Text.endedLines input.bytes then .notText else .system fault
  | none => .notText

end Input

end PredictionJobs
