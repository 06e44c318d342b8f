import PredictionJobs.File
import PredictionJobs.Proofs.Text.Lines

/-! # What is read

A file gives a text if it can be read and its bytes are those of a text, an input if its end is
reached besides.
-/

namespace PredictionJobs

/-- Whether a regular file stands under a path. It may be one that cannot be read. -/
inductive FileState.IsRegular : FileState → Prop
  | content (bytes : List UInt8) : IsRegular (.content bytes)
  | sealed (fault : SystemFault) : IsRegular (.sealed fault)

theorem FileState.isFile_eq_true_iff {state : FileState} :
    state.isFile = true ↔ state.IsRegular := by
  constructor
  · intro h
    cases state with
    | content bytes => exact .content bytes
    | sealed fault => exact .sealed fault
    | _ => cases h
  · intro h
    cases h <;> rfl

/-- Whether what stands under a path can be read and holds a text. -/
inductive FileState.HasText : FileState → String → Prop
  | content (text : String) : HasText (.content (Text.encode text)) text
  | stream (text : String) : HasText (.stream (Text.encode text)) text

theorem readText_eq_ok_iff {bytes : List UInt8} {text : String} :
    readText bytes = .ok text ↔ bytes = Text.encode text := by
  rw [readText, ← Text.decode?_eq_some_iff]
  cases Text.decode? bytes <;> simp

theorem FileState.read_eq_ok_iff {state : FileState} {text : String} :
    state.read = .ok text ↔ state.HasText text := by
  constructor
  · intro h
    cases state with
    | content bytes =>
      obtain rfl := readText_eq_ok_iff.mp h
      exact .content text
    | stream bytes =>
      obtain rfl := readText_eq_ok_iff.mp h
      exact .stream text
    | _ => cases h
  · intro h
    cases h with
    | content => exact readText_eq_ok_iff.mpr rfl
    | stream => exact readText_eq_ok_iff.mpr rfl

theorem Input.read_eq_ok_iff {input : Input} {text : String} :
    input.read = .ok text ↔ input = Text.encode text := by
  obtain ⟨bytes, fault?⟩ := input
  cases fault? with
  | none => simp [read, readText_eq_ok_iff]
  | some fault => simp [read]

theorem Input.read_encode (text : String) : Input.read (Text.encode text) = .ok text :=
  read_eq_ok_iff.mpr rfl

theorem FileState.HasText.unique {state : FileState} {text text' : String}
    (h : state.HasText text) (h' : state.HasText text') : text = text' :=
  Except.ok.inj ((read_eq_ok_iff.mpr h).symm.trans (read_eq_ok_iff.mpr h'))

end PredictionJobs
