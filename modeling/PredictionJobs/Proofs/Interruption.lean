import PredictionJobs.Command.Standard
import PredictionJobs.File
import PredictionJobs.Proofs.Session

/-! # Sessions that break off

A session ends at the first line that is no text or leaves it. What stands in that line or behind it
has no part in what is submitted and written. A line that is no text leaves everything as it was
when the line was asked for. So does a fault that cuts the input off.
-/

namespace PredictionJobs

namespace Text

/-- Pieces at the front are the pieces of what they make up. -/
theorem cutBehind_flatten {α : Type} [DecidableEq α] {mark : α} {as : List α}
    {front back : List (List α)} (h : cutBehind mark as = front ++ back) :
    cutBehind mark front.flatten = front := by
  induction as generalizing front back with
  | nil =>
    rw [cutBehind, List.nil_eq_append_iff] at h
    rw [h.1]
    rfl
  | cons a as ih =>
    cases front with
    | nil => rfl
    | cons first front =>
      rw [cutBehind] at h
      split at h
      case isTrue hMark =>
        obtain ⟨rfl, hRest⟩ := List.cons.inj h
        rw [List.flatten_cons, List.singleton_append, cutBehind, if_pos hMark, ih hRest]
      case isFalse hMark =>
        split at h
        case h_1 =>
          obtain ⟨rfl, hRest⟩ := List.cons.inj h
          obtain ⟨rfl, -⟩ := List.nil_eq_append_iff.mp hRest
          simp [cutBehind, hMark]
        case h_2 piece pieces hPieces =>
          obtain ⟨rfl, rfl⟩ := List.cons.inj h
          have hFront : cutBehind mark as = (piece :: front) ++ back := hPieces
          have hCut : cutBehind mark (piece ++ front.flatten) = piece :: front := ih hFront
          rw [List.flatten_cons, List.cons_append, cutBehind, if_neg hMark, hCut]

theorem map_decode?_encode (texts : List String) :
    (texts.map encode).map decode? = texts.map some := by
  rw [List.map_map]
  exact List.map_congr_left fun s _ => decode?_encode s

end Text

namespace Session

open Command Service

/-! ### The line that ends a session -/

/-- Whether a session on an input is ended by this line, which is no text or leaves it. The lines
before it are these texts, none of which leaves it. -/
structure EndedBy (input : List UInt8) (front : List String) (line : List UInt8) : Prop where
  cut : ∃ later, Text.cutBehind 0x0A input = front.map Text.encode ++ line :: later
  stays : ∀ text ∈ front, leaves text = false
  ends : ∀ text, Text.decode? line = some text → leaves text = true

theorem heardLines_append {front : List String} (h : ∀ text ∈ front, leaves text = false)
    (lines : List (Option String)) :
    heardLines (front.map some ++ lines) = front ++ heardLines lines := by
  induction front with
  | nil => rfl
  | cons text front ih =>
    obtain ⟨hText, hFront⟩ := List.forall_mem_cons.mp h
    simp [heardLines, hText, ih hFront]

theorem breaksOff_append {front : List String} (h : ∀ text ∈ front, leaves text = false)
    (lines : List (Option String)) :
    breaksOff (front.map some ++ lines) = breaksOff lines := by
  induction front with
  | nil => rfl
  | cons text front ih =>
    obtain ⟨hText, hFront⟩ := List.forall_mem_cons.mp h
    simp [breaksOff, hText, ih hFront]

namespace EndedBy

variable {input line : List UInt8} {front : List String}

theorem lines_front (h : EndedBy input front line) :
    Text.lines (front.flatMap Text.encode) = front.map some := by
  obtain ⟨later, hCut⟩ := h.cut
  rw [Text.lines, List.flatMap_def, Text.cutBehind_flatten hCut, Text.map_decode?_encode]

/-- The input that ends with the line is ended by it too. -/
theorem ended (h : EndedBy input front line) :
    EndedBy (front.flatMap Text.encode ++ line) front line where
  cut := by
    obtain ⟨later, hCut⟩ := h.cut
    refine ⟨[], ?_⟩
    have hFront : Text.cutBehind 0x0A input = (front.map Text.encode ++ [line]) ++ later := by
      rw [hCut, List.append_assoc, List.singleton_append]
    have hFlatten : front.flatMap Text.encode ++ line =
        (front.map Text.encode ++ [line]).flatten := by
      rw [List.flatten_append, List.flatten_singleton, List.flatMap_def]
    rw [hFlatten, Text.cutBehind_flatten hFront]
  stays := h.stays
  ends := h.ends

theorem heardLines_eq (h : EndedBy input front line) :
    heardLines (Text.lines input) = front := by
  obtain ⟨later, hCut⟩ := h.cut
  rw [Text.lines, hCut, List.map_append, Text.map_decode?_encode, heardLines_append h.stays,
    List.map_cons]
  cases hLine : Text.decode? line with
  | none => simp [heardLines]
  | some text => simp [heardLines, h.ends text hLine]

theorem breaksOff_eq (h : EndedBy input front line) :
    breaksOff (Text.lines input) = (Text.decode? line).isNone := by
  obtain ⟨later, hCut⟩ := h.cut
  rw [Text.lines, hCut, List.map_append, Text.map_decode?_encode, breaksOff_append h.stays,
    List.map_cons]
  cases hLine : Text.decode? line with
  | none => rfl
  | some text => simp [breaksOff, h.ends text hLine]

end EndedBy

/-! ### What is left -/

/-- What a session has written that has handled these lines and asks for the next one. -/
def writtenSoFar (format : OutputFormat) (lines : List String) (outcomes : List Outcome) :
    String :=
  opening format ++ conversation format lines outcomes ++ invitation format

theorem after_opening (format : OutputFormat) (lines : List String) (outcomes : List Outcome)
    (brokenOff : Bool) :
    (transcript format lines outcomes brokenOff).after (opening format) =
      ⟨writtenSoFar format lines outcomes ++ (if brokenOff then "" else closing format),
        brokenOff⟩ := by
  simp [transcript, Transcript.after, writtenSoFar, String.append_assoc]

variable {m : Type → Type} [Monad m] [LawfulMonad m]

section

variable {input line : List UInt8} {front : List String} (format : OutputFormat)
  (handle : String → m Outcome)

theorem run_of_endedBy (h : EndedBy input front line) :
    run format handle input =
      (fun outcomes => ⟨writtenSoFar format front outcomes ++
        (if (Text.decode? line).isNone then "" else closing format),
          (Text.decode? line).isNone⟩) <$> (commandsOf front).mapM handle := by
  rw [run_eq_transcript, h.heardLines_eq, h.breaksOff_eq]
  simp only [after_opening]

theorem run_of_unreadable (h : EndedBy input front line) (hLine : Text.decode? line = none) :
    run format handle input =
      (fun outcomes => ⟨writtenSoFar format front outcomes, true⟩) <$>
        (commandsOf front).mapM handle := by
  rw [run_of_endedBy format handle h, hLine]
  simp

theorem run_of_leaving (h : EndedBy input front line) {text : String}
    (hLine : Text.decode? line = some text) :
    run format handle input =
      (fun outcomes => ⟨writtenSoFar format front outcomes ++ closing format, false⟩) <$>
        (commandsOf front).mapM handle := by
  rw [run_of_endedBy format handle h, hLine]
  simp

/-- The lines before the one that ends a session, on their own. -/
theorem run_front (h : EndedBy input front line) :
    run format handle (front.flatMap Text.encode) =
      (fun outcomes => ⟨writtenSoFar format front outcomes ++ closing format, false⟩) <$>
        (commandsOf front).mapM handle := by
  have hHeard := heardLines_append h.stays []
  have hBroken := breaksOff_append h.stays []
  rw [List.append_nil] at hHeard hBroken
  rw [run_eq_transcript, h.lines_front, hHeard, hBroken]
  simp [after_opening, heardLines, breaksOff]

end

/-! ### Submissions -/

/-- Whether a session on an input submits these commands, sends what they send, and leaves what is
made of their outcomes. -/
structure Conducts (format : OutputFormat) (g : Grammar) (dispatch : Dispatcher m)
    (rowLimit : Nat) (input : List UInt8) (commands : List String)
    (left : List Outcome → Transcript) : Prop where
  submits : run format (submit g dispatch rowLimit) input =
    left <$> submitAll g dispatch rowLimit commands
  sends : ∀ sent, (run format (submit g (watched dispatch) rowLimit) input).run sent =
    (fun outcomes => (left outcomes, sent ++ commands.filterMap (checkedParameters? g))) <$>
      submitAll g dispatch rowLimit commands

variable {format : OutputFormat} {g : Grammar} {dispatch : Dispatcher m} {rowLimit : Nat}

theorem conducts_of_run {input : List UInt8} {commands : List String}
    {left : List Outcome → Transcript}
    (h : ∀ {n : Type → Type} [Monad n] [LawfulMonad n] (handle : String → n Outcome),
      run format handle input = left <$> commands.mapM handle) :
    Conducts format g dispatch rowLimit input commands left where
  submits := h _
  sends sent := by
    have hSent := run_submitAll_watched g dispatch rowLimit commands sent
    rw [submitAll] at hSent
    rw [h, StateT.run_map, hSent, Functor.map_map]

variable (format g dispatch rowLimit) {input line : List UInt8} {front : List String}

/-- A session submits the commands of the lines before the one that ends it. If that line is no
text, the session fails and has written just what it writes until it asks for the line. If the line
leaves the session, all is as if the input ended behind it. -/
theorem run_by_ending_line (h : EndedBy input front line) :
    let conducts := Conducts format g dispatch rowLimit
    (Text.decode? line = none →
      conducts input (commandsOf front) fun outcomes =>
        ⟨writtenSoFar format front outcomes, true⟩) ∧
    (Text.decode? line ≠ none →
      run format (submit g dispatch rowLimit) input =
        run format (submit g dispatch rowLimit) (front.flatMap Text.encode ++ line) ∧
      conducts input (commandsOf front) fun outcomes =>
        ⟨writtenSoFar format front outcomes ++ closing format, false⟩) ∧
    conducts (front.flatMap Text.encode) (commandsOf front) fun outcomes =>
      ⟨writtenSoFar format front outcomes ++ closing format, false⟩ := by
  refine ⟨fun hLine => ?_, fun hLine => ?_, ?_⟩
  · exact conducts_of_run fun handle => run_of_unreadable format handle h hLine
  · obtain ⟨text, hText⟩ := Option.ne_none_iff_exists'.mp hLine
    refine ⟨?_, conducts_of_run fun handle => run_of_leaving format handle h hText⟩
    rw [run_of_leaving format _ h hText, run_of_leaving format _ h.ended hText]
  · exact conducts_of_run fun handle => run_front format handle h

/-- A valid command in a line that breaks off within a character is not submitted, and neither is
the one behind it. -/
theorem run_by_ending_line_truncated :
    let command := "file_name a.csv target_column y model_type 3"
    let line := Text.encode command ++ [0xC3, 0x0A]
    let input := Text.encode (command ++ "\n") ++ line ++ Text.encode command
    let dispatch : Dispatcher (StateM (List Parameters)) :=
      scripted fun _ => .error (.status "http://service/process" 503)
    EndedBy input [command ++ "\n"] line ∧ Text.decode? line = none ∧
    commandsOf [command ++ "\n"] = [command] ∧
    Conducts .text .standard dispatch defaultRowLimit input [command] fun outcomes =>
      ⟨writtenSoFar .text [command ++ "\n"] outcomes, true⟩ := by
  intro command line input dispatch
  have hLine : Text.decode? line = none := by decide +kernel
  have hEnded : EndedBy input [command ++ "\n"] line := by
    refine ⟨⟨[Text.encode command], by decide +kernel⟩, by decide +kernel, ?_⟩
    intro text hText
    cases hLine.symm.trans hText
  have hCommands : commandsOf [command ++ "\n"] = [command] := by decide +kernel
  have hConducts := (run_by_ending_line .text .standard dispatch defaultRowLimit hEnded).1 hLine
  rw [hCommands] at hConducts
  exact ⟨hEnded, hLine, hCommands, hConducts⟩

/-! ### Inputs that are cut off -/

/-- Whether reading an input fails by this fault behind these bytes, in which all lines are ended,
and before another line is ended. -/
structure CutOff (input : Input) (front : List UInt8) (fault : SystemFault) : Prop where
  fails : input.fault? = some fault
  ended : ∀ byte ∈ front.getLast?, byte = 0x0A
  rest : ∃ rest, 0x0A ∉ rest ∧ input.bytes = front ++ rest

theorem heardLines_append_none (lines : List (Option String)) :
    heardLines (lines ++ [none]) = heardLines lines := by
  induction lines with
  | nil => rfl
  | cons line? lines ih =>
    cases line? with
    | none => rfl
    | some line => rw [List.cons_append, heardLines, heardLines, ih]

theorem breaksOff_append_none_eq_false_iff {lines : List (Option String)} :
    breaksOff (lines ++ [none]) = false ↔
      breaksOff lines = false ∧ ∃ line, some line ∈ lines ∧ leaves line = true := by
  induction lines with
  | nil => simp [breaksOff]
  | cons line? lines ih =>
    cases line? with
    | none => simp [breaksOff]
    | some line =>
      rw [List.cons_append, breaksOff, breaksOff]
      cases hLeaves : leaves line with
      | true => simp [hLeaves]
      | false => simp [ih, hLeaves]

/-- A session on an input that a fault cuts off hears the lines that were ended, as if there were no
others. It breaks off too unless one of them leaves it, and then by the fault unless one of them is
no text. -/
theorem heard_of_cutOff {input : Input} {front : List UInt8} {fault : SystemFault}
    (h : CutOff input front fault) :
    heardLines input.lines = heardLines (Text.lines front) ∧
    (breaksOff input.lines = false ↔ breaksOff (Text.lines front) = false ∧
      ∃ line, some line ∈ Text.lines front ∧ leaves line = true) ∧
    input.lineFault = if none ∈ Text.lines front then .notText else .system fault := by
  obtain ⟨rest, hRest, hBytes⟩ := h.rest
  have hEnded : Text.endedLines input.bytes = Text.lines front := by
    rw [hBytes, Text.endedLines_append h.ended hRest]
  have hLines : input.lines = Text.lines front ++ [none] := by
    rw [Input.lines, h.fails, hEnded]
  refine ⟨?_, ?_, ?_⟩
  · rw [hLines, heardLines_append_none]
  · rw [hLines, breaksOff_append_none_eq_false_iff]
  · rw [Input.lineFault, h.fails, hEnded]

end Session

end PredictionJobs
