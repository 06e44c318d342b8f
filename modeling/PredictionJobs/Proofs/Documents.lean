import PredictionJobs.Command.Standard
import PredictionJobs.Proofs.Json.ReadBack
import PredictionJobs.Proofs.Session

/-! # Documents of outcomes

What a session in JSON writes for an outcome is a document on a line of its own. The outcome's exit
code can be told from its text, and the text is read back as the document where the reader can read
so deep and reads back the numbers.
-/

namespace PredictionJobs

open Command Service Session

/-- The exit code that the text of a document announces by the members in front. -/
def announcedExitCode (document : List Char) : Nat :=
  if "\x7b\"messages\":".toList.isPrefixOf document then 1
  else if "\x7b\"error\":".toList.isPrefixOf document then 2
  else if "\x7b\"outcome\":\"predicted\",\"response\":\x7b\"result\":".toList.isPrefixOf document
  then 3
  else 0

theorem announcedExitCode_toJson (outcome : Outcome) :
    announcedExitCode outcome.toJson.chars = outcome.exitCode := by
  cases outcome with
  | help answer => rfl
  | invalid problems => rfl
  | checked parameters => rfl
  | predicted answer =>
    cases answer with
    | result prediction =>
      -- Which member stands in front depends on the metric that the service gave.
      obtain ⟨observed, predicted, name, metric⟩ := prediction
      cases name <;> cases metric <;> rfl
    | failure text => rfl
  | forecast f => rfl
  | unavailable fault => rfl

theorem Outcome.exists_toJson_eq_sorted (outcome : Outcome) :
    ∃ v : Json.Value, outcome.toJson = v.sorted := ⟨_, rfl⟩

/-- Whether a text is the document of an outcome. It is read back where the document is nested no
deeper than can be read, its integers have 64 bits, and its floats are read back on their own. -/
structure DocumentOf (outcome : Outcome) (text : String) : Prop where
  document : Json.IsDocument text.toList
  nonempty : text ≠ ""
  unbroken : '\n' ∉ text.toList
  readBack : outcome.toJson.nesting < Json.depthLimit →
    (∀ i, .integer i ∈ outcome.toJson.numbers → Json.FitsWord i) →
    (∀ x, .float x ∈ outcome.toJson.numbers → (Json.Number.float x).ReadsBack) →
    Json.read text.toList = .ok outcome.toJson
  exitCode : announcedExitCode text.toList = outcome.exitCode

theorem documentOf_compact (outcome : Outcome) : DocumentOf outcome outcome.toJson.compact := by
  have hDocument : Json.IsDocument outcome.toJson.chars := outcome.toJson.isDocument_chars
  have hText : outcome.toJson.compact.toList = outcome.toJson.chars := String.toList_ofList
  refine ⟨?_, ?_, ?_, ?_, ?_⟩
  · rwa [hText]
  · intro hEmpty
    obtain ⟨c, rest, hCons, _⟩ := hDocument.exists_cons
    rw [← hText, hEmpty] at hCons
    cases hCons
  · intro hFeed
    rw [hText] at hFeed
    exact absurd (hDocument.printable '\n' hFeed) (by decide)
  · intro hNesting hIntegers hFloats
    obtain ⟨v, hv⟩ := outcome.exists_toJson_eq_sorted
    rw [hText, hv]
    rw [hv] at hNesting hIntegers hFloats
    refine Json.read_chars_sorted v hNesting fun n hn => ?_
    cases n with
    | integer i => exact Json.readsBack_integer (hIntegers i hn)
    | float x => exact hFloats x hn
  · rw [hText]
    exact announcedExitCode_toJson outcome

/-! ### Sessions -/

/-- The outcomes of commands are those of their submissions, one by one. -/
theorem forall₂_submitAll {σ : Type} (g : Grammar) (dispatch : Dispatcher (StateM σ))
    (rowLimit : Nat) (inputs : List String) (start : σ) :
    List.Forall₂ (fun input outcome => ∃ s, ((submit g dispatch rowLimit input).run s).1 = outcome)
      inputs ((submitAll g dispatch rowLimit inputs).run start).1 := by
  induction inputs generalizing start with
  | nil => exact .nil
  | cons input inputs ih =>
    simp only [submitAll] at ih
    simp only [submitAll, List.mapM_cons, StateT.run_bind]
    exact .cons ⟨start, rfl⟩ (ih _)

theorem textLines_written_json (lines : List String) (outcomes : List Outcome) :
    Text.textLines (written .json lines outcomes) =
      (outcomes.map fun outcome => outcome.toJson.compact).map (· ++ "\n") := by
  have hFeed : ∀ s ∈ outcomes.map fun outcome => outcome.toJson.compact, '\n' ∉ s.toList := by
    intro s hs
    obtain ⟨outcome, _, rfl⟩ := List.mem_map.mp hs
    exact (documentOf_compact outcome).unbroken
  rw [← Text.textLines_join hFeed, List.map_map, written, opening, replies, String.empty_append]
  rfl

/-- A session in JSON leaves what the submission of its commands leaves. Cut at line feeds, what it
has written is the document of each command's outcome, in order, and nothing else. -/
theorem run_json_documents {σ : Type} (g : Grammar) (dispatch : Dispatcher (StateM σ))
    (rowLimit : Nat) (input : List UInt8) (text : String) (h : Text.decode? input = some text)
    (start : σ) :
    let commands := commandsOf (stayingLines (Text.textLines text))
    let submitted := (submitAll g dispatch rowLimit commands).run start
    let session := (Session.run .json (submit g dispatch rowLimit) input).run start
    session.1.failed = false ∧ session.2 = submitted.2 ∧
    List.Forall₂ (fun command outcome =>
      ∃ s, ((submit g dispatch rowLimit command).run s).1 = outcome) commands submitted.1 ∧
    ∃ documents : List String,
      Text.textLines session.1.output = documents.map (· ++ "\n") ∧
      List.Forall₂ DocumentOf submitted.1 documents := by
  intro commands submitted session
  have hSession : session =
      (⟨written .json (stayingLines (Text.textLines text)) submitted.1, false⟩, submitted.2) := by
    simp only [session, run_eq h]
    rfl
  refine ⟨?_, ?_, forall₂_submitAll g dispatch rowLimit commands start,
    submitted.1.map fun outcome => outcome.toJson.compact, ?_, ?_⟩
  · rw [hSession]
  · rw [hSession]
  · rw [hSession]
    exact textLines_written_json _ _
  · rw [List.forall₂_map_right_iff]
    exact List.forall₂_same.mpr fun outcome _ => documentOf_compact outcome

/-- Line feeds, quotes and control characters of an answer leave its document on one line, from
which it is read back. -/
theorem run_json_documents_control_characters :
    let command := "file_name a.csv target_column y model_type 3"
    let text := " \n" ++ command ++ "\nquit\nhelp\n"
    let answer : Answer := .result ⟨[.ofNat 3 / .ofNat 2], [.ofNat 2], some "R\n\"2\"",
      some (.object [("\n", .array [.string "\x07\r\n", .number (.integer (-1))])])⟩
    let dispatch : Dispatcher (StateM (List Parameters)) := scripted fun _ => .ok answer
    let session :=
      (Session.run .json (submit .standard dispatch defaultRowLimit) (Text.encode text)).run []
    Text.decode? (Text.encode text) = some text ∧
    ∃ document : String,
      Text.textLines session.1.output = [document ++ "\n"] ∧
      announcedExitCode document.toList = 0 ∧
      Json.read document.toList = .ok (Outcome.predicted answer).toJson := by
  intro command text answer dispatch session
  have hText : Text.decode? (Text.encode text) = some text := Text.decode?_encode text
  have hCommands : commandsOf (stayingLines (Text.textLines text)) = [command] := by decide +kernel
  have hChecked : checkedParameters? .standard command = some (.ofList [("file_name", "a.csv"),
      ("model_type", "3"), ("target_column", "y")]) := by decide +kernel
  have hOutcome : ∀ s, ((submit .standard dispatch defaultRowLimit command).run s).1 =
      .predicted answer := by
    intro s
    rw [submit_of_checkedParameters? hChecked]
    rfl
  obtain ⟨_, _, hOutcomes, documents, hLines, hDocuments⟩ :=
    run_json_documents .standard dispatch defaultRowLimit _ _ hText []
  rw [hCommands] at hOutcomes hDocuments
  generalize (StateT.run (submitAll .standard dispatch defaultRowLimit [command]) []).1 = outcomes
    at hOutcomes hDocuments
  cases hOutcomes with
  | cons hFirst hNone =>
    obtain ⟨s, rfl⟩ := hFirst
    cases hNone
    rw [hOutcome] at hDocuments
    cases hDocuments with
    | @cons _ document _ _ hDocument hEnd =>
      cases hEnd
      have hNumbers : (Outcome.predicted answer).toJson.numbers =
          [.integer (-1), .float (.ofNat 3 / .ofNat 2), .float (.ofNat 2)] := by decide +kernel
      have hNesting : (Outcome.predicted answer).toJson.nesting < Json.depthLimit := by
        decide +kernel
      refine ⟨hText, document, hLines, hDocument.exitCode, hDocument.readBack hNesting ?_ ?_⟩
      · intro i hi
        simp only [hNumbers, List.mem_cons, List.not_mem_nil, reduceCtorEq, or_false,
          Json.Number.integer.injEq] at hi
        subst hi
        decide
      · intro x hx
        simp only [hNumbers, List.mem_cons, List.not_mem_nil, reduceCtorEq, or_false, false_or,
          Json.Number.float.injEq] at hx
        rcases hx with h | h
        · rw [h]
          decide +kernel
        · rw [h]
          decide +kernel

end PredictionJobs
