import PredictionJobs.Command.Standard
import PredictionJobs.Proofs.Command.Acceptance
import PredictionJobs.Submission

/-! # What submissions send

A submission sends the parameters that checking the command finds, once, and sends nothing where
checking finds none. So what reaches a service through any run of submissions is in order.
-/

namespace PredictionJobs

open Command Service

/-! ### Parameters that may be sent -/

/-- Parameters that a grammar allows to be sent. -/
structure Sendable (g : Grammar) (p : Parameters) : Prop where
  known : ∀ key ∈ p.keys, g.isKeyword key = true
  complete : ∀ field ∈ g.fields, field.required = true → field.keyword ∈ p.keys
  values : ∀ key v, p.get? key = some v →
    v ≠ "" ∧ ' ' ∉ v.toList ∧ g.isKeyword v = false ∧ g.Fits key v

theorem Command.ValueKind.problem?_empty (kind : ValueKind) (key : String) :
    kind.problem? key "" ≠ none := by
  have hNumber : finiteNumber? "" = none := by decide +kernel
  cases kind <;> simp [ValueKind.problem?, hNumber]

theorem Command.Grammar.ne_empty_of_fits {g : Grammar} {key v : String}
    (hKey : g.isKeyword key = true) (h : g.Fits key v) : v ≠ "" := by
  obtain ⟨field, hField, hKeyword⟩ := (g.isKeyword_iff key).mp hKey
  rintro rfl
  exact field.kind.problem?_empty key (h field hField hKeyword)

theorem sendable_of_validate {g : Grammar} {input : String} {p : Parameters}
    (h : validate g input = .valid p) : Sendable g p := by
  obtain ⟨hAccepted, hGet⟩ := (judge_pair_eq_valid_iff (tokenize_ne_nil input) p).mp h
  have hFound : ∀ key v, p.get? key = some v →
      g.isKeyword key = true ∧ follower? key (tokenize input) = some v := by
    intro key v hv
    rw [hGet] at hv
    split at hv
    case isTrue hKey => exact ⟨hKey, hv⟩
    case isFalse => cases hv
  refine ⟨?_, ?_, ?_⟩
  · intro key hMem
    obtain ⟨v, hv⟩ := Dictionary.mem_keys_iff.mp hMem
    exact (hFound key v hv).1
  · intro field hField hRequired
    have hKey := Grammar.isKeyword_of_mem hField
    obtain ⟨v, hNext, _⟩ := hAccepted.valued _ (hAccepted.complete field hField hRequired) hKey
    rw [Dictionary.mem_keys_iff, hGet, if_pos hKey]
    exact ⟨v, hNext⟩
  · intro key v hv
    obtain ⟨hKey, hNext⟩ := hFound key v hv
    obtain ⟨hMem, hMemValue⟩ := mem_of_follower?_eq_some hNext
    obtain ⟨w, hNextValue, hValue, hFits⟩ := hAccepted.valued key hMem hKey
    rw [hNext] at hNextValue
    cases hNextValue
    exact ⟨Grammar.ne_empty_of_fits hKey hFits, space_not_mem_of_mem_tokenize hMemValue, hValue,
      hFits⟩

/-! ### Dispatches -/

/-- The parameters that checking a command finds. -/
def checkedParameters? (g : Grammar) (input : String) : Option Parameters :=
  match check g input with
  | .checked p => some p
  | _ => none

/-- A dispatcher beside which everything is kept that it was given. -/
def watched {m : Type → Type} [Monad m] (dispatch : Dispatcher m) :
    Dispatcher (StateT (List Parameters) m) := fun parameters => do
  modify (· ++ [parameters])
  dispatch parameters

variable {m : Type → Type} [Monad m]

theorem submit_eq (g : Grammar) (dispatch : Dispatcher m) (rowLimit : Nat) (input : String) :
    submit g dispatch rowLimit input =
      match check g input with
      | .checked p => Outcome.ofAnswer rowLimit <$> dispatch p
      | settled => pure settled := by
  rw [submit, check]
  cases interpret g input with
  | help answer => rfl
  | judged verdict => cases verdict <;> rfl

theorem run_watched [LawfulMonad m] (dispatch : Dispatcher m) (p : Parameters)
    (sent : List Parameters) :
    (watched dispatch p).run sent = (·, sent ++ [p]) <$> dispatch p := by
  simp [watched]

theorem run_submit_watched [LawfulMonad m] (g : Grammar) (dispatch : Dispatcher m)
    (rowLimit : Nat) (input : String) (sent : List Parameters) :
    (submit g (watched dispatch) rowLimit input).run sent =
      (·, sent ++ (checkedParameters? g input).toList) <$> submit g dispatch rowLimit input := by
  rw [submit_eq, submit_eq, checkedParameters?]
  cases check g input <;> simp [run_watched]

theorem run_submitAll_watched [LawfulMonad m] (g : Grammar) (dispatch : Dispatcher m)
    (rowLimit : Nat) (inputs : List String) (sent : List Parameters) :
    (submitAll g (watched dispatch) rowLimit inputs).run sent =
      (·, sent ++ inputs.filterMap (checkedParameters? g)) <$>
        submitAll g dispatch rowLimit inputs := by
  induction inputs generalizing sent with
  | nil => simp [submitAll]
  | cons input inputs ih =>
    simp only [submitAll] at ih
    simp only [submitAll, List.mapM_cons, StateT.run_bind, run_submit_watched, bind_map_left, ih,
      List.filterMap_cons]
    cases checkedParameters? g input <;> simp [map_bind]

theorem checkedParameters?_eq_some_iff {g : Grammar} {input : String} {p : Parameters} :
    checkedParameters? g input = some p ↔ help? g input = none ∧ validate g input = .valid p := by
  rw [checkedParameters?, check, interpret]
  cases help? g input with
  | some answer => simp
  | none => cases validate g input <;> simp

theorem submit_of_checkedParameters? {g : Grammar} {input : String} {p : Parameters}
    (h : checkedParameters? g input = some p) (dispatch : Dispatcher m) (rowLimit : Nat) :
    submit g dispatch rowLimit input = Outcome.ofAnswer rowLimit <$> dispatch p := by
  obtain ⟨hHelp, hValid⟩ := checkedParameters?_eq_some_iff.mp h
  rw [submit, interpret, hHelp, hValid]

theorem get?_parse_of_validate {g : Grammar} {input : String} {p : Parameters}
    (h : validate g input = .valid p) (key : String) :
    (parse g input).get? key = (p.get? key).map Slot.value := by
  obtain ⟨hAccepted, hGet⟩ := (judge_pair_eq_valid_iff (tokenize_ne_nil input) p).mp h
  rw [hGet]
  exact hAccepted.get?_pair key

/-- Whatever a dispatcher does, a submission calls it exactly where checking the command finds
parameters, once and with these, and ends as checking does otherwise; a run of submissions sends
what its commands send, in their order. All that is sent may be sent, and is the whole command. -/
theorem submissions_send_checked [LawfulMonad m] (g : Grammar) (dispatch : Dispatcher m)
    (rowLimit : Nat) :
    (∀ input, submit g dispatch rowLimit input =
      match check g input with
      | .checked p => Outcome.ofAnswer rowLimit <$> dispatch p
      | settled => pure settled) ∧
    (∀ inputs sent, (submitAll g (watched dispatch) rowLimit inputs).run sent =
      (·, sent ++ inputs.filterMap (checkedParameters? g)) <$>
        submitAll g dispatch rowLimit inputs) ∧
    ∀ input p, checkedParameters? g input = some p →
      Sendable g p ∧ ∀ key, (parse g input).get? key = (p.get? key).map Slot.value := by
  refine ⟨submit_eq g dispatch rowLimit, run_submitAll_watched g dispatch rowLimit, ?_⟩
  intro input p h
  have hValid := (checkedParameters?_eq_some_iff.mp h).2
  exact ⟨sendable_of_validate hValid, get?_parse_of_validate hValid⟩

/-- Of a repeated keyword only the last value is sent. -/
theorem submissions_send_checked_repeated :
    let sent : Parameters :=
      .ofList [("file_name", "b.csv"), ("model_type", "3"), ("target_column", "y")]
    checkedParameters? .standard
      "file_name a.csv target_column y model_type 3 file_name b.csv" = some sent ∧
    Sendable .standard sent := by
  intro sent
  have hChecked : checkedParameters? .standard
      "file_name a.csv target_column y model_type 3 file_name b.csv" = some sent := by
    decide +kernel
  have hService := submissions_send_checked .standard
    (scripted fun _ => .error (.status "http://service/process" 503)) defaultRowLimit
  exact ⟨hChecked, (hService.2.2 _ sent hChecked).1⟩

end PredictionJobs
