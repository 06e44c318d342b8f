import PredictionJobs.Proofs.Command.Report
import PredictionJobs.Proofs.Command.Token

/-! # Accepted commands

A command is valid exactly when its tokens are placed as the grammar demands, and its parameters
send every keyword that occurs to the token behind its last occurrence.
-/

namespace PredictionJobs.Command

variable {g : Grammar} {ts : List String}

/-- Whether a value suits every row of the grammar that a keyword has. -/
def Grammar.Fits (g : Grammar) (key value : String) : Prop :=
  ∀ field ∈ g.fields, field.keyword = key → field.kind.problem? key value = none

/-- The lists of tokens that a grammar accepts. -/
structure Accepted (g : Grammar) (ts : List String) : Prop where
  /-- The first token is a keyword. -/
  opens : ∃ t, ts.head? = some t ∧ g.isKeyword t = true
  /-- One of any two neighbours is a keyword. -/
  separated : ts.IsChain fun s t => g.isKeyword s = true ∨ g.isKeyword t = true
  /-- Behind the last occurrence of every keyword stands a value that suits it. -/
  valued : ∀ key ∈ ts, g.isKeyword key = true →
    ∃ v, follower? key ts = some v ∧ g.isKeyword v = false ∧ g.Fits key v
  /-- Every required keyword occurs. -/
  complete : ∀ field ∈ g.fields, field.required = true → field.keyword ∈ ts

theorem rowProblem?_eq_none_iff {field : Field} :
    rowProblem? g ts field = none ↔
      (field.keyword ∈ ts → ∃ v, follower? field.keyword ts = some v ∧ g.isKeyword v = false ∧
        field.kind.problem? field.keyword v = none) ∧
      (field.required = true → field.keyword ∈ ts) := by
  rw [rowProblem?]
  by_cases hMem : field.keyword ∈ ts
  · cases hNext : follower? field.keyword ts with
    | none => simp [hMem]
    | some v => cases hKey : g.isKeyword v <;> simp [hMem, hKey]
  · simp [hMem]

theorem strays_eq_nil_iff_of_ne_nil (h : ts ≠ []) :
    strays g ts = [] ↔ (∃ t, ts.head? = some t ∧ g.isKeyword t = true) ∧
      ts.IsChain fun s t => g.isKeyword s = true ∨ g.isKeyword t = true := by
  obtain ⟨t, rest, rfl⟩ := List.exists_cons_of_ne_nil h
  rw [strays_eq_nil_iff]
  simp

theorem report_eq_nil_iff : report g ts = [] ↔
    strays g ts = [] ∧ ∀ field ∈ g.fields, rowProblem? g ts field = none := by
  have hStrays : (strays g ts).eraseDups = [] ↔ strays g ts = [] := by
    simp only [List.eq_nil_iff_forall_not_mem, List.mem_eraseDups]
  rw [report, List.append_eq_nil_iff, List.map_eq_nil_iff, hStrays, List.filterMap_eq_nil_iff]

theorem report_eq_nil_iff_accepted (h : ts ≠ []) : report g ts = [] ↔ Accepted g ts := by
  rw [report_eq_nil_iff, strays_eq_nil_iff_of_ne_nil h]
  simp only [rowProblem?_eq_none_iff]
  constructor
  · rintro ⟨⟨hOpens, hSeparated⟩, hRows⟩
    refine ⟨hOpens, hSeparated, fun key hMem hKey => ?_, fun field hField => (hRows field hField).2⟩
    obtain ⟨field, hField, rfl⟩ := (g.isKeyword_iff key).mp hKey
    obtain ⟨v, hNext, hValue, _⟩ := (hRows field hField).1 hMem
    refine ⟨v, hNext, hValue, fun other hOther heq => ?_⟩
    -- Another row of the same keyword looks at the same token.
    obtain ⟨w, hNextOther, _, hFits⟩ := (hRows other hOther).1 (heq ▸ hMem)
    rw [heq] at hNextOther hFits
    rw [hNext] at hNextOther
    cases hNextOther
    exact hFits
  · intro hAccepted
    refine ⟨⟨hAccepted.opens, hAccepted.separated⟩, fun field hField => ⟨fun hMem => ?_, ?_⟩⟩
    · obtain ⟨v, hNext, hValue, hFits⟩ :=
        hAccepted.valued _ hMem (Grammar.isKeyword_of_mem hField)
      exact ⟨v, hNext, hValue, hFits field hField rfl⟩
    · exact hAccepted.complete field hField

/-! ### Parameters -/

def Slot.text? : Slot → Option String
  | .value text => some text
  | _ => none

theorem Slot.text?_eq_some_iff {slot : Slot} {text : String} :
    slot.text? = some text ↔ slot = .value text := by
  cases slot <;> simp [Slot.text?]

theorem keys_filterMap_sublist (pairs : List (String × Slot)) :
    ((pairs.filterMap fun p => p.2.text?.map (p.1, ·)).map Prod.fst).Sublist
      (pairs.map Prod.fst) := by
  induction pairs with
  | nil => simp
  | cons p rest ih =>
    rw [List.filterMap_cons, List.map_cons]
    cases p.2.text? with
    | none => exact ih.cons p.1
    | some text => exact ih.cons_cons p.1

theorem parameters_eq (e : Entries) :
    e.parameters = .ofList (e.pairs.filterMap fun p => p.2.text?.map (p.1, ·)) := by
  rw [Entries.parameters]
  congr 2
  funext p
  cases p.2 <;> rfl

theorem get?_parameters_eq_some_iff {e : Entries} {key v : String} :
    e.parameters.get? key = some v ↔ e.get? key = some (.value v) := by
  have hKeys := e.nodup.sublist (keys_filterMap_sublist e.pairs)
  rw [parameters_eq, Dictionary.get?_ofList_eq_some_iff hKeys, e.get?_eq_some_iff,
    List.mem_filterMap]
  constructor
  · rintro ⟨⟨k, slot⟩, hMem, hPair⟩
    obtain ⟨text, hText, hEq⟩ := Option.map_eq_some_iff.mp hPair
    cases hEq
    have hSlot : slot = .value v := Slot.text?_eq_some_iff.mp hText
    rwa [hSlot] at hMem
  · intro hMem
    exact ⟨_, hMem, rfl⟩

theorem get?_pair_eq_none_of_stray (hStrays : strays g ts = []) {key : String}
    (hKey : g.isKeyword key = false) : (pair g ts).get? key = none := by
  rw [Entries.get?_eq_none_iff]
  intro hMem
  have hStray : key ∈ (pair g ts).strayKeys g := by
    rw [Entries.strayKeys, List.mem_filter]
    exact ⟨hMem, by simp [hKey]⟩
  rw [strayKeys_pair, hStrays] at hStray
  cases hStray

namespace Accepted

theorem ne_nil (h : Accepted g ts) : ts ≠ [] := by
  obtain ⟨t, hHead, _⟩ := h.opens
  rintro rfl
  cases hHead

theorem report_eq_nil (h : Accepted g ts) : report g ts = [] :=
  (report_eq_nil_iff_accepted h.ne_nil).mpr h

theorem get?_pair (h : Accepted g ts) (key : String) : (pair g ts).get? key =
    (if g.isKeyword key then follower? key ts else none).map Slot.value := by
  cases hKey : g.isKeyword key with
  | false =>
    have hStrays : strays g ts = [] := (report_eq_nil_iff.mp h.report_eq_nil).1
    rw [get?_pair_eq_none_of_stray hStrays hKey]
    rfl
  | true =>
    rw [Command.get?_pair hKey, slotAt?]
    by_cases hMem : key ∈ ts
    · obtain ⟨v, hNext, hValue, _⟩ := h.valued key hMem hKey
      simp [hMem, hNext, hValue]
    · simp [hMem, follower?_eq_none_of_not_mem hMem]

theorem get?_parameters (h : Accepted g ts) (key : String) :
    (pair g ts).parameters.get? key = if g.isKeyword key then follower? key ts else none := by
  refine Option.ext fun v => ?_
  rw [get?_parameters_eq_some_iff, h.get?_pair, Option.map_eq_some_iff]
  simp

end Accepted

theorem judge_pair_eq_valid_iff (h : ts ≠ []) (p : Parameters) :
    judge g (pair g ts) = .valid p ↔
      Accepted g ts ∧ ∀ key, p.get? key = if g.isKeyword key then follower? key ts else none := by
  rw [judge_pair]
  cases hReport : report g ts with
  | nil =>
    have hAccepted : Accepted g ts := (report_eq_nil_iff_accepted h).mp hReport
    rw [Verdict.valid.injEq, Dictionary.ext_get?_iff, and_iff_right hAccepted]
    simp only [hAccepted.get?_parameters, eq_comm]
  | cons problem rest =>
    constructor
    · intro hValid
      cases hValid
    · rintro ⟨hAccepted, _⟩
      cases hReport.symm.trans hAccepted.report_eq_nil

/-- A command is valid exactly when its tokens are accepted, and its parameters then send every
keyword that occurs to the token behind its last occurrence, and no other key to anything. -/
theorem validate_eq_valid_iff (g : Grammar) (input : String) :
    ((∃ p, validate g input = .valid p) ↔ Accepted g (tokenize input)) ∧
    ∀ p, validate g input = .valid p ↔ Accepted g (tokenize input) ∧
      ∀ key, p.get? key = if g.isKeyword key then follower? key (tokenize input) else none := by
  have hValid := judge_pair_eq_valid_iff (g := g) (tokenize_ne_nil input)
  refine ⟨?_, hValid⟩
  constructor
  · rintro ⟨p, hp⟩
    exact ((hValid p).mp hp).1
  · intro hAccepted
    refine ⟨(pair g (tokenize input)).parameters, ?_⟩
    exact (hValid _).mpr ⟨hAccepted, hAccepted.get?_parameters⟩

end PredictionJobs.Command
