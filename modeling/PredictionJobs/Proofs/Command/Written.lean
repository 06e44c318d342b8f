import PredictionJobs.Proofs.Command.Amendment
import PredictionJobs.Proofs.Submission

/-! # Written commands

Parameters are written as a command by putting every value behind its keyword, in any order. Such a
command is valid and has these parameters, if no keyword and no value holds a blank character. Its
tokens are read pair by pair, each pair amending what the earlier ones say.
-/

namespace PredictionJobs.Command

/-! ### Writing -/

/-- The tokens of keywords with their values. -/
def tokensOf (pairs : List (String × String)) : List String := pairs.flatMap fun p => [p.1, p.2]

/-- The command that gives keywords these values, in this order. -/
def commandOf (pairs : List (String × String)) : String := joinTokens (tokensOf pairs)

theorem tokensOf_ne_nil {pairs : List (String × String)} (h : pairs ≠ []) :
    tokensOf pairs ≠ [] := by
  obtain ⟨p, rest, rfl⟩ := List.exists_cons_of_ne_nil h
  simp [tokensOf]

theorem tokenize_commandOf {pairs : List (String × String)} (hNonempty : pairs ≠ [])
    (hWords : ∀ p ∈ pairs, Text.IsWord p.1 ∧ Text.IsWord p.2) :
    tokenize (commandOf pairs) = tokensOf pairs := by
  apply tokenize_joinTokens_of_isWord (tokensOf_ne_nil hNonempty)
  intro t ht
  obtain ⟨p, hp, hMem⟩ := List.mem_flatMap.mp ht
  obtain ⟨hKey, hValue⟩ := hWords p hp
  rcases List.mem_pair.mp hMem with rfl | rfl
  · exact hKey
  · exact hValue

/-! ### Reading back -/

/-- A keyword with a value that suits it. -/
structure Suits (g : Grammar) (p : String × String) : Prop where
  keyword : g.isKeyword p.1 = true
  value : g.isKeyword p.2 = false
  fits : g.Fits p.1 p.2

/-- Entries with the values of further keywords. -/
def Entries.insertAll (e : Entries) (pairs : List (String × String)) : Entries :=
  pairs.foldl (fun e p => e.insert p.1 (.value p.2)) e

variable {g : Grammar} {pairs : List (String × String)}

theorem pair_append_tokensOf
    (h : ∀ p ∈ pairs, g.isKeyword p.1 = true ∧ g.isKeyword p.2 = false) (ts : List String) :
    pair g (ts ++ tokensOf pairs) = (pair g ts).insertAll pairs := by
  -- Every pair is one that stands at the end of a command, namely of the tokens up to it.
  induction pairs generalizing ts with
  | nil => simp [tokensOf, Entries.insertAll]
  | cons p pairs ih =>
    obtain ⟨hKey, hValue⟩ := h p List.mem_cons_self
    have hTokens : ts ++ tokensOf (p :: pairs) = ts ++ [p.1, p.2] ++ tokensOf pairs := by
      simp [tokensOf]
    rw [hTokens, ih (fun q hq => h q (List.mem_cons_of_mem p hq)), pair_append_pair hKey hValue]
    rfl

theorem problems_insertAll (h : ∀ p ∈ pairs, Suits g p) (e : Entries) :
    problems g (e.insertAll pairs) =
      (problems g e).filter fun problem => problem.key ∉ pairs.map Prod.fst := by
  induction pairs generalizing e with
  | nil => simp [Entries.insertAll]
  | cons p pairs ih =>
    have hFirst : Suits g p := h p List.mem_cons_self
    have hStep : e.insertAll (p :: pairs) = (e.insert p.1 (.value p.2)).insertAll pairs := rfl
    rw [hStep, ih (fun q hq => h q (List.mem_cons_of_mem p hq)),
      problems_insert_value e hFirst.keyword hFirst.fits, List.filter_filter]
    apply List.filter_congr
    intro problem _
    simp only [List.map_cons, List.mem_cons, not_or, Bool.decide_and, Bool.and_comm]

theorem parameters_insertAll (e : Entries) (pairs : List (String × String)) :
    (e.insertAll pairs).parameters =
      pairs.foldl (fun d p => d.insert p.1 p.2) e.parameters := by
  induction pairs generalizing e with
  | nil => rfl
  | cons p pairs ih =>
    have hStep : e.insertAll (p :: pairs) = (e.insert p.1 (.value p.2)).insertAll pairs := rfl
    rw [hStep, ih, parameters_insert_value]
    rfl

theorem exists_required_of_mem_problems_empty {problem : Problem}
    (h : problem ∈ problems g .empty) :
    ∃ field ∈ g.fields, field.required = true ∧ problem.key = field.keyword := by
  have hStrays : strayProblems g .empty = [] := rfl
  rw [problems, hStrays, List.nil_append] at h
  obtain ⟨field, hField, hProblem⟩ := List.mem_filterMap.mp h
  refine ⟨field, hField, ?_, Field.key_of_problem? hProblem⟩
  have hMissing :
      (if field.required then some (.missingRequired field.keyword) else none) = some problem :=
    hProblem
  split at hMissing
  case isTrue hRequired => exact hRequired
  case isFalse => cases hMissing

theorem judge_tokensOf (h : ∀ p ∈ pairs, Suits g p)
    (hComplete : ∀ field ∈ g.fields, field.required = true → field.keyword ∈ pairs.map Prod.fst) :
    judge g (pair g (tokensOf pairs)) = .valid (.ofList pairs) := by
  have hEntries : pair g (tokensOf pairs) = Entries.empty.insertAll pairs :=
    pair_append_tokensOf (fun p hp => ⟨(h p hp).keyword, (h p hp).value⟩) []
  -- Without any tokens only required keywords are missing, and each of them gets its value.
  have hProblems : problems g (Entries.empty.insertAll pairs) = [] := by
    rw [problems_insertAll h, List.filter_eq_nil_iff]
    intro problem hMem hNot
    obtain ⟨field, hField, hRequired, hKey⟩ := exists_required_of_mem_problems_empty hMem
    exact of_decide_eq_true hNot (hKey ▸ hComplete field hField hRequired)
  have hParameters : (Entries.empty.insertAll pairs).parameters = .ofList pairs :=
    parameters_insertAll .empty pairs
  rw [hEntries, judge, hProblems, hParameters]

/-! ### Parameters -/

/-- Parameters that can be written as a command of a grammar. -/
structure Writable (g : Grammar) (p : Parameters) : Prop where
  nonempty : p.pairs ≠ []
  known : ∀ key ∈ p.keys, g.isKeyword key = true
  complete : ∀ field ∈ g.fields, field.required = true → field.keyword ∈ p.keys
  plain : ∀ key v, p.get? key = some v → g.isKeyword v = false
  fits : ∀ key v, p.get? key = some v → g.Fits key v
  solid : ∀ key v, p.get? key = some v → ∀ c ∈ v.toList, Text.isBlank c = false

namespace Writable

variable {p : Parameters}

theorem suits (h : Writable g p) {key v : String} (hGet : p.get? key = some v) :
    Suits g (key, v) where
  keyword := h.known key (Dictionary.mem_keys_iff.mpr ⟨v, hGet⟩)
  value := h.plain key v hGet
  fits := h.fits key v hGet

theorem isWord (h : Writable g p) {key v : String} (hGet : p.get? key = some v) :
    Text.IsWord v where
  ne_empty := Grammar.ne_empty_of_fits (h.suits hGet).keyword (h.fits key v hGet)
  solid := h.solid key v hGet

theorem validate_commandOf_perm (h : Writable g p)
    (hWords : ∀ field ∈ g.fields, Text.IsWord field.keyword) (hPerm : pairs.Perm p.pairs) :
    validate g (commandOf pairs) = .valid p := by
  have hGet : ∀ q ∈ pairs, p.get? q.1 = some q.2 := by
    intro q hq
    exact Dictionary.get?_eq_some_iff.mpr (hPerm.mem_iff.mp hq)
  have hSuits : ∀ q ∈ pairs, Suits g q := fun q hq => h.suits (hGet q hq)
  have hTokens : tokenize (commandOf pairs) = tokensOf pairs := by
    apply tokenize_commandOf
    · rintro rfl
      exact h.nonempty hPerm.nil_eq.symm
    · intro q hq
      obtain ⟨field, hField, hKeyword⟩ := (g.isKeyword_iff q.1).mp (hSuits q hq).keyword
      exact ⟨hKeyword ▸ hWords field hField, h.isWord (hGet q hq)⟩
  have hComplete : ∀ field ∈ g.fields, field.required = true →
      field.keyword ∈ pairs.map Prod.fst := by
    intro field hField hRequired
    exact (hPerm.map Prod.fst).mem_iff.mpr (h.complete field hField hRequired)
  rw [validate, parse, hTokens, judge_tokensOf hSuits hComplete,
    Dictionary.ofList_eq_of_perm hPerm]

end Writable

theorem pairs_ne_nil_of_validate {input : String} {p : Parameters}
    (h : validate g input = .valid p) : p.pairs ≠ [] := by
  obtain ⟨hAccepted, hGet⟩ := (judge_pair_eq_valid_iff (tokenize_ne_nil input) p).mp h
  obtain ⟨t, hHead, hKey⟩ := hAccepted.opens
  obtain ⟨v, hNext, _⟩ := hAccepted.valued t (List.mem_of_head? hHead) hKey
  have hFirst : p.get? t = some v := by rw [hGet, if_pos hKey, hNext]
  exact List.ne_nil_of_mem (Dictionary.get?_eq_some_iff.mp hFirst)

theorem writable_of_validate {input : String} {p : Parameters} (h : validate g input = .valid p)
    (hSolid : ∀ key v, p.get? key = some v → ∀ c ∈ v.toList, Text.isBlank c = false) :
    Writable g p where
  nonempty := pairs_ne_nil_of_validate h
  known := (sendable_of_validate h).known
  complete := (sendable_of_validate h).complete
  plain key v hGet := ((sendable_of_validate h).values key v hGet).2.2.1
  fits key v hGet := ((sendable_of_validate h).values key v hGet).2.2.2
  solid := hSolid

/-- Where no keyword holds a blank character, parameters that can be written are read back from the
command that any order of them makes. So the parameters of a valid command, if they hold no blank
characters, can be written back in any order without being changed. -/
theorem validate_commandOf (g : Grammar)
    (hWords : ∀ field ∈ g.fields, Text.IsWord field.keyword) :
    (∀ p pairs, Writable g p → pairs.Perm p.pairs →
      validate g (commandOf pairs) = .valid p) ∧
    ∀ input p pairs, validate g input = .valid p →
      (∀ key v, p.get? key = some v → ∀ c ∈ v.toList, Text.isBlank c = false) →
      pairs.Perm p.pairs → validate g (commandOf pairs) = .valid p := by
  constructor
  · intro p pairs hWritable hPerm
    exact hWritable.validate_commandOf_perm hWords hPerm
  · intro input p pairs hValid hSolid hPerm
    exact (writable_of_validate hValid hSolid).validate_commandOf_perm hWords hPerm

/-- A repeated keyword is written back once. The value `-h` at the end does not keep the command
from being valid. -/
theorem validate_commandOf_standard :
    let g := Grammar.standard
    let input := "kernel rbf target_column y model_type 3 file_name a.csv kernel -h"
    let p : Parameters := .ofList [("file_name", "a.csv"), ("kernel", "-h"), ("model_type", "3"),
      ("target_column", "y")]
    let pairs :=
      [("target_column", "y"), ("file_name", "a.csv"), ("model_type", "3"), ("kernel", "-h")]
    (∀ field ∈ g.fields, Text.IsWord field.keyword) ∧ Writable g p ∧ pairs.Perm p.pairs ∧
    validate g input = .valid p ∧
    commandOf pairs = "target_column y file_name a.csv model_type 3 kernel -h" ∧
    validate g (commandOf pairs) = .valid p ∧ validate g (commandOf pairs.reverse) = .valid p := by
  intro g input p pairs
  have hWords : ∀ field ∈ g.fields, Text.IsWord field.keyword := by decide +kernel
  have hPerm : pairs.Perm p.pairs := by decide +kernel
  have hValid : validate g input = .valid p := by decide +kernel
  have hValues : ∀ q ∈ p.pairs, Text.IsWord q.2 := by decide +kernel
  have hSolid : ∀ key v, p.get? key = some v → ∀ c ∈ v.toList, Text.isBlank c = false := by
    intro key v hGet
    exact (hValues (key, v) (Dictionary.get?_eq_some_iff.mp hGet)).solid
  have hWritable : Writable g p := writable_of_validate hValid hSolid
  have hBack := validate_commandOf g hWords
  have hWritten : validate g (commandOf pairs) = .valid p := hBack.1 p pairs hWritable hPerm
  have hReversed : validate g (commandOf pairs.reverse) = .valid p :=
    hBack.2 input p pairs.reverse hValid hSolid ((List.reverse_perm pairs).trans hPerm)
  exact ⟨hWords, hWritable, hPerm, hValid, by decide +kernel, hWritten, hReversed⟩

end PredictionJobs.Command
