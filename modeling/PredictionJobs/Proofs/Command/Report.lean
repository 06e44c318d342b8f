import PredictionJobs.Command.Verdict
import PredictionJobs.Proofs.Command.Pairing

/-! # Reports by positions

The problems of a command are read off the places of its tokens: one for every stray, and at most
one for every row of the grammar. The verdict on a command is invalid with exactly this report,
unless it is empty.
-/

namespace PredictionJobs.Command

/-! ### Values -/

theorem ValueKind.key_of_problem? {kind : ValueKind} {key value : String} {p : Problem}
    (h : kind.problem? key value = some p) : p.key = key := by
  cases kind <;> simp only [ValueKind.problem?] at h <;> grind [Problem.key]

theorem ValueKind.problem?_ne_noSuchKeyword {kind : ValueKind} {key value other : String} :
    kind.problem? key value ≠ some (.noSuchKeyword other) := by
  cases kind <;> simp only [ValueKind.problem?] <;> grind

/-! ### Reports -/

/-- The problem that the places of the tokens make with a row of the grammar. -/
def rowProblem? (g : Grammar) (ts : List String) (field : Field) : Option Problem :=
  if field.keyword ∈ ts then
    match follower? field.keyword ts with
    | some v =>
      if g.isKeyword v then some (.missingValue field.keyword)
      else field.kind.problem? field.keyword v
    | none => some (.missingValue field.keyword)
  else if field.required then some (.missingRequired field.keyword)
  else none

/-- What is wrong with a list of tokens: its strays, each once and in the order of their first
occurrence, and then the rows of the grammar that are violated. -/
def report (g : Grammar) (ts : List String) : List Problem :=
  (strays g ts).eraseDups.map Problem.unknownKeyword ++ g.fields.filterMap (rowProblem? g ts)

theorem key_of_rowProblem? {g : Grammar} {ts : List String} {field : Field} {p : Problem}
    (h : rowProblem? g ts field = some p) : p.key = field.keyword := by
  rw [rowProblem?] at h
  split at h
  · split at h
    · split at h
      · cases h
        rfl
      · exact ValueKind.key_of_problem? h
    · cases h
      rfl
  · split at h
    · cases h
      rfl
    · cases h

theorem key_of_mem_report {g : Grammar} {ts : List String} {p : Problem} (h : p ∈ report g ts) :
    p.key ∈ ts ∨ ∃ field ∈ g.fields, p.key = field.keyword := by
  rw [report, List.mem_append, List.mem_map, List.mem_filterMap] at h
  rcases h with ⟨t, hStray, rfl⟩ | ⟨field, hField, hRow⟩
  · exact .inl (mem_of_mem_strays (List.mem_eraseDups.mp hStray))
  · exact .inr ⟨field, hField, key_of_rowProblem? hRow⟩

theorem Grammar.isKeyword_of_mem {g : Grammar} {field : Field} (h : field ∈ g.fields) :
    g.isKeyword field.keyword = true := (g.isKeyword_iff _).mpr ⟨field, h, rfl⟩

theorem problem?_pair {g : Grammar} {field : Field} (h : field ∈ g.fields) (ts : List String) :
    field.problem? (pair g ts) = rowProblem? g ts field := by
  rw [Field.problem?, get?_pair (Grammar.isKeyword_of_mem h), slotAt?, rowProblem?]
  by_cases hMem : field.keyword ∈ ts
  · simp only [if_pos hMem]
    cases follower? field.keyword ts with
    | none => rfl
    | some v => cases hKey : g.isKeyword v <;> simp [hKey]
  · simp only [if_neg hMem]

theorem strayProblems_eq (g : Grammar) (e : Entries) :
    strayProblems g e = (e.strayKeys g).map Problem.unknownKeyword := by
  rw [strayProblems, Entries.strayKeys, List.filter_map, List.map_map]
  rfl

theorem problems_pair (g : Grammar) (ts : List String) : problems g (pair g ts) = report g ts := by
  rw [problems, report, strayProblems_eq, strayKeys_pair]
  congr 1
  exact List.filterMap_congr fun field h => problem?_pair h ts

theorem judge_pair (g : Grammar) (ts : List String) :
    judge g (pair g ts) =
      match report g ts with
      | [] => .valid (pair g ts).parameters
      | found => .invalid found := by
  cases hReport : report g ts <;> simp [judge, problems_pair, hReport]

theorem rowProblem?_ne_noSuchKeyword {g : Grammar} {ts : List String} {field : Field}
    {key : String} : rowProblem? g ts field ≠ some (.noSuchKeyword key) := by
  rw [rowProblem?]
  split
  · split
    · split
      · simp
      · exact ValueKind.problem?_ne_noSuchKeyword
    · simp
  · split <;> simp

theorem noSuchKeyword_not_mem_report (g : Grammar) (ts : List String) (key : String) :
    Problem.noSuchKeyword key ∉ report g ts := by
  rw [report, List.mem_append, List.mem_map, List.mem_filterMap]
  rintro (⟨_, _, h⟩ | ⟨field, _, h⟩)
  · cases h
  · exact rowProblem?_ne_noSuchKeyword h

theorem problems_judge (g : Grammar) (e : Entries) : (judge g e).problems = problems g e := by
  rw [judge]
  cases hProblems : problems g e <;> rfl

theorem problems_judge_pair (g : Grammar) (ts : List String) :
    (judge g (pair g ts)).problems = report g ts := by rw [problems_judge, problems_pair]

/-- A command is invalid with exactly the report of its tokens, which never takes a keyword for a
stray token. -/
theorem validate_eq_invalid_iff (g : Grammar) (input : String) :
    (∀ found, validate g input = .invalid found ↔
      found ≠ [] ∧ found = report g (tokenize input)) ∧
    ∀ key, Problem.noSuchKeyword key ∉ (validate g input).problems := by
  constructor
  · intro found
    rw [validate, parse, judge_pair]
    cases hReport : report g (tokenize input) with
    | nil =>
      constructor
      · intro h
        cases h
      · rintro ⟨hNonempty, hNil⟩
        exact absurd hNil hNonempty
    | cons p rest =>
      constructor
      · intro h
        cases h
        exact ⟨List.cons_ne_nil p rest, rfl⟩
      · rintro ⟨_, rfl⟩
        rfl
  · intro key
    rw [validate, parse, problems_judge_pair]
    exact noSuchKeyword_not_mem_report g (tokenize input) key

end PredictionJobs.Command
