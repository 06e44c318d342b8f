import PredictionJobs.Command.Standard
import PredictionJobs.Proofs.Command.Acceptance

/-! # Amended commands

A keyword with a suitable value at the end of a command replaces what the command says about that
keyword, and leaves everything else alone: the slots of the other keys, the order of the problems,
and the problems of the other keys.
-/

namespace PredictionJobs.Command

variable {g : Grammar} {ts : List String} {k v : String}

/-! ### Entries -/

/-- Whatever stands before a keyword and its value, a keyword that waits for a value included, the
two only set the slot of that keyword. -/
theorem pair_append_pair (hKey : g.isKeyword k = true) (hValue : g.isKeyword v = false)
    (ts : List String) : pair g (ts ++ [k, v]) = (pair g ts).insert k (.value v) := by
  rw [pair, pair, List.foldl_append]
  generalize ts.foldl (Pairing.step g) ⟨.empty, none⟩ = p
  have hOpen : p.step g k = ⟨p.entries.insert k .pending, some k⟩ := by
    rw [Pairing.step, if_pos hKey]
  have hAwaiting : (p.step g k).awaiting? = some k := by
    rw [hOpen, Pairing.awaiting?, Option.filter_some, Entries.get?_insert]
    simp
  have hClose : ((p.step g k).step g v).entries = (p.step g k).entries.insert k (.value v) := by
    rw [Pairing.step, hAwaiting, hValue]
    rfl
  calc
    ([k, v].foldl (Pairing.step g) p).entries = ((p.step g k).step g v).entries := rfl
    _ = (p.entries.insert k .pending).insert k (.value v) := by rw [hClose, hOpen]
    _ = p.entries.insert k (.value v) := Entries.insert_insert _ _ _ _

/-! ### Problems -/

theorem Field.key_of_problem? {field : Field} {e : Entries} {problem : Problem}
    (h : field.problem? e = some problem) : problem.key = field.keyword := by
  rw [Field.problem?] at h
  split at h
  · cases h
    rfl
  · cases h
    rfl
  · exact ValueKind.key_of_problem? h
  · split at h
    · cases h
      rfl
    · cases h

theorem strayProblems_insert_keyword (e : Entries) (slot : Slot) (hKey : g.isKeyword k = true) :
    strayProblems g (e.insert k slot) =
      (strayProblems g e).filter fun problem => problem.key ≠ k := by
  rw [strayProblems_eq, strayProblems_eq, Entries.strayKeys_insert_keyword _ _ hKey, eq_comm,
    List.filter_eq_self]
  intro problem hMem
  obtain ⟨stray, hStray, rfl⟩ := List.mem_map.mp hMem
  have hNot : g.isKeyword stray = false := by simpa using List.of_mem_filter hStray
  have hNe : stray ≠ k := by
    rintro rfl
    exact Bool.false_ne_true (hNot.symm.trans hKey)
  exact decide_eq_true hNe

theorem Field.problem?_insert_value {field : Field} (e : Entries) (hField : field ∈ g.fields)
    (hFits : g.Fits k v) : field.problem? (e.insert k (.value v)) =
      (field.problem? e).filter fun problem => problem.key ≠ k := by
  by_cases hKeyword : field.keyword = k
  · have hSettled : field.problem? (e.insert k (.value v)) = none := by
      rw [Field.problem?, Entries.get?_insert, if_pos hKeyword, hKeyword]
      exact hFits field hField hKeyword
    rw [hSettled, eq_comm, Option.filter_eq_none_iff]
    intro problem hProblem
    simpa using (Field.key_of_problem? hProblem).trans hKeyword
  · have hSame : field.problem? (e.insert k (.value v)) = field.problem? e := by
      rw [Field.problem?, Field.problem?, Entries.get?_insert, if_neg hKeyword]
    rw [hSame]
    cases hProblem : field.problem? e with
    | none => rfl
    | some problem =>
      have hNe : problem.key ≠ k := by
        rw [Field.key_of_problem? hProblem]
        exact hKeyword
      simp [Option.filter_some, hNe]

theorem problems_insert_value (e : Entries) (hKey : g.isKeyword k = true) (hFits : g.Fits k v) :
    problems g (e.insert k (.value v)) =
      (problems g e).filter fun problem => problem.key ≠ k := by
  rw [problems, problems, List.filter_append, strayProblems_insert_keyword e _ hKey,
    List.filter_filterMap]
  congr 1
  exact List.filterMap_congr fun field hField => Field.problem?_insert_value e hField hFits

/-! ### Parameters -/

theorem parameters_insert_value (e : Entries) (k v : String) :
    (e.insert k (.value v)).parameters = e.parameters.insert k v := by
  apply Dictionary.ext_get?
  intro key
  apply Option.ext
  intro w
  rw [get?_parameters_eq_some_iff, Entries.get?_insert, Dictionary.get?_insert]
  by_cases hk : key = k
  · simp [hk]
  · rw [if_neg hk, if_neg hk, get?_parameters_eq_some_iff]

theorem parameters_of_judge {e : Entries} {p : Parameters} (h : judge g e = .valid p) :
    p = e.parameters := by
  rw [judge] at h
  split at h
  · cases h
    rfl
  · cases h

theorem follower?_append_pair {key : String} (hk : k ≠ key) (hv : v ≠ key) :
    follower? key (ts ++ [k, v]) =
      if ts.getLast? = some key then some k else follower? key ts := by
  have hSplit : ts ++ [k, v] = ts ++ [k] ++ [v] := by simp
  rw [hSplit, follower?_concat, follower?_concat, if_neg hv, if_neg hk]
  simp [hk]

theorem Accepted.follower?_of_append_pair {key : String} (h : Accepted g (ts ++ [k, v]))
    (hKey : g.isKeyword k = true) (hValue : g.isKeyword v = false) (hk : k ≠ key)
    (hKeyOther : g.isKeyword key = true) : follower? key (ts ++ [k, v]) = follower? key ts := by
  have hv : v ≠ key := by
    rintro rfl
    exact Bool.false_ne_true (hValue.symm.trans hKeyOther)
  rw [follower?_append_pair hk hv]
  split
  case isFalse => rfl
  case isTrue hLast =>
    -- A keyword at the end of the command would have the new keyword behind it.
    have hMem : key ∈ ts ++ [k, v] := List.mem_append_left _ (List.mem_of_getLast? hLast)
    obtain ⟨w, hNext, hOther, _⟩ := h.valued key hMem hKeyOther
    rw [follower?_append_pair hk hv, if_pos hLast] at hNext
    cases hNext
    exact absurd hKey (Bool.eq_false_iff.mp hOther)

/-- A keyword with a suitable value at the end of a command takes away exactly the problems of that
keyword. If none are left, the keyword has that value, and the other keywords have the values that
the command gave them. -/
theorem problems_append_pair (g : Grammar) (ts : List String) (k v : String)
    (hKey : g.isKeyword k = true) (hValue : g.isKeyword v = false) (hFits : g.Fits k v) :
    (judge g (pair g (ts ++ [k, v]))).problems =
      (judge g (pair g ts)).problems.filter (fun problem => problem.key ≠ k) ∧
    ∀ p, judge g (pair g (ts ++ [k, v])) = .valid p →
      p = (pair g ts).parameters.insert k v ∧
      p.get? k = some v ∧
      ∀ key, g.isKeyword key = true → key ≠ k → p.get? key = follower? key ts := by
  refine ⟨?_, ?_⟩
  · rw [problems_judge, problems_judge, pair_append_pair hKey hValue]
    exact problems_insert_value _ hKey hFits
  · intro p hValid
    have hParameters : p = (pair g ts).parameters.insert k v := by
      rw [parameters_of_judge hValid, pair_append_pair hKey hValue, parameters_insert_value]
    refine ⟨hParameters, ?_, ?_⟩
    · rw [hParameters, Dictionary.get?_insert, if_pos rfl]
    · intro key hKeyOther hNe
      have hNonempty : ts ++ [k, v] ≠ [] := by simp
      obtain ⟨hAccepted, hGet⟩ := (judge_pair_eq_valid_iff hNonempty p).mp hValid
      rw [hGet, if_pos hKeyOther]
      exact hAccepted.follower?_of_append_pair hKey hValue (Ne.symm hNe) hKeyOther

/-- The keyword that was still waiting keeps its problem, and so does the stray token; where the bad
value was the only problem, the command becomes valid. -/
theorem problems_append_pair_model_type :
    let g := Grammar.standard
    let faulty := ["x", "model_type", "9", "kernel"]
    let mendable := ["file_name", "a.csv", "model_type", "9", "target_column", "y"]
    let p : Parameters :=
      .ofList [("file_name", "a.csv"), ("model_type", "3"), ("target_column", "y")]
    g.isKeyword "model_type" = true ∧ g.isKeyword "3" = false ∧ g.Fits "model_type" "3" ∧
    (judge g (pair g (faulty ++ ["model_type", "3"]))).problems =
      [.unknownKeyword "x", .missingRequired "file_name", .missingRequired "target_column",
        .missingValue "kernel"] ∧
    judge g (pair g (mendable ++ ["model_type", "3"])) = .valid p ∧
    p.get? "file_name" = follower? "file_name" mendable := by
  intro g faulty mendable p
  have hKey : g.isKeyword "model_type" = true := by decide +kernel
  have hValue : g.isKeyword "3" = false := by decide +kernel
  have hFits : g.Fits "model_type" "3" := by
    unfold Grammar.Fits
    decide +kernel
  have hValid : judge g (pair g (mendable ++ ["model_type", "3"])) = .valid p := by decide +kernel
  have hFaulty := problems_append_pair g faulty "model_type" "3" hKey hValue hFits
  have hMended := problems_append_pair g mendable "model_type" "3" hKey hValue hFits
  refine ⟨hKey, hValue, hFits, hFaulty.1.trans ?_, hValid, ?_⟩
  · decide +kernel
  · exact (hMended.2 p hValid).2.2 "file_name" (by decide +kernel) (by decide)

end PredictionJobs.Command
