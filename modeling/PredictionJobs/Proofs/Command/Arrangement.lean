import PredictionJobs.Proofs.Command.Written

/-! # Arrangements of a command

The verdict on entries depends on the slots of the keys and on the strays, not on where the keywords
stand. So keywords with their values get one verdict in all arrangements, be it valid or invalid.
-/

namespace PredictionJobs.Command

variable {g : Grammar} {pairs others : List (String × String)}

/-! ### What a verdict depends on -/

theorem problems_congr {e f : Entries} (hStrays : e.strayKeys g = f.strayKeys g)
    (hSlots : ∀ key, e.get? key = f.get? key) : problems g e = problems g f := by
  rw [problems, problems, strayProblems_eq, strayProblems_eq, hStrays]
  congr 1
  apply List.filterMap_congr
  intro field _
  rw [Field.problem?, Field.problem?, hSlots]

theorem parameters_congr {e f : Entries} (hSlots : ∀ key, e.get? key = f.get? key) :
    e.parameters = f.parameters := by
  apply Dictionary.ext_get?
  intro key
  apply Option.ext
  intro v
  rw [get?_parameters_eq_some_iff, get?_parameters_eq_some_iff, hSlots]

theorem judge_congr {e f : Entries} (hStrays : e.strayKeys g = f.strayKeys g)
    (hSlots : ∀ key, e.get? key = f.get? key) : judge g e = judge g f := by
  rw [judge, judge, problems_congr hStrays hSlots, parameters_congr hSlots]

/-! ### Entries of keywords with their values -/

theorem strayKeys_insertAll (h : ∀ p ∈ pairs, g.isKeyword p.1 = true) (e : Entries) :
    (e.insertAll pairs).strayKeys g = e.strayKeys g := by
  induction pairs generalizing e with
  | nil => rfl
  | cons p pairs ih =>
    have hStep : e.insertAll (p :: pairs) = (e.insert p.1 (.value p.2)).insertAll pairs := rfl
    rw [hStep, ih (fun q hq => h q (List.mem_cons_of_mem p hq)),
      Entries.strayKeys_insert_keyword _ _ (h p List.mem_cons_self)]

theorem get?_insertAll (e : Entries) (pairs : List (String × String)) (key : String) :
    (e.insertAll pairs).get? key =
      ((findPair? key pairs.reverse).map Slot.value).or (e.get? key) := by
  induction pairs generalizing e with
  | nil => simp [Entries.insertAll, findPair?]
  | cons p pairs ih =>
    have hStep : e.insertAll (p :: pairs) = (e.insert p.1 (.value p.2)).insertAll pairs := rfl
    rw [hStep, ih, Entries.get?_insert, List.reverse_cons, findPair?_append]
    cases findPair? key pairs.reverse with
    | some v => rfl
    | none => by_cases hk : key = p.1 <;> simp [findPair?, hk]

theorem findPair?_reverse_perm (hDistinct : (pairs.map Prod.fst).Nodup) (hPerm : others.Perm pairs)
    (key : String) : findPair? key others.reverse = findPair? key pairs.reverse := by
  rw [findPair?_perm hDistinct ((List.reverse_perm others).trans hPerm),
    findPair?_perm hDistinct (List.reverse_perm pairs)]

/-- Distinct keywords with their values, suitable or not, get one verdict in all arrangements: the
same parameters, or the same problems in the same order. -/
theorem judge_tokensOf_perm (g : Grammar) (pairs others : List (String × String))
    (hTokens : ∀ p ∈ pairs, g.isKeyword p.1 = true ∧ g.isKeyword p.2 = false)
    (hDistinct : (pairs.map Prod.fst).Nodup) (hPerm : others.Perm pairs) :
    judge g (pair g (tokensOf others)) = judge g (pair g (tokensOf pairs)) := by
  have hOthers : ∀ p ∈ others, g.isKeyword p.1 = true ∧ g.isKeyword p.2 = false :=
    fun p hp => hTokens p (hPerm.mem_iff.mp hp)
  have hEntries : pair g (tokensOf pairs) = Entries.empty.insertAll pairs :=
    pair_append_tokensOf hTokens []
  have hEntriesOthers : pair g (tokensOf others) = Entries.empty.insertAll others :=
    pair_append_tokensOf hOthers []
  rw [hEntries, hEntriesOthers]
  apply judge_congr
  · rw [strayKeys_insertAll fun p hp => (hTokens p hp).1,
      strayKeys_insertAll fun p hp => (hOthers p hp).1]
  · intro key
    rw [get?_insertAll, get?_insertAll, findPair?_reverse_perm hDistinct hPerm]

/-- An empty value and a badly typed one are reported in the order of the grammar from both
arrangements, though their entries stand in different orders. -/
theorem judge_tokensOf_perm_faulty :
    let g := Grammar.standard
    let pairs := [("pca", "maybe"), ("target_column", "y"), ("file_name", ""), ("model_type", "3")]
    (∀ p ∈ pairs, g.isKeyword p.1 = true ∧ g.isKeyword p.2 = false) ∧
    (pairs.map Prod.fst).Nodup ∧ pairs.reverse.Perm pairs ∧
    (pair g (tokensOf pairs.reverse)).pairs ≠ (pair g (tokensOf pairs)).pairs ∧
    judge g (pair g (tokensOf pairs)) = .invalid [.notAString "file_name", .notABoolean "pca"] ∧
    judge g (pair g (tokensOf pairs.reverse)) =
      .invalid [.notAString "file_name", .notABoolean "pca"] := by
  intro g pairs
  have hTokens : ∀ p ∈ pairs, g.isKeyword p.1 = true ∧ g.isKeyword p.2 = false := by decide +kernel
  have hDistinct : (pairs.map Prod.fst).Nodup := by decide
  have hPerm : pairs.reverse.Perm pairs := List.reverse_perm pairs
  have hVerdict : judge g (pair g (tokensOf pairs)) =
      .invalid [.notAString "file_name", .notABoolean "pca"] := by decide +kernel
  have hSame := judge_tokensOf_perm g pairs pairs.reverse hTokens hDistinct hPerm
  exact ⟨hTokens, hDistinct, hPerm, by decide +kernel, hVerdict, hSame.trans hVerdict⟩

end PredictionJobs.Command
