import PredictionJobs.Display.Report
import PredictionJobs.Proofs.Binary64.Plain

/-! # Cells of reports

Each row of a report shows a prediction beside what stands in the same place, or beside nothing. So
there are as many rows as predictions, and leading rows come from leading entries.
-/

namespace PredictionJobs.Display

open Command Service

variable {lefts rights : List String}

theorem pairCells_nil (lefts : List String) : pairCells lefts [] = [] := by cases lefts <;> rfl

theorem pairCells_cons (lefts : List String) (right : String) (rights : List String) :
    pairCells lefts (right :: rights) =
      (lefts.head?.getD "", right) :: pairCells lefts.tail rights := by
  cases lefts <;> rfl

theorem getElem?_pairCells (lefts rights : List String) (i : Nat) :
    (pairCells lefts rights)[i]? = rights[i]?.map fun right => (lefts[i]?.getD "", right) := by
  induction rights generalizing lefts i with
  | nil => simp [pairCells_nil]
  | cons right rights ih =>
    rw [pairCells_cons]
    cases i with
    | zero => simp [List.head?_eq_getElem?]
    | succ i => simp [ih]

theorem length_pairCells (lefts rights : List String) :
    (pairCells lefts rights).length = rights.length := by
  induction rights generalizing lefts with
  | nil => simp [pairCells_nil]
  | cons right rights ih => simp [pairCells_cons, ih]

theorem of_mem_pairCells {row : String × String} (h : row ∈ pairCells lefts rights) :
    (row.1 = "" ∨ row.1 ∈ lefts) ∧ row.2 ∈ rights := by
  obtain ⟨i, hRow⟩ := List.mem_iff_getElem?.mp h
  rw [getElem?_pairCells] at hRow
  obtain ⟨right, hRight, rfl⟩ := Option.map_eq_some_iff.mp hRow
  refine ⟨?_, List.mem_of_getElem? hRight⟩
  cases hLeft : lefts[i]? with
  | none => exact .inl rfl
  | some left => exact .inr (List.mem_of_getElem? hLeft)

theorem pairCells_take (lefts rights : List String) (limit : Nat) :
    pairCells (lefts.take limit) (rights.take limit) = (pairCells lefts rights).take limit := by
  apply List.ext_getElem?
  intro i
  rw [getElem?_pairCells, List.getElem?_take, List.getElem?_take, List.getElem?_take,
    getElem?_pairCells]
  split <;> simp

/-- What stands above the table of predictions. -/
def predictionHeading (p : Prediction) : String :=
  "Error Type - " ++ p.metricName.getD "" ++ "\n" ++
    match p.metric with
    | some metric => metricText metric ++ "\n"
    | none => ""

theorem predictionText_eq (p : Prediction) :
    predictionText p = predictionHeading p ++ (predictionTable p).render := rfl

theorem lineFeed_not_mem_hundredthsText (x : Binary64) : '\n' ∉ (hundredthsText x).toList :=
  Binary64.lineFeed_not_mem_plain (roundToHundredths x)

end PredictionJobs.Display
