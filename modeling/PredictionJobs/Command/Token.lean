import PredictionJobs.Text.Blank

/-! # Tokens of a command

A command is trimmed and cut at every single space. Two spaces in a row enclose an empty token, and
an empty command has one empty token.
-/

namespace PredictionJobs.Command

def tokenize (input : String) : List String :=
  ((Text.trimChars input.toList).splitOn ' ').map String.ofList

/-- The command with these tokens, separated by single spaces. -/
def joinTokens (tokens : List String) : String := " ".intercalate tokens

end PredictionJobs.Command
