import PredictionJobs.Command.Grammar

/-! # The standard grammar

The keywords of prediction jobs.
-/

namespace PredictionJobs.Command

/-- The model types count from 0 to 5. -/
def modelTypeKind : ValueKind := .bounded (Binary64.ofNat 0) (Binary64.ofNat 5)

private def modelTypeHelp : String := "\n".intercalate [
  "Specifies the type of algorithm to use for the model. Valid values are:",
  "    0 - Linear Regression",
  "    1 - Random Forest Regression",
  "    2 - Support Vector Regression",
  "    3 - Logistic Regression model",
  "    4 - Forest Classifier model",
  "    5 - Support Vector Classifier"]

/-- The help texts; `model_name` is described although it is no keyword. -/
private def standardHelp : List (String × String) := [
  ("file_name", "Specifies the name of the file to use for the model."),
  ("target_column", "Specifies the target column to predict."),
  ("model_type", modelTypeHelp),
  ("load_model", "If true, loads a model from the specified file."),
  ("model_name", "The name of the file where the model is saved."),
  ("save_model", "If true, saves the current model to a file."),
  ("pca", "If true, applies PCA to the model input."),
  ("scaling", "If true, applies scaling to the model input."),
  ("min_max", "If true, applies Min-Max normalization to the model input."),
  ("z_score", "If true, applies Z-score normalization to the model input."),
  ("one_hot", "If true, applies one-hot encoding to categorical variables."),
  ("label", "If true, applies label encoding to categorical variables."),
  ("inputer", "If true, handles missing values in the data."),
  ("size", "Specifies the size of the model."),
  ("kernel", "Specifies the kernel type to be used in the model."),
  ("C", "Regularization parameter."),
  ("n_jobs", "Number of jobs to run in parallel."),
  ("n_estimators", "The number of trees in the forest."),
  ("max_depth", "The maximum depth of the tree."),
  ("random_state", "Controls the randomness of the model."),
  ("epsilon", "Epsilon in the epsilon-SVR model."),
  ("penalty", "Specifies the norm used in the penalization."),
  ("solver", "Algorithm to use in the optimization problem."),
  ("max_iter", "Maximum number of iterations."),
  ("gamma", "Kernel coefficient."),
  ("fit_intercept", "Whether to calculate the intercept for this model.")]

/-- The grammar of prediction jobs. -/
def Grammar.standard : Grammar where
  required := [
    ("file_name", .string),
    ("target_column", .string),
    ("model_type", modelTypeKind)]
  optional := [
    ("load_model", .boolean),
    ("save_model", .boolean),
    ("pca", .boolean),
    ("scaling", .boolean),
    ("min_max", .boolean),
    ("z_score", .boolean),
    ("one_hot", .boolean),
    ("label", .boolean),
    ("inputer", .boolean),
    ("size", .string),
    ("kernel", .string),
    ("C", .number),
    ("n_jobs", .number),
    ("n_estimators", .number),
    ("max_depth", .number),
    ("random_state", .number),
    ("epsilon", .number),
    ("penalty", .string),
    ("solver", .string),
    ("max_iter", .number),
    ("gamma", .string),
    ("fit_intercept", .boolean)]
  help := .ofList standardHelp

end PredictionJobs.Command
