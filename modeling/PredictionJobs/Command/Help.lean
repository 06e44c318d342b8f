import PredictionJobs.Command.Grammar
import PredictionJobs.Command.Token

/-! # Help requests

The word `help` alone, in any case, asks for the whole reference; a command whose last token is `-h`
asks about the token before that. Everything else in such a command is ignored.
-/

namespace PredictionJobs.Command

inductive Help where
  | reference
  | keyword (word text : String)
  | notFound
  deriving DecidableEq

/-- The token that asks for help on the one before it. -/
def helpFlag : String := "-h"

/-- The word that asks for the whole reference. -/
def helpWord : String := "help"

/-- Equality up to the case of ASCII letters. -/
def sameLetters (s t : String) : Bool :=
  s.toList.map Char.toLower == t.toList.map Char.toLower

def Grammar.helpOn (g : Grammar) (word : String) : Help :=
  match g.helpText? word with
  | some text => .keyword word text
  | none => .notFound

def help? (g : Grammar) (input : String) : Option Help :=
  if sameLetters (Text.trim input) helpWord then some .reference
  else
    match (tokenize input).reverse with
    | [] => none
    | flag :: before =>
      if flag ≠ helpFlag then none
      else
        match before with
        | [] => some .notFound
        | word :: _ => some (g.helpOn word)

def referenceText : String := "\n".intercalate [
  "----------Necessary----------",
  "- file_name: Specifies the name of the file to use for the model.",
  "- target_column: Specifies the target column to predict.",
  "- model_type (number): Specifies the type of algorithm to use for the model. Valid values " ++
    "are 0 to 5.",
  "    0 - Linear Regression",
  "    1 - Random Forest Regression",
  "    2 - Support Vector Regression",
  "    3 - Logistic Regression model",
  "    4 - Forest Classifier model",
  "    5 - Support Vector Classifier",
  "----------Optional----------",
  "- load_model (boolean): If true, loads a model from the specified file.",
  "- model_name (string): The name of the file where the model is saved.",
  "- save_model (boolean): If true, saves the current model to a file.",
  "- pca (boolean): If true, applies PCA to the model input.",
  "- scaling (boolean): If true, applies scaling to the model input.",
  "- min_max (boolean): If true, applies Min-Max normalization to the model input.",
  "- z_score (boolean): If true, applies Z-score normalization to the model input.",
  "- one_hot (boolean): If true, applies one-hot encoding to categorical variables.",
  "- label (boolean): If true, applies label encoding to categorical variables.",
  "- inputer (boolean): If true, handles missing values in the data.",
  "- size (number 0.0 - 1.0): Specifies the size of the train dataset.",
  "- kernel (string): Specifies the kernel type to be used in the algorithm. If none is given, " ++
    "'rbf' will be used. If a callable is given it is used to precompute the kernel matrix. " ++
    "('linear', 'poly', 'rbf', 'sigmoid', 'precomputed').",
  "- C (float): Regularization parameter. The strength of the regularization is inversely " ++
    "proportional to C. Must be strictly positive (default = 1.0).",
  "- n_jobs (int): The number of jobs to use for the computation. This will only provide " ++
    "speedup in case of sufficiently large problems (default = 1).",
  "- n_estimators (int): The number of trees in the forest (default = 100).",
  "- max_depth (int): The maximum depth of the tree. If None, then nodes are expanded until all " ++
    "leaves are pure (default = None).",
  "- random_state (int): Controls the randomness of the bootstrapping of the samples used when " ++
    "building trees (default = None).",
  "- epsilon (float): Epsilon in the epsilon-SVR model. It specifies the epsilon-tube within " ++
    "which no penalty is associated in the training loss function with points predicted within " ++
    "a distance epsilon from the actual value. Must be non-negative (default = 0.1).",
  "- penalty (string): Specify the norm of the penalty:",
  "    - None: no penalty is added;",
  "    - 'l2': add a L2 penalty term and it is the default choice;",
  "    - 'l1': add a L1 penalty term;",
  "    - 'elasticnet': both L1 and L2 penalty terms are added (default = 'l2').",
  "- solver (string): Algorithm to use in the optimization problem (default = 'lbfgs'). To " ++
    "choose a solver, consider the following aspects:",
  "    - For small datasets, 'liblinear' is a good choice, whereas 'sag' and 'saga' are faster " ++
    "for large ones;",
  "    - For multiclass problems, only 'newton-cg', 'sag', 'saga' and 'lbfgs' handle " ++
    "multinomial loss;",
  "    - 'liblinear' is limited to one-versus-rest schemes.",
  "  The choice of the algorithm depends on the penalty chosen. Supported penalties by solver:",
  "    - 'lbfgs' - ['l2', None]",
  "    - 'liblinear' - ['l1', 'l2']",
  "    - 'newton-cg' - ['l2', None]",
  "    - 'newton-cholesky' - ['l2', None]",
  "    - 'sag' - ['l2', None]",
  "    - 'saga' - ['elasticnet', 'l1', 'l2', None]",
  "- max_iter (int): Maximum number of iterations taken for the solvers to converge " ++
    "(default = 100).",
  "- gamma (string): \x7b'scale', 'auto'\x7d or float (default = 'scale'). Kernel coefficient " ++
    "for 'rbf', 'poly' and 'sigmoid'.",
  "    - if gamma='scale' is passed then it uses 1 / (n_features * X.var()) as value of gamma;",
  "    - if 'auto', uses 1 / n_features;",
  "    - if float, must be non-negative.",
  "- fit_intercept (boolean): Whether to calculate the intercept for this model. If set to " ++
    "false, no intercept will be used in calculations (default = true)."]

namespace Help

def text : Help → String
  | .reference => referenceText
  | .keyword _ text => text
  | .notFound => "No help flags found."

def toJson : Help → Json.Value
  | .reference => .object [("kind", .string "document"), ("text", .string referenceText)]
  | .keyword word text =>
    .object [("kind", .string "keyword"), ("keyword", .string word), ("text", .string text)]
  | .notFound => .object [("kind", .string "not_found")]

end Help

end PredictionJobs.Command
