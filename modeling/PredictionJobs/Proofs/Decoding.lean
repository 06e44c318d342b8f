import Mathlib.Data.List.Forall2
import PredictionJobs.Proofs.Fallible
import PredictionJobs.Proofs.Json.ReadBack
import PredictionJobs.Service.Decoding

/-! # Documents that are answers

The documents of results, failures and forecasts, as relations between a value and what it says. The
decoders accept exactly these, say what the document says, and blame the shape of everything else.
-/

namespace PredictionJobs.Service

open Json (Value)

/-! ### The documents -/

/-- Whether a value is an array of numbers only. -/
def IsNumbers (v : Value) (xs : List Binary64) : Prop :=
  ∃ ns : List Json.Number, v = .array (ns.map .number) ∧ xs = ns.map Json.Number.toBinary64

def IsTexts (v : Value) (texts : List String) : Prop := v = .array (texts.map .string)

def IsText (v : Value) (text : String) : Prop := v = .string text

/-- A place that may be empty or hold `null`. -/
inductive Optionally {α : Type} (holds : Value → α → Prop) : Option Value → Option α → Prop
  | missing : Optionally holds none none
  | null : Optionally holds (some .null) none
  | present {v : Value} {a : α} (hNull : v ≠ .null) (h : holds v a) :
      Optionally holds (some v) (some a)

inductive FailureDocument : Value → String → Prop
  | object {members : List (String × Value)} {text : String}
      (hType : (Value.object members).member? "type" = some (.string "error"))
      (hText : (Value.object members).member? "result" = some (.string text)) :
      FailureDocument (.object members) text
  | array {text : String} : FailureDocument (.array [.string "error", .string text]) text

inductive ResultDocument : Value → Prediction → Prop
  | object {members : List (String × Value)} {observed predicted : Value} {p : Prediction}
      (hType : (Value.object members).member? "type" = some (.string "result"))
      (hInit : (Value.object members).member? "init" = some observed)
      (hObserved : IsNumbers observed p.observed)
      (hPredicted : (Value.object members).member? "predicted" = some predicted)
      (hPredictions : IsNumbers predicted p.predicted)
      (hName : Optionally IsText ((Value.object members).member? "error_type") p.metricName)
      (hMetric : Optionally Eq ((Value.object members).member? "error") p.metric) :
      ResultDocument (.object members) p
  | array {observed predicted : Value} {rest : List Value} {p : Prediction}
      (hObserved : IsNumbers observed p.observed) (hPredictions : IsNumbers predicted p.predicted)
      (hLength : rest.length ≤ 2) (hName : Optionally IsText rest[0]? p.metricName)
      (hMetric : Optionally Eq rest[1]? p.metric) :
      ResultDocument (.array (.string "result" :: observed :: predicted :: rest)) p

inductive ForecastDocument : Value → Forecast → Prop
  | object {members : List (String × Value)} {predictions dates : Value} {f : Forecast}
      (hMember : (Value.object members).member? "predictions" = some predictions)
      (hPredictions : IsNumbers predictions f.predictions)
      (hMember' : (Value.object members).member? "dates" = some dates)
      (hDates : IsTexts dates f.dates) : ForecastDocument (.object members) f
  | array {predictions dates : Value} {f : Forecast}
      (hPredictions : IsNumbers predictions f.predictions) (hDates : IsTexts dates f.dates) :
      ForecastDocument (.array [predictions, dates]) f

/-! ### Parts of documents -/

theorem textOf_eq_ok_iff {v : Value} {text : String} : textOf v = .ok text ↔ IsText v text := by
  cases v <;> simp [textOf, IsText]

theorem numberOf_eq_ok_iff {v : Value} {x : Binary64} :
    numberOf v = .ok x ↔ ∃ n, v = .number n ∧ n.toBinary64 = x := by
  cases v <;> simp [numberOf]

section

variable {α : Type} {item read : Value → Except Shape.Fault α} {holds : Value → α → Prop}

theorem mapM_eq_ok_iff {items : List Value} {as : List α} :
    items.mapM item = .ok as ↔ List.Forall₂ (fun v a => item v = .ok a) items as := by
  induction items generalizing as with
  | nil =>
    rw [List.mapM_nil, List.forall₂_nil_left_iff]
    simp [pure, Except.pure, eq_comm]
  | cons v items ih =>
    rw [List.mapM_cons]
    simp only [bind_eq_ok_iff, ih, pure, Except.pure, Except.ok.injEq]
    constructor
    · rintro ⟨a, hItem, rest, hItems, rfl⟩
      exact .cons hItem hItems
    · rintro (_ | ⟨hItem, hItems⟩)
      exact ⟨_, hItem, _, hItems, rfl⟩

theorem listOf_eq_ok_iff {v : Value} {as : List α} : listOf item v = .ok as ↔
    ∃ items, v = .array items ∧ List.Forall₂ (fun v a => item v = .ok a) items as := by
  cases v <;> simp [listOf, mapM_eq_ok_iff]

theorem optional_of_ne_null {v : Value} (h : v ≠ .null) :
    optional read (some v) = (read v).map some := by
  cases v with
  | null => exact absurd rfl h
  | _ => rfl

theorem optional_eq_ok_iff (hRead : ∀ v a, read v = .ok a ↔ holds v a) {v? : Option Value}
    {a? : Option α} : optional read v? = .ok a? ↔ Optionally holds v? a? := by
  constructor
  · intro h
    unfold optional at h
    split at h
    · cases h
      exact .missing
    · cases h
      exact .null
    case h_3 hNull =>
      obtain ⟨a, hSome, rfl⟩ := map_eq_ok_iff.mp h
      exact .present hNull ((hRead _ _).mp hSome)
  · intro h
    cases h with
    | missing => rfl
    | null => rfl
    | present hNull hHolds =>
      rw [optional_of_ne_null hNull, (hRead _ _).mpr hHolds]
      rfl

theorem present_eq_some_iff {v? : Option Value} {a : α} :
    present read v? = .ok (some a) ↔ ∃ v, v? = some v ∧ read v = .ok a := by
  cases v? with
  | none => simp [present]
  | some v => simp [present, map_eq_ok_iff]

theorem required_eq_ok_iff {name : String} {a? : Option α} {a : α} :
    required name a? = .ok a ↔ a? = some a := by
  cases a? <;> simp [required]

end

theorem listOf_numberOf_eq_ok_iff {v : Value} {xs : List Binary64} :
    listOf numberOf v = .ok xs ↔ IsNumbers v xs := by
  rw [listOf_eq_ok_iff]
  constructor
  · rintro ⟨items, rfl, hItems⟩
    induction hItems with
    | nil => exact ⟨[], rfl, rfl⟩
    | cons hItem _ ih =>
      obtain ⟨n, rfl, rfl⟩ := numberOf_eq_ok_iff.mp hItem
      obtain ⟨ns, hValues, rfl⟩ := ih
      rw [Value.array.injEq] at hValues
      exact ⟨n :: ns, by rw [hValues, List.map_cons], rfl⟩
  · rintro ⟨ns, rfl, rfl⟩
    refine ⟨_, rfl, ?_⟩
    induction ns with
    | nil => exact .nil
    | cons n ns ih => exact .cons rfl ih

theorem listOf_textOf_eq_ok_iff {v : Value} {texts : List String} :
    listOf textOf v = .ok texts ↔ IsTexts v texts := by
  rw [listOf_eq_ok_iff]
  constructor
  · rintro ⟨items, rfl, hItems⟩
    induction hItems with
    | nil => rfl
    | cons hItem _ ih =>
      rw [textOf_eq_ok_iff.mp hItem, IsTexts, Value.array.inj ih, List.map_cons]
  · rintro rfl
    refine ⟨_, rfl, ?_⟩
    induction texts with
    | nil => exact .nil
    | cons text texts ih => exact .cons rfl ih

theorem kindOf_eq_ok_iff {v : Value} {kind : AnswerKind} : kindOf v = .ok kind ↔
    v = .string "result" ∧ kind = .result ∨ v = .string "error" ∧ kind = .failure := by
  unfold kindOf
  split <;> simp_all [eq_comm]

theorem optional_textOf_eq_ok_iff {v? : Option Value} {text? : Option String} :
    optional textOf v? = .ok text? ↔ Optionally IsText v? text? :=
  optional_eq_ok_iff fun _ _ => textOf_eq_ok_iff

theorem optional_ok_eq_ok_iff {v? w? : Option Value} :
    optional .ok v? = .ok w? ↔ Optionally Eq v? w? :=
  optional_eq_ok_iff fun v w => by simp

/-! ### Whole documents -/

theorem predictionOfMembers_eq_ok_iff {members : List (String × Value)} {p : Prediction}
    (hType : (Value.object members).member? "type" = some (.string "result")) :
    predictionOfMembers (.object members) = .ok p ↔ ResultDocument (.object members) p := by
  simp only [predictionOfMembers, bind_eq_ok_iff, required_eq_ok_iff, optional_textOf_eq_ok_iff,
    optional_ok_eq_ok_iff, pure, Except.pure, Except.ok.injEq]
  constructor
  · rintro ⟨metric, hMetric, name, hName, _, hObserved, _, hPredicted, observed, rfl, predicted,
      rfl, rfl⟩
    obtain ⟨v, hInit, hNumbers⟩ := present_eq_some_iff.mp hObserved
    obtain ⟨w, hMember, hNumbers'⟩ := present_eq_some_iff.mp hPredicted
    exact .object hType hInit (listOf_numberOf_eq_ok_iff.mp hNumbers) hMember
      (listOf_numberOf_eq_ok_iff.mp hNumbers') hName hMetric
  · rintro (⟨-, hInit, hObserved, hMember, hPredictions, hName, hMetric⟩ | _)
    have hObserved := listOf_numberOf_eq_ok_iff.mpr hObserved
    have hPredictions := listOf_numberOf_eq_ok_iff.mpr hPredictions
    exact ⟨_, hMetric, _, hName, _, present_eq_some_iff.mpr ⟨_, hInit, hObserved⟩, _,
      present_eq_some_iff.mpr ⟨_, hMember, hPredictions⟩, _, rfl, _, rfl, rfl⟩

theorem predictionOfItems_eq_ok_iff {items : List Value} {p : Prediction} :
    predictionOfItems items = .ok p ↔ ResultDocument (.array (.string "result" :: items)) p := by
  constructor
  · intro h
    unfold predictionOfItems at h
    split at h
    · cases h
    · obtain ⟨_, -, h⟩ := bind_eq_ok_iff.mp h
      cases h
    case h_3 observed predicted rest =>
      simp only [bind_eq_ok_iff, listOf_numberOf_eq_ok_iff, optional_textOf_eq_ok_iff,
        optional_ok_eq_ok_iff, List.head?_eq_getElem?, List.getElem?_tail] at h
      obtain ⟨xs, hObserved, ys, hPredictions, name, hName, metric, hMetric, h⟩ := h
      split at h
      · cases h
      case isFalse hLength =>
        cases h
        exact .array hObserved hPredictions (Nat.not_lt.mp hLength) hName hMetric
  · rintro (_ | ⟨hObserved, hPredictions, hLength, hName, hMetric⟩)
    unfold predictionOfItems
    simp only [bind_eq_ok_iff, listOf_numberOf_eq_ok_iff, optional_textOf_eq_ok_iff,
      optional_ok_eq_ok_iff, List.head?_eq_getElem?, List.getElem?_tail]
    refine ⟨_, hObserved, _, hPredictions, _, hName, _, hMetric, ?_⟩
    rw [if_neg (Nat.not_lt.mpr hLength)]
    rfl

theorem failureOfItems_eq_ok_iff {items : List Value} {text : String} :
    failureOfItems items = .ok text ↔ FailureDocument (.array (.string "error" :: items)) text := by
  constructor
  · intro h
    unfold failureOfItems at h
    split at h
    · cases h
    case h_2 v rest =>
      obtain ⟨found, hFound, h⟩ := bind_eq_ok_iff.mp h
      obtain rfl := textOf_eq_ok_iff.mp hFound
      cases rest with
      | nil =>
        cases h
        exact .array
      | cons w rest => cases h
  · rintro (_ | _)
    rfl

/-- The documents of answers. -/
inductive AnswerDocument (v : Value) : Answer → Prop
  | result {p : Prediction} (h : ResultDocument v p) : AnswerDocument v (.result p)
  | failure {text : String} (h : FailureDocument v text) : AnswerDocument v (.failure text)

theorem answerDocument_result_iff {v : Value} {p : Prediction} :
    AnswerDocument v (.result p) ↔ ResultDocument v p := by
  constructor
  · rintro (h | _)
    exact h
  · exact .result

theorem answerDocument_failure_iff {v : Value} {text : String} :
    AnswerDocument v (.failure text) ↔ FailureDocument v text := by
  constructor
  · rintro (_ | h)
    exact h
  · exact .failure

theorem answerDocument_of_ofJson {v : Value} {answer : Answer} (h : Answer.ofJson v = .ok answer) :
    AnswerDocument v answer := by
  unfold Answer.ofJson at h
  split at h
  case h_1 members =>
    simp only [bind_eq_ok_iff, required_eq_ok_iff] at h
    obtain ⟨word, hType, kind, hKind, h⟩ := h
    rcases kindOf_eq_ok_iff.mp hKind with ⟨rfl, rfl⟩ | ⟨rfl, rfl⟩
    · obtain ⟨p, hPrediction, h⟩ := bind_eq_ok_iff.mp h
      cases h
      exact .result ((predictionOfMembers_eq_ok_iff hType).mp hPrediction)
    · simp only [bind_eq_ok_iff, required_eq_ok_iff] at h
      obtain ⟨_, hPresent, text, rfl, h⟩ := h
      cases h
      obtain ⟨w, hMember, hText⟩ := present_eq_some_iff.mp hPresent
      obtain rfl := textOf_eq_ok_iff.mp hText
      exact .failure (.object hType hMember)
  case h_2 => cases h
  case h_3 word items =>
    obtain ⟨kind, hKind, h⟩ := bind_eq_ok_iff.mp h
    rcases kindOf_eq_ok_iff.mp hKind with ⟨rfl, rfl⟩ | ⟨rfl, rfl⟩
    · obtain ⟨p, hPrediction, h⟩ := bind_eq_ok_iff.mp h
      cases h
      exact .result (predictionOfItems_eq_ok_iff.mp hPrediction)
    · obtain ⟨text, hText, h⟩ := bind_eq_ok_iff.mp h
      cases h
      exact .failure (failureOfItems_eq_ok_iff.mp hText)
  case h_4 => cases h

theorem ofJson_of_resultDocument {v : Value} {p : Prediction} (h : ResultDocument v p) :
    Answer.ofJson v = .ok (.result p) := by
  have hDocument := h
  cases h with
  | object hType =>
    have hPrediction := (predictionOfMembers_eq_ok_iff hType).mpr hDocument
    simp only [Answer.ofJson, hType, required, kindOf, hPrediction, bind, Except.bind, pure,
      Except.pure]
  | array =>
    have hPrediction := predictionOfItems_eq_ok_iff.mpr hDocument
    simp only [Answer.ofJson, kindOf, hPrediction, bind, Except.bind, pure, Except.pure]

theorem ofJson_of_failureDocument {v : Value} {text : String} (h : FailureDocument v text) :
    Answer.ofJson v = .ok (.failure text) := by
  cases h with
  | object hType hText =>
    simp only [Answer.ofJson, hType, hText, required, present, kindOf, textOf, Except.map, bind,
      Except.bind, pure, Except.pure]
  | array => rfl

theorem Answer.ofJson_eq_ok_iff {v : Value} {answer : Answer} :
    Answer.ofJson v = .ok answer ↔ AnswerDocument v answer := by
  constructor
  · exact answerDocument_of_ofJson
  · rintro (h | h)
    · exact ofJson_of_resultDocument h
    · exact ofJson_of_failureDocument h

theorem Forecast.ofJson_eq_ok_iff {v : Value} {f : Forecast} :
    Forecast.ofJson v = .ok f ↔ ForecastDocument v f := by
  constructor
  · intro h
    unfold Forecast.ofJson at h
    split at h
    case h_1 members =>
      simp only [bind_eq_ok_iff, required_eq_ok_iff] at h
      obtain ⟨_, hDates, _, hPredictions, predictions, rfl, dates, rfl, h⟩ := h
      cases h
      obtain ⟨v, hMember, hNumbers⟩ := present_eq_some_iff.mp hPredictions
      obtain ⟨w, hMember', hTexts⟩ := present_eq_some_iff.mp hDates
      exact .object hMember (listOf_numberOf_eq_ok_iff.mp hNumbers) hMember'
        (listOf_textOf_eq_ok_iff.mp hTexts)
    case h_2 items =>
      split at h
      · cases h
      · obtain ⟨_, -, h⟩ := bind_eq_ok_iff.mp h
        cases h
      case h_3 predictions dates rest =>
        simp only [bind_eq_ok_iff, listOf_numberOf_eq_ok_iff, listOf_textOf_eq_ok_iff] at h
        obtain ⟨xs, hPredictions, texts, hDates, h⟩ := h
        cases rest with
        | nil =>
          cases h
          exact .array hPredictions hDates
        | cons w rest => cases h
    case h_3 => cases h
  · rintro (⟨hMember, hPredictions, hMember', hDates⟩ | ⟨hPredictions, hDates⟩)
    · have hNumbers := present_eq_some_iff.mpr
        ⟨_, hMember, listOf_numberOf_eq_ok_iff.mpr hPredictions⟩
      have hTexts := present_eq_some_iff.mpr ⟨_, hMember', listOf_textOf_eq_ok_iff.mpr hDates⟩
      simp only [Forecast.ofJson, hNumbers, hTexts, required, bind, Except.bind, pure, Except.pure]
    · have hNumbers := listOf_numberOf_eq_ok_iff.mpr hPredictions
      have hTexts := listOf_textOf_eq_ok_iff.mpr hDates
      simp only [Forecast.ofJson, hNumbers, hTexts, bind, Except.bind, pure, Except.pure]
      rfl

/-! ### Bodies -/

section

variable {α : Type} {expected body : String} {ofJson : Value → Except Shape.Fault α} {v : Value}

theorem readBody_notJson_iff :
    (∃ report, readBody expected ofJson body = .error (.notJson report)) ↔
      ∀ v, Json.read body.toList ≠ .ok v := by
  unfold readBody
  cases Json.read body.toList with
  | error fault => simp
  | ok v => cases hShape : ofJson v <;> simp [hShape]

theorem readBody_eq_ok_iff (h : Json.read body.toList = .ok v) {a : α} :
    readBody expected ofJson body = .ok a ↔ ofJson v = .ok a := by
  rw [readBody, h]
  cases hShape : ofJson v <;> simp [hShape]

theorem readBody_misshaped_iff (h : Json.read body.toList = .ok v) :
    (∃ report, readBody expected ofJson body = .error (.misshaped expected report)) ↔
      ∀ a, ofJson v ≠ .ok a := by
  rw [readBody, h]
  cases hShape : ofJson v <;> simp [hShape]

end

theorem not_result_and_failure {v : Value} {p : Prediction} {text : String}
    (hResult : ResultDocument v p) : ¬FailureDocument v text := by
  intro hFailure
  have hAnswer := (ofJson_of_resultDocument hResult).symm.trans (ofJson_of_failureDocument hFailure)
  cases hAnswer

/-- A body is no JSON, or is decoded as what its document says, or is blamed for its shape. -/
theorem decoded_by_documents (body : String) :
    ((∃ report, Answer.read body = .error (.notJson report)) ↔
      ∀ v, Json.read body.toList ≠ .ok v) ∧
    ((∃ report, Forecast.read body = .error (.notJson report)) ↔
      ∀ v, Json.read body.toList ≠ .ok v) ∧
    (∀ v, Json.read body.toList = .ok v →
      (∀ text, Answer.read body = .ok (.failure text) ↔ FailureDocument v text) ∧
      (∀ p, Answer.read body = .ok (.result p) ↔ ResultDocument v p) ∧
      ((∃ report, Answer.read body = .error (.misshaped "prediction response" report)) ↔
        (∀ text, ¬FailureDocument v text) ∧ ∀ p, ¬ResultDocument v p) ∧
      (∀ f, Forecast.read body = .ok f ↔ ForecastDocument v f) ∧
      ((∃ report, Forecast.read body = .error (.misshaped "forecast response" report)) ↔
        ∀ f, ¬ForecastDocument v f)) ∧
    ∀ v p text, ¬(ResultDocument v p ∧ FailureDocument v text) := by
  refine ⟨readBody_notJson_iff, readBody_notJson_iff, ?_, ?_⟩
  · intro v hRead
    refine ⟨fun text => ?_, fun p => ?_, ?_, fun f => ?_, ?_⟩
    · rw [Answer.read, readBody_eq_ok_iff hRead, Answer.ofJson_eq_ok_iff,
        answerDocument_failure_iff]
    · rw [Answer.read, readBody_eq_ok_iff hRead, Answer.ofJson_eq_ok_iff, answerDocument_result_iff]
    · rw [Answer.read, readBody_misshaped_iff hRead]
      constructor
      · intro hNone
        exact ⟨fun text h => hNone _ (ofJson_of_failureDocument h),
          fun p h => hNone _ (ofJson_of_resultDocument h)⟩
      · rintro ⟨hFailure, hResult⟩ answer h
        cases answerDocument_of_ofJson h with
        | result hDocument => exact hResult _ hDocument
        | failure hDocument => exact hFailure _ hDocument
    · rw [Forecast.read, readBody_eq_ok_iff hRead, Forecast.ofJson_eq_ok_iff]
    · rw [Forecast.read, readBody_misshaped_iff hRead]
      simp only [ne_eq, Forecast.ofJson_eq_ok_iff]
  · rintro v p text ⟨hResult, hFailure⟩
    exact not_result_and_failure hResult hFailure

theorem decoded_by_documents_failure :
    Json.read "[\"error\",\"busy\"]".toList = .ok (.array [.string "error", .string "busy"]) ∧
      Answer.read "[\"error\",\"busy\"]" = .ok (.failure "busy") ∧
      ∃ report, Forecast.read "[\"error\",\"busy\"]" =
        .error (.misshaped "forecast response" report) := by
  have hRead := Json.read_chars_sorted (.array [.string "error", .string "busy"]) (by decide)
    fun n hn => nomatch hn
  have hText : (Value.array [.string "error", .string "busy"]).sorted.chars =
      "[\"error\",\"busy\"]".toList := by decide
  rw [hText] at hRead
  obtain ⟨-, -, hDecoded, -⟩ := decoded_by_documents "[\"error\",\"busy\"]"
  obtain ⟨hFailure, -, -, -, hMisshaped⟩ := hDecoded _ hRead
  refine ⟨hRead, (hFailure "busy").mpr .array, hMisshaped.mpr ?_⟩
  rintro f (_ | ⟨⟨ns, hNumbers, -⟩, -⟩)
  cases ns <;> cases hNumbers

end PredictionJobs.Service
