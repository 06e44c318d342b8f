import PredictionJobs.Proofs.Decoding
import PredictionJobs.Proofs.Json.Rewriting
import PredictionJobs.Submission

/-! # Answers written again

What has been decoded from a body can be written as a document and decoded from that again, be it
from its own document or from the part of the document of an outcome that holds it. The metric of an
answer comes with all that is nested in it, whatever form the body had.
-/

namespace PredictionJobs

open Service
open Json (Readable Regular)

/-! ### Documents that are read back -/

/-- Whether something is decoded again from its own document, and from the response that the
document of an outcome holds. -/
structure Restored {α : Type} (read : String → Except BodyFault α) (document : Json.Value)
    (outcome : Outcome) (a : α) : Prop where
  own : read document.compact = .ok a
  shown : ∃ response, outcome.toJson.member? "response" = some response ∧
    read response.compact = .ok a

theorem restored_object {α : Type} {expected : String}
    {ofJson : Json.Value → Except Shape.Fault α} {members : List (String × Json.Value)}
    {outcome : Outcome} {a : α} (hNames : (members.map Prod.fst).Nodup)
    (h : ∀ m ∈ members, Readable 126 m.2)
    (hDecoded : ofJson (Json.Value.object members).sorted = .ok a)
    (hShown : outcome.toJson.member? "response" = some (Json.Value.object members).sorted) :
    Restored (readBody expected ofJson) (.object members) outcome a where
  own := by
    have hRead : Json.read (Json.Value.object members).compact.toList =
        .ok (Json.Value.object members).sorted := by
      rw [Json.Value.compact, String.toList_ofList]
      exact Json.read_object_chars hNames h
    exact (readBody_eq_ok_iff hRead).mpr hDecoded
  shown := by
    have hRead : Json.read (Json.Value.object members).sorted.compact.toList =
        .ok (Json.Value.object members).sorted := by
      rw [Json.Value.compact, String.toList_ofList]
      exact Json.read_chars (Json.readable_sorted_object h)
    exact ⟨_, hShown, (readBody_eq_ok_iff hRead).mpr hDecoded⟩

/-! ### Numbers -/

namespace Service

/-- The numbers of a document, as it holds them. -/
def numbersJson (xs : List Binary64) : Json.Value := .array (xs.map .ofBinary64)

theorem ofBinary64_of_readsBack {x : Binary64} (h : (Json.Number.float x).ReadsBack) :
    Json.Value.ofBinary64 x = .number (.float x) := by
  cases hFinite : x.isFinite with
  | true => rw [Json.Value.ofBinary64, if_pos hFinite]
  | false =>
    -- What is not finite is written as a word.
    rw [Json.Number.ReadsBack, Json.Number.chars, hFinite] at h
    cases h

theorem numbersJson_of_readsBack {xs : List Binary64}
    (h : ∀ x ∈ xs, (Json.Number.float x).ReadsBack) :
    numbersJson xs = .array ((xs.map Json.Number.float).map .number) := by
  rw [numbersJson, List.map_map]
  congr 1
  exact List.map_congr_left fun x hx => ofBinary64_of_readsBack (h x hx)

theorem isNumbers_numbersJson {xs : List Binary64}
    (h : ∀ x ∈ xs, (Json.Number.float x).ReadsBack) : IsNumbers (numbersJson xs) xs := by
  refine ⟨xs.map .float, numbersJson_of_readsBack h, ?_⟩
  rw [List.map_map]
  exact (List.map_id' xs).symm

theorem readable_numbersJson {xs : List Binary64}
    (h : ∀ x ∈ xs, (Json.Number.float x).ReadsBack) (levels : Nat) :
    Readable (levels + 1) (numbersJson xs) := by
  rw [numbersJson]
  refine .array fun v hv => ?_
  obtain ⟨x, hx, rfl⟩ := List.mem_map.mp hv
  rw [ofBinary64_of_readsBack (h x hx)]
  exact .number (h x hx)

theorem readable_ofTexts (texts : List String) (levels : Nat) :
    Readable (levels + 1) (Json.Value.ofTexts texts) := by
  refine .array fun v hv => ?_
  obtain ⟨text, _, rfl⟩ := List.mem_map.mp hv
  exact .string text

/-! ### Answers -/

/-- The answers that can be written and read back: their floats are, and their metric, if they have
one, is neither `null` nor nested too deep. -/
inductive Answer.Recordable : Answer → Prop
  | result {p : Prediction} (hObserved : ∀ x ∈ p.observed, (Json.Number.float x).ReadsBack)
      (hPredicted : ∀ x ∈ p.predicted, (Json.Number.float x).ReadsBack)
      (hMetric : ∀ v ∈ p.metric, v ≠ .null ∧ Readable 126 v) : Recordable (.result p)
  | failure (text : String) : Recordable (.failure text)

theorem Answer.Recordable.truncated {answer : Answer} (h : answer.Recordable) (limit : Nat) :
    (answer.truncated limit).Recordable := by
  cases h with
  | result hObserved hPredicted hMetric =>
    exact .result (fun x hx => hObserved x (List.mem_of_mem_take hx))
      (fun x hx => hPredicted x (List.mem_of_mem_take hx)) hMetric
  | failure text => exact .failure text

def Prediction.members (p : Prediction) : List (String × Json.Value) :=
  [("type", .string "result"), ("init", numbersJson p.observed),
      ("predicted", numbersJson p.predicted)]
    ++ (p.metricName.map fun name => ("error_type", Json.Value.string name)).toList
    ++ (p.metric.map fun metric => ("error", metric)).toList

theorem Prediction.nodup_members (p : Prediction) : (p.members.map Prod.fst).Nodup := by
  obtain ⟨observed, predicted, name, metric⟩ := p
  cases name <;> cases metric <;> simp [members]

theorem readable_members {p : Prediction} (h : (Answer.result p).Recordable) :
    ∀ m ∈ p.members, Readable 126 m.2 := by
  cases h with
  | result hObserved hPredicted hMetric =>
    intro m hm
    rw [Prediction.members, List.mem_append, List.mem_append] at hm
    rcases hm with (hm | hm) | hm
    · simp only [List.mem_cons, List.not_mem_nil, or_false] at hm
      rcases hm with rfl | rfl | rfl
      · exact .string "result"
      · exact readable_numbersJson hObserved 125
      · exact readable_numbersJson hPredicted 125
    · obtain ⟨name, _, rfl⟩ := Option.map_eq_some_iff.mp (Option.mem_toList.mp hm)
      exact .string name
    · obtain ⟨metric, hSome, rfl⟩ := Option.map_eq_some_iff.mp (Option.mem_toList.mp hm)
      exact (hMetric metric hSome).2

theorem optionally_isText (name : Option String) :
    Optionally IsText (name.map Json.Value.string) name := by
  cases name with
  | none => exact .missing
  | some text => exact .present nofun rfl

theorem optionally_eq {v? : Option Json.Value} (h : ∀ v ∈ v?, v ≠ .null) :
    Optionally Eq v? v? := by
  cases v? with
  | none => exact .missing
  | some v => exact .present (h v rfl) rfl

theorem resultDocument_members {p : Prediction} (h : (Answer.result p).Recordable) :
    ResultDocument (Json.Value.object p.members).sorted p := by
  have hMember : ∀ name, (Json.Value.object (Json.sortedMembers p.members)).member? name =
      findPair? name p.members :=
    Json.findPair?_sortedMembers_of_readable (readable_members h)
  have hName : findPair? "error_type" p.members = p.metricName.map Json.Value.string := by
    obtain ⟨observed, predicted, name, metric⟩ := p
    cases name <;> cases metric <;> rfl
  have hMetric : findPair? "error" p.members = p.metric := by
    obtain ⟨observed, predicted, name, metric⟩ := p
    cases name <;> cases metric <;> rfl
  cases h with
  | result hObserved hPredicted hStored =>
    rw [Json.Value.sorted]
    refine .object (hMember "type") (hMember "init") (isNumbers_numbersJson hObserved)
      (hMember "predicted") (isNumbers_numbersJson hPredicted) ?_ ?_
    · rw [hMember, hName]
      exact optionally_isText p.metricName
    · rw [hMember, hMetric]
      exact optionally_eq fun v hv => (hStored v hv).1

theorem member?_response_predicted (answer : Answer) :
    (Outcome.predicted answer).toJson.member? "response" = some answer.toJson.sorted := rfl

theorem member?_response_forecast (f : Forecast) :
    (Outcome.forecast f).toJson.member? "response" = some f.toJson.sorted := rfl

theorem restored_answer {answer : Answer} (h : answer.Recordable) :
    Restored Answer.read answer.toJson (.predicted answer) answer := by
  cases answer with
  | result p =>
    exact restored_object p.nodup_members (readable_members h)
      (ofJson_of_resultDocument (resultDocument_members h)) (member?_response_predicted _)
  | failure text =>
    have hReadable : ∀ m ∈ [("type", Json.Value.string "error"), ("result", .string text)],
        Readable 126 m.2 := by simp [Readable.string]
    exact restored_object (by simp) hReadable
      (ofJson_of_failureDocument (.object rfl rfl)) (member?_response_predicted _)

theorem restored_forecast {f : Forecast}
    (h : ∀ x ∈ f.predictions, (Json.Number.float x).ReadsBack) :
    Restored Forecast.read f.toJson (.forecast f) f := by
  have hReadable : ∀ m ∈ [("predictions", numbersJson f.predictions), ("dates", .ofTexts f.dates)],
      Readable 126 m.2 := by
    simp [readable_numbersJson h, readable_ofTexts]
  have hDocument : ForecastDocument (Json.Value.object
      [("predictions", numbersJson f.predictions), ("dates", .ofTexts f.dates)]).sorted f := by
    have hMember := Json.findPair?_sortedMembers_of_readable hReadable
    rw [Json.Value.sorted]
    exact .object (hMember "predictions") (isNumbers_numbersJson h) (hMember "dates") rfl
  exact restored_object (by simp) hReadable (Forecast.ofJson_eq_ok_iff.mpr hDocument)
    (member?_response_forecast f)

/-! ### Decoded answers -/

/-- The floats that stand anywhere in an answer. -/
def Answer.floats : Answer → List Binary64
  | .result p => p.observed ++ p.predicted ++ (p.metric.map Json.Value.floats).getD []
  | .failure _ => []

theorem Optionally.of_eq_some {v? metric? : Option Json.Value} {v : Json.Value}
    (h : Optionally Eq v? metric?) (hSome : metric? = some v) : v ≠ .null ∧ v? = some v := by
  cases h with
  | missing => cases hSome
  | null => cases hSome
  | present hNull hSame =>
    cases hSome
    cases hSame
    exact ⟨hNull, rfl⟩

/-- A metric stands one level deeper than the document that it has been read from. -/
theorem regular_metric {levels : Nat} {v metric : Json.Value} {p : Prediction}
    (hDocument : ResultDocument v p) (h : Regular (levels + 1) v)
    (hMetric : p.metric = some metric) : metric ≠ .null ∧ Regular levels metric := by
  cases hDocument with
  | object _ _ _ _ _ _ hStored =>
    obtain ⟨hNull, hFound⟩ := hStored.of_eq_some hMetric
    cases h with
    | object _ hMembers => exact ⟨hNull, hMembers _ (mem_of_findPair?_eq_some hFound)⟩
  | @array observed predicted rest _ _ _ _ _ hStored =>
    obtain ⟨hNull, hFound⟩ := hStored.of_eq_some hMetric
    have hMem : metric ∈ .string "result" :: observed :: predicted :: rest := by
      simp [List.mem_of_getElem? hFound]
    cases h with
    | array hItems => exact ⟨hNull, hItems _ hMem⟩

theorem exists_of_readBody {α : Type} {expected body : String}
    {ofJson : Json.Value → Except Shape.Fault α} {a : α}
    (h : readBody expected ofJson body = .ok a) :
    ∃ v, Json.read body.toList = .ok v ∧ ofJson v = .ok a := by
  cases hRead : Json.read body.toList with
  | error fault =>
    rw [readBody, hRead] at h
    cases h
  | ok v => exact ⟨v, rfl, (readBody_eq_ok_iff hRead).mp h⟩

theorem recordable_of_read {body : String} {answer : Answer} (h : Answer.read body = .ok answer)
    (hFloats : ∀ x ∈ answer.floats, (Json.Number.float x).ReadsBack) : answer.Recordable := by
  obtain ⟨v, hRead, hDecoded⟩ := exists_of_readBody h
  cases answer with
  | failure text => exact .failure text
  | result p =>
    have hDocument := answerDocument_result_iff.mp (answerDocument_of_ofJson hDecoded)
    simp only [Answer.floats, List.mem_append] at hFloats
    refine .result (fun x hx => hFloats x (.inl (.inl hx))) (fun x hx => hFloats x (.inl (.inr hx)))
      fun metric hMetric => ?_
    obtain ⟨hNull, hRegular⟩ := regular_metric hDocument (Json.regular_of_read hRead) hMetric
    refine ⟨hNull, hRegular.readable fun x hx => hFloats x (.inr ?_)⟩
    rwa [hMetric]

end Service

/-- What has been decoded is decoded again from its own document and from the document of its
outcome, whole or truncated, if the texts of its floats are read back. -/
theorem decoded_answers_restored (body : String) :
    (∀ answer, Answer.read body = .ok answer →
      (∀ x ∈ answer.floats, (Json.Number.float x).ReadsBack) →
      Restored Answer.read answer.toJson (.predicted answer) answer ∧
      ∀ rowLimit, Restored Answer.read (answer.truncated rowLimit).toJson
        (.ofAnswer rowLimit (.ok answer)) (answer.truncated rowLimit)) ∧
    (∀ f, Forecast.read body = .ok f →
      (∀ x ∈ f.predictions, (Json.Number.float x).ReadsBack) →
      Restored Forecast.read f.toJson (.forecast f) f ∧
      ∀ rowLimit, Restored Forecast.read (f.truncated rowLimit).toJson
        (.ofForecast rowLimit (.ok f)) (f.truncated rowLimit)) := by
  constructor
  · intro answer hRead hFloats
    have hRecordable := recordable_of_read hRead hFloats
    exact ⟨restored_answer hRecordable,
      fun rowLimit => restored_answer (hRecordable.truncated rowLimit)⟩
  · intro f _ hFloats
    exact ⟨restored_forecast hFloats,
      fun rowLimit => restored_forecast fun x hx => hFloats x (List.mem_of_mem_take hx)⟩

/-- An answer whose body is an array, with a missing name and a metric of nested values. -/
theorem decoded_answers_restored_nested_metric :
    let metric : Json.Value :=
      .object [("a", .array [.null, .object []]), ("b", .number (.integer (-7)))]
    let half : Binary64 := .ofNat 1 / .ofNat 2
    let body : Json.Value := .array [.string "result", .array [.number (.integer 1)],
      .array [.number (.float half)], .null, metric]
    let answer : Answer := .result ⟨[.ofInt 1], [half], none, some metric⟩
    Answer.read body.compact = .ok answer ∧
    (∀ x ∈ answer.floats, (Json.Number.float x).ReadsBack) ∧
    Restored Answer.read answer.toJson (.predicted answer) answer := by
  intro metric half body answer
  have hNumbers : body.sorted.numbers =
      [.integer 1, .float half, .integer (-7)] := rfl
  have hReadsBack : ∀ n ∈ body.sorted.numbers, n.ReadsBack := by
    rw [hNumbers]
    decide +kernel
  have hBody : Json.read body.compact.toList = .ok body := by
    rw [Json.Value.compact, String.toList_ofList]
    exact Json.read_chars_sorted body (by decide) hReadsBack
  have hRead : Answer.read body.compact = .ok answer := (readBody_eq_ok_iff hBody).mpr rfl
  have hFloats : ∀ x ∈ answer.floats, (Json.Number.float x).ReadsBack := by decide +kernel
  exact ⟨hRead, hFloats, ((decoded_answers_restored body.compact).1 answer hRead hFloats).1⟩

end PredictionJobs
