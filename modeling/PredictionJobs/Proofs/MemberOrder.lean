import PredictionJobs.Proofs.Json.Members
import PredictionJobs.Service.Decoding

/-! # Decoding by last members

Of an object the decoders look at the last value under each name that they know, and at nothing
else. So the order of the members, unknown members and values that are overwritten later have no
influence on what is decoded, nor on the fault that is reported.
-/

namespace PredictionJobs.Service

open Json (LastValue Value WrittenObject collected findPair?_collected)

def answerNames : List String := ["type", "init", "predicted", "error_type", "error", "result"]

def forecastNames : List String := ["predictions", "dates"]

section

variable {members members' : List (String × Value)}

theorem Answer.ofJson_congr
    (h : ∀ name ∈ answerNames, findPair? name members = findPair? name members') :
    Answer.ofJson (.object members) = Answer.ofJson (.object members') := by
  have hMember : ∀ name ∈ answerNames,
      (Value.object members).member? name = (Value.object members').member? name := h
  have hPrediction :
      predictionOfMembers (.object members) = predictionOfMembers (.object members') := by
    simp only [predictionOfMembers, hMember "init" (by decide), hMember "predicted" (by decide),
      hMember "error_type" (by decide), hMember "error" (by decide)]
  simp only [Answer.ofJson, hMember "type" (by decide), hMember "result" (by decide), hPrediction]

theorem Forecast.ofJson_congr
    (h : ∀ name ∈ forecastNames, findPair? name members = findPair? name members') :
    Forecast.ofJson (.object members) = Forecast.ofJson (.object members') := by
  have hMember : ∀ name ∈ forecastNames,
      (Value.object members).member? name = (Value.object members').member? name := h
  simp only [Forecast.ofJson, hMember "predictions" (by decide), hMember "dates" (by decide)]

end

theorem readBody_writtenObject {α : Type} {expected body : String}
    {ofJson : Value → Except Shape.Fault α} {written : List (String × Value)}
    (h : WrittenObject body.toList written) :
    readBody expected ofJson body =
      (ofJson (.object (collected [] written))).mapError fun fault =>
        .misshaped expected (fault.message Json.floatText) := by
  rw [readBody, h.read]
  dsimp only
  cases ofJson (.object (collected [] written)) with
  | error fault => rfl
  | ok a => rfl

theorem findPair?_eq_of_lastValue {cs cs' : List Char} {written written' : List (String × Value)}
    {name : String} (h : WrittenObject cs written) (h' : WrittenObject cs' written')
    (hSame : ∀ v?, LastValue cs name v? ↔ LastValue cs' name v?) :
    findPair? name (collected [] written) = findPair? name (collected [] written') := by
  obtain ⟨other, hOther, hValue⟩ := (hSame _).mp ⟨written, h, rfl⟩
  obtain rfl := hOther.unique h'
  rw [findPair?_collected, findPair?_collected, hValue]

/-- Objects with the same last value under each known name are decoded alike. -/
theorem decoded_by_last_values {body body' : String}
    (hObject : ∃ members, Json.read body.toList = .ok (.object members))
    (hObject' : ∃ members, Json.read body'.toList = .ok (.object members)) :
    ((∀ name ∈ answerNames, ∀ v?,
        LastValue body.toList name v? ↔ LastValue body'.toList name v?) →
      Answer.read body = Answer.read body') ∧
    ((∀ name ∈ forecastNames, ∀ v?,
        LastValue body.toList name v? ↔ LastValue body'.toList name v?) →
      Forecast.read body = Forecast.read body') := by
  obtain ⟨written, h⟩ := Json.exists_writtenObject_iff.mp hObject
  obtain ⟨written', h'⟩ := Json.exists_writtenObject_iff.mp hObject'
  constructor
  · intro hSame
    have hCongr := Answer.ofJson_congr fun name hName =>
      findPair?_eq_of_lastValue h h' (hSame name hName)
    rw [Answer.read, Answer.read, readBody_writtenObject h, readBody_writtenObject h', hCongr]
  · intro hSame
    have hCongr := Forecast.ofJson_congr fun name hName =>
      findPair?_eq_of_lastValue h h' (hSame name hName)
    rw [Forecast.read, Forecast.read, readBody_writtenObject h, readBody_writtenObject h', hCongr]

theorem decoded_by_last_values_overwritten :
    let early : Value := .object [("result", .null), ("rank", .array []),
      ("result", .string "busy"), ("type", .string "error")]
    let late : Value := .object [("type", .string "error"), ("result", .string "busy")]
    Answer.read early.compact = Answer.read late.compact := by
  intro early late
  have hWritten : ∀ written : List (String × Value), (∀ m ∈ written, Json.Readable 126 m.2) →
      WrittenObject (Value.object written).compact.toList written := by
    intro written h
    rw [Value.compact, String.toList_ofList]
    exact Json.writtenObject_chars h
  have h : WrittenObject early.compact.toList _ := hWritten _ <| by
    simp [Json.Readable.null, Json.Readable.string, Json.Readable.array]
  have h' : WrittenObject late.compact.toList _ := hWritten _ <| by
    simp [Json.Readable.string]
  refine (decoded_by_last_values (Json.exists_writtenObject_iff.mpr ⟨_, h⟩)
    (Json.exists_writtenObject_iff.mpr ⟨_, h'⟩)).1 ?_
  intro name hName v?
  rw [h.lastValue_iff, h'.lastValue_iff]
  simp only [answerNames, List.mem_cons, List.not_mem_nil, or_false] at hName
  rcases hName with rfl | rfl | rfl | rfl | rfl | rfl <;> exact Iff.rfl

end PredictionJobs.Service
