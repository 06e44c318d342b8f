import PredictionJobs.Proofs.Json.Texts
import PredictionJobs.Service.Request

/-! # Bodies of requests

The body of a request is read back as what it was made from. So different parameters, and different
lists of columns, have different bodies. Parameters may also be read from an object whose members
stand in any order and under names that occur again; then the last member with a name counts.
-/

namespace PredictionJobs

namespace Service

open Command (Parameters)
open Json (Value WrittenObject textMembers)

/-- Whether a text is an object of strings with these members, in the order of the text. -/
def WrittenParameters (text : String) (pairs : List (String × String)) : Prop :=
  WrittenObject text.toList (textMembers pairs)

variable {text : String} {p q : Parameters} {columns others : List String}

theorem readParameters_eq_ok_iff : readParameters text = .ok p ↔
    ∃ pairs, WrittenParameters text pairs ∧ ∀ key, p.get? key = findPair? key pairs.reverse := by
  rw [readParameters, Json.readTextDictionary_eq_ok_iff]
  constructor
  · rintro ⟨pairs, hWritten, rfl⟩
    exact ⟨pairs, hWritten, Dictionary.get?_ofList pairs⟩
  · rintro ⟨pairs, hWritten, hValues⟩
    refine ⟨pairs, hWritten, Dictionary.ext_get? fun key => ?_⟩
    rw [hValues, Dictionary.get?_ofList]

example : (readParameters "\x7b\"a\": \"1\", \"\\u0061\": \"\\u0032\"\x7d").toOption =
    some (.ofList [("a", "2")]) := by
  decide +kernel

theorem writtenParameters_compact (pairs : List (String × String)) :
    WrittenParameters (Value.object (textMembers pairs)).compact pairs := by
  rw [WrittenParameters, Value.compact, String.toList_ofList]
  exact Json.writtenObject_textMembers pairs

theorem readParameters_compact (p : Parameters) :
    readParameters (jobDocument p).compact = .ok p := by
  rw [readParameters, Value.compact, String.toList_ofList]
  exact Json.readTextDictionary_chars p

theorem ColumnSelection.read_compact (selection : ColumnSelection) :
    ColumnSelection.read selection.toJson.compact = .ok selection := by
  rw [ColumnSelection.read, Value.compact, String.toList_ofList]
  exact map_eq_ok_iff.mpr ⟨_, Json.readTextsField_chars _ _ selection.columns, rfl⟩

theorem jobDocument_compact_inj :
    (jobDocument p).compact = (jobDocument q).compact ↔ p = q := by
  constructor
  · intro h
    have hRead := readParameters_compact p
    rw [h, readParameters_compact] at hRead
    exact (Except.ok.inj hRead).symm
  · rintro rfl
    rfl

theorem ColumnSelection.compact_inj {selection other : ColumnSelection} :
    selection.toJson.compact = other.toJson.compact ↔ selection = other := by
  constructor
  · intro h
    have hRead := read_compact selection
    rw [h, read_compact] at hRead
    exact (Except.ok.inj hRead).symm
  · rintro rfl
    rfl

end Service

open Service

/-- The body of every request is read back as what the request is about, so requests about different
things have different bodies; and parameters may be read from any object of strings, of whose
members the last with a name counts. -/
theorem requests_lossless :
    (∀ address p, readParameters (Request.job address p).body.compact = .ok p) ∧
    (∀ address route columns,
      ColumnSelection.read (Request.columns address route columns).body.compact = .ok ⟨columns⟩) ∧
    (∀ address address' p q,
      (Request.job address p).body.compact = (Request.job address' q).body.compact ↔ p = q) ∧
    (∀ address address' route route' columns others,
      (Request.columns address route columns).body.compact =
        (Request.columns address' route' others).body.compact ↔ columns = others) ∧
    (∀ text p, readParameters text = .ok p ↔
      ∃ pairs, WrittenParameters text pairs ∧
        ∀ key, p.get? key = findPair? key pairs.reverse) ∧
    (∀ pairs, WrittenParameters (Json.Value.object (Json.textMembers pairs)).compact pairs) ∧
    ∀ text, ((readParameters text).bind fun p => readParameters (jobDocument p).compact) =
      readParameters text := by
  refine ⟨fun _ => readParameters_compact,
    fun _ _ columns => ColumnSelection.read_compact ⟨columns⟩,
    fun _ _ _ _ => jobDocument_compact_inj, fun _ _ _ _ columns others => ?_,
    fun _ _ => readParameters_eq_ok_iff, writtenParameters_compact, fun text => ?_⟩
  · rw [← ColumnSelection.mk.injEq]
    exact ColumnSelection.compact_inj
  · cases readParameters text with
    | error fault => rfl
    | ok p => exact readParameters_compact p

end PredictionJobs
