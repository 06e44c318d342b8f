import PredictionJobs.Proofs.Json.Numeral
import PredictionJobs.Proofs.Json.Quotation
import PredictionJobs.Proofs.Json.Value

/-! # Compact texts

The compact text of every value is a document.
-/

namespace PredictionJobs.Json

theorem separated_cons (piece : List Char) (rest : List (List Char)) :
    separated (piece :: rest) = piece ++ rest.flatMap (',' :: ·) := by
  induction rest generalizing piece with
  | nil => rw [separated, List.intercalate_singleton, List.flatMap_nil, List.append_nil]
  | cons next rest ih =>
    have hRest : [','].intercalate (next :: rest) = next ++ rest.flatMap (',' :: ·) := ih next
    rw [separated, List.intercalate_cons_cons, hRest, List.flatMap_cons, List.append_assoc]
    rfl

theorem itemChars_eq (items : List Value) :
    itemChars items = (items.map Value.chars).flatMap (',' :: ·) ++ [']'] := by
  induction items with
  | nil => rfl
  | cons v rest ih =>
    rw [itemChars, ih, List.map_cons, List.flatMap_cons, List.append_assoc, List.cons_append]

def memberText (m : String × Value) : List Char := stringChars m.1 ++ ':' :: m.2.chars

theorem memberChars_eq (members : List (String × Value)) :
    memberChars members = (members.map memberText).flatMap (',' :: ·) ++ ['\x7d'] := by
  induction members with
  | nil => rfl
  | cons head rest ih =>
    rw [memberChars, ih, List.map_cons, List.flatMap_cons, memberText]
    simp only [List.append_assoc, List.cons_append]

theorem Value.chars_array (v : Value) (rest : List Value) :
    (Value.array (v :: rest)).chars =
      '[' :: (separated ((v :: rest).map Value.chars) ++ [']']) := by
  rw [Value.chars, itemChars_eq, List.map_cons, separated_cons, List.append_assoc]

theorem Value.chars_object (m : String × Value) (rest : List (String × Value)) :
    (Value.object (m :: rest)).chars =
      '\x7b' :: (separated ((m :: rest).map memberText) ++ ['\x7d']) := by
  rw [Value.chars, memberChars_eq, List.map_cons, separated_cons, memberText]
  simp only [List.append_assoc, List.cons_append]

theorem Value.isDocument_chars (v : Value) : IsDocument v.chars := by
  induction v using Value.induction with
  | null => exact .word (by decide)
  | bool b => cases b <;> exact .word (by decide)
  | number n => exact n.isDocument_chars
  | string s => exact .string (isQuotation_stringChars s)
  | array items ih =>
    cases items with
    | nil => exact .array [] (by simp)
    | cons v rest =>
      rw [Value.chars_array]
      refine .array _ fun item hItem => ?_
      obtain ⟨w, hw, rfl⟩ := List.mem_map.mp hItem
      exact ih w hw
  | object members ih =>
    cases members with
    | nil => exact .object [] (by simp) (by simp)
    | cons head rest =>
      have hTexts : (head :: rest).map memberText =
          ((head :: rest).map fun m => (stringChars m.1, m.2.chars)).map
            fun m => m.1 ++ ':' :: m.2 := by
        rw [List.map_map]
        rfl
      rw [Value.chars_object, hTexts]
      refine .object _ (fun m hm => ?_) (fun m hm => ?_)
      · obtain ⟨member, _, rfl⟩ := List.mem_map.mp hm
        exact isQuotation_stringChars member.1
      · obtain ⟨member, hMember, rfl⟩ := List.mem_map.mp hm
        exact ih member hMember

end PredictionJobs.Json
