import PredictionJobs.Proofs.Dictionary
import PredictionJobs.Proofs.Fallible
import PredictionJobs.Proofs.Json.NumeralReading
import PredictionJobs.Proofs.Json.Writer

/-! # Values read back

A sorted value is read back from its compact text if it is nested no deeper than can be read and all
its numbers are read back.
-/

namespace PredictionJobs.Json

/-! ### First characters -/

theorem skipBlanks_cons {c : Char} (h : isJsonBlank c = false) (cs : List Char) :
    skipBlanks (c :: cs) = c :: cs := by
  rw [skipBlanks, List.dropWhile_cons_of_neg (Bool.eq_false_iff.mp h)]

/-- A document starts with neither a blank nor the end of an array. -/
theorem IsDocument.exists_cons {cs : List Char} (h : IsDocument cs) :
    ∃ c rest, cs = c :: rest ∧ isJsonBlank c = false ∧ c ≠ ']' := by
  have hDigit : ∀ c : Char, c.isDigit = true → isJsonBlank c = false ∧ c ≠ ']' := by
    intro c hc
    refine ⟨?_, ne_of_isDigit hc (by decide)⟩
    simp [isJsonBlank, ne_of_isDigit (d := ' ') hc (by decide),
      ne_of_isDigit (d := '\n') hc (by decide), ne_of_isDigit (d := '\t') hc (by decide),
      ne_of_isDigit (d := '\r') hc (by decide)]
  cases h with
  | word hWord =>
    simp only [List.mem_cons, List.not_mem_nil, or_false] at hWord
    rcases hWord with rfl | rfl | rfl
    · exact ⟨'n', _, rfl, by decide⟩
    · exact ⟨'t', _, rfl, by decide⟩
    · exact ⟨'f', _, rfl, by decide⟩
  | number hNumeral =>
    cases hNumeral with
    | unsigned hUnsigned =>
      obtain ⟨hWhole, _, _⟩ := hUnsigned
      obtain ⟨d, ds, rfl⟩ := List.exists_cons_of_ne_nil hWhole.nonempty
      exact ⟨d, _, rfl, hDigit d (hWhole.digits d List.mem_cons_self)⟩
    | negative _ => exact ⟨'-', _, rfl, by decide⟩
  | string hQuotation =>
    obtain ⟨spellings, _⟩ := hQuotation
    exact ⟨'"', _, rfl, by decide⟩
  | array items _ => exact ⟨'[', _, rfl, by decide⟩
  | object members _ _ => exact ⟨'\x7b', _, rfl, by decide⟩

theorem IsDocument.skipBlanks_append {cs : List Char} (h : IsDocument cs) (rest : List Char) :
    skipBlanks (cs ++ rest) = cs ++ rest := by
  obtain ⟨c, tail, rfl, hBlank, _⟩ := h.exists_cons
  exact skipBlanks_cons hBlank _

/-! ### Steps of reading -/

section

variable {depth : Nat} {first : Bool} {cs start rest behind : List Char} {v : Value}
  {items : List Value} {name : String} {before members : List (String × Value)}

/-- What has been read and what is left, without the proof that something has been read. -/
def resultOf {α : Type} (read : Except Fault (Progress α cs)) : Except Fault (α × List Char) :=
  read.map Subtype.val

theorem resultOf_eq_ok_iff {α : Type} {read : Except Fault (Progress α cs)}
    {result : α × List Char} :
    resultOf read = .ok result ↔ ∃ h, read = .ok ⟨result, h⟩ := by
  cases read with
  | error fault => simp [resultOf, Except.map]
  | ok progress =>
    obtain ⟨found, hFound⟩ := progress
    simp only [resultOf, Except.map, Except.ok.injEq, Subtype.mk.injEq, exists_prop]
    constructor
    · rintro rfl
      exact ⟨hFound, rfl⟩
    · rintro ⟨_, hSame⟩
      exact hSame

theorem readValue_array (h : resultOf (readItems (depth + 1) true cs) = .ok (items, rest)) :
    resultOf (readValue (depth + 2) ('[' :: cs)) = .ok (.array items, rest) := by
  obtain ⟨hShort, hRead⟩ := resultOf_eq_ok_iff.mp h
  have hStart : skipBlanks ('[' :: cs) = '[' :: cs := skipBlanks_cons (by decide) cs
  rw [readValue]
  split
  case h_1 hSame =>
    rw [hStart] at hSame
    cases hSame
    rw [if_neg (by omega)]
    simp only [Nat.add_one_sub_one]
    rw [hRead]
    rfl
  case h_2 hSame =>
    rw [hStart] at hSame
    cases hSame
  case h_3 hOther _ => exact absurd hStart (hOther cs)

theorem readValue_of_members (hStart : skipBlanks cs = '\x7b' :: start)
    (h : resultOf (readMembers (depth + 1) true [] start) = .ok (members, rest)) :
    resultOf (readValue (depth + 2) cs) = .ok (.object members, rest) := by
  obtain ⟨hShort, hRead⟩ := resultOf_eq_ok_iff.mp h
  rw [readValue]
  split
  case h_1 hSame =>
    rw [hStart] at hSame
    cases hSame
  case h_2 hSame =>
    rw [hStart] at hSame
    cases hSame
    rw [if_neg (by omega)]
    simp only [Nat.add_one_sub_one]
    rw [hRead]
    rfl
  case h_3 _ hOther => exact absurd hStart (hOther start)

theorem readValue_object (h : resultOf (readMembers (depth + 1) true [] cs) = .ok (members, rest)) :
    resultOf (readValue (depth + 2) ('\x7b' :: cs)) = .ok (.object members, rest) :=
  readValue_of_members (skipBlanks_cons (by decide) cs) h

theorem readValue_of_scalar (h : readScalar (skipBlanks cs) = .ok (v, rest)) :
    resultOf (readValue depth cs) = .ok (v, rest) := by
  rw [readValue]
  split
  case h_1 hStart =>
    rw [hStart] at h
    cases h
  case h_2 hStart =>
    rw [hStart] at h
    cases h
  case h_3 =>
    split
    case h_1 hFault =>
      rw [h] at hFault
      cases hFault
    case h_2 hRead =>
      rw [h] at hRead
      cases hRead
      rfl

theorem readValue_scalar (hStart : skipBlanks cs = cs) (h : readScalar cs = .ok (v, rest)) :
    resultOf (readValue depth cs) = .ok (v, rest) := readValue_of_scalar (hStart.symm ▸ h)

theorem readScalar_cases (h : readScalar cs = .ok (v, rest)) :
    v = .null ∨ (∃ b, v = .bool b) ∨
    (∃ negative start n, readNumeral negative start = .ok (n, rest) ∧ v = .number n) ∨
    ∃ start text, cs = '"' :: start ∧ readString true start = .ok (text, rest) ∧
      v = .string (String.ofList text) := by
  unfold readScalar at h
  split at h
  · cases h
  · obtain ⟨_, -, h⟩ := map_eq_ok_iff.mp h
    cases h
    exact .inl rfl
  · obtain ⟨_, -, h⟩ := map_eq_ok_iff.mp h
    cases h
    exact .inr (.inl ⟨true, rfl⟩)
  · obtain ⟨_, -, h⟩ := map_eq_ok_iff.mp h
    cases h
    exact .inr (.inl ⟨false, rfl⟩)
  · obtain ⟨_, hNumeral, h⟩ := map_eq_ok_iff.mp h
    cases h
    exact .inr (.inr (.inl ⟨_, _, _, hNumeral, rfl⟩))
  · obtain ⟨_, hString, h⟩ := map_eq_ok_iff.mp h
    cases h
    exact .inr (.inr (.inr ⟨_, _, rfl, hString, rfl⟩))
  · split at h
    · obtain ⟨_, hNumeral, h⟩ := map_eq_ok_iff.mp h
      cases h
      exact .inr (.inr (.inl ⟨_, _, _, hNumeral, rfl⟩))
    · cases h

theorem readValue_cases {levels : Nat}
    (h : resultOf (readValue (levels + 1) cs) = .ok (v, rest)) :
    (∃ depth start items, levels = depth + 1 ∧ skipBlanks cs = '[' :: start ∧
      resultOf (readItems (depth + 1) true start) = .ok (items, rest) ∧ v = .array items) ∨
    (∃ depth start members, levels = depth + 1 ∧ skipBlanks cs = '\x7b' :: start ∧
      resultOf (readMembers (depth + 1) true [] start) = .ok (members, rest) ∧
      v = .object members) ∨
    readScalar (skipBlanks cs) = .ok (v, rest) := by
  rw [readValue] at h
  split at h
  case h_1 start hStart =>
    cases levels with
    | zero => cases h
    | succ depth =>
      rw [if_neg (by omega)] at h
      simp only [Nat.add_one_sub_one] at h
      cases hItems : readItems (depth + 1) true start with
      | error fault =>
        rw [hItems] at h
        cases h
      | ok progress =>
        rw [hItems] at h
        cases h
        exact .inl ⟨depth, start, _, rfl, hStart, resultOf_eq_ok_iff.mpr ⟨_, hItems⟩, rfl⟩
  case h_2 start hStart =>
    cases levels with
    | zero => cases h
    | succ depth =>
      rw [if_neg (by omega)] at h
      simp only [Nat.add_one_sub_one] at h
      cases hMembers : readMembers (depth + 1) true [] start with
      | error fault =>
        rw [hMembers] at h
        cases h
      | ok progress =>
        rw [hMembers] at h
        cases h
        exact .inr (.inl ⟨depth, start, _, rfl, hStart, resultOf_eq_ok_iff.mpr ⟨_, hMembers⟩, rfl⟩)
  case h_3 =>
    split at h
    case h_1 => cases h
    case h_2 hScalar =>
      cases h
      exact .inr (.inr hScalar)

theorem readItems_ended (h : nextItem first cs = .ok (.ended rest)) :
    resultOf (readItems depth first cs) = .ok ([], rest) := by
  rw [readItems]
  split
  case h_1 hSame => rw [h] at hSame; cases hSame
  case h_2 hSame => rw [h] at hSame; cases hSame; rfl
  case h_3 hSame => rw [h] at hSame; cases hSame

theorem readItems_follows (hNext : nextItem first cs = .ok (.follows start))
    (hValue : resultOf (readValue depth start) = .ok (v, rest))
    (hRest : resultOf (readItems depth false rest) = .ok (items, behind)) :
    resultOf (readItems depth first cs) = .ok (v :: items, behind) := by
  obtain ⟨_, hValue⟩ := resultOf_eq_ok_iff.mp hValue
  obtain ⟨_, hRest⟩ := resultOf_eq_ok_iff.mp hRest
  rw [readItems]
  split
  case h_1 hSame => rw [hNext] at hSame; cases hSame
  case h_2 hSame => rw [hNext] at hSame; cases hSame
  case h_3 hSame =>
    rw [hNext] at hSame
    cases hSame
    rw [hValue]
    dsimp only
    rw [hRest]
    rfl

theorem readMembers_ended (h : nextMember first cs = .ok (.ended rest)) :
    resultOf (readMembers depth first before cs) = .ok (before, rest) := by
  rw [readMembers]
  split
  case h_1 hSame => rw [h] at hSame; cases hSame
  case h_2 hSame => rw [h] at hSame; cases hSame; rfl
  case h_3 hSame => rw [h] at hSame; cases hSame

theorem readMembers_follows {body : List Char} (hNext : nextMember first cs = .ok (.follows start))
    (hName : readName start = .ok (name, body))
    (hValue : resultOf (readValue depth body) = .ok (v, rest))
    (hRest : resultOf (readMembers depth false (insertPair name v before) rest) =
      .ok (members, behind)) :
    resultOf (readMembers depth first before cs) = .ok (members, behind) := by
  obtain ⟨_, hValue⟩ := resultOf_eq_ok_iff.mp hValue
  obtain ⟨_, hRest⟩ := resultOf_eq_ok_iff.mp hRest
  rw [readMembers]
  split
  case h_1 hSame => rw [hNext] at hSame; cases hSame
  case h_2 hSame => rw [hNext] at hSame; cases hSame
  case h_3 hSame =>
    rw [hNext] at hSame
    cases hSame
    split
    case h_1 hFault => rw [hName] at hFault; cases hFault
    case h_2 hSameName =>
      rw [hName] at hSameName
      cases hSameName
      rw [hValue]
      dsimp only
      rw [hRest]
      rfl

/-! ### Values that are read back -/

/-- The values that are nested at most `levels` deep, whose objects are in order, and whose numbers
are read back. -/
inductive Readable : (levels : Nat) → Value → Prop
  | null {levels : Nat} : Readable levels .null
  | bool {levels : Nat} (b : Bool) : Readable levels (.bool b)
  | number {levels : Nat} {n : Number} (h : n.ReadsBack) : Readable levels (.number n)
  | string {levels : Nat} (s : String) : Readable levels (.string s)
  | array {levels : Nat} {items : List Value} (h : ∀ v ∈ items, Readable levels v) :
      Readable (levels + 1) (.array items)
  | object {levels : Nat} {members : List (String × Value)} (hOrder : Ascending members)
      (h : ∀ m ∈ members, Readable levels m.2) : Readable (levels + 1) (.object members)

theorem readable_sorted {levels : Nat} (v : Value) (hNesting : v.sorted.nesting ≤ levels)
    (hNumbers : ∀ n ∈ v.sorted.numbers, n.ReadsBack) : Readable levels v.sorted := by
  induction v using Value.induction generalizing levels with
  | null => exact .null
  | bool b => exact .bool b
  | number n => exact .number (hNumbers n List.mem_cons_self)
  | string s => exact .string s
  | array items ih =>
    cases levels with
    | zero => cases hNesting
    | succ levels =>
      refine .array fun w hw => ?_
      have hDeep := Nat.le_trans (nesting_le_of_mem_items hw) (Nat.le_of_succ_le_succ hNesting)
      have hAll : ∀ n ∈ w.numbers, n.ReadsBack := fun n hn => hNumbers n (mem_itemsNumbers hw hn)
      rw [sortedItems_eq_map] at hw
      obtain ⟨item, hItem, rfl⟩ := List.mem_map.mp hw
      exact ih item hItem hDeep hAll
  | object members ih =>
    cases levels with
    | zero => cases hNesting
    | succ levels =>
      refine .object (ascending_sortedMembers members) fun m hm => ?_
      have hDeep := Nat.le_trans (nesting_le_of_mem_members hm) (Nat.le_of_succ_le_succ hNesting)
      have hAll : ∀ n ∈ m.2.numbers, n.ReadsBack :=
        fun n hn => hNumbers n (mem_membersNumbers hm hn)
      obtain ⟨member, hMember, hSorted⟩ := exists_of_mem_sortedMembers hm
      rw [hSorted] at hDeep hAll ⊢
      exact ih member hMember hDeep hAll

/-! ### Reading compact texts -/

/-- Whether what is written for a value is read as that value in front of what can follow it. -/
def Restored (levels : Nat) (v : Value) : Prop :=
  ∀ rest, Delimited rest → resultOf (readValue (levels + 1) (v.chars ++ rest)) = .ok (v, rest)

theorem nextItem_first (h : IsDocument start) (rest : List Char) :
    nextItem true (start ++ rest) = .ok (.follows (start ++ rest)) := by
  obtain ⟨c, tail, rfl, hBlank, hEnd⟩ := h.exists_cons
  rw [List.cons_append, nextItem, skipBlanks_cons hBlank]
  split
  case h_1 heq => cases heq
  case h_2 heq => cases heq; exact absurd rfl hEnd
  case h_3 heq => cases heq; rfl

theorem nextItem_later (h : IsDocument start) (rest : List Char) :
    nextItem false (',' :: (start ++ rest)) = .ok (.follows (start ++ rest)) := by
  obtain ⟨c, tail, rfl, hBlank, hEnd⟩ := h.exists_cons
  rw [nextItem, skipBlanks_cons (by decide)]
  split
  case h_1 heq => cases heq
  case h_2 heq => cases heq
  case h_3 heq =>
    cases heq
    rw [if_neg Bool.false_ne_true, if_pos rfl, List.cons_append, skipBlanks_cons hBlank]
    split
    case h_1 heq => cases heq
    case h_2 heq => cases heq; exact absurd rfl hEnd
    case h_3 => rfl

theorem delimited_itemChars (items : List Value) (rest : List Char) :
    Delimited (itemChars items ++ rest) := by
  cases items with
  | nil => exact .cons (by decide) _
  | cons v items => exact .cons (by decide) _

theorem delimited_memberChars (members : List (String × Value)) (rest : List Char) :
    Delimited (memberChars members ++ rest) := by
  cases members with
  | nil => exact .cons (by decide) _
  | cons m members => exact .cons (by decide) _

variable {levels : Nat}

theorem readItems_itemChars (h : ∀ v ∈ items, Restored levels v) (rest : List Char) :
    resultOf (readItems (levels + 1) false (itemChars items ++ rest)) = .ok (items, rest) := by
  induction items with
  | nil => exact readItems_ended rfl
  | cons v items ih =>
    obtain ⟨hHead, hTail⟩ := List.forall_mem_cons.mp h
    rw [itemChars, List.cons_append, List.append_assoc]
    exact readItems_follows (nextItem_later v.isDocument_chars _)
      (hHead _ (delimited_itemChars items rest)) (ih hTail)

theorem readName_stringChars (name : String) (rest : List Char) :
    readName (stringChars name ++ ':' :: rest) = .ok (name, rest) := by
  have hText : stringChars name ++ ':' :: rest =
      '"' :: (name.toList.flatMap escapeChar ++ '"' :: ':' :: rest) := by simp [stringChars]
  have hColon : readColon (':' :: rest) = .ok rest := rfl
  rw [hText, readName, readString_flatMap_escapeChar]
  dsimp only
  rw [hColon, String.ofList_toList]
  rfl

theorem nextMember_first (name : String) (rest : List Char) :
    nextMember true (stringChars name ++ rest) = .ok (.follows (stringChars name ++ rest)) := by
  rfl

theorem nextMember_later (name : String) (rest : List Char) :
    nextMember false (',' :: (stringChars name ++ rest)) =
      .ok (.follows (stringChars name ++ rest)) := by
  rfl

theorem readMembers_memberChars (hOrder : Ascending (before ++ members))
    (h : ∀ m ∈ members, Restored levels m.2) (rest : List Char) :
    resultOf (readMembers (levels + 1) false before (memberChars members ++ rest)) =
      .ok (before ++ members, rest) := by
  induction members generalizing before with
  | nil =>
    rw [List.append_nil]
    exact readMembers_ended rfl
  | cons m members ih =>
    obtain ⟨hHead, hTail⟩ := List.forall_mem_cons.mp h
    obtain ⟨name, v⟩ := m
    have hInsert : insertPair name v before = before ++ [(name, v)] :=
      insertPair_eq_append fun p hp =>
        (List.pairwise_append.mp hOrder).2.2 p hp (name, v) List.mem_cons_self
    have hText : memberChars ((name, v) :: members) ++ rest =
        ',' :: (stringChars name ++ ':' :: (v.chars ++ (memberChars members ++ rest))) := by
      simp [memberChars]
    have hSplit : before ++ (name, v) :: members = before ++ [(name, v)] ++ members := by simp
    rw [hSplit] at hOrder ⊢
    rw [hText]
    refine readMembers_follows (nextMember_later name _) (readName_stringChars name _)
      (hHead _ (delimited_memberChars members rest)) ?_
    rw [hInsert]
    exact ih hOrder hTail

theorem readValue_chars {v : Value} (h : Readable levels v) : Restored levels v := by
  induction h with
  | null =>
    intro rest _
    exact readValue_scalar rfl rfl
  | bool b =>
    intro rest _
    cases b with
    | false => exact readValue_scalar rfl rfl
    | true => exact readValue_scalar rfl rfl
  | @number levels n hNumber =>
    intro rest hRest
    exact readValue_scalar (n.isDocument_chars.skipBlanks_append rest)
      (readScalar_of_readNumber (readNumber_in_front hNumber hRest))
  | string s =>
    intro rest _
    have hText : (Value.string s).chars ++ rest =
        '"' :: (s.toList.flatMap escapeChar ++ '"' :: rest) := by simp [Value.chars, stringChars]
    rw [hText]
    refine readValue_scalar (skipBlanks_cons (by decide) _) ?_
    rw [readScalar, readString_flatMap_escapeChar, Except.map, String.ofList_toList]
  | @array levels items h ih =>
    intro rest _
    cases items with
    | nil => exact readValue_array (readItems_ended rfl)
    | cons v items =>
      obtain ⟨hHead, hTail⟩ := List.forall_mem_cons.mp ih
      rw [Value.chars, List.cons_append, List.append_assoc]
      exact readValue_array (readItems_follows (nextItem_first v.isDocument_chars _)
        (hHead _ (delimited_itemChars items rest)) (readItems_itemChars hTail rest))
  | @object levels members hOrder h ih =>
    intro rest _
    cases members with
    | nil => exact readValue_object (readMembers_ended rfl)
    | cons m members =>
      obtain ⟨hHead, hTail⟩ := List.forall_mem_cons.mp ih
      obtain ⟨name, v⟩ := m
      have hText : (Value.object ((name, v) :: members)).chars ++ rest =
          '\x7b' :: (stringChars name ++ ':' :: (v.chars ++ (memberChars members ++ rest))) := by
        simp [Value.chars]
      rw [hText]
      exact readValue_object (readMembers_follows (nextMember_first name _)
        (readName_stringChars name _) (hHead _ (delimited_memberChars members rest))
        (readMembers_memberChars hOrder hTail rest))

theorem read_chars {v : Value} (h : Readable (depthLimit - 1) v) : read v.chars = .ok v := by
  have hRead := readValue_chars h [] .nil
  rw [List.append_nil] at hRead
  obtain ⟨_, hRead⟩ := resultOf_eq_ok_iff.mp hRead
  have hLimit : depthLimit = depthLimit - 1 + 1 := rfl
  rw [read, hLimit, hRead]
  rfl

/-- A sorted value is read back from its compact text if the reader can read so deep, and if it
reads back the numbers in it. -/
theorem read_chars_sorted (v : Value) (hNesting : v.sorted.nesting < depthLimit)
    (hNumbers : ∀ n ∈ v.sorted.numbers, n.ReadsBack) : read v.sorted.chars = .ok v.sorted :=
  read_chars (readable_sorted v (Nat.le_pred_of_lt hNesting) hNumbers)

end

end PredictionJobs.Json
