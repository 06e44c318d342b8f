import PredictionJobs.Json.Numeral
import PredictionJobs.Json.Quotation

/-! # Reading JSON

A text is one value between blanks. Arrays and objects may be nested to a fixed depth. When a name
occurs twice in an object, its last value counts; the members end up in ascending order of names.
Every step leaves less input than it was given, which is why reading ends.
-/

namespace PredictionJobs.Json

/-- Arrays and objects may be nested less deep than this. -/
def depthLimit : Nat := 128

def isJsonBlank (c : Char) : Bool := c == ' ' || c == '\n' || c == '\t' || c == '\r'

def skipBlanks (cs : List Char) : List Char := cs.dropWhile isJsonBlank

theorem skipBlanks_length_le (cs : List Char) : (skipBlanks cs).length ≤ cs.length :=
  (List.dropWhile_sublist isJsonBlank).length_le

def readWord : (word cs : List Char) → Except Fault (List Char)
  | [], cs => .ok cs
  | _ :: _, [] => .error (.justRead .endInValue [])
  | w :: ws, c :: cs =>
    if c = w then readWord ws cs else .error (.atNext .expectedWord (c :: cs))

theorem readWord_length_le {word cs rest : List Char} (h : readWord word cs = .ok rest) :
    rest.length ≤ cs.length := by
  induction word generalizing cs with
  | nil => simp_all [readWord]
  | cons w ws ih =>
    cases cs with
    | nil => simp [readWord] at h
    | cons c cs =>
      rw [readWord] at h
      split at h
      · exact Nat.le_trans (ih h) (by simp)
      · contradiction

theorem rest_of_finish {negative : Bool} {numeral : Numeral} {exponent : Int}
    {cs rest : List Char} {n : Number} (h : finish negative numeral exponent cs = .ok (n, rest)) :
    rest = cs := by
  unfold finish at h
  split at h
  · simp only [Except.ok.injEq, Prod.mk.injEq] at h
    exact h.2.symm
  · contradiction

theorem readExponent_length_le {negative : Bool} {numeral : Numeral} {cs rest : List Char}
    {n : Number} (h : readExponent negative numeral cs = .ok (n, rest)) :
    rest.length ≤ cs.length := by
  unfold readExponent at h
  split at h
  rename_i falling body hSplit
  have hBody : body.length ≤ cs.length := by
    unfold exponentSign at hSplit
    split at hSplit <;> simp only [Prod.mk.injEq] at hSplit <;> simp [← hSplit.2]
  have hRest : rest = body.dropWhile Char.isDigit := by
    dsimp only at h
    split at h
    · split at h <;> contradiction
    · split at h
      · split at h
        · contradiction
        · simp only [Except.ok.injEq, Prod.mk.injEq] at h
          exact h.2.symm
      · exact rest_of_finish h
  rw [hRest]
  exact Nat.le_trans (List.dropWhile_sublist _).length_le hBody

theorem readScale_length_le {negative : Bool} {numeral : Numeral} {cs rest : List Char}
    {n : Number} (h : readScale negative numeral cs = .ok (n, rest)) :
    rest.length ≤ cs.length := by
  unfold readScale at h
  split at h
  · exact Nat.le_trans (readExponent_length_le h) (by simp)
  · exact Nat.le_trans (readExponent_length_le h) (by simp)
  · split at h
    · split at h
      · simp only [Except.ok.injEq, Prod.mk.injEq] at h; simp [← h.2]
      · split at h <;> simp only [Except.ok.injEq, Prod.mk.injEq] at h <;> simp [← h.2]
    · exact Nat.le_of_eq (congrArg List.length (rest_of_finish h))

theorem readDecimals_length_le {negative : Bool} {significand excess : Nat} {cs rest : List Char}
    {n : Number} (h : readDecimals negative significand excess cs = .ok (n, rest)) :
    rest.length ≤ cs.length := by
  unfold readDecimals at h
  dsimp only at h
  split at h
  · split at h <;> contradiction
  · exact Nat.le_trans (readScale_length_le h) (List.dropWhile_sublist _).length_le

theorem readNumeral_shorter {negative : Bool} {cs rest : List Char} {n : Number}
    (h : readNumeral negative cs = .ok (n, rest)) : rest.length < cs.length := by
  have hSplit : (cs.takeWhile Char.isDigit).length + (cs.dropWhile Char.isDigit).length
      = cs.length := by
    rw [← List.length_append, List.takeWhile_append_dropWhile]
  unfold readNumeral at h
  dsimp only at h
  split at h
  · split at h <;> contradiction
  · contradiction
  · rename_i hNil _
    have hPos : 0 < (cs.takeWhile Char.isDigit).length :=
      List.length_pos_iff.mpr hNil
    split at h
    · rename_i hRest
      have := readDecimals_length_le h
      simp only [hRest, List.length_cons] at hSplit
      omega
    · have := readScale_length_le h
      omega

/-- What stands next inside an array or object: its end, behind which `rest` follows, or something
that starts at `start`. -/
inductive Next where
  | ended (rest : List Char)
  | follows (start : List Char)

/-- Looks for the next item of an array. `first` says that none has been read yet; later items
follow a comma. -/
def nextItem (first : Bool) (cs : List Char) : Except Fault Next :=
  match skipBlanks cs with
  | [] => .error (.justRead .endInList [])
  | ']' :: rest => .ok (.ended rest)
  | c :: rest =>
    if first then .ok (.follows (c :: rest))
    else if c = ',' then
      match skipBlanks rest with
      | [] => .error (.justRead .endInValue [])
      | ']' :: rest => .error (.atNext .trailingComma (']' :: rest))
      | start => .ok (.follows start)
    else .error (.atNext .expectedListComma (c :: rest))

/-- Looks for the next member of an object, which starts with a string. -/
def nextMember (first : Bool) (cs : List Char) : Except Fault Next :=
  match skipBlanks cs with
  | [] => .error (.justRead .endInObject [])
  | '\x7d' :: rest => .ok (.ended rest)
  | c :: rest =>
    if first then
      if c = '"' then .ok (.follows (c :: rest)) else .error (.atNext .nameNotString (c :: rest))
    else if c = ',' then
      match skipBlanks rest with
      | [] => .error (.justRead .endInValue [])
      | '\x7d' :: rest => .error (.atNext .trailingComma ('\x7d' :: rest))
      | '"' :: rest => .ok (.follows ('"' :: rest))
      | rest => .error (.atNext .nameNotString rest)
    else .error (.atNext .expectedObjectComma (c :: rest))

/-- How much input is left at the next item or behind the end. -/
def Next.Within (cs : List Char) : Next → Prop
  | .ended rest => rest.length < cs.length
  | .follows start => start.length ≤ cs.length

theorem nextItem_within {first : Bool} {cs : List Char} {next : Next}
    (h : nextItem first cs = .ok next) : next.Within cs := by
  have hBlank := skipBlanks_length_le cs
  unfold nextItem at h
  split at h
  · contradiction
  · rename_i hs
    cases h
    simp only [hs, List.length_cons] at hBlank
    exact hBlank
  · rename_i hs
    simp only [hs, List.length_cons] at hBlank
    split at h
    · cases h
      exact hBlank
    · split at h
      · rename_i rest _ _ _
        have hNext := skipBlanks_length_le rest
        split at h <;> try contradiction
        cases h
        exact Nat.le_trans hNext (Nat.le_of_succ_le hBlank)
      · contradiction

theorem nextMember_within {first : Bool} {cs : List Char} {next : Next}
    (h : nextMember first cs = .ok next) : next.Within cs := by
  have hBlank := skipBlanks_length_le cs
  unfold nextMember at h
  split at h
  · contradiction
  · rename_i hs
    cases h
    simp only [hs, List.length_cons] at hBlank
    exact hBlank
  · rename_i hs
    simp only [hs, List.length_cons] at hBlank
    split at h
    · split at h
      · cases h
        exact hBlank
      · contradiction
    · split at h
      · rename_i rest _ _ _
        have hNext := skipBlanks_length_le rest
        split at h <;> try contradiction
        rename_i hs'
        cases h
        rw [hs'] at hNext
        exact Nat.le_trans hNext (Nat.le_of_succ_le hBlank)
      · contradiction

def readColon (cs : List Char) : Except Fault (List Char) :=
  match skipBlanks cs with
  | [] => .error (.justRead .endInObject [])
  | ':' :: rest => .ok rest
  | rest => .error (.atNext .expectedColon rest)

theorem readColon_shorter {cs rest : List Char} (h : readColon cs = .ok rest) :
    rest.length < cs.length := by
  have hBlank := skipBlanks_length_le cs
  unfold readColon at h
  split at h <;> try contradiction
  rename_i hs
  cases h
  rw [hs] at hBlank
  exact hBlank

def readName (cs : List Char) : Except Fault (String × List Char) :=
  match cs with
  | '"' :: rest =>
    match readString true rest with
    | .error fault => .error fault
    | .ok (name, rest) => (readColon rest).map fun rest => (String.ofList name, rest)
  | cs => .error (.atNext .nameNotString cs)

theorem readName_shorter {cs rest : List Char} {name : String}
    (h : readName cs = .ok (name, rest)) : rest.length < cs.length := by
  unfold readName at h
  split at h
  · split at h
    · contradiction
    · rename_i _ _ text rest' hRead
      have hShort := readString_shorter hRead
      cases hColon : readColon rest' with
      | error => simp [hColon, Except.map] at h
      | ok r =>
        have := readColon_shorter hColon
        simp only [hColon, Except.map, Except.ok.injEq, Prod.mk.injEq] at h
        simp only [List.length_cons, ← h.2]
        omega
  · contradiction

/-- What has been read, and the rest of the input, which is shorter than `cs`. -/
abbrev Progress (α : Type) (cs : List Char) :=
  { result : α × List Char // result.2.length < cs.length }

/-- Reads what starts at the first character that is not blank and is neither array nor object. -/
def readScalar (cs : List Char) : Except Fault (Value × List Char) :=
  match cs with
  | [] => .error (.justRead .endInValue [])
  | 'n' :: rest => (readWord "ull".toList rest).map fun rest => (.null, rest)
  | 't' :: rest => (readWord "rue".toList rest).map fun rest => (.bool true, rest)
  | 'f' :: rest => (readWord "alse".toList rest).map fun rest => (.bool false, rest)
  | '-' :: rest => (readNumeral true rest).map fun r => (.number r.1, r.2)
  | '"' :: rest => (readString true rest).map fun r => (.string (String.ofList r.1), r.2)
  | c :: rest =>
    if c.isDigit then (readNumeral false (c :: rest)).map fun r => (.number r.1, r.2)
    else .error (.atNext .expectedValue (c :: rest))

theorem readScalar_shorter {cs rest : List Char} {v : Value}
    (h : readScalar cs = .ok (v, rest)) : rest.length < cs.length := by
  have hMap {α : Type} {x : Except Fault α} {f : α → Value × List Char}
      (h : x.map f = .ok (v, rest)) : ∃ a, x = .ok a ∧ f a = (v, rest) := by
    cases x with
    | error => simp [Except.map] at h
    | ok a => exact ⟨a, rfl, by simpa [Except.map] using h⟩
  unfold readScalar at h
  split at h
  · contradiction
  · obtain ⟨r, hr, he⟩ := hMap h
    have := readWord_length_le hr
    simp only [Prod.mk.injEq] at he
    simp [← he.2]; omega
  · obtain ⟨r, hr, he⟩ := hMap h
    have := readWord_length_le hr
    simp only [Prod.mk.injEq] at he
    simp [← he.2]; omega
  · obtain ⟨r, hr, he⟩ := hMap h
    have := readWord_length_le hr
    simp only [Prod.mk.injEq] at he
    simp [← he.2]; omega
  · obtain ⟨r, hr, he⟩ := hMap h
    have := readNumeral_shorter hr
    simp only [Prod.mk.injEq] at he
    simp [← he.2]; omega
  · obtain ⟨r, hr, he⟩ := hMap h
    have := readString_shorter hr
    simp only [Prod.mk.injEq] at he
    simp [← he.2]; omega
  · split at h
    · obtain ⟨r, hr, he⟩ := hMap h
      have := readNumeral_shorter hr
      simp only [Prod.mk.injEq] at he
      simp [← he.2] at this ⊢; omega
    · contradiction

mutual

/-- Reads a value; arrays and objects may be nested less than `depth` deep. -/
def readValue (depth : Nat) (cs : List Char) : Except Fault (Progress Value cs) :=
  have hBlank := skipBlanks_length_le cs
  match hs : skipBlanks cs with
  | '[' :: start =>
    have hStart : start.length < cs.length := by simp only [hs, List.length_cons] at hBlank; omega
    if depth ≤ 1 then .error (.atNext .tooDeep ('[' :: start))
    else
      match readItems (depth - 1) true start with
      | .error fault => .error fault
      | .ok ⟨(items, rest), h⟩ => .ok ⟨(.array items, rest), Nat.lt_trans h hStart⟩
  | '\x7b' :: start =>
    have hStart : start.length < cs.length := by simp only [hs, List.length_cons] at hBlank; omega
    if depth ≤ 1 then .error (.atNext .tooDeep ('\x7b' :: start))
    else
      match readMembers (depth - 1) true [] start with
      | .error fault => .error fault
      | .ok ⟨(members, rest), h⟩ => .ok ⟨(.object members, rest), Nat.lt_trans h hStart⟩
  | start =>
    match h : readScalar start with
    | .error fault => .error fault
    | .ok (v, rest) =>
      .ok ⟨(v, rest), Nat.lt_of_lt_of_le (readScalar_shorter h) (hs ▸ hBlank)⟩
termination_by 2 * cs.length

/-- Reads the items of an array up to its end. `first` says that none has been read yet. -/
def readItems (depth : Nat) (first : Bool) (cs : List Char) :
    Except Fault (Progress (List Value) cs) :=
  match hNext : nextItem first cs with
  | .error fault => .error fault
  | .ok (.ended rest) => .ok ⟨([], rest), nextItem_within hNext⟩
  | .ok (.follows start) =>
    have hStart : start.length ≤ cs.length := nextItem_within hNext
    match readValue depth start with
    | .error fault => .error fault
    | .ok ⟨(v, rest), hv⟩ =>
      have hRest : rest.length < cs.length := Nat.lt_of_lt_of_le hv hStart
      match readItems depth false rest with
      | .error fault => .error fault
      | .ok ⟨(items, rest), h⟩ => .ok ⟨(v :: items, rest), Nat.lt_trans h hRest⟩
termination_by 2 * cs.length + 1

/-- Reads the members of an object up to its end and adds them to `before`. -/
def readMembers (depth : Nat) (first : Bool) (before : List (String × Value)) (cs : List Char) :
    Except Fault (Progress (List (String × Value)) cs) :=
  match hNext : nextMember first cs with
  | .error fault => .error fault
  | .ok (.ended rest) => .ok ⟨(before, rest), nextMember_within hNext⟩
  | .ok (.follows start) =>
    have hStart : start.length ≤ cs.length := nextMember_within hNext
    match hName : readName start with
    | .error fault => .error fault
    | .ok (name, body) =>
      have hBody : body.length < cs.length := Nat.lt_of_lt_of_le (readName_shorter hName) hStart
      match readValue depth body with
      | .error fault => .error fault
      | .ok ⟨(v, rest), hv⟩ =>
        have hRest : rest.length < cs.length := Nat.lt_trans hv hBody
        match readMembers depth false (insertPair name v before) rest with
        | .error fault => .error fault
        | .ok ⟨(members, rest), h⟩ => .ok ⟨(members, rest), Nat.lt_trans h hRest⟩
termination_by 2 * cs.length + 1

end

def read (cs : List Char) : Except Fault Value :=
  match readValue depthLimit cs with
  | .error fault => .error fault
  | .ok ⟨(v, rest), _⟩ =>
    match skipBlanks rest with
    | [] => .ok v
    | rest => .error (.atNext .trailingCharacters rest)

end PredictionJobs.Json
