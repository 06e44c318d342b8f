import PredictionJobs.Proofs.Json.ReadBack

/-! # Members as they are written

The text of an object has a list of members, in which names may occur again and in any order. What
is read of it is, under each name, the value of the last member with that name.
-/

namespace PredictionJobs.Json

/-- The members that follow inside an object, in the order in which they are written, and what is
left behind its end. -/
inductive Members (depth : Nat) :
    (first : Bool) → List Char → List (String × Value) → List Char → Prop
  | ended {first : Bool} {cs rest : List Char} (h : nextMember first cs = .ok (.ended rest)) :
      Members depth first cs [] rest
  | follows {first : Bool} {cs start body rest behind : List Char} {name : String} {v : Value}
      {written : List (String × Value)} (hNext : nextMember first cs = .ok (.follows start))
      (hName : readName start = .ok (name, body))
      (hValue : resultOf (readValue depth body) = .ok (v, rest))
      (hRest : Members depth false rest written behind) :
      Members depth first cs ((name, v) :: written) behind

/-- Whether a text is an object with these members between blanks. -/
inductive WrittenObject (cs : List Char) (written : List (String × Value)) : Prop
  | intro {start rest : List Char} (hStart : skipBlanks cs = '\x7b' :: start)
      (hMembers : Members (depthLimit - 1) true start written rest) (hEnd : skipBlanks rest = [])

/-- The value of the last member with a name, if there is one. -/
def LastValue (cs : List Char) (name : String) (v? : Option Value) : Prop :=
  ∃ written, WrittenObject cs written ∧ findPair? name written.reverse = v?

/-! ### Members in order -/

/-- The members after more of them have been read. -/
def collected (before written : List (String × Value)) : List (String × Value) :=
  written.foldl (fun members m => insertPair m.1 m.2 members) before

theorem findPair?_collected (name : String) (before written : List (String × Value)) :
    findPair? name (collected before written) =
      (findPair? name written.reverse).or (findPair? name before) := by
  induction written generalizing before with
  | nil => rfl
  | cons m written ih =>
    rw [collected, List.foldl_cons, ← collected, ih, findPair?_insertPair, List.reverse_cons,
      findPair?_append, Option.or_assoc]
    congr 1
    by_cases hName : name = m.1 <;> simp [findPair?, hName]

section

variable {depth : Nat} {first : Bool} {cs start rest rest' : List Char} {v : Value}
  {members written written' : List (String × Value)}

theorem Members.unique (h : Members depth first cs written rest)
    (h' : Members depth first cs written' rest') : written = written' ∧ rest = rest' := by
  induction h generalizing written' with
  | ended hEnd =>
    cases h' with
    | ended hEnd' =>
      rw [hEnd] at hEnd'
      cases hEnd'
      exact ⟨rfl, rfl⟩
    | follows hNext =>
      rw [hEnd] at hNext
      cases hNext
  | follows hNext hName hValue _ ih =>
    cases h' with
    | ended hEnd =>
      rw [hNext] at hEnd
      cases hEnd
    | follows hNext' hName' hValue' hRest' =>
      rw [hNext] at hNext'
      cases hNext'
      rw [hName] at hName'
      cases hName'
      rw [hValue] at hValue'
      cases hValue'
      obtain ⟨rfl, rfl⟩ := ih hRest'
      exact ⟨rfl, rfl⟩

theorem Members.readMembers (h : Members depth first cs written rest)
    (before : List (String × Value)) :
    resultOf (readMembers depth first before cs) = .ok (collected before written, rest) := by
  induction h generalizing before with
  | ended hEnd => exact readMembers_ended hEnd
  | follows hNext hName hValue _ ih => exact readMembers_follows hNext hName hValue (ih _)

theorem exists_members (first : Bool) (cs : List Char) (before : List (String × Value))
    (h : resultOf (Json.readMembers depth first before cs) = .ok (members, rest)) :
    ∃ written, Members depth first cs written rest ∧ members = collected before written := by
  induction hLength : cs.length using Nat.strongRecOn generalizing first cs before with
  | _ length ih =>
    rw [Json.readMembers] at h
    split at h
    case h_1 => cases h
    case h_2 hEnd =>
      cases h
      exact ⟨[], .ended hEnd, rfl⟩
    case h_3 start hNext =>
      dsimp only at h
      split at h
      case h_1 => cases h
      case h_2 name body hName =>
        have hBody : body.length < cs.length :=
          Nat.lt_of_lt_of_le (readName_shorter hName) (nextMember_within hNext)
        cases hValue : readValue depth body with
        | error fault =>
          rw [hValue] at h
          cases h
        | ok progress =>
          obtain ⟨⟨v, behind⟩, hShort⟩ := progress
          rw [hValue] at h
          dsimp only at h
          cases hRest : Json.readMembers depth false (insertPair name v before) behind with
          | error fault =>
            rw [hRest] at h
            cases h
          | ok progress =>
            obtain ⟨⟨found, left⟩, hShort'⟩ := progress
            rw [hRest] at h
            cases h
            have hResult := resultOf_eq_ok_iff.mpr ⟨_, hRest⟩
            obtain ⟨written, hWritten, hMembers⟩ :=
              ih behind.length (by rw [← hLength]; exact Nat.lt_trans hShort hBody) false behind _
                hResult rfl
            exact ⟨(name, v) :: written,
              .follows hNext hName (resultOf_eq_ok_iff.mpr ⟨hShort, hValue⟩) hWritten, hMembers⟩

theorem readScalar_ne_object (cs : List Char) : readScalar cs ≠ .ok (.object members, rest) := by
  intro h
  rcases readScalar_cases h with h | ⟨_, h⟩ | ⟨_, _, _, _, h⟩ | ⟨_, _, _, _, h⟩ <;> cases h

theorem exists_readMembers
    (h : resultOf (readValue (depth + 2) cs) = .ok (.object members, rest)) :
    ∃ start, skipBlanks cs = '\x7b' :: start ∧
      resultOf (readMembers (depth + 1) true [] start) = .ok (members, rest) := by
  rcases readValue_cases h with ⟨_, _, _, _, _, _, hOther⟩ |
    ⟨_, start, _, hDepth, hStart, hMembers, hSame⟩ | hScalar
  · cases hOther
  · cases hSame
    cases hDepth
    exact ⟨start, hStart, hMembers⟩
  · exact absurd hScalar (readScalar_ne_object _)

theorem depthLimit_eq : depthLimit = 126 + 2 := rfl

theorem exists_writtenObject (h : read cs = .ok (.object members)) :
    ∃ written, WrittenObject cs written ∧ members = collected [] written := by
  rw [read, depthLimit_eq] at h
  cases hValue : readValue (126 + 2) cs with
  | error fault =>
    rw [hValue] at h
    cases h
  | ok progress =>
    obtain ⟨⟨v, rest⟩, hShort⟩ := progress
    rw [hValue] at h
    dsimp only at h
    split at h
    case h_1 hEnd =>
      cases h
      obtain ⟨start, hStart, hMembers⟩ :=
        exists_readMembers (resultOf_eq_ok_iff.mpr ⟨hShort, hValue⟩)
      obtain ⟨written, hWritten, rfl⟩ := exists_members true start [] hMembers
      exact ⟨written, .intro hStart hWritten hEnd, rfl⟩
    case h_2 => cases h

theorem WrittenObject.read (h : WrittenObject cs written) :
    read cs = .ok (.object (collected [] written)) := by
  obtain ⟨hStart, hMembers, hEnd⟩ := h
  have hObject := readValue_of_members hStart (hMembers.readMembers [])
  obtain ⟨_, hValue⟩ := resultOf_eq_ok_iff.mp hObject
  rw [Json.read, depthLimit_eq, hValue]
  dsimp only
  rw [hEnd]

theorem exists_writtenObject_iff :
    (∃ members, read cs = .ok (.object members)) ↔ ∃ written, WrittenObject cs written := by
  constructor
  · rintro ⟨members, h⟩
    obtain ⟨written, hWritten, -⟩ := exists_writtenObject h
    exact ⟨written, hWritten⟩
  · rintro ⟨written, hWritten⟩
    exact ⟨_, hWritten.read⟩

theorem members_memberChars {levels : Nat} (h : ∀ m ∈ written, Readable levels m.2)
    (rest : List Char) :
    Members (levels + 1) false (memberChars written ++ rest) written rest := by
  induction written with
  | nil => exact .ended rfl
  | cons m written ih =>
    obtain ⟨hHead, hTail⟩ := List.forall_mem_cons.mp h
    obtain ⟨name, v⟩ := m
    have hText : memberChars ((name, v) :: written) ++ rest =
        ',' :: (stringChars name ++ ':' :: (v.chars ++ (memberChars written ++ rest))) := by
      simp [memberChars]
    rw [hText]
    exact .follows (nextMember_later name _) (readName_stringChars name _)
      (readValue_chars hHead _ (delimited_memberChars written rest)) (ih hTail)

/-- Members may be written in any order and under any names. -/
theorem writtenObject_chars (h : ∀ m ∈ written, Readable 126 m.2) :
    WrittenObject (Value.object written).chars written := by
  have hEnd : skipBlanks [] = [] := rfl
  cases written with
  | nil => exact .intro rfl (.ended rfl) hEnd
  | cons m written =>
    obtain ⟨hHead, hTail⟩ := List.forall_mem_cons.mp h
    obtain ⟨name, v⟩ := m
    have hText : (Value.object ((name, v) :: written)).chars =
        '\x7b' :: (stringChars name ++ ':' :: (v.chars ++ (memberChars written ++ []))) := by
      simp [Value.chars]
    rw [hText]
    refine .intro (skipBlanks_cons (by decide) _) ?_ hEnd
    exact .follows (nextMember_first name _) (readName_stringChars name _)
      (readValue_chars hHead _ (delimited_memberChars written [])) (members_memberChars hTail [])

theorem WrittenObject.unique (h : WrittenObject cs written) (h' : WrittenObject cs written') :
    written = written' := by
  obtain ⟨hStart, hMembers, -⟩ := h
  obtain ⟨hStart', hMembers', -⟩ := h'
  rw [hStart] at hStart'
  obtain ⟨-, rfl⟩ := List.cons.inj hStart'
  exact (hMembers.unique hMembers').1

theorem WrittenObject.lastValue_iff (h : WrittenObject cs written) {name : String}
    {v? : Option Value} : LastValue cs name v? ↔ findPair? name written.reverse = v? := by
  constructor
  · rintro ⟨other, hOther, hValue⟩
    rwa [h.unique hOther]
  · intro hValue
    exact ⟨written, h, hValue⟩

end

end PredictionJobs.Json
