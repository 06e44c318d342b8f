import PredictionJobs.Json.Located
import PredictionJobs.Proofs.Json.Rewriting

/-! # Documents of strings

Objects and arrays of strings are read straight from their text. Such an object is read as the
dictionary of its members in the order of the text, and what is written for strings is read back.
-/

namespace PredictionJobs.Json

section

variable {levels : Nat} {first : Bool} {cs rest : List Char} {text : String}

theorem liftFault_eq_ok_iff {α : Type} {x : Except Fault α} {a : α} :
    liftFault x = .ok a ↔ x = .ok a := by
  cases x <;> simp [liftFault]

/-! ### Strings -/

theorem readScalar_string_iff : readScalar cs = .ok (.string text, rest) ↔
    ∃ start, cs = '"' :: start ∧ readString true start = .ok (text.toList, rest) := by
  constructor
  · intro h
    obtain hOther | ⟨_, hOther⟩ | ⟨_, _, _, _, hOther⟩ | ⟨start, chars, hStart, hRead, hText⟩ :=
      readScalar_cases h
    · cases hOther
    · cases hOther
    · cases hOther
    · cases hText
      exact ⟨start, hStart, by rwa [String.toList_ofList]⟩
  · rintro ⟨start, rfl, hRead⟩
    rw [readScalar, hRead, Except.map, String.ofList_toList]

theorem readText_eq_ok_iff : readText cs = .ok (text, rest) ↔
    ∃ start, skipBlanks cs = '"' :: start ∧ readString true start = .ok (text.toList, rest) := by
  rw [readText]
  split
  case h_1 start hStart =>
    rw [map_eq_ok_iff, hStart]
    constructor
    · rintro ⟨⟨chars, behind⟩, hRead, h⟩
      cases h
      rw [liftFault_eq_ok_iff] at hRead
      exact ⟨start, rfl, by rwa [String.toList_ofList]⟩
    · rintro ⟨_, hSame, hRead⟩
      cases hSame
      exact ⟨_, liftFault_eq_ok_iff.mpr hRead, by rw [String.ofList_toList]⟩
  case h_2 hOther =>
    constructor
    · nofun
    · rintro ⟨start, hStart, _⟩
      exact absurd hStart (hOther start)

theorem readValue_string_iff : resultOf (readValue (levels + 1) cs) = .ok (.string text, rest) ↔
    readText cs = .ok (text, rest) := by
  rw [readText_eq_ok_iff, ← readScalar_string_iff]
  constructor
  · intro h
    rcases readValue_cases h with ⟨_, _, _, _, _, _, hOther⟩ | ⟨_, _, _, _, _, _, hOther⟩ | hScalar
    · cases hOther
    · cases hOther
    · exact hScalar
  · exact readValue_of_scalar

/-! ### Objects of strings -/

variable {steps : Nat} {before d : Dictionary String} {pairs : List (String × String)}

def textMembers (pairs : List (String × String)) : List (String × Value) :=
  pairs.map fun p => (p.1, .string p.2)

theorem readTextMembers_eq_ok_iff :
    readTextMembers (steps + 1) first before cs = .ok (d, rest) ↔
      (nextMember first cs = .ok (.ended rest) ∧ before = d) ∨
      ∃ start name body text behind, nextMember first cs = .ok (.follows start) ∧
        readName start = .ok (name, body) ∧ readText body = .ok (text, behind) ∧
        readTextMembers steps false (before.insert name text) behind = .ok (d, rest) := by
  rw [readTextMembers, bind_eq_ok_iff]
  constructor
  · rintro ⟨next, hNext, h⟩
    rw [liftFault_eq_ok_iff] at hNext
    cases next with
    | ended left =>
      cases h
      exact .inl ⟨hNext, rfl⟩
    | follows start =>
      obtain ⟨⟨name, body⟩, hName, h⟩ := bind_eq_ok_iff.mp h
      obtain ⟨⟨text, behind⟩, hText, h⟩ := bind_eq_ok_iff.mp h
      exact .inr ⟨start, name, body, text, behind, hNext, liftFault_eq_ok_iff.mp hName, hText, h⟩
  · rintro (⟨hNext, rfl⟩ | ⟨start, name, body, text, behind, hNext, hName, hText, h⟩)
    · exact ⟨_, liftFault_eq_ok_iff.mpr hNext, rfl⟩
    · refine ⟨_, liftFault_eq_ok_iff.mpr hNext, bind_eq_ok_iff.mpr ?_⟩
      exact ⟨_, liftFault_eq_ok_iff.mpr hName, bind_eq_ok_iff.mpr ⟨_, hText, h⟩⟩

theorem readText_shorter (h : readText cs = .ok (text, rest)) : rest.length < cs.length := by
  have hValue : resultOf (readValue 1 cs) = .ok (.string text, rest) := readValue_string_iff.mpr h
  obtain ⟨hShort, -⟩ := resultOf_eq_ok_iff.mp hValue
  exact hShort

/-- Each member takes a character at least, so the steps are enough. -/
theorem readTextMembers_of_members (h : Members (levels + 1) first cs (textMembers pairs) rest)
    (hSteps : cs.length ≤ steps) (before : Dictionary String) :
    readTextMembers (steps + 1) first before cs =
      .ok (pairs.foldl (fun d p => d.insert p.1 p.2) before, rest) := by
  rw [readTextMembers_eq_ok_iff]
  induction pairs generalizing first cs steps before with
  | nil =>
    cases h with
    | ended hEnd => exact .inl ⟨hEnd, rfl⟩
  | cons p pairs ih =>
    cases h with
    | @follows _ _ start _ behind _ _ _ _ hNext hName hValue hRest =>
      have hText := readValue_string_iff.mp hValue
      have hStart : start.length ≤ cs.length := nextMember_within hNext
      have hShort : behind.length < steps := by
        have hBody := readName_shorter hName
        have hBehind := readText_shorter hText
        omega
      obtain ⟨fewer, rfl⟩ := Nat.exists_eq_add_one_of_ne_zero (Nat.ne_zero_of_lt hShort)
      refine .inr ⟨_, _, _, _, _, hNext, hName, hText, ?_⟩
      rw [readTextMembers_eq_ok_iff]
      exact ih hRest (Nat.le_of_lt_succ hShort) _

theorem members_of_readTextMembers
    (h : readTextMembers steps first before cs = .ok (d, rest)) (levels : Nat) :
    ∃ pairs, Members (levels + 1) first cs (textMembers pairs) rest ∧
      pairs.foldl (fun d p => d.insert p.1 p.2) before = d := by
  induction steps generalizing first cs before with
  | zero => cases h
  | succ steps ih =>
    rcases readTextMembers_eq_ok_iff.mp h with ⟨hEnd, rfl⟩ |
      ⟨start, name, body, text, behind, hNext, hName, hText, h⟩
    · exact ⟨[], .ended hEnd, rfl⟩
    · obtain ⟨pairs, hMembers, hPairs⟩ := ih h
      exact ⟨(name, text) :: pairs,
        .follows hNext hName (readValue_string_iff.mpr hText) hMembers, hPairs⟩

theorem finishDocument_eq_ok_iff {α : Type} {result : α × List Char} {a : α} :
    finishDocument result = .ok a ↔ skipBlanks result.2 = [] ∧ result.1 = a := by
  rw [finishDocument]
  split
  case h_1 hEnd => simp [hEnd]
  case h_2 hOther => exact ⟨nofun, fun ⟨hEnd, _⟩ => absurd hEnd hOther⟩

/-- An object of strings is read as the dictionary of its members in the order of the text. -/
theorem readTextDictionary_eq_ok_iff :
    readTextDictionary cs = .ok d ↔
      ∃ pairs, WrittenObject cs (textMembers pairs) ∧ .ofList pairs = d := by
  rw [readTextDictionary]
  constructor
  · intro h
    split at h
    case h_1 start hStart =>
      obtain ⟨⟨found, rest⟩, hMembers, h⟩ := bind_eq_ok_iff.mp h
      obtain ⟨hEnd, rfl⟩ := finishDocument_eq_ok_iff.mp h
      obtain ⟨pairs, hMembers, rfl⟩ := members_of_readTextMembers hMembers _
      exact ⟨pairs, .intro hStart hMembers hEnd, rfl⟩
    case h_2 => cases h
  · rintro ⟨pairs, ⟨hStart, hMembers, hEnd⟩, rfl⟩
    rw [hStart]
    refine bind_eq_ok_iff.mpr ⟨_, readTextMembers_of_members hMembers (Nat.le_refl _) _, ?_⟩
    exact finishDocument_eq_ok_iff.mpr ⟨hEnd, rfl⟩

theorem writtenObject_textMembers (pairs : List (String × String)) :
    WrittenObject (Value.object (textMembers pairs)).chars (textMembers pairs) := by
  apply writtenObject_chars
  intro m hm
  obtain ⟨p, -, rfl⟩ := List.mem_map.mp hm
  exact .string p.2

theorem readTextDictionary_chars (d : Dictionary String) :
    readTextDictionary (Value.ofDictionary d).chars = .ok d :=
  readTextDictionary_eq_ok_iff.mpr
    ⟨d.pairs, writtenObject_textMembers d.pairs, Dictionary.ofList_eq_of_perm (.refl _)⟩

/-! ### Arrays of strings -/

variable {start behind : List Char} {texts : List String} {wanted : String}

theorem readText_stringChars (text : String) (rest : List Char) :
    readText (stringChars text ++ rest) = .ok (text, rest) := by
  have hText : stringChars text ++ rest =
      '"' :: (text.toList.flatMap escapeChar ++ '"' :: rest) := by simp [stringChars]
  rw [hText]
  exact readText_eq_ok_iff.mpr
    ⟨_, skipBlanks_cons (by decide) _, readString_flatMap_escapeChar _ rest⟩

theorem readTextItems_ended (h : nextItem first cs = .ok (.ended rest)) :
    readTextItems (steps + 1) first cs = .ok ([], rest) := by
  rw [readTextItems, h]
  rfl

theorem readTextItems_follows (hNext : nextItem first cs = .ok (.follows start))
    (hText : readText start = .ok (text, rest))
    (hRest : readTextItems steps false rest = .ok (texts, behind)) :
    readTextItems (steps + 1) first cs = .ok (text :: texts, behind) := by
  rw [readTextItems, hNext]
  refine bind_eq_ok_iff.mpr ⟨_, rfl, bind_eq_ok_iff.mpr ⟨_, hText, ?_⟩⟩
  exact bind_eq_ok_iff.mpr ⟨_, hRest, rfl⟩

theorem readTextItems_itemChars (texts : List String) (rest : List Char)
    (hSteps : texts.length < steps) :
    readTextItems steps false (itemChars (texts.map .string) ++ rest) = .ok (texts, rest) := by
  obtain ⟨steps, rfl⟩ := Nat.exists_eq_add_one_of_ne_zero (Nat.ne_zero_of_lt hSteps)
  induction texts generalizing steps with
  | nil => exact readTextItems_ended rfl
  | cons text texts ih =>
    have hFewer : texts.length < steps := Nat.lt_of_succ_lt_succ hSteps
    obtain ⟨fewer, rfl⟩ := Nat.exists_eq_add_one_of_ne_zero (Nat.ne_zero_of_lt hFewer)
    rw [List.map_cons, itemChars, List.cons_append, List.append_assoc]
    exact readTextItems_follows (nextItem_later (Value.string text).isDocument_chars _)
      (readText_stringChars text _) (ih fewer hFewer)

theorem length_lt_itemChars (items : List Value) : items.length < (itemChars items).length := by
  induction items with
  | nil => exact Nat.zero_lt_one
  | cons v items ih =>
    rw [itemChars, List.length_cons, List.length_cons, List.length_append]
    omega

theorem readTexts_chars (texts : List String) (rest : List Char) :
    readTexts ((Value.ofTexts texts).chars ++ rest) = .ok (texts, rest) := by
  cases texts with
  | nil => rfl
  | cons text texts =>
    have hText : (Value.ofTexts (text :: texts)).chars ++ rest =
        '[' :: (stringChars text ++ (itemChars (texts.map .string) ++ rest)) := by
      simp [Value.ofTexts, Value.chars]
    rw [hText, readTexts, skipBlanks_cons (by decide)]
    apply readTextItems_follows (nextItem_first (Value.string text).isDocument_chars _)
      (readText_stringChars text _)
    apply readTextItems_itemChars
    have hItems := length_lt_itemChars (texts.map .string)
    rw [List.length_map] at hItems
    rw [List.length_append, List.length_append]
    omega

theorem readWantedMember_ended (h : nextMember first cs = .ok (.ended rest)) :
    readWantedMember wanted (steps + 1) first (some texts) cs = .ok (texts, rest) := by
  rw [readWantedMember, h]
  rfl

theorem readWantedMember_wanted {result : List String × List Char}
    (hNext : nextMember first cs = .ok (.follows (stringChars wanted ++ ':' :: start)))
    (hTexts : readTexts start = .ok (texts, behind))
    (hRest : readWantedMember wanted steps false (some texts) behind = .ok result) :
    readWantedMember wanted (steps + 1) first none cs = .ok result := by
  have hTail : (stringChars wanted ++ ':' :: start).tail =
      wanted.toList.flatMap escapeChar ++ '"' :: ':' :: start := by simp [stringChars]
  rw [readWantedMember, hNext]
  refine bind_eq_ok_iff.mpr ⟨_, rfl, ?_⟩
  dsimp only
  rw [hTail, readString_flatMap_escapeChar]
  refine bind_eq_ok_iff.mpr ⟨_, rfl, ?_⟩
  dsimp only
  rw [if_pos String.ofList_toList]
  exact bind_eq_ok_iff.mpr ⟨start, rfl, bind_eq_ok_iff.mpr ⟨_, hTexts, hRest⟩⟩

theorem readTextsField_chars (record wanted : String) (texts : List String) :
    readTextsField record wanted (Value.object [(wanted, .ofTexts texts)]).chars = .ok texts := by
  have hText : (Value.object [(wanted, .ofTexts texts)]).chars =
      '\x7b' :: (stringChars wanted ++ ':' :: ((Value.ofTexts texts).chars ++ ['\x7d'])) := by
    simp [Value.chars, memberChars]
  rw [hText, readTextsField, skipBlanks_cons (by decide)]
  refine bind_eq_ok_iff.mpr ⟨(texts, []), ?_, rfl⟩
  apply readWantedMember_wanted (nextMember_first wanted _) (readTexts_chars texts _)
  rw [List.length_append, List.length_cons, Nat.add_succ]
  exact readWantedMember_ended rfl

end

end PredictionJobs.Json
