import PredictionJobs.Proofs.Json.Members

/-! # Values written back

A value that has been read is nested no deeper than the reader goes, its objects are in order and
its integers have 64 bits. So it is read back from its compact text if its floats are, and it is one
of the values that sorting leaves as they are.
-/

namespace PredictionJobs.Json

/-! ### Values as they are read -/

/-- The values that are nested at most `levels` deep, whose objects are in order, and whose integers
have 64 bits. -/
inductive Regular : (levels : Nat) → Value → Prop
  | null {levels : Nat} : Regular levels .null
  | bool {levels : Nat} (b : Bool) : Regular levels (.bool b)
  | integer {levels : Nat} {i : Int} (h : FitsWord i) : Regular levels (.number (.integer i))
  | float {levels : Nat} (x : Binary64) : Regular levels (.number (.float x))
  | string {levels : Nat} (s : String) : Regular levels (.string s)
  | array {levels : Nat} {items : List Value} (h : ∀ v ∈ items, Regular levels v) :
      Regular (levels + 1) (.array items)
  | object {levels : Nat} {members : List (String × Value)} (hOrder : Ascending members)
      (h : ∀ m ∈ members, Regular levels m.2) : Regular (levels + 1) (.object members)

def Number.float? : Number → Option Binary64
  | .integer _ => none
  | .float x => some x

/-- The floats that stand anywhere in a value. -/
def Value.floats (v : Value) : List Binary64 := v.numbers.filterMap Number.float?

theorem Value.mem_floats_iff {v : Value} {x : Binary64} :
    x ∈ v.floats ↔ .float x ∈ v.numbers := by
  rw [floats, List.mem_filterMap]
  constructor
  · rintro ⟨n, hn, hFloat⟩
    cases n with
    | integer i => cases hFloat
    | float y =>
      cases hFloat
      exact hn
  · intro hx
    exact ⟨.float x, hx, rfl⟩

theorem Regular.readable {levels : Nat} {v : Value} (h : Regular levels v)
    (hFloats : ∀ x ∈ v.floats, (Number.float x).ReadsBack) : Readable levels v := by
  simp only [Value.mem_floats_iff] at hFloats
  induction h with
  | null => exact .null
  | bool b => exact .bool b
  | integer hFits => exact .number (readsBack_integer hFits)
  | float x => exact .number (hFloats x List.mem_cons_self)
  | string s => exact .string s
  | array _ ih => exact .array fun v hv => ih v hv fun x hx => hFloats x (mem_itemsNumbers hv hx)
  | object hOrder _ ih =>
    exact .object hOrder fun m hm => ih m hm fun x hx => hFloats x (mem_membersNumbers hm hx)

/-! ### Numbers -/

theorem absorb_le (digits : List Char) {significand : Nat} (h : significand ≤ significandLimit) :
    (absorb significand digits).1 ≤ significandLimit := by
  induction digits generalizing significand with
  | nil => exact h
  | cons c digits ih =>
    rw [absorb]
    split
    case isTrue => exact h
    case isFalse hNext => exact ih (Nat.not_lt.mp hNext)

section

variable {negative : Bool} {cs rest : List Char} {n : Number} {i : Int}

theorem finish_ne_integer {numeral : Numeral} {exponent : Int} :
    finish negative numeral exponent cs ≠ .ok (.integer i, rest) := by
  intro h
  rw [finish] at h
  split at h
  · cases h
  · cases h

theorem readExponent_ne_integer {numeral : Numeral} :
    readExponent negative numeral cs ≠ .ok (.integer i, rest) := by
  intro h
  rw [readExponent] at h
  dsimp only at h
  split at h
  · split at h
    · cases h
    · cases h
  · split at h
    · split at h
      · cases h
      · cases h
    · exact finish_ne_integer h

theorem fitsWord_of_readScale {numeral : Numeral} (hFits : numeral.significand ≤ significandLimit)
    (h : readScale negative numeral cs = .ok (.integer i, rest)) : FitsWord i := by
  have hLimits : negativeLimit ≤ significandLimit := by decide
  unfold readScale at h
  split at h
  · exact absurd h readExponent_ne_integer
  · exact absurd h readExponent_ne_integer
  · split at h
    · split at h
      · cases h
        constructor <;> omega
      · split at h
        case isTrue hNegative =>
          cases h
          constructor <;> omega
        case isFalse => cases h
    · exact absurd h finish_ne_integer

theorem fitsWord_of_readNumeral (h : readNumeral negative cs = .ok (.integer i, rest)) :
    FitsWord i := by
  rw [readNumeral] at h
  dsimp only at h
  split at h
  · split at h <;> cases h
  · cases h
  · have hFits := absorb_le (cs.takeWhile Char.isDigit) (Nat.zero_le significandLimit)
    split at h
    · rw [readDecimals] at h
      dsimp only at h
      split at h
      · split at h <;> cases h
      · exact fitsWord_of_readScale (absorb_le _ hFits) h
    · exact fitsWord_of_readScale hFits h

theorem regular_number_of_readNumeral (h : readNumeral negative cs = .ok (n, rest))
    (levels : Nat) : Regular levels (.number n) := by
  cases n with
  | integer i => exact .integer (fitsWord_of_readNumeral h)
  | float x => exact .float x

end

/-! ### Reading -/

theorem regular_of_readScalar {cs rest : List Char} {v : Value}
    (h : readScalar cs = .ok (v, rest)) (levels : Nat) : Regular levels v := by
  rcases readScalar_cases h with rfl | ⟨b, rfl⟩ | ⟨_, _, n, hNumeral, rfl⟩ | ⟨_, text, _, _, rfl⟩
  · exact .null
  · exact .bool b
  · exact regular_number_of_readNumeral hNumeral levels
  · exact .string _

section

variable {depth : Nat} {first : Bool} {cs rest : List Char} {v : Value} {items : List Value}
  {m : String × Value} {members written : List (String × Value)}

/-- An item of an array has been read from the text of the array. -/
theorem exists_readValue_of_mem_items
    (h : resultOf (readItems depth first cs) = .ok (items, rest)) (hv : v ∈ items) :
    ∃ start behind, start.length ≤ cs.length ∧
      resultOf (readValue depth start) = .ok (v, behind) := by
  induction items generalizing first cs with
  | nil => cases hv
  | cons w items ih =>
    rw [readItems] at h
    split at h
    case h_1 => cases h
    case h_2 => cases h
    case h_3 start hNext =>
      have hStart : start.length ≤ cs.length := nextItem_within hNext
      dsimp only at h
      cases hValue : readValue depth start with
      | error fault =>
        rw [hValue] at h
        cases h
      | ok progress =>
        obtain ⟨⟨u, behind⟩, hShort⟩ := progress
        rw [hValue] at h
        dsimp only at h
        cases hRest : readItems depth false behind with
        | error fault =>
          rw [hRest] at h
          cases h
        | ok progress =>
          obtain ⟨⟨later, left⟩, hShort'⟩ := progress
          rw [hRest] at h
          cases h
          rcases List.mem_cons.mp hv with rfl | hv
          · exact ⟨start, behind, hStart, resultOf_eq_ok_iff.mpr ⟨hShort, hValue⟩⟩
          · obtain ⟨begin, after, hBegin, hRead⟩ := ih (resultOf_eq_ok_iff.mpr ⟨hShort', hRest⟩) hv
            exact ⟨begin, after,
              Nat.le_trans hBegin (Nat.le_trans (Nat.le_of_lt hShort) hStart), hRead⟩

theorem Members.exists_readValue (h : Members depth first cs written rest) (hm : m ∈ written) :
    ∃ body behind, body.length < cs.length ∧
      resultOf (readValue depth body) = .ok (m.2, behind) := by
  induction h with
  | ended => cases hm
  | @follows first cs start body rest behind name v written hNext hName hValue _ ih =>
    have hBody : body.length < cs.length :=
      Nat.lt_of_lt_of_le (readName_shorter hName) (nextMember_within hNext)
    rcases List.mem_cons.mp hm with rfl | hm
    · exact ⟨body, rest, hBody, hValue⟩
    · obtain ⟨hShort, -⟩ := resultOf_eq_ok_iff.mp hValue
      obtain ⟨later, after, hLater, hRead⟩ := ih hm
      exact ⟨later, after, Nat.lt_trans hLater (Nat.lt_trans hShort hBody), hRead⟩

theorem mem_of_mem_collected {before : List (String × Value)}
    (h : m ∈ collected before written) : m ∈ before ∨ m ∈ written := by
  induction written generalizing before with
  | nil => exact .inl h
  | cons head written ih =>
    rcases ih h with h | h
    · rcases mem_insertPair h with rfl | h
      · exact .inr List.mem_cons_self
      · exact .inl h
    · exact .inr (List.mem_cons_of_mem _ h)

theorem ascending_collected {before : List (String × Value)} (h : Ascending before)
    (written : List (String × Value)) : Ascending (collected before written) := by
  induction written generalizing before with
  | nil => exact h
  | cons head written ih => exact ih (ascending_insertPair h _ _)

theorem regular_of_readValue {levels : Nat}
    (h : resultOf (readValue (levels + 1) cs) = .ok (v, rest)) : Regular levels v := by
  induction hLength : cs.length using Nat.strongRecOn generalizing cs levels v rest with
  | _ length ih =>
    -- What stands behind the bracket is shorter than the text.
    have hInside : ∀ {c : Char} {start : List Char}, skipBlanks cs = c :: start →
        start.length < length := by
      intro c start hStart
      have hBlanks := skipBlanks_length_le cs
      rw [hStart, List.length_cons, hLength] at hBlanks
      exact hBlanks
    rcases readValue_cases h with ⟨depth, start, items, rfl, hStart, hItems, rfl⟩ |
      ⟨depth, start, members, rfl, hStart, hMembers, rfl⟩ | hScalar
    · refine .array fun w hw => ?_
      obtain ⟨body, behind, hBody, hRead⟩ := exists_readValue_of_mem_items hItems hw
      exact ih body.length (Nat.lt_of_le_of_lt hBody (hInside hStart)) hRead rfl
    · obtain ⟨written, hWritten, rfl⟩ := exists_members true start [] hMembers
      refine .object (ascending_collected .nil written) fun m hm => ?_
      have hMem : m ∈ written := (mem_of_mem_collected hm).resolve_left List.not_mem_nil
      obtain ⟨body, behind, hBody, hRead⟩ := hWritten.exists_readValue hMem
      exact ih body.length (Nat.lt_trans hBody (hInside hStart)) hRead rfl
    · exact regular_of_readScalar hScalar levels

/-- A value that has been read is nested less deep than the reader goes. -/
theorem regular_of_read (h : read cs = .ok v) : Regular (depthLimit - 1) v := by
  rw [read] at h
  cases hValue : readValue depthLimit cs with
  | error fault =>
    rw [hValue] at h
    cases h
  | ok progress =>
    obtain ⟨⟨found, rest⟩, hShort⟩ := progress
    rw [hValue] at h
    dsimp only at h
    split at h
    · cases h
      exact regular_of_readValue (resultOf_eq_ok_iff.mpr ⟨hShort, hValue⟩)
    · cases h

end

/-! ### Rewriting -/

theorem insertPair_of_lt {name : String} {v : Value} {members : List (String × Value)}
    (h : ∀ m ∈ members, name < m.1) : insertPair name v members = (name, v) :: members := by
  cases members with
  | nil => rfl
  | cons head members => rw [insertPair, if_pos (h head List.mem_cons_self)]

theorem sortedMembers_eq_map {members : List (String × Value)} (h : Ascending members) :
    sortedMembers members = members.map fun m => (m.1, m.2.sorted) := by
  induction members with
  | nil => rfl
  | cons m members ih =>
    obtain ⟨hFirst, hRest⟩ := List.pairwise_cons.mp h
    rw [sortedMembers, ih hRest, List.map_cons, insertPair_of_lt]
    intro p hp
    obtain ⟨other, hOther, rfl⟩ := List.mem_map.mp hp
    exact hFirst other hOther

theorem Readable.sorted_eq {levels : Nat} {v : Value} (h : Readable levels v) : v.sorted = v := by
  induction h with
  | null => rfl
  | bool b => rfl
  | number _ => rfl
  | string s => rfl
  | array _ ih =>
    rw [Value.sorted, sortedItems_eq_map, List.map_congr_left ih, List.map_id']
  | object hOrder _ ih =>
    have hSame : ∀ m ∈ _, (fun m : String × Value => (m.1, m.2.sorted)) m = m := fun m hm =>
      Prod.ext rfl (ih m hm)
    rw [Value.sorted, sortedMembers_eq_map hOrder, List.map_congr_left hSame, List.map_id']

theorem findPair?_sortedMembers (name : String) (members : List (String × Value)) :
    findPair? name (sortedMembers members) = (findPair? name members).map Value.sorted := by
  induction members with
  | nil => rfl
  | cons m members ih =>
    obtain ⟨other, v⟩ := m
    rw [sortedMembers, findPair?_insertPair, ih, findPair?]
    split <;> rfl

theorem findPair?_sortedMembers_of_readable {levels : Nat} {members : List (String × Value)}
    (h : ∀ m ∈ members, Readable levels m.2) (name : String) :
    findPair? name (sortedMembers members) = findPair? name members := by
  rw [findPair?_sortedMembers]
  cases hFound : findPair? name members with
  | none => rfl
  | some v =>
    have hReadable : Readable levels v := h _ (mem_of_findPair?_eq_some hFound)
    rw [Option.map_some, hReadable.sorted_eq]

/-- What is read of an object has its members in order, whether or not they were written so. -/
theorem read_object_chars {members : List (String × Value)}
    (hNames : (members.map Prod.fst).Nodup) (h : ∀ m ∈ members, Readable 126 m.2) :
    read (Value.object members).chars = .ok (Value.object members).sorted := by
  have hFind : ∀ name, findPair? name (collected [] members) =
      findPair? name (sortedMembers members) := by
    intro name
    rw [findPair?_collected, findPair?_sortedMembers_of_readable h,
      findPair?_perm hNames (List.reverse_perm members)]
    exact Option.or_none
  have hSame : collected [] members = sortedMembers members :=
    (ascending_collected .nil members).eq_of_find (ascending_sortedMembers members) hFind
  rw [(writtenObject_chars h).read, hSame, Value.sorted]

theorem readable_sorted_object {levels : Nat} {members : List (String × Value)}
    (h : ∀ m ∈ members, Readable levels m.2) :
    Readable (levels + 1) (Value.object members).sorted := by
  refine .object (ascending_sortedMembers members) fun m hm => ?_
  obtain ⟨member, hMember, hSorted⟩ := exists_of_mem_sortedMembers hm
  rw [hSorted, (h member hMember).sorted_eq]
  exact h member hMember

end PredictionJobs.Json
