import PredictionJobs.Json.Value

/-! # Values and their parts

Induction over values, the measures of a value on which its reading depends, and what sorting leaves
of the items and members.
-/

namespace PredictionJobs.Json

theorem Value.induction {motive : Value → Prop} (null : motive .null)
    (bool : ∀ b, motive (.bool b)) (number : ∀ n, motive (.number n))
    (string : ∀ s, motive (.string s))
    (array : ∀ items, (∀ v ∈ items, motive v) → motive (.array items))
    (object : ∀ members, (∀ m ∈ members, motive m.2) → motive (.object members)) (v : Value) :
    motive v :=
  @Value.rec motive (fun items => ∀ v ∈ items, motive v) (fun members => ∀ m ∈ members, motive m.2)
    (fun m => motive m.2) null bool number string array object
    (by simp) (fun _ _ hHead hRest => List.forall_mem_cons.mpr ⟨hHead, hRest⟩)
    (by simp) (fun _ _ hHead hRest => List.forall_mem_cons.mpr ⟨hHead, hRest⟩)
    (fun _ _ hValue => hValue) v

/-! ### Measures -/

mutual

/-- How deep arrays and objects are nested in a value. -/
def Value.nesting : Value → Nat
  | .array items => itemsNesting items + 1
  | .object members => membersNesting members + 1
  | _ => 0

def itemsNesting : List Value → Nat
  | [] => 0
  | v :: rest => max v.nesting (itemsNesting rest)

def membersNesting : List (String × Value) → Nat
  | [] => 0
  | (_, v) :: rest => max v.nesting (membersNesting rest)

end

mutual

/-- The numbers that stand anywhere in a value. -/
def Value.numbers : Value → List Number
  | .number n => [n]
  | .array items => itemsNumbers items
  | .object members => membersNumbers members
  | _ => []

def itemsNumbers : List Value → List Number
  | [] => []
  | v :: rest => v.numbers ++ itemsNumbers rest

def membersNumbers : List (String × Value) → List Number
  | [] => []
  | (_, v) :: rest => v.numbers ++ membersNumbers rest

end

section

variable {v : Value} {items : List Value} {m : String × Value} {members : List (String × Value)}

theorem nesting_le_of_mem_items (h : v ∈ items) : v.nesting ≤ itemsNesting items := by
  induction items with
  | nil => cases h
  | cons w rest ih =>
    rw [itemsNesting]
    rcases List.mem_cons.mp h with rfl | h
    · exact Nat.le_max_left _ _
    · exact Nat.le_trans (ih h) (Nat.le_max_right _ _)

theorem mem_itemsNumbers (h : v ∈ items) {n : Number} (hn : n ∈ v.numbers) :
    n ∈ itemsNumbers items := by
  induction items with
  | nil => cases h
  | cons w rest ih =>
    rw [itemsNumbers, List.mem_append]
    rcases List.mem_cons.mp h with rfl | h
    · exact .inl hn
    · exact .inr (ih h)

theorem membersNesting_eq (members : List (String × Value)) :
    membersNesting members = itemsNesting (members.map Prod.snd) := by
  induction members with
  | nil => rfl
  | cons m rest ih => rw [membersNesting, ih, List.map_cons, itemsNesting]

theorem membersNumbers_eq (members : List (String × Value)) :
    membersNumbers members = itemsNumbers (members.map Prod.snd) := by
  induction members with
  | nil => rfl
  | cons m rest ih => rw [membersNumbers, ih, List.map_cons, itemsNumbers]

theorem nesting_le_of_mem_members (h : m ∈ members) : m.2.nesting ≤ membersNesting members := by
  rw [membersNesting_eq]
  exact nesting_le_of_mem_items (List.mem_map_of_mem h)

theorem mem_membersNumbers (h : m ∈ members) {n : Number} (hn : n ∈ m.2.numbers) :
    n ∈ membersNumbers members := by
  rw [membersNumbers_eq]
  exact mem_itemsNumbers (List.mem_map_of_mem h) hn

/-! ### Sorting -/

theorem sortedItems_eq_map (items : List Value) : sortedItems items = items.map Value.sorted := by
  induction items with
  | nil => rfl
  | cons v rest ih => rw [sortedItems, ih, List.map_cons]

theorem exists_of_mem_sortedMembers (h : m ∈ sortedMembers members) :
    ∃ member ∈ members, m.2 = member.2.sorted := by
  induction members with
  | nil => cases h
  | cons head rest ih =>
    rw [sortedMembers] at h
    rcases mem_insertPair h with rfl | h
    · exact ⟨head, List.mem_cons_self, rfl⟩
    · obtain ⟨member, hMember, hSorted⟩ := ih h
      exact ⟨member, List.mem_cons_of_mem _ hMember, hSorted⟩

theorem ascending_sortedMembers (members : List (String × Value)) :
    Ascending (sortedMembers members) := by
  induction members with
  | nil => exact List.Pairwise.nil
  | cons head rest ih => exact ascending_insertPair ih _ _

end

end PredictionJobs.Json
