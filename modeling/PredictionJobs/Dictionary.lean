/-! # Dictionaries

Finite maps from texts, kept as lists of pairs in ascending order of their keys. `insertPair` works
on bare lists, so that it also serves inside recursive types; `Dictionary` carries the order with
it. Two dictionaries are equal exactly when every key has the same value in both.
-/

namespace PredictionJobs

variable {α : Type}

/-- Puts `value` under `key` into a list of pairs in ascending order of keys, in place of an earlier
value of the same key. -/
def insertPair (key : String) (value : α) : List (String × α) → List (String × α)
  | [] => [(key, value)]
  | (k, v) :: rest =>
    if key < k then (key, value) :: (k, v) :: rest
    else if key = k then (key, value) :: rest
    else (k, v) :: insertPair key value rest

/-- The value of the first pair with this key. -/
def findPair? (key : String) : List (String × α) → Option α
  | [] => none
  | (k, v) :: rest => if key = k then some v else findPair? key rest

/-- Keys ascend strictly along the list. -/
def Ascending (pairs : List (String × α)) : Prop := pairs.Pairwise fun a b => a.1 < b.1

theorem mem_insertPair {key : String} {value : α} {pairs : List (String × α)} {p : String × α}
    (h : p ∈ insertPair key value pairs) : p = (key, value) ∨ p ∈ pairs := by
  induction pairs with
  | nil => simpa [insertPair] using h
  | cons head rest ih =>
    obtain ⟨k, v⟩ := head
    rw [insertPair] at h
    split at h
    · simpa using h
    · split at h
      · rcases List.mem_cons.mp h with h | h
        · exact .inl h
        · exact .inr (List.mem_cons_of_mem _ h)
      · rcases List.mem_cons.mp h with h | h
        · exact .inr (h ▸ List.mem_cons_self)
        · exact (ih h).imp_right (List.mem_cons_of_mem _)

theorem ascending_insertPair {pairs : List (String × α)} (h : Ascending pairs) (key : String)
    (value : α) : Ascending (insertPair key value pairs) := by
  induction pairs with
  | nil => simp [insertPair, Ascending]
  | cons head rest ih =>
    obtain ⟨k, v⟩ := head
    obtain ⟨hHead, hRest⟩ := List.pairwise_cons.mp h
    rw [insertPair]
    split
    case isTrue hlt =>
      refine List.pairwise_cons.mpr ⟨fun p hp => ?_, h⟩
      rcases List.mem_cons.mp hp with rfl | hp
      · exact hlt
      · exact String.lt_trans hlt (hHead p hp)
    case isFalse hlt =>
      split
      case isTrue heq => exact List.pairwise_cons.mpr ⟨fun p hp => heq ▸ hHead p hp, hRest⟩
      case isFalse hne =>
        refine List.pairwise_cons.mpr ⟨fun p hp => ?_, ih hRest⟩
        rcases mem_insertPair hp with rfl | hp
        · have hle : k ≤ key := String.not_lt.mp hlt
          exact Decidable.byContradiction fun hn =>
            hne (String.le_antisymm (String.not_lt.mp hn) hle)
        · exact hHead p hp

theorem findPair?_insertPair (key other : String) (value : α) (pairs : List (String × α)) :
    findPair? other (insertPair key value pairs) =
      if other = key then some value else findPair? other pairs := by
  induction pairs with
  | nil => simp [insertPair, findPair?]
  | cons head rest ih =>
    obtain ⟨k, v⟩ := head
    rw [insertPair]
    split
    · simp [findPair?]
    · split
      case isTrue heq => subst heq; by_cases ho : other = key <;> simp [findPair?, ho]
      case isFalse hne =>
        simp only [findPair?, ih]
        by_cases hk : other = k
        · simp [hk, Ne.symm hne]
        · simp [hk]

/-- A finite map from texts, listed in ascending order of keys. -/
structure Dictionary (α : Type) where
  pairs : List (String × α)
  ascending : Ascending pairs

namespace Dictionary

def empty : Dictionary α := ⟨[], List.Pairwise.nil⟩

instance : Inhabited (Dictionary α) := ⟨empty⟩

instance [DecidableEq α] : DecidableEq (Dictionary α) := fun a b =>
  decidable_of_iff (a.pairs = b.pairs) (by cases a; cases b; simp)

/-- The dictionary in which `key` has `value`, whatever it had before. -/
def insert (d : Dictionary α) (key : String) (value : α) : Dictionary α :=
  ⟨insertPair key value d.pairs, ascending_insertPair d.ascending key value⟩

def get? (d : Dictionary α) (key : String) : Option α := findPair? key d.pairs

def size (d : Dictionary α) : Nat := d.pairs.length

def isEmpty (d : Dictionary α) : Bool := d.pairs.isEmpty

def keys (d : Dictionary α) : List String := d.pairs.map Prod.fst

/-- The dictionary of a list of pairs; of two pairs with one key the later counts. -/
def ofList (pairs : List (String × α)) : Dictionary α :=
  pairs.foldl (fun d p => d.insert p.1 p.2) empty

@[simp] theorem get?_empty (key : String) : (empty : Dictionary α).get? key = none := rfl

@[simp] theorem get?_insert (d : Dictionary α) (key other : String) (value : α) :
    (d.insert key value).get? other = if other = key then some value else d.get? other :=
  findPair?_insertPair key other value d.pairs

end Dictionary

end PredictionJobs
