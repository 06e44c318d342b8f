import PredictionJobs.Proofs.Command.Entries
import PredictionJobs.Proofs.Command.Position

/-! # Pairing by positions

The scan over the tokens of a command keeps what the places of the tokens say: the slot of every
keyword is the one of its last occurrence, the other keys are the strays in the order of their first
occurrence, and a value is awaited exactly behind a keyword.
-/

namespace PredictionJobs.Command

variable {g : Grammar} {ts : List String}

/-- The slot that the last occurrence of a keyword gives it. -/
def slotAt? (g : Grammar) (ts : List String) (key : String) : Option Slot :=
  if key ∈ ts then
    match follower? key ts with
    | some v => if g.isKeyword v then some .pending else some (.value v)
    | none => some .pending
  else none

theorem slotAt?_concat_self (g : Grammar) (ts : List String) (key : String) :
    slotAt? g (ts ++ [key]) key = some .pending := by
  simp [slotAt?, follower?_concat]

theorem slotAt?_of_getLast? {key : String} (h : ts.getLast? = some key) :
    slotAt? g ts key = some .pending := by
  obtain ⟨front, rfl⟩ := List.getLast?_eq_some_iff.mp h
  exact slotAt?_concat_self g front key

theorem slotAt?_concat (g : Grammar) (ts : List String) (t key : String) :
    slotAt? g (ts ++ [t]) key =
      if key = t then some .pending
      else if ts.getLast? = some key ∧ g.isKeyword t = false then some (.value t)
      else slotAt? g ts key := by
  by_cases ht : key = t
  · subst ht
    simp [slotAt?_concat_self]
  · rw [if_neg ht]
    by_cases hLast : ts.getLast? = some key
    · rw [slotAt?_of_getLast? hLast]
      have hMem : key ∈ ts := List.mem_of_getLast? hLast
      cases hKey : g.isKeyword t <;> simp [slotAt?, follower?_concat, hMem, hLast, hKey, Ne.symm ht]
    · simp [slotAt?, follower?_concat, hLast, ht, Ne.symm ht]

namespace Entries

def strayKeys (g : Grammar) (e : Entries) : List String :=
  (e.pairs.map Prod.fst).filter fun key => !g.isKeyword key

theorem strayKeys_insert_keyword (e : Entries) {key : String} (slot : Slot)
    (h : g.isKeyword key = true) : (e.insert key slot).strayKeys g = e.strayKeys g := by
  rw [strayKeys, map_fst_insert]
  split
  · rfl
  · simp [strayKeys, h]

theorem strayKeys_insert_stray (e : Entries) {key : String} (slot : Slot)
    (h : g.isKeyword key = false) :
    (e.insert key slot).strayKeys g =
      if key ∈ e.strayKeys g then e.strayKeys g else e.strayKeys g ++ [key] := by
  have hMem : key ∈ e.strayKeys g ↔ key ∈ e.pairs.map Prod.fst := by simp [strayKeys, h]
  rw [strayKeys, map_fst_insert]
  simp only [hMem]
  split
  · rfl
  · simp [strayKeys, h]

end Entries

namespace Pairing

/-- What a scan has found is what the places of the scanned tokens say. -/
structure Reflects (g : Grammar) (ts : List String) (p : Pairing) : Prop where
  slots : ∀ key, g.isKeyword key = true → p.entries.get? key = slotAt? g ts key
  keys : p.entries.strayKeys g = (strays g ts).eraseDups
  awaiting : p.awaiting? = ts.getLast?.filter g.isKeyword

theorem Reflects.start (g : Grammar) : Reflects g [] ⟨.empty, none⟩ where
  slots _ _ := rfl
  keys := rfl
  awaiting := rfl

theorem Reflects.keyword {p : Pairing} (h : p.Reflects g ts) {t : String}
    (ht : g.isKeyword t = true) :
    Reflects g (ts ++ [t]) ⟨p.entries.insert t .pending, some t⟩ where
  slots key hKey := by
    rw [Entries.get?_insert, slotAt?_concat, h.slots key hKey]
    simp [ht]
  keys := by
    rw [Entries.strayKeys_insert_keyword _ _ ht, h.keys, strays_concat]
    simp [ht]
  awaiting := by simp [awaiting?, ht, Option.filter_some]

theorem Reflects.value {p : Pairing} (h : p.Reflects g ts) {t opened : String}
    (ht : g.isKeyword t = false) (hOpened : p.awaiting? = some opened) :
    Reflects g (ts ++ [t]) ⟨p.entries.insert opened (.value t), none⟩ := by
  rw [h.awaiting, Option.filter_eq_some_iff] at hOpened
  obtain ⟨hLast, hKeyword⟩ := hOpened
  refine ⟨?_, ?_, ?_⟩
  · intro key hKey
    have hNe : key ≠ t := fun heq => by simp [heq, ht] at hKey
    rw [Entries.get?_insert, slotAt?_concat, h.slots key hKey]
    simp [hLast, ht, hNe, eq_comm]
  · rw [Entries.strayKeys_insert_keyword _ _ hKeyword, h.keys, strays_concat]
    simp [hLast, hKeyword]
  · simp [awaiting?, ht, Option.filter_some]

theorem Reflects.stray {p : Pairing} (h : p.Reflects g ts) {t : String}
    (ht : g.isKeyword t = false) (hOpened : p.awaiting? = none) :
    Reflects g (ts ++ [t]) ⟨p.entries.insert t .unknown, p.opened⟩ := by
  have hLast : ∀ key, ts.getLast? = some key → g.isKeyword key = false := by
    intro key hKey
    rw [h.awaiting, hKey] at hOpened
    simpa using hOpened
  refine ⟨?_, ?_, ?_⟩
  · intro key hKey
    have hNe : key ≠ t := fun heq => by simp [heq, ht] at hKey
    have hEnd : ts.getLast? ≠ some key := fun heq => by simp [hLast key heq] at hKey
    rw [Entries.get?_insert, slotAt?_concat, h.slots key hKey]
    simp [hEnd, hNe]
  · have hAny : ts.getLast?.any g.isKeyword = false := by
      cases hEnd : ts.getLast? with
      | none => rfl
      | some key => simp [hLast key hEnd]
    rw [Entries.strayKeys_insert_stray _ _ ht, h.keys, strays_concat, List.eraseDups_append]
    by_cases hMem : t ∈ strays g ts <;> simp [ht, hAny, hMem, List.removeAll, List.eraseDups_cons]
  · have hNone : (ts ++ [t]).getLast?.filter g.isKeyword = none := by simp [ht, Option.filter_some]
    rw [awaiting?, Option.filter_eq_none_iff] at hOpened
    rw [hNone, awaiting?, Option.filter_eq_none_iff]
    intro key hKey
    rw [Entries.get?_insert]
    split
    · decide
    · exact hOpened key hKey

theorem Reflects.step {p : Pairing} (h : p.Reflects g ts) (t : String) :
    (p.step g t).Reflects g (ts ++ [t]) := by
  rw [Pairing.step]
  split
  case isTrue ht => exact h.keyword ht
  case isFalse ht =>
    split
    case h_1 opened hOpened => exact h.value (Bool.eq_false_iff.mpr ht) hOpened
    case h_2 hOpened => exact h.stray (Bool.eq_false_iff.mpr ht) hOpened

theorem Reflects.foldl {p : Pairing} (h : p.Reflects g ts) (later : List String) :
    (later.foldl (Pairing.step g) p).Reflects g (ts ++ later) := by
  induction later generalizing ts p with
  | nil => simpa using h
  | cons t later ih => simpa using ih (h.step t)

end Pairing

theorem reflects_pair (g : Grammar) (ts : List String) :
    (ts.foldl (Pairing.step g) ⟨.empty, none⟩).Reflects g ts := by
  simpa using (Pairing.Reflects.start g).foldl ts

theorem get?_pair {key : String} (h : g.isKeyword key = true) (ts : List String) :
    (pair g ts).get? key = slotAt? g ts key := (reflects_pair g ts).slots key h

theorem strayKeys_pair (g : Grammar) (ts : List String) :
    (pair g ts).strayKeys g = (strays g ts).eraseDups := (reflects_pair g ts).keys

end PredictionJobs.Command
