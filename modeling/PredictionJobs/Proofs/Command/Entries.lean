import Mathlib.Data.Finset.Card
import Mathlib.Data.Finset.Dedup
import PredictionJobs.Command.Entries
import PredictionJobs.Proofs.Dictionary

/-! # Entries after insertions

The index tells just the places of the keys, so entries are determined by the order of their keys
and the slot of each key. After a run of insertions every key stands in the order of its first
insertion, with the slot of its last one.
-/

namespace PredictionJobs.Command

namespace Entries

theorem eq_of_pairs_eq {e f : Entries} (h : e.pairs = f.pairs) : e = f := by
  have hIndex : e.index = f.index := by
    apply Dictionary.ext_get?
    intro key
    apply Option.ext
    intro i
    rw [e.indexed, f.indexed, h]
  cases e
  cases f
  cases h
  cases hIndex
  rfl

theorem pairs_eq_map (e : Entries) {slotOf : String → Slot}
    (h : ∀ key slot, e.get? key = some slot → slotOf key = slot) :
    e.pairs = (e.pairs.map Prod.fst).map fun key => (key, slotOf key) := by
  rw [List.map_map, eq_comm]
  refine (List.map_congr_left ?_).trans (List.map_id _)
  rintro ⟨key, slot⟩ hPair
  exact congrArg (Prod.mk key) (h key slot (e.get?_eq_some_iff.mpr hPair))

theorem ext_get? {e f : Entries} (hKeys : e.pairs.map Prod.fst = f.pairs.map Prod.fst)
    (hSlots : ∀ key, e.get? key = f.get? key) : e = f := by
  have hSlotOf : ∀ key slot, e.get? key = some slot → (e.get? key).getD .unknown = slot :=
    fun _ _ hSlot => by rw [hSlot, Option.getD_some]
  apply eq_of_pairs_eq
  rw [e.pairs_eq_map hSlotOf, hKeys]
  exact (f.pairs_eq_map fun key slot hSlot => hSlotOf key slot ((hSlots key).trans hSlot)).symm

theorem insert_insert (e : Entries) (key : String) (first second : Slot) :
    (e.insert key first).insert key second = e.insert key second := by
  apply ext_get?
  · rw [map_fst_insert, map_fst_insert, map_fst_insert]
    by_cases hMem : key ∈ e.pairs.map Prod.fst <;> simp [hMem]
  · intro other
    rw [get?_insert, get?_insert, get?_insert]
    split <;> rfl

end Entries

/-! ### Runs of insertions -/

theorem eraseDups_concat (keys : List String) (key : String) :
    (keys ++ [key]).eraseDups =
      if key ∈ keys then keys.eraseDups else keys.eraseDups ++ [key] := by
  rw [List.eraseDups_append]
  by_cases hMem : key ∈ keys <;> simp [hMem, List.removeAll, List.eraseDups_cons]

/-- The slot that was given last to a key. -/
def LastSlot (insertions : List (String × Slot)) (key : String) (slot : Slot) : Prop :=
  ∃ before after, insertions = before ++ (key, slot) :: after ∧ key ∉ after.map Prod.fst

variable {key : String} {slot : Slot}

theorem lastSlot_concat (insertions : List (String × Slot)) (last : String × Slot) :
    LastSlot (insertions ++ [last]) key slot ↔
      if key = last.1 then slot = last.2 else LastSlot insertions key slot := by
  constructor
  · rintro ⟨before, after, hSplit, hNot⟩
    induction after using List.reverseRecOn with
    | nil =>
      obtain ⟨-, hLast⟩ := List.append_inj' hSplit rfl
      obtain rfl := List.singleton_inj.mp hLast
      simp
    | append_singleton after final =>
      rw [← List.cons_append, ← List.append_assoc] at hSplit
      obtain ⟨hFront, hLast⟩ := List.append_inj' hSplit rfl
      obtain rfl := List.singleton_inj.mp hLast
      rw [List.map_append, List.mem_append, not_or] at hNot
      have hOther : key ≠ last.1 := by simpa using hNot.2
      rw [if_neg hOther]
      exact ⟨before, after, hFront, hNot.1⟩
  · split
    case isTrue hKey =>
      rintro rfl
      exact ⟨insertions, [], by rw [hKey], List.not_mem_nil⟩
    case isFalse hKey =>
      rintro ⟨before, after, rfl, hNot⟩
      refine ⟨before, after ++ [last], by simp, ?_⟩
      simp [hNot, hKey]

namespace Entries

/-- Gives keys their slots, one after another. -/
def insertSlots (e : Entries) (insertions : List (String × Slot)) : Entries :=
  insertions.foldl (fun e p => e.insert p.1 p.2) e

theorem insertSlots_concat (e : Entries) (insertions : List (String × Slot))
    (last : String × Slot) :
    e.insertSlots (insertions ++ [last]) = (e.insertSlots insertions).insert last.1 last.2 := by
  rw [insertSlots, List.foldl_append]
  rfl

theorem map_fst_insertSlots (insertions : List (String × Slot)) :
    (empty.insertSlots insertions).pairs.map Prod.fst = (insertions.map Prod.fst).eraseDups := by
  induction insertions using List.reverseRecOn with
  | nil => rfl
  | append_singleton insertions last ih =>
    rw [insertSlots_concat, map_fst_insert, ih, List.map_append, List.map_singleton,
      eraseDups_concat]
    simp only [List.mem_eraseDups]

theorem get?_insertSlots (insertions : List (String × Slot)) :
    (empty.insertSlots insertions).get? key = some slot ↔ LastSlot insertions key slot := by
  induction insertions using List.reverseRecOn with
  | nil => simp [insertSlots, LastSlot]
  | append_singleton insertions last ih =>
    rw [insertSlots_concat, get?_insert, lastSlot_concat]
    split
    · rw [Option.some.injEq, eq_comm]
    · exact ih

/-- After any insertions the keys are distinct and stand in the order of their first insertions,
each with the slot of its last one; the index holds just these keys, each with its place. -/
theorem ordered_by_insertion (insertions : List (String × Slot)) :
    let e := empty.insertSlots insertions
    (e.pairs.map Prod.fst).Nodup ∧
    (∀ key, key ∈ e.index.keys ↔ key ∈ e.pairs.map Prod.fst) ∧
    (∀ key i, e.index.get? key = some i ↔ ∃ h : i < e.pairs.length, e.pairs[i].1 = key) ∧
    (∀ key slot, e.get? key = some slot ↔ LastSlot insertions key slot) ∧
    (∀ key, e.get? key = none ↔ key ∉ insertions.map Prod.fst) ∧
    e.pairs.map Prod.fst = (insertions.map Prod.fst).eraseDups ∧
    (∀ key slot, (key, slot) ∈ e.pairs ↔ LastSlot insertions key slot) ∧
    e.size = (insertions.map Prod.fst).toFinset.card := by
  intro e
  have hKeys : e.pairs.map Prod.fst = (insertions.map Prod.fst).eraseDups :=
    map_fst_insertSlots insertions
  refine ⟨e.nodup, ?_, ?_, ?_, ?_, hKeys, ?_, ?_⟩
  · intro key
    rw [Dictionary.mem_keys_iff, e.mem_keys_iff]
  · intro key i
    rw [e.indexed, List.getElem?_eq_some_iff]
    simp only [List.length_map, List.getElem_map]
  · intro key slot
    exact get?_insertSlots insertions
  · intro key
    rw [e.get?_eq_none_iff, hKeys, List.mem_eraseDups]
  · intro key slot
    rw [← e.get?_eq_some_iff]
    exact get?_insertSlots insertions
  · have hSame : (insertions.map Prod.fst).toFinset = (e.pairs.map Prod.fst).toFinset := by
      ext key
      rw [List.mem_toFinset, List.mem_toFinset, hKeys, List.mem_eraseDups]
    rw [hSame, List.toFinset_card_of_nodup e.nodup, List.length_map, size]

end Entries

end PredictionJobs.Command
