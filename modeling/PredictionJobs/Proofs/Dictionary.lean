import Mathlib.Data.List.Sort
import PredictionJobs.Dictionary

/-! # Dictionaries as functions

A dictionary is determined by the value that each key has in it, and the dictionary of a list of
pairs has under each key the value of the last pair with that key.
-/

namespace PredictionJobs

variable {α : Type}

theorem insertPair_eq_append {key : String} {value : α} {pairs : List (String × α)}
    (h : ∀ p ∈ pairs, p.1 < key) : insertPair key value pairs = pairs ++ [(key, value)] := by
  induction pairs with
  | nil => rfl
  | cons head rest ih =>
    obtain ⟨hHead, hRest⟩ := List.forall_mem_cons.mp h
    rw [insertPair, if_neg (String.lt_asymm hHead), if_neg (String.ne_of_lt hHead).symm, ih hRest,
      List.cons_append]

theorem findPair?_append (key : String) (front back : List (String × α)) :
    findPair? key (front ++ back) = (findPair? key front).or (findPair? key back) := by
  induction front with
  | nil => simp [findPair?]
  | cons head rest ih =>
    obtain ⟨k, v⟩ := head
    by_cases hk : key = k
    · simp [findPair?, hk]
    · simp [findPair?, hk, ih]

theorem findPair?_eq_none_iff {key : String} {pairs : List (String × α)} :
    findPair? key pairs = none ↔ key ∉ pairs.map Prod.fst := by
  induction pairs with
  | nil => simp [findPair?]
  | cons head rest ih =>
    obtain ⟨k, v⟩ := head
    by_cases hk : key = k
    · simp [findPair?, hk]
    · rw [findPair?, if_neg hk, ih, List.map_cons, List.mem_cons, not_or]
      exact (and_iff_right hk).symm

theorem mem_of_findPair?_eq_some {key : String} {value : α} {pairs : List (String × α)}
    (h : findPair? key pairs = some value) : (key, value) ∈ pairs := by
  induction pairs with
  | nil => cases h
  | cons head rest ih =>
    rw [findPair?] at h
    split at h
    case isTrue hSame =>
      cases h
      rw [hSame]
      exact List.mem_cons_self
    case isFalse => exact List.mem_cons_of_mem _ (ih h)

theorem findPair?_eq_some_iff {key : String} {value : α} {pairs : List (String × α)}
    (h : (pairs.map Prod.fst).Nodup) :
    findPair? key pairs = some value ↔ (key, value) ∈ pairs := by
  induction pairs with
  | nil => simp [findPair?]
  | cons head rest ih =>
    obtain ⟨k, v⟩ := head
    obtain ⟨hk, hRest⟩ := List.nodup_cons.mp h
    rw [findPair?, List.mem_cons, Prod.mk.injEq]
    split
    case isTrue heq =>
      subst heq
      have hNot : (key, value) ∉ rest := fun hm => hk (List.mem_map.mpr ⟨_, hm, rfl⟩)
      simp [hNot, eq_comm]
    case isFalse hne => simp [hne, ih hRest]

/-- With distinct keys it does not matter in which order the pairs stand. -/
theorem findPair?_perm {pairs others : List (String × α)} (h : (pairs.map Prod.fst).Nodup)
    (hPerm : others.Perm pairs) (key : String) : findPair? key others = findPair? key pairs := by
  have hOthers : (others.map Prod.fst).Nodup := (hPerm.map Prod.fst).nodup_iff.mpr h
  apply Option.ext
  intro value
  rw [findPair?_eq_some_iff hOthers, findPair?_eq_some_iff h, hPerm.mem_iff]

theorem Ascending.nodup_keys {pairs : List (String × α)} (h : Ascending pairs) :
    (pairs.map Prod.fst).Nodup := by
  rw [List.nodup_iff_pairwise_ne, List.pairwise_map]
  exact h.imp fun hlt => String.ne_of_lt hlt

theorem Ascending.eq_of_find {a b : List (String × α)} (ha : Ascending a) (hb : Ascending b)
    (h : ∀ key, findPair? key a = findPair? key b) : a = b := by
  have hPerm : a.Perm b := by
    rw [List.perm_ext_iff_of_nodup ha.nodup_keys.of_map hb.nodup_keys.of_map]
    rintro ⟨key, value⟩
    rw [← findPair?_eq_some_iff ha.nodup_keys, ← findPair?_eq_some_iff hb.nodup_keys, h]
  refine hPerm.eq_of_pairwise (fun p q _ _ hpq hqp => ?_) ha hb
  exact absurd hqp (String.lt_asymm hpq)

namespace Dictionary

@[ext] theorem ext_get? {d e : Dictionary α} (h : ∀ key, d.get? key = e.get? key) : d = e := by
  have hPairs : d.pairs = e.pairs := d.ascending.eq_of_find e.ascending h
  cases d
  cases e
  cases hPairs
  rfl

theorem get?_eq_some_iff {d : Dictionary α} {key : String} {value : α} :
    d.get? key = some value ↔ (key, value) ∈ d.pairs :=
  findPair?_eq_some_iff d.ascending.nodup_keys

theorem get?_foldl_insert (pairs : List (String × α)) (d : Dictionary α) (key : String) :
    (pairs.foldl (fun d p => d.insert p.1 p.2) d).get? key =
      (findPair? key pairs.reverse).or (d.get? key) := by
  induction pairs generalizing d with
  | nil => simp [findPair?]
  | cons head rest ih =>
    rw [List.foldl_cons, ih, get?_insert, List.reverse_cons, findPair?_append, Option.or_assoc]
    congr 1
    by_cases hk : key = head.1 <;> simp [findPair?, hk]

theorem get?_ofList (pairs : List (String × α)) (key : String) :
    (ofList pairs).get? key = findPair? key pairs.reverse := by
  rw [ofList, get?_foldl_insert, get?_empty, Option.or_none]

theorem get?_ofList_eq_some_iff {pairs : List (String × α)} (h : (pairs.map Prod.fst).Nodup)
    {key : String} {value : α} :
    (ofList pairs).get? key = some value ↔ (key, value) ∈ pairs := by
  have hReverse : (pairs.reverse.map Prod.fst).Nodup := by
    rw [List.map_reverse]
    exact List.nodup_reverse.mpr h
  rw [get?_ofList, findPair?_eq_some_iff hReverse, List.mem_reverse]

theorem mem_keys_iff {d : Dictionary α} {key : String} :
    key ∈ d.keys ↔ ∃ v, d.get? key = some v := by
  rw [← Option.isSome_iff_exists, ← not_iff_not, Option.not_isSome_iff_eq_none]
  exact findPair?_eq_none_iff.symm

/-- The pairs of a dictionary make up the dictionary in every order. -/
theorem ofList_eq_of_perm {d : Dictionary α} {pairs : List (String × α)}
    (h : pairs.Perm d.pairs) : ofList pairs = d := by
  have hKeys : (pairs.map Prod.fst).Nodup :=
    (h.map Prod.fst).nodup_iff.mpr d.ascending.nodup_keys
  apply ext_get?
  intro key
  apply Option.ext
  intro value
  rw [get?_ofList_eq_some_iff hKeys, get?_eq_some_iff, h.mem_iff]

end Dictionary

end PredictionJobs
