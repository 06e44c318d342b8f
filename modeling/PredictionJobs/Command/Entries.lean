import PredictionJobs.Command.Grammar
import PredictionJobs.Command.Token

/-! # Entries of a command

The tokens of a command are paired in one pass from left to right: a keyword opens an entry, and the
token behind it becomes its value unless that is a keyword too. Every other token is a stray.
Entries stay in the order in which their keys first occurred as such.
-/

namespace PredictionJobs.Command

/-- What is known about a key of a command. -/
inductive Slot where
  /-- A keyword without a value. -/
  | pending
  | value (text : String)
  /-- A stray token. -/
  | unknown
  deriving DecidableEq, Repr

theorem map_fst_set (pairs : List (String × Slot)) {i : Nat} (h : i < pairs.length) (slot : Slot) :
    (pairs.set i (pairs[i].1, slot)).map Prod.fst = pairs.map Prod.fst := by
  have hPlace : i < (pairs.map Prod.fst).length := by rwa [List.length_map]
  have hKey : pairs[i].1 = (pairs.map Prod.fst)[i] := (List.getElem_map _).symm
  rw [List.map_set, hKey, List.set_getElem_self]

theorem getElem?_concat_eq_some_iff {keys : List String} {key other : String} {i : Nat} :
    (keys ++ [key])[i]? = some other ↔
      keys[i]? = some other ∨ i = keys.length ∧ other = key := by
  rw [List.getElem?_append]
  split
  case isTrue hlt => exact (or_iff_left fun hEnd => by omega).symm
  case isFalse hge =>
    rw [List.getElem?_eq_none (Nat.not_lt.mp hge), List.getElem?_singleton]
    split
    case isTrue => simp [eq_comm]; omega
    case isFalse => simp; omega

/-- The keys of a command with their slots, and an index of the places at which the keys stand. No
key stands at two places. -/
structure Entries where
  pairs : List (String × Slot)
  index : Dictionary Nat
  indexed : ∀ key i, index.get? key = some i ↔ (pairs.map Prod.fst)[i]? = some key

namespace Entries

theorem lt_length (e : Entries) {key : String} {i : Nat} (h : e.index.get? key = some i) :
    i < e.pairs.length := by
  obtain ⟨hPlace, -⟩ := List.getElem?_eq_some_iff.mp ((e.indexed key i).mp h)
  rwa [List.length_map] at hPlace

theorem mem_keys_iff (e : Entries) (key : String) :
    key ∈ e.pairs.map Prod.fst ↔ ∃ i, e.index.get? key = some i := by
  rw [List.mem_iff_getElem?]
  exact exists_congr fun i => (e.indexed key i).symm

theorem nodup (e : Entries) : (e.pairs.map Prod.fst).Nodup := by
  rw [List.nodup_iff_pairwise_ne, List.pairwise_iff_getElem]
  intro i j hi hj hlt heq
  have hFirst := (e.indexed _ i).mpr (List.getElem?_eq_getElem hi)
  have hSecond := (e.indexed _ j).mpr (List.getElem?_eq_getElem hj)
  rw [heq, hSecond, Option.some.injEq] at hFirst
  omega

def empty : Entries := ⟨[], .empty, fun _ _ => by simp⟩

instance : Inhabited Entries := ⟨empty⟩

/-- Gives the key at a place another slot. -/
def change (e : Entries) (i : Nat) (h : i < e.pairs.length) (slot : Slot) : Entries where
  pairs := e.pairs.set i (e.pairs[i].1, slot)
  index := e.index
  indexed key j := by rw [map_fst_set, e.indexed]

/-- Puts a new key behind the others. -/
def append (e : Entries) (key : String) (h : e.index.get? key = none) (slot : Slot) : Entries where
  pairs := e.pairs ++ [(key, slot)]
  index := e.index.insert key e.pairs.length
  indexed other i := by
    rw [Dictionary.get?_insert, List.map_append, List.map_singleton, getElem?_concat_eq_some_iff,
      ← e.indexed, List.length_map]
    by_cases hOther : other = key
    · rw [if_pos hOther, hOther, h]
      simp [eq_comm]
    · rw [if_neg hOther]
      exact (or_iff_left fun hEnd => hOther hEnd.2).symm

/-- Gives `key` this slot; a key that is there already keeps its place. -/
def insert (e : Entries) (key : String) (slot : Slot) : Entries :=
  match h : e.index.get? key with
  | some i => e.change i (e.lt_length h) slot
  | none => e.append key h slot

def slotAt (e : Entries) (i : Nat) (h : i < e.pairs.length) : Slot := e.pairs[i].2

def get? (e : Entries) (key : String) : Option Slot :=
  match h : e.index.get? key with
  | some i => some (e.slotAt i (e.lt_length h))
  | none => none

theorem insert_of_some (e : Entries) {key : String} {i : Nat} (h : e.index.get? key = some i)
    (slot : Slot) : e.insert key slot = e.change i (e.lt_length h) slot := by
  rw [insert]
  split
  case h_1 j hj =>
    obtain rfl : i = j := Option.some.inj (h.symm.trans hj)
    rfl
  case h_2 hNone => cases h.symm.trans hNone

theorem insert_of_none (e : Entries) {key : String} (h : e.index.get? key = none) (slot : Slot) :
    e.insert key slot = e.append key h slot := by
  rw [insert]
  split
  case h_1 j hj => cases h.symm.trans hj
  case h_2 => rfl

theorem get?_eq_bind (e : Entries) (key : String) :
    e.get? key = (e.index.get? key).bind fun i => e.pairs[i]?.map Prod.snd := by
  rw [get?]
  split
  case h_1 i hi =>
    simp only [hi, Option.bind_some, List.getElem?_eq_getElem (e.lt_length hi), Option.map_some,
      slotAt]
  case h_2 hNone => simp only [hNone, Option.bind_none]

@[simp] theorem get?_empty (key : String) : empty.get? key = none := rfl

@[simp] theorem get?_insert (e : Entries) (key other : String) (slot : Slot) :
    (e.insert key slot).get? other = if other = key then some slot else e.get? other := by
  cases h : e.index.get? key with
  | some i =>
    have hPlace := e.lt_length h
    rw [insert_of_some e h, get?_eq_bind, get?_eq_bind, change]
    by_cases hOther : other = key
    · subst hOther
      rw [if_pos rfl, h, Option.bind_some, List.getElem?_set_self hPlace, Option.map_some]
    · rw [if_neg hOther]
      refine Option.bind_congr fun j hj => ?_
      have hApart : i ≠ j := by
        rintro rfl
        rw [e.indexed] at h hj
        exact hOther (Option.some.inj (hj.symm.trans h))
      rw [List.getElem?_set_ne hApart]
  | none =>
    rw [insert_of_none e h, get?_eq_bind, get?_eq_bind, append, Dictionary.get?_insert]
    by_cases hOther : other = key
    · simp [hOther]
    · rw [if_neg hOther, if_neg hOther]
      refine Option.bind_congr fun j hj => ?_
      rw [List.getElem?_append_left (e.lt_length hj)]

theorem map_fst_insert (e : Entries) (key : String) (slot : Slot) :
    (e.insert key slot).pairs.map Prod.fst =
      if key ∈ e.pairs.map Prod.fst then e.pairs.map Prod.fst
      else e.pairs.map Prod.fst ++ [key] := by
  cases h : e.index.get? key with
  | some i =>
    rw [if_pos ((e.mem_keys_iff key).mpr ⟨i, h⟩), insert_of_some e h]
    exact map_fst_set e.pairs (e.lt_length h) slot
  | none =>
    have hNew : key ∉ e.pairs.map Prod.fst := by
      rw [mem_keys_iff, h]
      exact nofun
    rw [if_neg hNew, insert_of_none e h, append, List.map_append, List.map_singleton]

theorem get?_eq_some_iff (e : Entries) {key : String} {slot : Slot} :
    e.get? key = some slot ↔ (key, slot) ∈ e.pairs := by
  rw [get?_eq_bind, Option.bind_eq_some_iff, List.mem_iff_getElem?]
  refine exists_congr fun i => ?_
  rw [e.indexed, List.getElem?_map]
  cases e.pairs[i]? with
  | none => simp
  | some p => simp [Prod.ext_iff]

theorem get?_eq_none_iff (e : Entries) {key : String} :
    e.get? key = none ↔ key ∉ e.pairs.map Prod.fst := by
  rw [List.mem_map, Option.eq_none_iff_forall_ne_some]
  constructor
  · rintro h ⟨⟨_, slot⟩, hMem, rfl⟩
    exact h slot (e.get?_eq_some_iff.mpr hMem)
  · intro h slot hSlot
    exact h ⟨(key, slot), e.get?_eq_some_iff.mp hSlot, rfl⟩

def size (e : Entries) : Nat := e.pairs.length

def isEmpty (e : Entries) : Bool := e.pairs.isEmpty

end Entries

/-- The entries found so far and the keyword that was last opened, if it has no value yet. -/
structure Pairing where
  entries : Entries
  opened : Option String

/-- The keyword that takes the next token as its value, unless that is a keyword. -/
def Pairing.awaiting? (p : Pairing) : Option String :=
  p.opened.filter fun keyword => p.entries.get? keyword == some .pending

def Pairing.step (g : Grammar) (p : Pairing) (token : String) : Pairing :=
  if g.isKeyword token then ⟨p.entries.insert token .pending, some token⟩
  else
    match p.awaiting? with
    | some keyword => ⟨p.entries.insert keyword (.value token), none⟩
    | none => ⟨p.entries.insert token .unknown, p.opened⟩

/-- Pairs tokens; of a keyword that occurs repeatedly only the last occurrence counts. -/
def pair (g : Grammar) (tokens : List String) : Entries :=
  (tokens.foldl (Pairing.step g) ⟨.empty, none⟩).entries

def parse (g : Grammar) (input : String) : Entries := pair g (tokenize input)

end PredictionJobs.Command
