import PredictionJobs.Command.Standard
import PredictionJobs.Proofs.Command.Pairing

/-! # Roles of tokens

Every token of a command has one role, which it has by itself and the token before it: it opens the
entry of a keyword, is the value of the keyword before it, or is a stray. The scan does at every
token what its role asks for, and so ends with one entry for every keyword and every stray, in the
order in which they first occurred as such.
-/

namespace PredictionJobs.Command

variable {g : Grammar} {ts : List String}

inductive Role where
  /-- A keyword opens its entry, or opens it again. -/
  | opening
  | value (keyword : String)
  | stray
  deriving DecidableEq

/-- The role of a token behind another one, or of the first token. -/
def roleBehind (g : Grammar) (before? : Option String) (t : String) : Role :=
  if g.isKeyword t then .opening
  else
    match before?.filter g.isKeyword with
    | some keyword => .value keyword
    | none => .stray

def rolesBehind (g : Grammar) : Option String → List String → List (String × Role)
  | _, [] => []
  | before?, t :: rest => (t, roleBehind g before? t) :: rolesBehind g (some t) rest

/-- The tokens with their roles. -/
def roles (g : Grammar) (ts : List String) : List (String × Role) := rolesBehind g none ts

/-- Whether a token of this role is a key of its own. -/
def Role.isKey : Role → Bool
  | .value _ => false
  | _ => true

/-- The tokens that are keys, in their order and as often as they occur as such. -/
def keysOf (g : Grammar) (ts : List String) : List String :=
  ((roles g ts).filter fun r => r.2.isKey).map Prod.fst

/-- The slot of a key by the token behind its last occurrence. -/
def slotOf (g : Grammar) (ts : List String) (key : String) : Slot :=
  if g.isKeyword key then
    match (follower? key ts).filter fun t => !g.isKeyword t with
    | some v => .value v
    | none => .pending
  else .unknown

/-! ### Roles by positions -/

section

variable {before? : Option String} {t keyword : String}

theorem roleBehind_eq_opening_iff :
    roleBehind g before? t = .opening ↔ g.isKeyword t = true := by
  rw [roleBehind]
  split
  case isTrue hKey => simp [hKey]
  case isFalse hKey =>
    simp only [hKey]
    split <;> simp

theorem roleBehind_eq_value_iff :
    roleBehind g before? t = .value keyword ↔
      g.isKeyword t = false ∧ before? = some keyword ∧ g.isKeyword keyword = true := by
  rw [roleBehind, ← Option.filter_eq_some_iff]
  split
  case isTrue hKey => simp [hKey]
  case isFalse hKey =>
    simp only [hKey]
    split
    case h_1 hBefore => simp [hBefore]
    case h_2 hBefore => simp [hBefore]

theorem isKey_roleBehind (g : Grammar) (before? : Option String) (t : String) :
    (roleBehind g before? t).isKey = (g.isKeyword t || !before?.any g.isKeyword) := by
  rw [roleBehind]
  cases g.isKeyword t with
  | true => rfl
  | false =>
    cases before? with
    | none => rfl
    | some before =>
      cases hBefore : g.isKeyword before <;> simp [Role.isKey, Option.filter_some, hBefore]

end

theorem rolesBehind_concat (g : Grammar) (before? : Option String) (ts : List String)
    (t : String) :
    rolesBehind g before? (ts ++ [t]) =
      rolesBehind g before? ts ++ [(t, roleBehind g (ts.getLast?.or before?) t)] := by
  induction ts generalizing before? with
  | nil => simp [rolesBehind]
  | cons u rest ih =>
    have hLast : (u :: rest).getLast?.or before? = rest.getLast?.or (some u) := by
      cases rest with
      | nil => rfl
      | cons w rest => simp [List.getLast?_cons]
    rw [List.cons_append, rolesBehind, rolesBehind, ih, hLast, List.cons_append]

theorem roles_concat (g : Grammar) (ts : List String) (t : String) :
    roles g (ts ++ [t]) = roles g ts ++ [(t, roleBehind g ts.getLast? t)] := by
  rw [roles, rolesBehind_concat, Option.or_none]
  rfl

theorem map_fst_roles (g : Grammar) (ts : List String) : (roles g ts).map Prod.fst = ts := by
  induction ts using List.reverseRecOn with
  | nil => rfl
  | append_singleton ts t ih => rw [roles_concat, List.map_append, ih]; rfl

theorem keysOf_concat (g : Grammar) (ts : List String) (t : String) :
    keysOf g (ts ++ [t]) =
      keysOf g ts ++ if (roleBehind g ts.getLast? t).isKey then [t] else [] := by
  rw [keysOf, roles_concat, List.filter_append, List.map_append]
  cases hKey : (roleBehind g ts.getLast? t).isKey <;> simp [keysOf, hKey]

/-! ### The scan -/

def scan (g : Grammar) (ts : List String) : Pairing := ts.foldl (Pairing.step g) ⟨.empty, none⟩

theorem scan_concat (g : Grammar) (ts : List String) (t : String) :
    scan g (ts ++ [t]) = (scan g ts).step g t := by simp [scan]

theorem entries_scan (g : Grammar) (ts : List String) : (scan g ts).entries = pair g ts := rfl

/-- What a scan does at a token of a role. -/
def Role.act (p : Pairing) (t : String) : Role → Pairing
  | .opening => ⟨p.entries.insert t .pending, some t⟩
  | .value keyword => ⟨p.entries.insert keyword (.value t), none⟩
  | .stray => ⟨p.entries.insert t .unknown, p.opened⟩

/-- What a scan has found that does what these roles ask for. -/
def enact (found : List (String × Role)) : Pairing :=
  found.foldl (fun p r => r.2.act p r.1) ⟨.empty, none⟩

theorem awaiting?_scan (g : Grammar) (ts : List String) :
    (scan g ts).awaiting? = ts.getLast?.filter g.isKeyword := (reflects_pair g ts).awaiting

theorem step_scan (g : Grammar) (ts : List String) (t : String) :
    (scan g ts).step g t = (roleBehind g ts.getLast? t).act (scan g ts) t := by
  rw [Pairing.step, roleBehind, awaiting?_scan]
  split
  case isTrue => rfl
  case isFalse => cases ts.getLast?.filter g.isKeyword <;> rfl

theorem scan_eq_enact (g : Grammar) (ts : List String) : scan g ts = enact (roles g ts) := by
  induction ts using List.reverseRecOn with
  | nil => rfl
  | append_singleton ts t ih =>
    rw [scan_concat, step_scan, ih, roles_concat, enact, enact, List.foldl_append]
    rfl

/-- The keyword that was opened last is kept just as long as it is the last token. -/
theorem opened_scan (g : Grammar) (ts : List String) :
    (scan g ts).opened = ts.getLast?.filter g.isKeyword := by
  induction ts using List.reverseRecOn with
  | nil => rfl
  | append_singleton ts t ih =>
    rw [scan_concat, step_scan, roleBehind]
    cases hKey : g.isKeyword t with
    | true => simp [Role.act, hKey, Option.filter_some]
    | false =>
      cases hLast : ts.getLast?.filter g.isKeyword with
      | some keyword => simp [Role.act, hKey, Option.filter_some]
      | none => simp [Role.act, ih, hLast, hKey, Option.filter_some]

theorem get?_of_opened_scan {keyword : String} (h : (scan g ts).opened = some keyword) :
    (scan g ts).entries.get? keyword = some .pending := by
  rw [opened_scan, Option.filter_eq_some_iff] at h
  rw [entries_scan, get?_pair h.2, slotAt?_of_getLast? h.1]

/-! ### The entries -/

theorem mem_keysOf_of_getLast? {key : String} (h : ts.getLast? = some key)
    (hKey : g.isKeyword key = true) : key ∈ keysOf g ts := by
  obtain ⟨front, rfl⟩ := List.getLast?_eq_some_iff.mp h
  simp [keysOf_concat, isKey_roleBehind, hKey]

theorem map_fst_pair (g : Grammar) (ts : List String) :
    (pair g ts).pairs.map Prod.fst = (keysOf g ts).eraseDups := by
  induction ts using List.reverseRecOn with
  | nil => rfl
  | append_singleton ts t ih =>
    have hInsert : ∀ key slot, ((pair g ts).insert key slot).pairs.map Prod.fst =
        if key ∈ keysOf g ts then (keysOf g ts).eraseDups
        else (keysOf g ts).eraseDups ++ [key] := by
      intro key slot
      rw [Entries.map_fst_insert, ih]
      simp only [List.mem_eraseDups]
    rw [← entries_scan, scan_concat, step_scan, keysOf_concat]
    cases hRole : roleBehind g ts.getLast? t with
    | opening => exact (hInsert t .pending).trans (eraseDups_concat _ t).symm
    | stray => exact (hInsert t .unknown).trans (eraseDups_concat _ t).symm
    | value keyword =>
      -- The keyword before a value has its entry already.
      obtain ⟨_, hLast, hKey⟩ := roleBehind_eq_value_iff.mp hRole
      have hKeys := hInsert keyword (.value t)
      rw [if_pos (mem_keysOf_of_getLast? hLast hKey)] at hKeys
      rw [if_neg (by simp [Role.isKey]), List.append_nil]
      exact hKeys

theorem keysOf_subset (g : Grammar) (ts : List String) : keysOf g ts ⊆ ts := by
  intro key hMem
  rw [keysOf] at hMem
  have hSub := (List.filter_sublist (p := fun r : String × Role => r.2.isKey)
    (l := roles g ts)).map Prod.fst
  rw [map_fst_roles] at hSub
  exact hSub.subset hMem

theorem filter_keysOf (g : Grammar) (ts : List String) :
    (keysOf g ts).filter (fun key => !g.isKeyword key) = strays g ts := by
  induction ts using List.reverseRecOn with
  | nil => rfl
  | append_singleton ts t ih =>
    rw [keysOf_concat, strays_concat, List.filter_append, ih, isKey_roleBehind]
    congr 1
    cases hKey : g.isKeyword t with
    | true => simp [hKey]
    | false => cases hBefore : ts.getLast?.any g.isKeyword <;> simp [hKey]

theorem mem_keysOf_of_isKeyword {key : String} (hKey : g.isKeyword key = true) (hMem : key ∈ ts) :
    key ∈ keysOf g ts := by
  obtain ⟨front, back, rfl⟩ := List.append_of_mem hMem
  induction back using List.reverseRecOn with
  | nil => exact mem_keysOf_of_getLast? List.getLast?_concat hKey
  | append_singleton back t ih =>
    rw [← List.cons_append, ← List.append_assoc, keysOf_concat]
    exact List.mem_append_left _ (ih (by simp))

/-- The keys are the keywords that occur and the strays. -/
theorem mem_keysOf_iff {key : String} :
    key ∈ keysOf g ts ↔ (g.isKeyword key = true ∧ key ∈ ts) ∨ key ∈ strays g ts := by
  rw [← filter_keysOf, List.mem_filter]
  constructor
  · intro hMem
    cases hKey : g.isKeyword key with
    | true => exact .inl ⟨rfl, keysOf_subset g ts hMem⟩
    | false => exact .inr ⟨hMem, rfl⟩
  · rintro (⟨hKey, hMem⟩ | ⟨hMem, _⟩)
    · exact mem_keysOf_of_isKeyword hKey hMem
    · exact hMem

theorem slotAt?_eq_slotOf {key : String} (hKey : g.isKeyword key = true) (hMem : key ∈ ts) :
    slotAt? g ts key = some (slotOf g ts key) := by
  rw [slotAt?, if_pos hMem, slotOf, if_pos hKey]
  cases follower? key ts with
  | none => rfl
  | some v => cases hValue : g.isKeyword v <;> simp [hValue, Option.filter_some]

theorem eq_unknown_of_get?_pair {key : String} {slot : Slot} (hKey : g.isKeyword key = false)
    (h : (pair g ts).get? key = some slot) : slot = .unknown := by
  induction ts using List.reverseRecOn with
  | nil => cases h
  | append_singleton ts t ih =>
    rw [← entries_scan, scan_concat, step_scan] at h
    cases hRole : roleBehind g ts.getLast? t with
    | opening =>
      have ht : g.isKeyword t = true := roleBehind_eq_opening_iff.mp hRole
      have hNe : key ≠ t := fun heq => Bool.false_ne_true (hKey.symm.trans (heq ▸ ht))
      rw [hRole, Role.act, Entries.get?_insert, if_neg hNe] at h
      exact ih h
    | value keyword =>
      have hKeyword : g.isKeyword keyword = true := (roleBehind_eq_value_iff.mp hRole).2.2
      have hNe : key ≠ keyword := fun heq => Bool.false_ne_true (hKey.symm.trans (heq ▸ hKeyword))
      rw [hRole, Role.act, Entries.get?_insert, if_neg hNe] at h
      exact ih h
    | stray =>
      rw [hRole, Role.act, Entries.get?_insert] at h
      split at h
      · exact (Option.some.inj h).symm
      · exact ih h

theorem get?_pair_of_mem_keysOf {key : String} (hMem : key ∈ keysOf g ts) :
    (pair g ts).get? key = some (slotOf g ts key) := by
  cases hKey : g.isKeyword key with
  | true => rw [get?_pair hKey, slotAt?_eq_slotOf hKey (keysOf_subset g ts hMem)]
  | false =>
    have hEntry : (pair g ts).get? key ≠ none := by
      rw [Ne, Entries.get?_eq_none_iff, map_fst_pair, List.mem_eraseDups]
      exact not_not_intro hMem
    obtain ⟨slot, hSlot⟩ := Option.ne_none_iff_exists'.mp hEntry
    have hStray : slotOf g ts key = .unknown := if_neg (Bool.eq_false_iff.mp hKey)
    rw [hSlot, hStray, eq_unknown_of_get?_pair hKey hSlot]

theorem pairs_pair (g : Grammar) (ts : List String) :
    (pair g ts).pairs = (keysOf g ts).eraseDups.map fun key => (key, slotOf g ts key) := by
  rw [← map_fst_pair]
  apply Entries.pairs_eq_map
  intro key slot hSlot
  have hMem : key ∈ keysOf g ts := by
    rw [← List.mem_eraseDups, ← map_fst_pair]
    exact List.mem_map_of_mem ((pair g ts).get?_eq_some_iff.mp hSlot)
  rwa [get?_pair_of_mem_keysOf hMem, Option.some.injEq] at hSlot

theorem slotOf_eq_unknown_iff {key : String} :
    slotOf g ts key = .unknown ↔ g.isKeyword key = false := by
  rw [slotOf]
  cases g.isKeyword key with
  | true => cases (follower? key ts).filter fun t => !g.isKeyword t <;> simp
  | false => simp

/-- Every token has one role, by its place, and the scan does at every token what its role asks for;
a keyword that it has opened always awaits its value. The scan ends with one entry for every keyword
and every stray, in the order in which they first occurred as such, with the slot that the token
behind the last occurrence of a keyword gives it; just the strays are unknown. -/
theorem pair_by_positions (g : Grammar) (ts : List String) :
    (roles g ts).map Prod.fst = ts ∧
    (∀ front, front <+: ts →
      scan g front = enact (roles g front) ∧
      (scan g front).awaiting? = (scan g front).opened ∧
      ∀ keyword, (scan g front).opened = some keyword →
        (scan g front).entries.get? keyword = some .pending) ∧
    pair g ts = (enact (roles g ts)).entries ∧
    (pair g ts).pairs = (keysOf g ts).eraseDups.map (fun key => (key, slotOf g ts key)) ∧
    (∀ key, key ∈ keysOf g ts ↔ (g.isKeyword key = true ∧ key ∈ ts) ∨ key ∈ strays g ts) ∧
    ∀ key slot, (key, slot) ∈ (pair g ts).pairs →
      (slot = .unknown ↔ g.isKeyword key = false) := by
  refine ⟨map_fst_roles g ts, ?_, ?_, pairs_pair g ts, fun key => mem_keysOf_iff, ?_⟩
  · intro front _
    refine ⟨scan_eq_enact g front, ?_, fun keyword => get?_of_opened_scan⟩
    rw [awaiting?_scan, opened_scan]
  · rw [← scan_eq_enact, entries_scan]
  · intro key slot hPair
    rw [pairs_pair] at hPair
    obtain ⟨_, _, hEntry⟩ := List.mem_map.mp hPair
    cases hEntry
    exact slotOf_eq_unknown_iff

example :
    let ts := ["a", "pca", "kernel", "rbf", "rbf", "pca", "true", "a"]
    keysOf .standard ts = ["a", "pca", "kernel", "rbf", "pca", "a"] ∧
    (pair .standard ts).pairs = [("a", .unknown), ("pca", .value "true"), ("kernel", .value "rbf"),
      ("rbf", .unknown)] := by decide +kernel

end PredictionJobs.Command
