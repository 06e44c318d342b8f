import PredictionJobs.Json.Fault
import PredictionJobs.Text.Digits

/-! # Reading JSON strings

A string is read from behind its opening quote. `pairing` says whether the halves of a character
outside the basic plane must come in pairs; where a string is only skipped they need not. Of a
control character in a string the report points past it, or before it where the string is skipped.
-/

namespace PredictionJobs.Json

open Text (byteCount hexNumber?)

def isLeadingHalf (n : Nat) : Bool := 0xD800 ≤ n && n ≤ 0xDBFF

def isTrailingHalf (n : Nat) : Bool := 0xDC00 ≤ n && n ≤ 0xDFFF

def joinHalves (leading trailing : Nat) : Char :=
  Char.ofNat ((leading - 0xD800) * 0x400 + (trailing - 0xDC00) + 0x10000)

/-- The fault of a hexadecimal escape whose four digits are not there: the text ends too early, or
one of its next four bytes is no digit. -/
def hexFault (cs : List Char) : Fault :=
  if byteCount cs < 4 then .justRead .endInString [] else ⟨.invalidEscape, cs, 4⟩

def simpleEscape? : Char → Option Char
  | '"' => some '"'
  | '\\' => some '\\'
  | '/' => some '/'
  | 'b' => some '\x08'
  | 'f' => some '\x0c'
  | 'n' => some '\n'
  | 'r' => some '\r'
  | 't' => some '\t'
  | _ => none

/-- The second half of a pair, read from behind the first. -/
def readTrailingHalf (cs : List Char) : Except Fault (Nat × List Char) :=
  match cs with
  | [] => .error (.justRead .endInString [])
  | '\\' :: [] => .error (.justRead .endInString [])
  | '\\' :: 'u' :: a :: b :: c :: d :: rest =>
    match hexNumber? [a, b, c, d] with
    | none => .error (hexFault (a :: b :: c :: d :: rest))
    | some n => if isTrailingHalf n then .ok (n, rest) else .error (.justRead .loneSurrogate rest)
  | '\\' :: 'u' :: rest => .error (hexFault rest)
  | '\\' :: rest => .error (.atNext .endInHexEscape rest)
  | rest => .error (.atNext .endInHexEscape rest)

theorem readTrailingHalf_shorter {cs rest : List Char} {n : Nat}
    (h : readTrailingHalf cs = .ok (n, rest)) : rest.length < cs.length := by
  unfold readTrailingHalf at h
  split at h <;> try contradiction
  split at h <;> try contradiction
  split at h <;> try contradiction
  simp only [Except.ok.injEq, Prod.mk.injEq] at h
  simp [← h.2]; omega

/-- The character of an escape, read from behind the backslash. -/
def readEscape (pairing : Bool) (cs : List Char) : Except Fault (Char × List Char) :=
  match cs with
  | [] => .error (.justRead .endInString [])
  | 'u' :: a :: b :: c :: d :: rest =>
    match hexNumber? [a, b, c, d] with
    | none => .error (hexFault (a :: b :: c :: d :: rest))
    | some n =>
      if !pairing then .ok (Char.ofNat n, rest)
      else if isTrailingHalf n then .error (.justRead .loneSurrogate rest)
      else if isLeadingHalf n then
        match readTrailingHalf rest with
        | .error fault => .error fault
        | .ok (m, rest) => .ok (joinHalves n m, rest)
      else .ok (Char.ofNat n, rest)
  | 'u' :: rest => .error (hexFault rest)
  | c :: rest =>
    match simpleEscape? c with
    | some e => .ok (e, rest)
    | none => .error (.atNext .invalidEscape (c :: rest))

theorem readEscape_shorter {pairing : Bool} {cs rest : List Char} {e : Char}
    (h : readEscape pairing cs = .ok (e, rest)) : rest.length < cs.length := by
  unfold readEscape at h
  split at h
  · contradiction
  · split at h
    · contradiction
    · split at h
      · simp only [Except.ok.injEq, Prod.mk.injEq] at h
        simp [← h.2]; omega
      · split at h
        · contradiction
        · split at h
          · split at h
            · contradiction
            case h_2 hRead =>
              simp only [Except.ok.injEq, Prod.mk.injEq] at h
              have hShort := readTrailingHalf_shorter hRead
              simp [← h.2]; omega
          · simp only [Except.ok.injEq, Prod.mk.injEq] at h
            simp [← h.2]; omega
  · contradiction
  · split at h
    · simp only [Except.ok.injEq, Prod.mk.injEq] at h
      simp [← h.2]
    · contradiction

/-- The characters of a string up to its closing quote, and what follows. -/
def readString (pairing : Bool) (cs : List Char) : Except Fault (List Char × List Char) :=
  match cs with
  | [] => .error (.justRead .endInString [])
  | '"' :: rest => .ok ([], rest)
  | '\\' :: rest =>
    match h : readEscape pairing rest with
    | .error fault => .error fault
    | .ok (e, rest') =>
      have : rest'.length < rest.length := readEscape_shorter h
      match readString pairing rest' with
      | .error fault => .error fault
      | .ok (text, rest) => .ok (e :: text, rest)
  | c :: rest =>
    if c.toNat < 0x20 then .error ⟨.controlCharacter, c :: rest, if pairing then 1 else 0⟩
    else
      match readString pairing rest with
      | .error fault => .error fault
      | .ok (text, rest) => .ok (c :: text, rest)
termination_by cs.length

theorem readString_shorter {pairing : Bool} {cs text rest : List Char}
    (h : readString pairing cs = .ok (text, rest)) : rest.length < cs.length := by
  fun_induction readString pairing cs generalizing text rest with
  | case1 => contradiction
  | case2 => simp only [Except.ok.injEq, Prod.mk.injEq] at h; simp [← h.2]
  | case3 => contradiction
  | case4 => simp_all
  | case5 _ _ _ hEsc _ _ _ hRead ih =>
    simp only [Except.ok.injEq, Prod.mk.injEq] at h
    have hShort := readEscape_shorter hEsc
    have := ih hRead
    simp [← h.2]; omega
  | case6 => contradiction
  | case7 => simp_all
  | case8 _ _ _ _ _ _ _ hRead ih =>
    simp only [Except.ok.injEq, Prod.mk.injEq] at h
    have := ih hRead
    simp [← h.2]; omega

end PredictionJobs.Json
