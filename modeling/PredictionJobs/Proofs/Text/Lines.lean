import PredictionJobs.Text.Blank
import PredictionJobs.Text.Lines

/-! # Lines of texts

The bytes of a text in UTF-8 are cut where the text is: no character but the line feed has the byte
of the line feed in its encoding.
-/

namespace PredictionJobs.Text

/-- The bytes of a text in UTF-8. -/
def encode (s : String) : List UInt8 := s.toList.flatMap String.utf8EncodeChar

/-- The lines of a text, each with its line feed. -/
def textLines (s : String) : List String := (cutBehind '\n' s.toList).map String.ofList

theorem toByteArray_encode (s : String) : (encode s).toByteArray = s.toByteArray := by
  rw [← String.utf8Encode_toList]
  rfl

theorem decode?_eq_some_iff {bytes : List UInt8} {s : String} :
    decode? bytes = some s ↔ bytes = encode s := by
  have hBytes : (⟨bytes.toArray⟩ : ByteArray) = bytes.toByteArray :=
    ByteArray.ext List.data_toByteArray.symm
  have hInj : bytes.toByteArray = (encode s).toByteArray ↔ bytes = encode s := by
    constructor
    · intro h
      simpa using congrArg (fun b => b.data.toList) h
    · exact congrArg _
  rw [decode?, hBytes, ← hInj, toByteArray_encode, String.fromUTF8?]
  split
  case isTrue hValid =>
    rw [Option.some.injEq, ← String.toByteArray_inj]
    rfl
  case isFalse hValid =>
    constructor
    · intro h
      cases h
    · intro h
      exact absurd (h ▸ s.isValidUTF8) hValid

theorem decode?_encode (s : String) : decode? (encode s) = some s := decode?_eq_some_iff.mpr rfl

/-! ### Cutting behind a mark -/

section

variable {α : Type} [DecidableEq α] {mark : α}

theorem cutBehind_append {front : List α} (hNonempty : front ≠ []) (hMark : mark ∉ front)
    (rest : List α) :
    cutBehind mark (front ++ rest) =
      match cutBehind mark rest with
      | [] => [front]
      | piece :: pieces => (front ++ piece) :: pieces := by
  induction front with
  | nil => exact absurd rfl hNonempty
  | cons a front ih =>
    obtain ⟨hHere, hLater⟩ := not_or.mp (mt List.mem_cons.mpr hMark)
    rw [List.cons_append, cutBehind, if_neg (Ne.symm hHere)]
    cases front with
    | nil =>
      rw [List.nil_append]
      cases cutBehind mark rest <;> rfl
    | cons b front =>
      rw [ih (List.cons_ne_nil b front) hLater]
      cases cutBehind mark rest <;> rfl

theorem cutBehind_append_mark {front : List α} (h : mark ∉ front) (rest : List α) :
    cutBehind mark (front ++ mark :: rest) = (front ++ [mark]) :: cutBehind mark rest := by
  cases front with
  | nil => rw [List.nil_append, cutBehind, if_pos rfl, List.nil_append]
  | cons a front =>
    rw [cutBehind_append (List.cons_ne_nil a front) h, cutBehind, if_pos rfl]

theorem cutBehind_eq_of_not_mem {rest : List α} (h : mark ∉ rest) :
    cutBehind mark rest = if rest = [] then [] else [rest] := by
  split
  case isTrue hEmpty => rw [hEmpty, cutBehind]
  case isFalse hNonempty =>
    have hCut := cutBehind_append hNonempty h []
    rwa [List.append_nil] at hCut

theorem cutBehind_cons_ne_nil (a : α) (as : List α) : cutBehind mark (a :: as) ≠ [] := by
  rw [cutBehind]
  split
  · exact List.cons_ne_nil _ _
  · split <;> exact List.cons_ne_nil _ _

/-- Behind a mark everything is cut as if it stood alone. -/
theorem cutBehind_ended_append {front : List α} (h : ∀ a ∈ front.getLast?, a = mark)
    (rest : List α) :
    cutBehind mark (front ++ rest) = cutBehind mark front ++ cutBehind mark rest := by
  induction front with
  | nil => rfl
  | cons a front ih =>
    cases front with
    | nil =>
      obtain rfl := h a rfl
      simp [cutBehind]
    | cons b front =>
      rw [List.getLast?_cons_cons] at h
      rw [List.cons_append, cutBehind, ih h, cutBehind.eq_def mark (a :: b :: front)]
      dsimp only
      split
      case isTrue => rfl
      case isFalse =>
        cases hCut : cutBehind mark (b :: front) with
        | nil => exact absurd hCut (cutBehind_cons_ne_nil b front)
        | cons piece pieces => rfl

theorem getLast?_of_mem_cutBehind {front : List α} (h : ∀ a ∈ front.getLast?, a = mark) :
    ∀ piece ∈ cutBehind mark front, piece.getLast? = some mark := by
  induction front with
  | nil => simp [cutBehind]
  | cons a front ih =>
    cases front with
    | nil =>
      obtain rfl := h a rfl
      simp [cutBehind]
    | cons b front =>
      rw [List.getLast?_cons_cons] at h
      rw [cutBehind]
      split
      case isTrue hMark =>
        rw [List.forall_mem_cons]
        exact ⟨congrArg some hMark, ih h⟩
      case isFalse =>
        cases hCut : cutBehind mark (b :: front) with
        | nil => exact absurd hCut (cutBehind_cons_ne_nil b front)
        | cons piece pieces =>
          rw [hCut, List.forall_mem_cons] at ih
          obtain ⟨hPiece, hPieces⟩ := ih h
          rw [List.forall_mem_cons, List.getLast?_cons, hPiece]
          exact ⟨rfl, hPieces⟩

end

/-- A line that is not ended makes no difference to those that are. -/
theorem endedLines_append {front : List UInt8} (hFront : ∀ byte ∈ front.getLast?, byte = 0x0A)
    {rest : List UInt8} (hRest : 0x0A ∉ rest) : endedLines (front ++ rest) = lines front := by
  have hKept : (cutBehind (0x0A : UInt8) front).filter
      (fun line => line.getLast? = some 0x0A) = cutBehind 0x0A front := by
    rw [List.filter_eq_self]
    intro line hLine
    exact decide_eq_true (getLast?_of_mem_cutBehind hFront line hLine)
  have hDropped : (cutBehind (0x0A : UInt8) rest).filter
      (fun line => line.getLast? = some 0x0A) = [] := by
    rw [cutBehind_eq_of_not_mem hRest, List.filter_eq_nil_iff]
    intro line hLine hLast
    split at hLine
    case isTrue => cases hLine
    case isFalse =>
      obtain rfl := List.mem_singleton.mp hLine
      exact hRest (List.mem_of_getLast? (of_decide_eq_true hLast))
  rw [endedLines, cutBehind_ended_append hFront, List.filter_append, hKept, hDropped,
    List.append_nil, lines]

theorem encodeChar_lineFeed : String.utf8EncodeChar '\n' = [0x0A] := by decide

/-- All bytes of a character of several bytes are above those of single bytes. -/
theorem lineFeed_not_mem_encodeChar {c : Char} (h : c ≠ '\n') :
    (0x0A : UInt8) ∉ String.utf8EncodeChar c := by
  have hByte : ∀ n : Nat, (0x0A : UInt8) = UInt8.ofNat n ↔ n % 256 = 10 := by
    intro n
    rw [eq_comm, UInt8.ofNat_eq_iff_mod_eq_toNat]
    rfl
  have hFeed : c.val.toNat ≠ 10 := fun hVal => h (Char.ext (UInt32.toNat_inj.mp hVal))
  simp only [String.utf8EncodeChar]
  split
  · simp only [List.mem_singleton, hByte]
    omega
  · split
    · simp only [List.mem_cons, List.not_mem_nil, or_false, hByte]
      omega
    · split
      · simp only [List.mem_cons, List.not_mem_nil, or_false, hByte]
        omega
      · simp only [List.mem_cons, List.not_mem_nil, or_false, hByte]
        omega

theorem cutBehind_flatMap_encodeChar (cs : List Char) :
    cutBehind 0x0A (cs.flatMap String.utf8EncodeChar) =
      (cutBehind '\n' cs).map fun piece => piece.flatMap String.utf8EncodeChar := by
  induction cs with
  | nil => rfl
  | cons c cs ih =>
    rw [List.flatMap_cons, cutBehind]
    split
    case isTrue hFeed =>
      rw [hFeed, encodeChar_lineFeed]
      simp [cutBehind, ih, encodeChar_lineFeed]
    case isFalse hFeed =>
      rw [cutBehind_append String.utf8EncodeChar_ne_nil (lineFeed_not_mem_encodeChar hFeed), ih]
      cases cutBehind '\n' cs <;> simp

/-- Every line of the bytes of a text is a text, namely the line of the text in that place. -/
theorem lines_encode (s : String) : lines (encode s) = (textLines s).map some := by
  rw [lines, encode, cutBehind_flatMap_encodeChar, textLines, List.map_map, List.map_map]
  refine List.map_congr_left fun piece _ => ?_
  have hEncode : piece.flatMap String.utf8EncodeChar = encode (String.ofList piece) := by
    rw [encode, String.toList_ofList]
  simp [hEncode, decode?_encode]

/-- The ends of a line: a line feed, perhaps behind a carriage return, or the end of the input. -/
def lineEnds : List String := ["\n", "\r\n", ""]

theorem isBlankText_of_mem_lineEnds {ending : String} (h : ending ∈ lineEnds) :
    isBlankText ending = true := by
  have hAll : ∀ ending ∈ lineEnds, isBlankText ending = true := by decide
  exact hAll ending h

/-- A text without line feeds is a line of its own, however it ends. -/
theorem textLines_append_lineEnd {s ending : String} (hNonempty : s ≠ "") (hFeed : '\n' ∉ s.toList)
    (hEnding : ending ∈ lineEnds) : textLines (s ++ ending) = [s ++ ending] := by
  have hCut : cutBehind '\n' ending.toList = if ending = "" then [] else [ending.toList] := by
    have hAll : ∀ ending ∈ lineEnds,
        cutBehind '\n' ending.toList = if ending = "" then [] else [ending.toList] := by decide
    exact hAll ending hEnding
  have hFront : s.toList ≠ [] := mt String.toList_eq_nil_iff.mp hNonempty
  rw [textLines, String.toList_append, cutBehind_append hFront hFeed, hCut]
  by_cases hEnd : ending = ""
  · simp [hEnd]
  · simp [hEnd]

/-- Texts without line feeds, each with one behind it, are the lines of what they make up. -/
theorem textLines_join {texts : List String} (h : ∀ s ∈ texts, '\n' ∉ s.toList) :
    textLines (String.join (texts.map (· ++ "\n"))) = texts.map (· ++ "\n") := by
  induction texts with
  | nil => rfl
  | cons s texts ih =>
    obtain ⟨hHead, hTail⟩ := List.forall_mem_cons.mp h
    have hText : (String.join ((s :: texts).map (· ++ "\n"))).toList =
        s.toList ++ '\n' :: (String.join (texts.map (· ++ "\n"))).toList := by
      simp
    have hRest := ih hTail
    rw [textLines] at hRest ⊢
    rw [hText, cutBehind_append_mark hHead, List.map_cons, hRest, List.map_cons]
    simp

end PredictionJobs.Text
