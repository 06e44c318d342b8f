import PredictionJobs.Proofs.Binary64.Plain
import PredictionJobs.Proofs.Submission
import PredictionJobs.Proofs.Text.Joined

/-! # Wordings

A message is an opening, a key and a closing. A key holds no space, so it ends where the closing
starts; where there is no closing, the next message starts with a word of its own. So the messages
of a report, and the lines of parameters, can be read off the text into which they are joined.
-/

namespace PredictionJobs.Command

open Text

/-- The words of a message around its key. -/
inductive Wording where
  | unknown
  | unheard
  | required
  | missing
  | range
  | number
  | string
  | boolean
  deriving DecidableEq

namespace Wording

def opening : Wording → String
  | .unknown => "Unknown or misspelled keyword: "
  | .unheard => "No such keyword: "
  | .required => "Missing required keyword: "
  | .missing | .range | .number | .string | .boolean => "Value for "

/-- The words behind the key, in front of the bounds if there are such. -/
def closing : Wording → String
  | .unknown | .unheard | .required => ""
  | .missing => " is missing."
  | .range => " is not correct; expected a number between "
  | .number => " is not correct; expected a number."
  | .string => " is not correct; expected a string."
  | .boolean => " is not correct; expected a boolean."

theorem worded_opening (a : Wording) : Worded a.opening.toList := by
  cases a
  case unknown => exact ⟨"Unknown".toList, "or misspelled keyword: ".toList, by decide +kernel⟩
  case unheard => exact ⟨"No".toList, "such keyword: ".toList, by decide +kernel⟩
  case required => exact ⟨"Missing".toList, "required keyword: ".toList, by decide +kernel⟩
  all_goals exact ⟨"Value".toList, "for ".toList, by decide +kernel⟩

variable {a b : Wording} {rest rest' : List Char}

theorem opening_eq_of_isPrefix (h : a.opening.toList <+: b.opening.toList) :
    a.opening = b.opening := by
  cases a <;> cases b <;> simp_all [opening]

theorem eq_of_closing_isPrefix (hOpening : a.opening = b.opening)
    (h : a.closing.toList <+: b.closing.toList) : a = b := by
  cases a <;> cases b <;> simp_all [opening, closing]

/-- Where no closing follows the key, the opening says it all. -/
theorem closing_cases (h : a.opening = b.opening) :
    (a = b ∧ a.closing = "") ∨
      (a.closing.toList.head? = some ' ' ∧ b.closing.toList.head? = some ' ') := by
  cases a <;> cases b <;> simp_all [opening, closing]

theorem opening_append_inj (h : a.opening.toList ++ rest = b.opening.toList ++ rest') :
    a.opening = b.opening ∧ rest = rest' := by
  have hOpening : a.opening = b.opening := by
    rcases isPrefix_or_isPrefix h with hPrefix | hPrefix
    · exact opening_eq_of_isPrefix hPrefix
    · exact (opening_eq_of_isPrefix hPrefix).symm
  rw [hOpening] at h
  exact ⟨hOpening, List.append_cancel_left h⟩

theorem closing_append_inj (hOpening : a.opening = b.opening)
    (h : a.closing.toList ++ rest = b.closing.toList ++ rest') : a = b ∧ rest = rest' := by
  have hSame : a = b := by
    rcases isPrefix_or_isPrefix h with hPrefix | hPrefix
    · exact eq_of_closing_isPrefix hOpening hPrefix
    · exact (eq_of_closing_isPrefix hOpening.symm hPrefix).symm
  subst hSame
  exact ⟨rfl, List.append_cancel_left h⟩

end Wording

/-! ### Messages -/

namespace Problem

def wording : Problem → Wording
  | .unknownKeyword _ => .unknown
  | .noSuchKeyword _ => .unheard
  | .missingValue _ => .missing
  | .missingRequired _ => .required
  | .outOfRange _ _ _ => .range
  | .notANumber _ => .number
  | .notAString _ => .string
  | .notABoolean _ => .boolean

/-- The bounds of which a message tells. -/
def bounds : Problem → String
  | .outOfRange _ min max =>
    Binary64.plain.text min ++ " and " ++ Binary64.plain.text max ++ "."
  | _ => ""

/-- Equality up to how bounds are printed. -/
inductive SameShown : Problem → Problem → Prop
  | refl (p : Problem) : SameShown p p
  | outOfRange (key : String) {min max min' max' : Binary64}
      (hMin : Binary64.plain.text min = Binary64.plain.text min')
      (hMax : Binary64.plain.text max = Binary64.plain.text max') :
      SameShown (.outOfRange key min max) (.outOfRange key min' max')

theorem message_eq (p : Problem) :
    p.message = p.wording.opening ++ p.key ++ p.wording.closing ++ p.bounds := by
  cases p
  case unknownKeyword | noSuchKeyword | missingRequired =>
    exact (String.append_empty.trans String.append_empty).symm
  case outOfRange key min max =>
    change "Value for " ++ key ++ Wording.range.closing ++ Binary64.plain.text min ++ " and " ++
      Binary64.plain.text max ++ "." = "Value for " ++ key ++ Wording.range.closing ++
        (Binary64.plain.text min ++ " and " ++ Binary64.plain.text max ++ ".")
    simp only [String.append_assoc]
  all_goals exact String.append_empty.symm

theorem toList_message (p : Problem) :
    p.message.toList = p.wording.opening.toList ++
      (p.key.toList ++ (p.wording.closing.toList ++ p.bounds.toList)) := by
  simp only [message_eq, String.toList_append, List.append_assoc]

theorem SameShown.message_eq {p q : Problem} (h : SameShown p q) : p.message = q.message := by
  cases h with
  | refl => rfl
  | outOfRange key hMin hMax =>
    rw [Problem.message_eq, Problem.message_eq, bounds, bounds, hMin, hMax]
    rfl

theorem worded_message (p : Problem) : Worded p.message.toList := by
  rw [toList_message]
  exact p.wording.worded_opening.append _

theorem bounds_eq_of_closing_eq {p : Problem} (h : p.wording.closing = "") : p.bounds = "" := by
  cases p
  case outOfRange => simp [wording, Wording.closing] at h
  all_goals rfl

/-- A text of bounds is told from what goes on behind it. -/
theorem sameShown_of_bounds {p q : Problem} (hWording : p.wording = q.wording)
    (hKey : p.key = q.key) {t t' : List Char} (ht : Continues t) (ht' : Continues t')
    (h : p.bounds.toList ++ t = q.bounds.toList ++ t') : SameShown p q ∧ t = t' := by
  cases p <;> cases q <;> cases hWording
  case outOfRange.outOfRange key min max key' min' max' =>
    obtain rfl : key = key' := hKey
    have hBounds : (Binary64.plain.text min).toList ++
          ' ' :: ("and ".toList ++ ((Binary64.plain.text max ++ ".").toList ++ t)) =
        (Binary64.plain.text min').toList ++
          ' ' :: ("and ".toList ++ ((Binary64.plain.text max' ++ ".").toList ++ t')) := by
      simpa [bounds] using h
    obtain ⟨hMin, hBehind⟩ := (append_mark_inj (Binary64.space_not_mem_plain min)
      (Binary64.space_not_mem_plain min')).mp hBounds
    obtain ⟨hMax, rfl⟩ := (ht.append_inj ht' (by simp [Binary64.space_not_mem_plain])
      (by simp [Binary64.space_not_mem_plain])).mp (List.append_cancel_left hBehind)
    have hMax : Binary64.plain.text max = Binary64.plain.text max' := by
      simpa using String.toList_inj.mp hMax
    exact ⟨.outOfRange key (String.toList_inj.mp hMin) hMax, rfl⟩
  all_goals
    obtain rfl : _ = _ := hKey
    exact ⟨.refl _, h⟩

/-- A message is told from what goes on behind it. -/
theorem sameShown_of_message {p q : Problem} (hp : ' ' ∉ p.key.toList) (hq : ' ' ∉ q.key.toList)
    {t t' : List Char} (ht : Continues t) (ht' : Continues t')
    (h : p.message.toList ++ t = q.message.toList ++ t') : SameShown p q ∧ t = t' := by
  simp only [toList_message, List.append_assoc] at h
  obtain ⟨hOpening, h⟩ := Wording.opening_append_inj h
  rcases Wording.closing_cases hOpening with ⟨hWording, hClosing⟩ | ⟨hClosing, hClosing'⟩
  · have hBounds := bounds_eq_of_closing_eq hClosing
    rw [hWording] at hClosing
    have hBounds' := bounds_eq_of_closing_eq hClosing
    simp only [hWording, hClosing, hBounds, hBounds', String.toList_empty, List.nil_append] at h
    obtain ⟨hKey, rfl⟩ := (ht.append_inj ht' hp hq).mp h
    exact sameShown_of_bounds hWording (String.toList_inj.mp hKey) ht ht' (by rw [hBounds, hBounds'])
  · obtain ⟨rest, hRest⟩ := List.head?_eq_some_iff.mp hClosing
    obtain ⟨rest', hRest'⟩ := List.head?_eq_some_iff.mp hClosing'
    rw [hRest, hRest', List.cons_append, List.cons_append] at h
    obtain ⟨hKey, h⟩ := (append_mark_inj hp hq).mp h
    have hBehind : p.wording.closing.toList ++ (p.bounds.toList ++ t) =
        q.wording.closing.toList ++ (q.bounds.toList ++ t') := by
      rw [hRest, hRest', List.cons_append, List.cons_append, h]
    obtain ⟨hWording, hBounds⟩ := Wording.closing_append_inj hOpening hBehind
    exact sameShown_of_bounds hWording (String.toList_inj.mp hKey) ht ht' hBounds

end Problem

theorem messages_eq_of_sameShown {ps qs : List Problem}
    (h : List.Forall₂ Problem.SameShown ps qs) : messages ps = messages qs := by
  have hTexts : ps.map Problem.message = qs.map Problem.message := by
    induction h with
    | nil => rfl
    | cons hHead _ ih => rw [List.map_cons, List.map_cons, hHead.message_eq, ih]
  rw [messages, hTexts, messages]

theorem messages_eq_iff {ps qs : List Problem} (hps : ∀ p ∈ ps, ' ' ∉ p.key.toList)
    (hqs : ∀ q ∈ qs, ' ' ∉ q.key.toList) :
    messages ps = messages qs ↔ List.Forall₂ Problem.SameShown ps qs := by
  refine ⟨fun h => ?_, messages_eq_of_sameShown⟩
  refine forall₂_of_intercalate (fun p _ => p.worded_message) ?_ hps hqs h
  intro p q hp hq t t' ht ht' hText
  exact Problem.sameShown_of_message hp hq ht ht' hText

/-! ### Reports -/

variable {g : Grammar}

theorem space_not_mem_key (hKeywords : ∀ field ∈ g.fields, ' ' ∉ field.keyword.toList)
    {input : String} {ps : List Problem} (h : validate g input = .invalid ps) :
    ∀ p ∈ ps, ' ' ∉ p.key.toList := by
  have hReport : report g (tokenize input) = ps := by
    rw [← problems_judge_pair]
    exact congrArg Verdict.problems h
  subst hReport
  intro p hp
  rcases key_of_mem_report hp with hToken | ⟨field, hField, hKey⟩
  · exact space_not_mem_of_mem_tokenize hToken
  · rw [hKey]
    exact hKeywords field hField

/-! ### Parameters -/

/-- Whether the key and the value of a pair can be told apart in a line. -/
structure Readable (pair : String × String) : Prop where
  space_key : ' ' ∉ pair.1.toList
  lineFeed_key : '\n' ∉ pair.1.toList
  space_value : ' ' ∉ pair.2.toList

def parameterLine (pair : String × String) : String := s!"{pair.1} = {pair.2}"

theorem toList_parameterLine (pair : String × String) :
    (parameterLine pair).toList = pair.1.toList ++ ' ' :: '=' :: ' ' :: pair.2.toList := by
  simp [parameterLine, toString]

theorem Readable.worded {pair : String × String} (h : Readable pair) :
    Worded (parameterLine pair).toList :=
  ⟨pair.1.toList, _, h.space_key, h.lineFeed_key, toList_parameterLine pair⟩

theorem Readable.append_inj {a b : String × String} (ha : Readable a) (hb : Readable b)
    {t t' : List Char} (ht : Continues t) (ht' : Continues t')
    (h : (parameterLine a).toList ++ t = (parameterLine b).toList ++ t') : a = b ∧ t = t' := by
  simp only [toList_parameterLine, List.append_assoc, List.cons_append] at h
  obtain ⟨hKey, hBehind⟩ := (append_mark_inj ha.space_key hb.space_key).mp h
  have hValues : a.2.toList ++ t = b.2.toList ++ t' := by simpa using hBehind
  obtain ⟨hValue, hRest⟩ := (ht.append_inj ht' ha.space_value hb.space_value).mp hValues
  exact ⟨Prod.ext (String.toList_inj.mp hKey) (String.toList_inj.mp hValue), hRest⟩

theorem parameterText_inj {p q : Parameters} (hp : ∀ pair ∈ p.pairs, Readable pair)
    (hq : ∀ pair ∈ q.pairs, Readable pair) :
    Display.parameterText p = Display.parameterText q ↔ p = q := by
  constructor
  · intro h
    have hPairs : List.Forall₂ Eq p.pairs q.pairs :=
      forall₂_of_intercalate (fun _ hPair => hPair.worded)
        (fun _ _ ha hb _ _ ht ht' hText => ha.append_inj hb ht ht' hText) hp hq h
    rw [List.forall₂_eq_eq_eq] at hPairs
    cases p
    cases q
    cases hPairs
    rfl
  · rintro rfl
    rfl

theorem readable_of_validate
    (hKeywords : ∀ field ∈ g.fields, ' ' ∉ field.keyword.toList ∧ '\n' ∉ field.keyword.toList)
    {input : String} {p : Parameters} (h : validate g input = .valid p) :
    ∀ pair ∈ p.pairs, Readable pair := by
  rintro ⟨key, v⟩ hPair
  have hSendable := sendable_of_validate h
  have hValue := Dictionary.get?_eq_some_iff.mpr hPair
  obtain ⟨field, hField, rfl⟩ :=
    (g.isKeyword_iff key).mp (hSendable.known key (Dictionary.mem_keys_iff.mpr ⟨v, hValue⟩))
  obtain ⟨hSpace, hFeed⟩ := hKeywords field hField
  exact ⟨hSpace, hFeed, (hSendable.values _ v hValue).2.1⟩

/-- The joined messages of two invalid commands are the same text only for problems of the same
kinds with the same keys in the same order, whose bounds are printed alike; the lines of parameters
of two valid commands only for the same parameters. Nothing is asked of stray tokens and values. -/
theorem reports_tell_verdicts_apart
    (hKeywords : ∀ field ∈ g.fields, ' ' ∉ field.keyword.toList ∧ '\n' ∉ field.keyword.toList)
    (a b : String) :
    (∀ ps qs, validate g a = .invalid ps → validate g b = .invalid qs →
      ((validate g a).joined? = (validate g b).joined? ↔ List.Forall₂ Problem.SameShown ps qs) ∧
      (messages ps = messages qs ↔ List.Forall₂ Problem.SameShown ps qs)) ∧
    ∀ p q, validate g a = .valid p → validate g b = .valid q →
      (Display.parameterText p = Display.parameterText q ↔ p = q) := by
  constructor
  · intro ps qs ha hb
    have hSpaces : ∀ field ∈ g.fields, ' ' ∉ field.keyword.toList :=
      fun field hField => (hKeywords field hField).1
    have hMessages := messages_eq_iff (space_not_mem_key hSpaces ha) (space_not_mem_key hSpaces hb)
    refine ⟨?_, hMessages⟩
    rw [ha, hb, Verdict.joined?, Verdict.joined?, Option.some.injEq]
    exact hMessages
  · intro p q ha hb
    exact parameterText_inj (readable_of_validate hKeywords ha) (readable_of_validate hKeywords hb)

/-- A line feed in front of words of a message does not make them a message. -/
theorem reports_tell_verdicts_apart_line_feed :
    let missing : List Problem :=
      [.missingRequired "file_name", .missingRequired "target_column", .missingRequired "model_type"]
    let ps : List Problem :=
      ["x\nMissing", "required", "keyword:", "y"].map Problem.unknownKeyword ++ missing
    let qs : List Problem :=
      ["x", "Missing", "required", "keyword:", "y"].map Problem.unknownKeyword ++ missing
    let p : Parameters :=
      .ofList [("file_name", "a\nkernel"), ("model_type", "3"), ("target_column", "=")]
    let q : Parameters := .ofList
      [("file_name", "a"), ("kernel", "="), ("model_type", "3"), ("target_column", "=")]
    validate .standard "x\nMissing required keyword: y" = .invalid ps ∧
    validate .standard "x Missing required keyword: y" = .invalid qs ∧ messages ps ≠ messages qs ∧
    validate .standard "file_name a\nkernel target_column = model_type 3" = .valid p ∧
    validate .standard "file_name a kernel = target_column = model_type 3" = .valid q ∧
    Display.parameterText p ≠ Display.parameterText q := by
  intro missing ps qs p q
  have hKeywords : ∀ field ∈ Grammar.standard.fields,
      ' ' ∉ field.keyword.toList ∧ '\n' ∉ field.keyword.toList := by decide +kernel
  have hInvalid : validate .standard "x\nMissing required keyword: y" = .invalid ps := by
    decide +kernel
  have hInvalid' : validate .standard "x Missing required keyword: y" = .invalid qs := by
    decide +kernel
  have hValid : validate .standard "file_name a\nkernel target_column = model_type 3" = .valid p := by
    decide +kernel
  have hValid' :
      validate .standard "file_name a kernel = target_column = model_type 3" = .valid q := by
    decide +kernel
  have hMessages := ((reports_tell_verdicts_apart hKeywords _ _).1 ps qs hInvalid hInvalid').2
  have hParameters := (reports_tell_verdicts_apart hKeywords _ _).2 p q hValid hValid'
  refine ⟨hInvalid, hInvalid', ?_, hValid, hValid', ?_⟩
  · intro hSame
    exact absurd (hMessages.mp hSame).length_eq (by decide)
  · intro hSame
    exact absurd (congrArg Dictionary.size (hParameters.mp hSame)) (by decide)

end PredictionJobs.Command
