import Mathlib.Data.List.Forall2
import Mathlib.Order.Bounds.Defs
import PredictionJobs.Command.Standard
import PredictionJobs.Proofs.Display.Report
import PredictionJobs.Proofs.Text.Lines

/-! # Layout of tables

All lines of a table are divided in the same place, which lies as far left as the cells allow. The
rule tells where it is, so the cells can be read off the text, but for spaces at the end of a left
cell.
-/

namespace PredictionJobs.Display

open Command Service

/-! ### Divided lines -/

/-- Whether a line shows these two cells, divided at this width. -/
structure ShowsCells (width : Nat) (cells : String × String) (line : String) : Prop where
  left : ∃ spaces, line.toList.take width = cells.1.toList ++ List.replicate spaces ' '
  separator : (line.toList.drop width).take 3 = " | ".toList
  right : line.toList.drop (width + 3) = cells.2.toList

/-- Whether a line is a rule, divided at this width. -/
structure IsRule (width : Nat) (line : String) : Prop where
  left : line.toList.take width = List.replicate width '-'
  separator : (line.toList.drop width).take 3 = "-+-".toList
  right : ∀ c ∈ line.toList.drop (width + 3), c = '-'

/-- The cells of the lines below the rule of a table. The plus sign of the rule stands in the middle
of the separator. -/
def readCells (text : String) : List (String × String) :=
  match Text.textLines text with
  | _ :: rule :: rows =>
    let width := (rule.toList.takeWhile (· == '-')).length - 1
    rows.map fun line =>
      (Text.trimEnd ' ' (String.ofList (line.toList.take width)),
        String.ofList (line.toList.drop (width + 3)).dropLast)
  | _ => []

/-- How the text of a table is laid out: the lines, in this order, the division of all of them, the
least width that can hold the left cells, and what can be read off. -/
structure Aligned (t : Table) (text : String) (width : Nat) : Prop where
  count : (Text.textLines text).length = t.rows.length + 2
  lines : ∃ heading rule rows,
    Text.textLines text = (heading :: rule :: rows).map (· ++ "\n") ∧
    ShowsCells width (t.left, t.right) heading ∧ IsRule width rule ∧
    List.Forall₂ (ShowsCells width) t.rows rows ∧
    ∀ line ∈ heading :: rows, line.length ≤ rule.length
  least : IsLeast {w | ∀ cell ∈ t.left :: t.rows.map Prod.fst, cell.length ≤ w} width
  cells : readCells text = t.rows.map fun row => (Text.trimEnd ' ' row.1, row.2)

/-! ### Widths -/

theorem columnWidth_le_iff {heading : String} {cells : List String} {width : Nat} :
    columnWidth heading cells ≤ width ↔ ∀ cell ∈ heading :: cells, cell.length ≤ width := by
  rw [List.forall_mem_cons]
  induction cells with
  | nil => simp [columnWidth]
  | cons cell cells ih =>
    have hWidth : columnWidth heading (cell :: cells) =
        max cell.length (columnWidth heading cells) := rfl
    rw [hWidth, Nat.max_le, ih, List.forall_mem_cons]
    exact and_left_comm

theorem isLeast_leftWidth (t : Table) :
    IsLeast {w | ∀ cell ∈ t.left :: t.rows.map Prod.fst, cell.length ≤ w} t.leftWidth :=
  ⟨columnWidth_le_iff.mp (Nat.le_refl _), fun _ h => columnWidth_le_iff.mpr h⟩

theorem toList_padRight (width : Nat) (s : String) :
    (padRight width s).toList = s.toList ++ List.replicate (width - s.length) ' ' := by
  rw [padRight, String.toList_append, String.toList_ofList]

theorem length_padRight {width : Nat} {s : String} (h : s.length ≤ width) :
    (padRight width s).length = width := by
  rw [← String.length_toList, toList_padRight, List.length_append, String.length_toList,
    List.length_replicate, Nat.add_sub_cancel' h]

/-! ### Tables whose cells have one line -/

/-- Whether no cell of a table holds a line feed. -/
structure OneLined (t : Table) : Prop where
  left : '\n' ∉ t.left.toList
  right : '\n' ∉ t.right.toList
  rows : ∀ row ∈ t.rows, '\n' ∉ row.1.toList ∧ '\n' ∉ row.2.toList

theorem divided {width : Nat} {left separator : List Char} (right : List Char)
    (hLeft : left.length = width) (hSeparator : separator.length = 3) :
    (left ++ separator ++ right).take width = left ∧
    ((left ++ separator ++ right).drop width).take 3 = separator ∧
    (left ++ separator ++ right).drop (width + 3) = right := by
  subst hLeft
  have hFront : (left ++ separator).length = left.length + 3 := by
    rw [List.length_append, hSeparator]
  refine ⟨?_, ?_, ?_⟩
  · rw [List.append_assoc, List.take_left]
  · rw [List.append_assoc, List.drop_left, ← hSeparator, List.take_left]
  · rw [← hFront, List.drop_left]

variable {t : Table}

theorem toList_line (t : Table) (row : String × String) :
    (t.line row).toList = (padRight t.leftWidth row.1).toList ++ " | ".toList ++ row.2.toList := by
  rw [Table.line, String.toList_append, String.toList_append]

theorem toList_rule (t : Table) :
    t.rule.toList =
      List.replicate t.leftWidth '-' ++ "-+-".toList ++ List.replicate t.rightWidth '-' := by
  simp only [Table.rule, String.toList_append, String.toList_ofList]

theorem showsCells_line {row : String × String} (h : row.1.length ≤ t.leftWidth) :
    ShowsCells t.leftWidth row (t.line row) := by
  have hWidth : (padRight t.leftWidth row.1).toList.length = t.leftWidth := by
    rw [String.length_toList, length_padRight h]
  have hThree : " | ".toList.length = 3 := rfl
  obtain ⟨hLeft, hSeparator, hRight⟩ := divided row.2.toList hWidth hThree
  rw [← toList_line] at hLeft hSeparator hRight
  exact ⟨⟨_, hLeft.trans (toList_padRight _ _)⟩, hSeparator, hRight⟩

theorem isRule_rule (t : Table) : IsRule t.leftWidth t.rule := by
  have hWidth : (List.replicate t.leftWidth '-').length = t.leftWidth := List.length_replicate
  have hThree : "-+-".toList.length = 3 := rfl
  obtain ⟨hLeft, hSeparator, hRight⟩ :=
    divided (List.replicate t.rightWidth '-') hWidth hThree
  rw [← toList_rule] at hLeft hSeparator hRight
  refine ⟨hLeft, hSeparator, fun c hc => ?_⟩
  rw [hRight] at hc
  exact List.eq_of_mem_replicate hc

theorem length_line_le {row : String × String} (hLeft : row.1.length ≤ t.leftWidth)
    (hRight : row.2.length ≤ t.rightWidth) : (t.line row).length ≤ t.rule.length := by
  rw [← String.length_toList, ← String.length_toList, toList_line, toList_rule]
  simp only [List.length_append, List.length_replicate, String.length_toList,
    length_padRight hLeft]
  exact Nat.add_le_add_left hRight _

/-! ### The text of a table -/

theorem textLines_render (h : OneLined t) :
    Text.textLines t.render = t.lines.map (· ++ "\n") := by
  have hSeparator : '\n' ∉ " | ".toList := by decide
  have hPadded : ∀ s : String, '\n' ∉ s.toList → '\n' ∉ (padRight t.leftWidth s).toList := by
    intro s hs
    rw [toList_padRight, List.mem_append, not_or]
    exact ⟨hs, fun hMem => absurd (List.eq_of_mem_replicate hMem) (by decide)⟩
  have hLine : ∀ row : String × String, '\n' ∉ row.1.toList → '\n' ∉ row.2.toList →
      '\n' ∉ (t.line row).toList := by
    intro row hLeft hRight
    rw [toList_line, List.mem_append, List.mem_append, not_or, not_or]
    exact ⟨⟨hPadded _ hLeft, hSeparator⟩, hRight⟩
  have hRule : '\n' ∉ t.rule.toList := by
    simp [toList_rule, List.mem_replicate]
  apply Text.textLines_join
  intro line hMem
  simp only [Table.lines, List.mem_cons, List.mem_map] at hMem
  rcases hMem with rfl | rfl | ⟨row, hRow, rfl⟩
  · exact hLine _ h.left h.right
  · exact hRule
  · exact hLine _ (h.rows row hRow).1 (h.rows row hRow).2

theorem beq_of_mem_replicate {c d : Char} {count : Nat} (h : d ∈ List.replicate count c) :
    (d == c) = true := by
  rw [List.eq_of_mem_replicate h, beq_self_eq_true]

theorem trimEnd_padRight (width : Nat) (s : String) :
    Text.trimEnd ' ' (padRight width s) = Text.trimEnd ' ' s := by
  apply String.toList_inj.mp
  rw [Text.toList_trimEnd, Text.toList_trimEnd, toList_padRight,
    Text.dropTrailing_append _ fun _ => beq_of_mem_replicate]

/-- The rule starts with one more dash than the left column is wide. -/
theorem takeWhile_rule (t : Table) :
    (t.rule ++ "\n").toList.takeWhile (· == '-') = List.replicate (t.leftWidth + 1) '-' := by
  have hRule : (t.rule ++ "\n").toList = List.replicate (t.leftWidth + 1) '-' ++
      '+' :: '-' :: (List.replicate t.rightWidth '-' ++ ['\n']) := by
    rw [String.toList_append, toList_rule, List.replicate_succ']
    simp
  rw [hRule, List.takeWhile_append_of_pos fun _ => beq_of_mem_replicate, List.takeWhile_cons]
  simp

theorem readCells_render (h : OneLined t) :
    readCells t.render = t.rows.map fun row => (Text.trimEnd ' ' row.1, row.2) := by
  have hWidth : ((t.rule ++ "\n").toList.takeWhile (· == '-')).length - 1 = t.leftWidth := by
    rw [takeWhile_rule, List.length_replicate, Nat.add_sub_cancel]
  rw [readCells, textLines_render h, Table.lines, List.map_cons, List.map_cons]
  dsimp only
  rw [hWidth, List.map_map, List.map_map]
  refine List.map_congr_left fun row hRow => ?_
  have hFits : row.1.length ≤ t.leftWidth :=
    (isLeast_leftWidth t).1 _ (List.mem_cons_of_mem _ (List.mem_map_of_mem hRow))
  have hLine : (t.line row ++ "\n").toList =
      (padRight t.leftWidth row.1).toList ++ " | ".toList ++ (row.2.toList ++ ['\n']) := by
    rw [String.toList_append, toList_line, List.append_assoc]
    rfl
  have hPadded : (padRight t.leftWidth row.1).toList.length = t.leftWidth := by
    rw [String.length_toList, length_padRight hFits]
  have hThree : " | ".toList.length = 3 := rfl
  obtain ⟨hLeft, -, hRight⟩ := divided (row.2.toList ++ ['\n']) hPadded hThree
  rw [Function.comp_apply, Function.comp_apply, hLine, hLeft, hRight, List.dropLast_concat,
    String.ofList_toList, String.ofList_toList, trimEnd_padRight]

theorem aligned_render (h : OneLined t) : Aligned t t.render t.leftWidth := by
  obtain ⟨hHeading, hRows⟩ := List.forall_mem_cons.mp (isLeast_leftWidth t).1
  obtain ⟨hHeadingRight, hRowsRight⟩ :=
    List.forall_mem_cons.mp (columnWidth_le_iff.mp (Nat.le_refl t.rightWidth))
  refine ⟨?_, ⟨t.line (t.left, t.right), t.rule, t.rows.map t.line, textLines_render h,
    showsCells_line hHeading, isRule_rule t, ?_, ?_⟩, isLeast_leftWidth t, readCells_render h⟩
  · rw [textLines_render h, List.length_map, Table.lines, List.length_cons, List.length_cons,
      List.length_map]
  · rw [List.forall₂_map_right_iff, List.forall₂_same]
    intro row hRow
    exact showsCells_line (hRows _ (List.mem_map_of_mem hRow))
  · rw [List.forall_mem_cons, List.forall_mem_map]
    refine ⟨length_line_le hHeading hHeadingRight, fun row hRow => ?_⟩
    exact length_line_le (hRows _ (List.mem_map_of_mem hRow))
      (hRowsRight _ (List.mem_map_of_mem hRow))

/-! ### The tables that are shown -/

/-- Whether a table has a row for each of these numbers, and no other row: the number, rounded,
beside the cell in the same place, or beside an empty one where there is none. -/
structure ShowsNumbers (heading : String) (cells : List String) (numbers : List Binary64)
    (t : Table) : Prop where
  left : t.left = heading
  right : t.right = "Prediction"
  rows : ∀ i : Nat, t.rows[i]? = numbers[i]?.map fun x => (cells[i]?.getD "", hundredthsText x)

/-- Whether a table lists the keywords of a grammar, the required ones first and marked. -/
structure ListsKeywords (g : Grammar) (t : Table) : Prop where
  left : t.left = "Keyword"
  right : t.right = "Value"
  rows : t.rows = g.required.map (fun row => (row.1, row.2.text ++ " (required)")) ++
    g.optional.map fun row => (row.1, row.2.text)

theorem showsNumbers_pairCells (heading : String) (cells : List String) (numbers : List Binary64) :
    ShowsNumbers heading cells numbers
      ⟨heading, "Prediction", pairCells cells (numbers.map hundredthsText)⟩ where
  left := rfl
  right := rfl
  rows i := by rw [getElem?_pairCells, List.getElem?_map, Option.map_map]; rfl

theorem listsKeywords_grammarTable (g : Grammar) : ListsKeywords g (grammarTable g) where
  left := rfl
  right := rfl
  rows := by
    rw [grammarTable, Grammar.fields, List.map_append, List.map_map, List.map_map]
    rfl

theorem lineFeed_not_mem_hundredthsTexts {s : String} {xs : List Binary64}
    (h : s ∈ xs.map hundredthsText) : '\n' ∉ s.toList := by
  obtain ⟨x, -, rfl⟩ := List.mem_map.mp h
  exact lineFeed_not_mem_hundredthsText x

theorem oneLined_pairCells {left : String} {lefts : List String} (xs : List Binary64)
    (hLeft : '\n' ∉ left.toList) (hLefts : ∀ cell ∈ lefts, '\n' ∉ cell.toList) :
    OneLined ⟨left, "Prediction", pairCells lefts (xs.map hundredthsText)⟩ := by
  have hRight : '\n' ∉ "Prediction".toList := by decide
  refine ⟨hLeft, hRight, fun row hRow => ?_⟩
  obtain ⟨hCell, hNumber⟩ := of_mem_pairCells hRow
  refine ⟨?_, lineFeed_not_mem_hundredthsTexts hNumber⟩
  rcases hCell with hEmpty | hCell
  · rw [hEmpty]
    exact List.not_mem_nil
  · exact hLefts _ hCell

theorem oneLined_predictionTable (p : Prediction) : OneLined (predictionTable p) :=
  oneLined_pairCells p.predicted (by decide) fun _ => lineFeed_not_mem_hundredthsTexts

theorem oneLined_forecastTable {f : Forecast} (h : ∀ date ∈ f.dates, '\n' ∉ date.toList) :
    OneLined (forecastTable f) := oneLined_pairCells f.predictions (by decide) h

theorem lineFeed_not_mem_kindText (kind : ValueKind) : '\n' ∉ kind.text.toList := by
  cases kind with
  | string => decide
  | boolean => decide
  | number => decide
  | bounded min max =>
    have hText : (ValueKind.bounded min max).text =
        "number [" ++ Binary64.plain.text min ++ ", " ++ Binary64.plain.text max ++ "]" := rfl
    simp [hText, Binary64.lineFeed_not_mem_plain]

theorem oneLined_grammarTable {g : Grammar}
    (h : ∀ field ∈ g.fields, '\n' ∉ field.keyword.toList) : OneLined (grammarTable g) := by
  have hLeft : '\n' ∉ "Keyword".toList := by decide
  have hRight : '\n' ∉ "Value".toList := by decide
  refine ⟨hLeft, hRight, fun row hRow => ?_⟩
  obtain ⟨field, hField, rfl⟩ := List.mem_map.mp hRow
  refine ⟨h field hField, ?_⟩
  have hKind := lineFeed_not_mem_kindText field.kind
  have hRequired : s!"{field.kind.text} (required)" = field.kind.text ++ " (required)" := rfl
  dsimp only
  split
  · simp [hRequired, hKind]
  · exact hKind

/-- The table of every result, of every grammar whose keywords have one line, and of every forecast
whose dates do has a row for each prediction or keyword. It is laid out in two columns, from which
all right cells can be read off, and the left ones but for spaces at their ends. -/
theorem tables_aligned :
    (∀ p : Prediction,
      predictionText p = predictionHeading p ++ (predictionTable p).render ∧
      ShowsNumbers "Test" (p.observed.map hundredthsText) p.predicted (predictionTable p) ∧
      ∃ width, Aligned (predictionTable p) (predictionTable p).render width) ∧
    (∀ g : Grammar, (∀ field ∈ g.fields, '\n' ∉ field.keyword.toList) →
      ListsKeywords g (grammarTable g) ∧
      ∃ width, Aligned (grammarTable g) (grammarText g) width) ∧
    ∀ f : Forecast, (∀ date ∈ f.dates, '\n' ∉ date.toList) →
      ShowsNumbers "Date" f.dates f.predictions (forecastTable f) ∧
      ∃ width, Aligned (forecastTable f) (forecastText f) width := by
  refine ⟨?_, ?_, ?_⟩
  · intro p
    exact ⟨predictionText_eq p, showsNumbers_pairCells _ _ _, _,
      aligned_render (oneLined_predictionTable p)⟩
  · intro g hKeywords
    exact ⟨listsKeywords_grammarTable g, _, aligned_render (oneLined_grammarTable hKeywords)⟩
  · intro f hDates
    exact ⟨showsNumbers_pairCells _ _ _, _, aligned_render (oneLined_forecastTable hDates)⟩

/-- A date that is longer than the heading in bytes but not in characters, and one that ends in a
space. -/
theorem tables_aligned_accents :
    let f : Forecast := ⟨[.ofNat 7, .ofNat 12, .ofNat 5], ["août", "mañana "]⟩
    (∀ field ∈ Grammar.standard.fields, '\n' ∉ field.keyword.toList) ∧
    (∀ date ∈ f.dates, '\n' ∉ date.toList) ∧
    ListsKeywords .standard (grammarTable .standard) ∧
    (∃ width, Aligned (grammarTable .standard) (grammarText .standard) width) ∧
    ShowsNumbers "Date" f.dates f.predictions (forecastTable f) ∧
    (∃ width, Aligned (forecastTable f) (forecastText f) width) ∧
    readCells (forecastText f) = [("août", "7"), ("mañana", "12"), ("", "5")] := by
  intro f
  have hKeywords : ∀ field ∈ Grammar.standard.fields, '\n' ∉ field.keyword.toList := by decide
  have hDates : ∀ date ∈ f.dates, '\n' ∉ date.toList := by decide
  obtain ⟨hListed, hLaidOut⟩ := tables_aligned.2.1 .standard hKeywords
  obtain ⟨hShown, width, hAligned⟩ := tables_aligned.2.2 f hDates
  refine ⟨hKeywords, hDates, hListed, hLaidOut, hShown, ⟨width, hAligned⟩, ?_⟩
  rw [hAligned.cells]
  decide +kernel

end PredictionJobs.Display
