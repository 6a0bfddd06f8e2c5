import ComponentSurvey.Console.Report
import ComponentSurvey.Proofs.Markup

/-!
# Reports that come out whole

What is printed of a survey is made of texts with markup, so that a report comes out whole exactly if
each of them can be printed.

* `succeeds_markedLine_iff`, `succeeds_panel_iff`, `succeeds_table_iff` — lines, panels and tables.
* `FileSurvey.markedTexts`, `FileSurvey.succeeds_report_iff` — the texts in the report on a file.
* `succeeds_summaryReport` — totals can always be printed.
-/

namespace ComponentSurvey

/-! ### Lines, panels and tables -/

/-- Whether a print comes out. -/
def Print.Succeeds (print : Print) : Prop := ∃ text, print = .ok text

theorem Print.succeeds_map_iff {α : Type} {result : Except Markup.Fault α} {f : α → String} :
    Print.Succeeds (result.map f) ↔ ∃ a, result = .ok a := by
  cases result <;> simp [Print.Succeeds, Except.map]

theorem succeeds_markedLine_iff {text : String} :
    (markedLine text).Succeeds ↔ Markup.Prints text := Print.succeeds_map_iff

theorem succeeds_panel_iff {content : String} :
    Print.Succeeds (panel content) ↔ Markup.Prints content := Print.succeeds_map_iff

theorem exists_bind_eq_ok_iff {ε α β : Type} {x : Except ε α} {f : α → Except ε β} :
    (∃ b, x >>= f = .ok b) ↔ ∃ a, x = .ok a ∧ ∃ b, f a = .ok b := by
  cases x <;> simp [bind, Except.bind]

/-- Computations on the items of a list give something exactly if each of them does. -/
theorem exists_mapM_eq_ok_iff {ε α β : Type} {f : α → Except ε β} {items : List α} :
    (∃ results, items.mapM f = .ok results) ↔ ∀ item ∈ items, ∃ result, f item = .ok result := by
  induction items with
  | nil => simp [pure, Except.pure]
  | cons item rest ih =>
    rw [List.mapM_cons, exists_bind_eq_ok_iff, List.forall_mem_cons, ← ih]
    simp only [exists_bind_eq_ok_iff]
    simp [pure, Except.pure]

theorem forM_eq_ok_iff {ε α : Type} {f : α → Except ε Unit} {items : List α} :
    forM items f = .ok () ↔ ∀ item ∈ items, f item = .ok () := by
  induction items with
  | nil => simp [pure, Except.pure]
  | cons item rest ih =>
    rw [List.forM_cons, List.forall_mem_cons, ← ih]
    cases f item <;> simp [bind, Except.bind]

theorem exists_render_eq_ok_iff {column : Column} :
    (∃ rendered, column.render = .ok rendered)
      ↔ ∀ cell ∈ column.cells, ∃ shown, Markup.render cell = .ok shown := by
  rw [← exists_mapM_eq_ok_iff, Column.render]
  cases column.cells.mapM Markup.render <;> simp [Except.map]

/-- A table comes out exactly if each of its cells can be printed. -/
theorem succeeds_table_iff {title : String} {columns : List Column} :
    Print.Succeeds (table title columns)
      ↔ ∀ column ∈ columns, ∀ cell ∈ column.cells, Markup.Prints cell := by
  have hstyles : (forM columns fun column => forM column.cells Markup.checkStyles) = .ok ()
      ↔ ∀ column ∈ columns, ∀ cell ∈ column.cells, Markup.checkStyles cell = .ok () := by
    simp only [forM_eq_ok_iff]
  have htable : Print.Succeeds (table title columns) ↔
      (∃ rendered, columns.mapM Column.render = .ok rendered) ∧
        (forM columns fun column => forM column.cells Markup.checkStyles) = .ok () := by
    rw [Print.Succeeds, table, exists_bind_eq_ok_iff]
    simp only [exists_bind_eq_ok_iff, List.forM_eq_forM]
    cases (forM columns fun column => forM column.cells Markup.checkStyles) <;>
      simp [pure, Except.pure]
  rw [htable, hstyles, exists_mapM_eq_ok_iff]
  simp only [exists_render_eq_ok_iff, Markup.prints_iff]
  constructor
  · rintro ⟨hrender, hcheck⟩ column hcolumn cell hcell
    exact ⟨hrender column hcolumn cell hcell, hcheck column hcolumn cell hcell⟩
  · intro h
    exact ⟨fun column hcolumn cell hcell => (h column hcolumn cell hcell).1,
      fun column hcolumn cell hcell => (h column hcolumn cell hcell).2⟩

/-- Prints come out whole exactly if each of them does. -/
theorem Printout.fault?_ofPrints_eq_none_iff {prints : List Print} :
    (ofPrints prints).fault? = none ↔ ∀ print ∈ prints, print.Succeeds := by
  induction prints with
  | nil => simp [ofPrints]
  | cons print rest ih =>
    rw [List.forall_mem_cons, ← ih]
    cases print <;> simp [ofPrints, Print.Succeeds]

/-! ### Reports -/

/-- The texts with markup in the report on a file. -/
def FileSurvey.markedTexts (survey : FileSurvey) : List String :=
  ["[bold cyan]" ++ survey.path ++ "[/bold cyan]" ++ ("\n" ++ survey.subtitle)] ++
    (componentColumns survey.components).flatMap Column.cells ++
    (functionColumns survey.functions).flatMap Column.cells

theorem FileSurvey.subtitle_ne_empty (survey : FileSurvey) : survey.subtitle ≠ "" := by
  intro h
  have hlength := congrArg String.length h
  simp [subtitle] at hlength

/-- A table of columns that is left out where it has no rows comes out exactly if each of its cells
can be printed. -/
theorem succeeds_optional_table_iff {title : String} {columns : List Column} {empty : Bool}
    (hempty : empty = true → ∀ column ∈ columns, column.cells = []) :
    (∀ print ∈ (if empty then [] else [table title columns]), Print.Succeeds print)
      ↔ ∀ text ∈ columns.flatMap Column.cells, Markup.Prints text := by
  simp only [List.mem_flatMap]
  cases empty with
  | false =>
    simp only [Bool.false_eq_true, if_false, List.forall_mem_singleton, succeeds_table_iff]
    exact ⟨fun h text ⟨column, hcolumn, htext⟩ => h column hcolumn text htext,
      fun h column hcolumn text htext => h text ⟨column, hcolumn, htext⟩⟩
  | true =>
    refine ⟨fun _ => ?_, fun _ print hprint => by cases hprint⟩
    rintro text ⟨column, hcolumn, htext⟩
    rw [hempty rfl column hcolumn] at htext
    cases htext

/-- The report on a file comes out exactly if each of its texts can be printed. -/
theorem FileSurvey.succeeds_report_iff (survey : FileSurvey) :
    (∀ print ∈ survey.report, print.Succeeds)
      ↔ ∀ text ∈ survey.markedTexts, Markup.Prints text := by
  have hcomponents : survey.components.isEmpty = true →
      ∀ column ∈ componentColumns survey.components, column.cells = [] := by
    intro hempty
    simp [List.isEmpty_iff.1 hempty, componentColumns]
  have hfunctions : survey.functions.isEmpty = true →
      ∀ column ∈ functionColumns survey.functions, column.cells = [] := by
    intro hempty
    simp [List.isEmpty_iff.1 hempty, functionColumns]
  have hheader : Print.Succeeds (headerPanel survey.path survey.subtitle) ↔ Markup.Prints
      ("[bold cyan]" ++ survey.path ++ "[/bold cyan]" ++ ("\n" ++ survey.subtitle)) := by
    rw [headerPanel, succeeds_panel_iff, if_neg survey.subtitle_ne_empty]
  have hbreak : Print.Succeeds (.ok "\n") := ⟨_, rfl⟩
  rw [report, markedTexts, List.forall_mem_append, List.forall_mem_append, List.forall_mem_append,
    List.forall_mem_append, succeeds_optional_table_iff hcomponents,
    succeeds_optional_table_iff hfunctions, List.forall_mem_cons, List.forall_mem_singleton,
    List.forall_mem_singleton, hheader]
  simp only [hbreak, true_and]

theorem Text.mem_of_mem_grouped {c : Char} {digits : List Char} (h : c ∈ grouped digits) :
    c = ',' ∨ c ∈ digits := by
  fun_induction grouped digits with
  | case1 a b c d rest ih => grind
  | case2 digits => exact .inr h

/-- A numeral has no brackets. -/
theorem Text.bracket_not_mem_thousands (n : Int) : '[' ∉ (thousands n).toList := by
  have hdigits : '[' ∉ thousandsNat n.natAbs := by
    intro h
    rcases mem_of_mem_grouped (List.mem_reverse.1 h) with h | h
    · exact absurd h (by decide)
    · exact not_mem_toDigits (by decide) _ (List.mem_reverse.1 h)
  rw [toList_thousands, List.mem_append, not_or]
  refine ⟨?_, hdigits⟩
  split <;> decide

/-- The totals of several surveys come out, whatever the surveys are. -/
theorem succeeds_summaryReport (surveys : List FileSurvey) :
    ∀ print ∈ summaryReport surveys, print.Succeeds := by
  have hmetrics : ∀ metric ∈ ["Files analyzed", "Component files", "Function files",
      "Total components", "Total functions"], '[' ∉ metric.toList := by decide
  rw [summaryReport, List.forall_mem_cons, List.forall_mem_singleton, succeeds_table_iff,
    List.forall_mem_cons, List.forall_mem_singleton]
  refine ⟨⟨_, rfl⟩, fun metric hmetric => ?_, fun number hnumber => ?_⟩
  · exact Markup.prints_of_not_mem (hmetrics metric hmetric)
  · obtain ⟨count, -, rfl⟩ := List.mem_map.1 hnumber
    exact Markup.prints_of_not_mem (Text.bracket_not_mem_thousands _)

end ComponentSurvey
