import Companion.Proofs.Source.LaidOut

/-!
# The lines that a writer writes

Steps that only write whole lines, leave lines empty and open blocks (`Linewise`) do not depend on
what was written before: from the beginning of a line they write the same lines at the same level,
and end at the beginning of a line again, at the level where they began. So they never dedent at
level zero. If moreover no line is broken or looks like a brace (`Whole`), their lines are laid out
(`LaidOut`).

**Blocks are what keeps this going**: a block's body is run one level deeper, and the induction is
on how blocks are nested, with all writers at once.
-/

namespace Companion.Source

open Line

/-- Steps that end every line that they begin, whatever stands on it. -/
inductive Linewise : Step → Prop where
  | line (text : String) : Linewise (.line text)
  | blankLine : Linewise .blankLine
  | block {body : List Step} (h : ∀ s ∈ body, Linewise s) : Linewise (.block body)

attribute [simp] Linewise.line Linewise.blankLine

@[simp] theorem linewise_block_iff {body : List Step} :
    Linewise (.block body) ↔ ∀ s ∈ body, Linewise s := by
  constructor
  · rintro ⟨h⟩
    assumption
  · exact .block

/-- Whole lines: each is empty or code, and blocks are made of whole lines again. -/
inductive Whole : Step → Prop where
  | line {text : String} (hbreak : '\n' ∉ text.toList) (hcode : text = "" ∨ IsCode text.toList) :
    Whole (.line text)
  | blankLine : Whole .blankLine
  | block {body : List Step} (h : ∀ s ∈ body, Whole s) : Whole (.block body)

theorem Whole.linewise {s : Step} (h : Whole s) : Linewise s := by
  induction h with
  | line _ _ => exact .line _
  | blankLine => exact .blankLine
  | block _ ih => exact .block ih

mutual

/-- The lines that a step writes at a level, from the beginning of a line. -/
def linesOf (level : Nat) : Step → List Line
  | .line text => [if text = "" then [] else indented level text.toList]
  | .blankLine => [[]]
  | .block body =>
    indented level ['\x7b'] :: (linesOfAll (level + 1) body ++ [indented level ['\x7d']])
  | _ => []

/-- The lines that steps write at a level, from the beginning of a line. -/
def linesOfAll (level : Nat) : List Step → List Line
  | [] => []
  | s :: rest => linesOf level s ++ linesOfAll level rest

end

/-! ## Lines as text -/

/-- Lines with their ends. -/
def ended (lines : List Line) : List Char :=
  lines.flatMap (· ++ ['\n'])

theorem ended_append (a b : List Line) : ended (a ++ b) = ended a ++ ended b :=
  List.flatMap_append

theorem ended_eq_intercalate (lines : List Line) :
    ended lines = ['\n'].intercalate (lines ++ [[]]) := by
  induction lines with
  | nil => rfl
  | cons line rest ih =>
    rw [List.cons_append, List.intercalate_cons_of_ne_nil (by simp), ← ih]
    simp [ended]

/-- Ended lines, taken apart at the line ends, are the lines and nothing behind the last end. -/
theorem splitOn_ended {lines : List Line} (h : ∀ line ∈ lines, '\n' ∉ line) :
    (ended lines).splitOn '\n' = lines ++ [[]] := by
  rw [ended_eq_intercalate]
  refine List.splitOn_intercalate '\n' ?_ (by simp)
  intro line hline
  rcases List.mem_append.mp hline with hline | hline
  · exact h line hline
  · obtain rfl := List.mem_singleton.mp hline
    simp

/-! ## Writing lines -/

namespace Writer

/-- The writer behind some more lines. -/
def put (w : Writer) (lines : List Line) : Writer :=
  { w with text := w.text ++ String.ofList (ended lines) }

theorem put_put (w : Writer) (a b : List Line) : (w.put a).put b = w.put (a ++ b) := by
  simp [put, ended_append, String.append_assoc]

theorem put_nil (w : Writer) : w.put [] = w := by
  simp [put, ended]

theorem line_eq_put {w : Writer} (hw : w.fresh = true) (text : String) :
    w.line text = w.put [if text = "" then [] else indented w.level text.toList] := by
  obtain ⟨before, level, _⟩ := w
  obtain rfl := hw
  by_cases h : text = ""
  · subst h
    simp [line, write, endLine, put, ended]
  · simp [line, write, endLine, put, ended, h, indentation, indented, String.append_assoc,
      String.ofList_append]

theorem blankLine_eq_put {w : Writer} (hw : w.fresh = true) : w.blankLine = w.put [[]] := by
  obtain ⟨before, level, _⟩ := w
  obtain rfl := hw
  simp [blankLine, endLine, put, ended]

theorem openBlock_eq_put {w : Writer} (hw : w.fresh = true) :
    w.openBlock = (w.put [indented w.level ['\x7b']]).indent := by
  rw [openBlock, line_eq_put hw]
  rfl

theorem closeBlock?_put {w : Writer} (hw : w.fresh = true) (lines : List Line) :
    (w.indent.put lines).closeBlock? = some (w.put (lines ++ [indented w.level ['\x7d']])) := by
  show some ((w.put lines).line "\x7d") = _
  rw [line_eq_put (w := w.put lines) hw, put_put]
  rfl

/-- Steps that write their lines write them one after another. -/
theorem run?_eq_put {steps : List Step}
    (h : ∀ s ∈ steps, ∀ w : Writer, w.fresh = true → w.step? s = some (w.put (linesOf w.level s)))
    {w : Writer} (hw : w.fresh = true) :
    w.run? steps = some (w.put (linesOfAll w.level steps)) := by
  induction steps generalizing w with
  | nil => rw [run?, linesOfAll, put_nil]
  | cons s rest ih =>
    rw [run?, h s List.mem_cons_self w hw, linesOfAll, ← put_put]
    exact ih (fun s hs => h s (List.mem_cons_of_mem _ hs)) hw

theorem step?_eq_put {s : Step} (h : Linewise s) :
    ∀ w : Writer, w.fresh = true → w.step? s = some (w.put (linesOf w.level s)) := by
  induction h with
  | line text =>
    intro w hw
    rw [step?, line_eq_put hw, linesOf]
  | blankLine =>
    intro w hw
    rw [step?, blankLine_eq_put hw, linesOf]
  | @block body _ ih =>
    intro w hw
    rw [step?, openBlock_eq_put hw]
    -- The body runs one level deeper and comes back to the beginning of a line there.
    have hbody := run?_eq_put ih (w := (w.put [indented w.level ['\x7b']]).indent) hw
    rw [hbody]
    show ((w.put _).indent.put _).closeBlock? = _
    rw [closeBlock?_put (w := w.put _) hw, put_put, linesOf]
    rfl

end Writer

/-- The text of steps that end their lines is the lines that they write. -/
theorem text?_eq_ended {steps : List Step} (h : ∀ s ∈ steps, Linewise s) :
    text? steps = some (String.ofList (ended (linesOfAll 0 steps))) := by
  rw [text?, Writer.run?_eq_put (fun s hs => Writer.step?_eq_put (h s hs)) rfl]
  simp [Writer.put]

/-! ## Whole lines -/

/-- **Whole lines are written from level zero, and balanced.** -/
theorem text?_eq_some {steps : List Step} (h : ∀ s ∈ steps, Whole s) :
    text? steps = some (String.ofList (ended (linesOfAll 0 steps))) :=
  text?_eq_ended fun s hs => (h s hs).linewise

theorem laidOut_linesOfAll {steps : List Step} {level : Nat}
    (h : ∀ s ∈ steps, LaidOut level (linesOf level s)) :
    LaidOut level (linesOfAll level steps) := by
  induction steps with
  | nil => exact .nil level
  | cons s rest ih =>
    exact (h s List.mem_cons_self).append (ih fun s hs => h s (List.mem_cons_of_mem _ hs))

theorem laidOut_linesOf {s : Step} (h : Whole s) (level : Nat) :
    LaidOut level (linesOf level s) := by
  induction h generalizing level with
  | @line text _ hcode =>
    rw [linesOf]
    by_cases htext : text = ""
    · rw [if_pos htext]
      exact .empty level
    · rw [if_neg htext]
      exact .code level (hcode.resolve_left htext)
  | blankLine => exact .empty level
  | block _ ih => exact .braces (laidOut_linesOfAll fun s hs => ih s hs (level + 1))

theorem unbroken_linesOfAll {steps : List Step} {level : Nat}
    (h : ∀ s ∈ steps, ∀ line ∈ linesOf level s, '\n' ∉ line) :
    ∀ line ∈ linesOfAll level steps, '\n' ∉ line := by
  induction steps with
  | nil => simp [linesOfAll]
  | cons s rest ih =>
    intro line hline
    rcases List.mem_append.mp hline with hline | hline
    · exact h s List.mem_cons_self line hline
    · exact ih (fun s hs => h s (List.mem_cons_of_mem _ hs)) line hline

theorem unbroken_linesOf {s : Step} (h : Whole s) (level : Nat) :
    ∀ line ∈ linesOf level s, '\n' ∉ line := by
  induction h generalizing level with
  | @line text hbreak _ =>
    rw [linesOf]
    by_cases htext : text = ""
    · simp [htext]
    · simpa [htext, indented] using hbreak
  | blankLine => simp [linesOf]
  | block _ ih =>
    have hbody := unbroken_linesOfAll fun s hs => ih s hs (level + 1)
    intro line hline
    rcases List.mem_cons.mp hline with rfl | hline
    · simp [indented]
    · rcases List.mem_append.mp hline with hline | hline
      · exact hbody line hline
      · obtain rfl := List.mem_singleton.mp hline
        simp [indented]

end Companion.Source
