/-!
# Writing indented source text

A writer takes steps and holds the text so far, the indentation level, and whether anything stands on
the current line yet. A line is indented when its first text arrives, so that empty lines stay empty.
A block writes its braces on lines of their own and its body one level deeper. A dedent at level zero
is refused: a writer that ends has balanced indentation.
-/

namespace Companion.Source

inductive Step where
  /-- Puts text on the current line. -/
  | write (text : String)
  /-- Puts text on the current line and ends it. -/
  | line (text : String)
  /-- Ends the current line. -/
  | endLine
  /-- Ends the current line if anything stands on it, and leaves one line empty. -/
  | blankLine
  | indent
  | dedent
  | block (body : List Step)
  deriving Repr

/-- The text so far, and where in it the writer stands. -/
structure Writer where
  text : String := ""
  level : Nat := 0
  /-- Nothing stands on the current line. -/
  fresh : Bool := true
  deriving Repr

def indentation (level : Nat) : String :=
  String.ofList (List.replicate (4 * level) ' ')

namespace Writer

/-- Puts text on the current line, behind the indentation if it is the first. Empty text leaves no
    trace. -/
def write (w : Writer) (text : String) : Writer :=
  if text == "" then w
  else if w.fresh then { w with text := w.text ++ indentation w.level ++ text, fresh := false }
  else { w with text := w.text ++ text }

def endLine (w : Writer) : Writer :=
  { w with text := w.text ++ "\n", fresh := true }

def line (w : Writer) (text : String) : Writer :=
  (w.write text).endLine

/-- Leaves one line empty, after the current one if anything stands on it. -/
def blankLine (w : Writer) : Writer :=
  if w.fresh then w.endLine else w.endLine.endLine

def indent (w : Writer) : Writer :=
  { w with level := w.level + 1 }

/-- Comes back one level, if there is one. -/
def dedent? (w : Writer) : Option Writer :=
  match w.level with
  | 0 => none
  | level + 1 => some { w with level }

def openBlock (w : Writer) : Writer :=
  (w.line "\x7b").indent

def closeBlock? (w : Writer) : Option Writer :=
  w.dedent?.map (·.line "\x7d")

mutual

/-- Takes one step, unless it dedents at level zero. -/
def step? (w : Writer) : Step → Option Writer
  | .write text => some (w.write text)
  | .line text => some (w.line text)
  | .endLine => some w.endLine
  | .blankLine => some w.blankLine
  | .indent => some w.indent
  | .dedent => w.dedent?
  | .block body =>
    match run? w.openBlock body with
    | none => none
    | some w => w.closeBlock?

def run? (w : Writer) : List Step → Option Writer
  | [] => some w
  | s :: rest =>
    match step? w s with
    | none => none
    | some w => run? w rest

end

mutual

/-- Takes one step and notes the level after it. A block's own steps are noted before the block. -/
def trace? (w : Writer) : Step → Option (Writer × List Nat)
  | .block body =>
    match traceAll? w.openBlock body with
    | none => none
    | some (w, levels) => w.closeBlock?.map fun w => (w, levels ++ [w.level])
  | .write text => some (w.write text, [w.level])
  | .line text => some (w.line text, [w.level])
  | .endLine => some (w.endLine, [w.level])
  | .blankLine => some (w.blankLine, [w.level])
  | .indent => some (w.indent, [w.indent.level])
  | .dedent => w.dedent?.map fun w => (w, [w.level])

def traceAll? (w : Writer) : List Step → Option (Writer × List Nat)
  | [] => some (w, [])
  | s :: rest =>
    match trace? w s with
    | none => none
    | some (w, levels) => (traceAll? w rest).map fun r => (r.1, levels ++ r.2)

end

mutual

/-- Noting levels does not get in the way of writing. -/
theorem map_trace? (w : Writer) (s : Step) : (w.trace? s).map (·.1) = w.step? s := by
  cases s with
  | block body =>
    rw [trace?, step?, ← map_traceAll? w.openBlock body]
    cases w.openBlock.traceAll? body with
    | none => rfl
    | some r => simp [Function.comp_def]
  | dedent => simp [trace?, step?, Function.comp_def]
  | write _ | line _ | endLine | blankLine | indent => simp [trace?, step?]

theorem map_traceAll? (w : Writer) (steps : List Step) :
    (w.traceAll? steps).map (·.1) = w.run? steps := by
  cases steps with
  | nil => simp [traceAll?, run?]
  | cons s rest =>
    rw [traceAll?, run?, ← map_trace? w s]
    cases w.trace? s with
    | none => rfl
    | some r => simpa [Function.comp_def] using map_traceAll? r.1 rest

end

/-! ## Levels -/

theorem level_write (w : Writer) (text : String) : (w.write text).level = w.level := by
  unfold write
  split
  · rfl
  · split <;> rfl

theorem level_line (w : Writer) (text : String) : (w.line text).level = w.level :=
  level_write w text

theorem level_blankLine (w : Writer) : w.blankLine.level = w.level := by
  unfold blankLine
  split <;> rfl

/-- The last level that is noted for a step is the one that the step leads to. -/
theorem getLast?_trace? {w w' : Writer} {s : Step} {levels : List Nat}
    (h : w.trace? s = some (w', levels)) : levels.getLast? = some w'.level := by
  cases s with
  | block body =>
    rw [trace?] at h
    split at h
    · cases h
    · obtain ⟨closed, -, hclosed⟩ := Option.map_eq_some_iff.mp h
      cases hclosed
      exact List.getLast?_concat
  | dedent =>
    rw [trace?] at h
    obtain ⟨dedented, -, hdedented⟩ := Option.map_eq_some_iff.mp h
    cases hdedented
    rfl
  | write text =>
    rw [trace?] at h
    cases h
    exact congrArg some (level_write w text).symm
  | line text =>
    rw [trace?] at h
    cases h
    exact congrArg some (level_line w text).symm
  | blankLine =>
    rw [trace?] at h
    cases h
    exact congrArg some w.level_blankLine.symm
  | endLine | indent =>
    rw [trace?] at h
    cases h
    rfl

/-! ## Runs compose -/

theorem run?_append (w : Writer) (a b : List Step) :
    w.run? (a ++ b) = (w.run? a).bind fun w => w.run? b := by
  induction a generalizing w with
  | nil => simp [run?]
  | cons s rest ih =>
    simp only [List.cons_append, run?]
    cases w.step? s <;> simp [ih]

end Writer

/-- The text of the steps from level zero, unless they dedent there. -/
def text? (steps : List Step) : Option String :=
  (Writer.run? {} steps).map Writer.text

end Companion.Source
