import Companion.Source.Writer

/-!
# Steps as lines

A writer holds a text, a level and whether the current line is fresh, and steps nest. Read apart from
the writer, steps are strokes one after another (`strokes`), with the braces of a block among them,
and strokes describe lines: texts, each with the level at which it is written (`drafts`). What is
written is what is described:

> **a line that has any text is indented by the level of the first, and is its texts joined**
> (`Draft.text`),

whatever was written before and wherever the level changes. The one thing that can go wrong is a way
back at level zero, which is counted in the strokes themselves (`play?_eq_none_iff`).

What carries the induction over strokes is what the writer knows of the current line: its text stands
last, and the writer is fresh exactly if the line has no text (`Stands`).
-/

namespace Companion.Source

/-! ## Strokes -/

/-- A step that does not nest. -/
inductive Stroke where
  | text (text : String)
  | lineEnd
  /-- Leaves a line empty, after the current one if that has any text. -/
  | gap
  | deeper
  | back
  deriving DecidableEq, Repr

mutual

/-- The strokes of a step. A block has its braces on lines of their own, and is gone back from in
    front of the second one. -/
def strokes : Step → List Stroke
  | .write text => [.text text]
  | .line text => [.text text, .lineEnd]
  | .endLine => [.lineEnd]
  | .blankLine => [.gap]
  | .indent => [.deeper]
  | .dedent => [.back]
  | .block body =>
    [.text "\x7b", .lineEnd, .deeper] ++ strokesOfAll body ++ [.back, .text "\x7d", .lineEnd]

def strokesOfAll : List Step → List Stroke
  | [] => []
  | s :: rest => strokes s ++ strokesOfAll rest

end

/-- How far strokes lead down: the ways deeper, less the ways back. -/
def descent (ss : List Stroke) : Int :=
  ss.count .deeper - ss.count .back

@[simp] theorem descent_nil : descent [] = 0 := rfl

theorem descent_append (a b : List Stroke) : descent (a ++ b) = descent a + descent b := by
  simp only [descent, List.count_append]
  omega

theorem descent_cons (s : Stroke) (rest : List Stroke) :
    descent (s :: rest) = descent [s] + descent rest :=
  descent_append [s] rest

/-- A block leads back to where it began, as far as its body does. -/
theorem descent_block (body : List Step) :
    descent (strokes (.block body)) = descent (strokesOfAll body) := by
  have hopen : descent [.text "\x7b", .lineEnd, .deeper] = 1 := by decide
  have hclose : descent [.back, .text "\x7d", .lineEnd] = -1 := by decide
  rw [strokes, descent_append, descent_append, hopen, hclose]
  omega

/-! ## Playing strokes -/

namespace Writer

def stroke? (w : Writer) : Stroke → Option Writer
  | .text text => some (w.write text)
  | .lineEnd => some w.endLine
  | .gap => some w.blankLine
  | .deeper => some w.indent
  | .back => w.dedent?

def play? (w : Writer) (ss : List Stroke) : Option Writer :=
  ss.foldlM stroke? w

@[simp] theorem play?_nil (w : Writer) : w.play? [] = some w := rfl

@[simp] theorem play?_cons (w : Writer) (s : Stroke) (rest : List Stroke) :
    w.play? (s :: rest) = (w.stroke? s).bind fun w => w.play? rest := rfl

theorem play?_append (w : Writer) (a b : List Stroke) :
    w.play? (a ++ b) = (w.play? a).bind fun w => w.play? b :=
  List.foldlM_append

mutual

/-- **A step does what its strokes do.** -/
theorem step?_eq_play? (s : Step) (w : Writer) : w.step? s = w.play? (strokes s) := by
  cases s with
  | write text => rfl
  | line text => rfl
  | endLine => rfl
  | blankLine => rfl
  | indent => rfl
  | dedent => simp [step?, strokes, stroke?]
  | block body =>
    have hopen : w.play? [.text "\x7b", .lineEnd, .deeper] = some w.openBlock := rfl
    have hclose : ∀ w : Writer, w.play? [.back, .text "\x7d", .lineEnd] = w.closeBlock? := by
      intro w
      cases h : w.dedent? <;> simp [stroke?, closeBlock?, h, line]
    rw [step?, strokes, play?_append, play?_append, hopen, Option.bind_some,
      run?_eq_play? body w.openBlock]
    cases w.openBlock.play? (strokesOfAll body) with
    | none => rfl
    | some w => exact (hclose w).symm

theorem run?_eq_play? (steps : List Step) (w : Writer) :
    w.run? steps = w.play? (strokesOfAll steps) := by
  cases steps with
  | nil => rfl
  | cons s rest =>
    rw [run?, strokesOfAll, play?_append, step?_eq_play? s w]
    cases w.play? (strokes s) with
    | none => rfl
    | some w => exact run?_eq_play? rest w

end

/-! ## Levels -/

/-- A stroke fails only where it leads back from level zero. -/
theorem stroke?_eq_none_iff {w : Writer} {s : Stroke} :
    w.stroke? s = none ↔ s = .back ∧ w.level = 0 := by
  cases s with
  | back =>
    rw [stroke?, dedent?]
    cases w.level <;> simp
  | text | lineEnd | gap | deeper => simp [stroke?]

theorem level_stroke? {w w' : Writer} {s : Stroke} (h : w.stroke? s = some w') :
    (w'.level : Int) = w.level + descent [s] := by
  cases s with
  | text text =>
    obtain rfl := Option.some.inj h
    simp [level_write, descent]
  | lineEnd =>
    obtain rfl := Option.some.inj h
    simp [endLine, descent]
  | gap =>
    obtain rfl := Option.some.inj h
    simp [level_blankLine, descent]
  | deeper =>
    obtain rfl := Option.some.inj h
    simp [indent, descent]
  | back =>
    rw [stroke?, dedent?] at h
    cases hlevel : w.level with
    | zero => simp [hlevel] at h
    | succ level =>
      rw [hlevel] at h
      obtain rfl := Option.some.inj h
      show (level : Int) = (level + 1 : Nat) + -1
      omega

/-- **Strokes that go through lead as far down as they say.** -/
theorem level_play? {w w' : Writer} {ss : List Stroke} (h : w.play? ss = some w') :
    (w'.level : Int) = w.level + descent ss := by
  induction ss generalizing w with
  | nil =>
    obtain rfl := Option.some.inj h
    simp
  | cons s rest ih =>
    obtain ⟨between, hs, hrest⟩ := Option.bind_eq_some_iff.mp h
    rw [ih hrest, level_stroke? hs, descent_cons s rest, Int.add_assoc]

/-- **Strokes fail exactly where one of them leads back from level zero.** -/
theorem play?_eq_none_iff {w : Writer} {ss : List Stroke} :
    w.play? ss = none
      ↔ ∃ before after, ss = before ++ .back :: after ∧ w.level + descent before = 0 := by
  induction ss generalizing w with
  | nil => simp
  | cons s rest ih =>
    rw [play?_cons]
    cases hs : w.stroke? s with
    | none =>
      obtain ⟨rfl, hlevel⟩ := stroke?_eq_none_iff.mp hs
      simp only [Option.bind_none, true_iff]
      exact ⟨[], rest, rfl, by simp [hlevel]⟩
    | some between =>
      rw [Option.bind_some, ih, level_stroke? hs]
      constructor
      · rintro ⟨before, after, rfl, hlevel⟩
        exact ⟨s :: before, after, rfl, by rw [descent_cons]; omega⟩
      · rintro ⟨before, after, hsplit, hlevel⟩
        cases before with
        | nil =>
          -- The first stroke would be one that fails.
          obtain ⟨rfl, -⟩ := List.cons.inj hsplit
          have hnone : w.stroke? .back = none :=
            stroke?_eq_none_iff.mpr ⟨rfl, by simpa using hlevel⟩
          rw [hnone] at hs
          cases hs
        | cons first before =>
          obtain ⟨rfl, rfl⟩ := List.cons.inj hsplit
          rw [descent_cons] at hlevel
          exact ⟨before, after, rfl, by omega⟩

end Writer

/-! ## Lines that are described -/

/-- A line as it is described: its texts in order, each with the level at which it is written. -/
abbrev Draft := List (Nat × String)

namespace Draft

/-- Nothing stands on the line but empty texts. -/
def isBlank (line : Draft) : Bool :=
  line.all (·.2 == "")

/-- What is written of a line: nothing if it has no text, and else its texts, behind as much
    indentation as goes with the level of the first that is not empty. -/
def text (line : Draft) : String :=
  match line.find? (·.2 != "") with
  | none => ""
  | some (level, _) => indentation level ++ String.join (line.map (·.2))

end Draft

/-- The lines that strokes describe from a level on, the current line first and the one that is not
    ended last. -/
def drafts (level : Nat) (line : Draft) : List Stroke → List Draft
  | [] => [line]
  | .text text :: rest => drafts level (line ++ [(level, text)]) rest
  | .lineEnd :: rest => line :: drafts level [] rest
  | .gap :: rest =>
    if line.isBlank then line :: drafts level [] rest else line :: [] :: drafts level [] rest
  | .deeper :: rest => drafts (level + 1) line rest
  | .back :: rest => drafts (level - 1) line rest

theorem drafts_ne_nil (level : Nat) (line : Draft) (ss : List Stroke) :
    drafts level line ss ≠ [] := by
  fun_induction drafts level line ss with
  | case1 => simp
  | case2 _ _ _ _ ih => exact ih
  | case3 => simp
  | case4 => simp
  | case5 => simp
  | case6 _ _ _ ih => exact ih
  | case7 _ _ _ ih => exact ih

/-! ## Writing what is described -/

theorem Draft.find?_eq_none_iff {line : Draft} :
    line.find? (·.2 != "") = none ↔ line.isBlank = true := by
  simp [Draft.isBlank]

theorem Draft.isBlank_append (line : Draft) (level : Nat) (text : String) :
    Draft.isBlank (line ++ [(level, text)]) = (line.isBlank && text == "") := by
  simp [Draft.isBlank]

theorem Draft.text_of_isBlank {line : Draft} (h : line.isBlank = true) : line.text = "" := by
  rw [Draft.text, Draft.find?_eq_none_iff.mpr h]

/-- The first text that is not empty brings the indentation. -/
theorem Draft.text_append_of_isBlank {line : Draft} (h : line.isBlank = true) (level : Nat)
    {text : String} (htext : text ≠ "") :
    Draft.text (line ++ [(level, text)]) = indentation level ++ text := by
  have hempty : String.join (line.map (·.2)) = "" := by
    rw [← String.toList_inj, String.toList_join, List.flatMap_map]
    refine List.flatMap_eq_nil_iff.mpr fun entry hentry => ?_
    have := List.all_eq_true.mp h entry hentry
    simp_all
  rw [Draft.text, List.find?_append, Draft.find?_eq_none_iff.mpr h]
  simp [htext, hempty]

/-- Behind it every text stands as it is. -/
theorem Draft.text_append_of_not_isBlank {line : Draft} (h : line.isBlank = false) (level : Nat)
    (text : String) : Draft.text (line ++ [(level, text)]) = line.text ++ text := by
  cases hfind : line.find? (·.2 != "") with
  | none => simp [Draft.find?_eq_none_iff.mp hfind] at h
  | some first =>
    rw [Draft.text, Draft.text, List.find?_append, hfind]
    simp [String.append_assoc]

/-- The current line of a writer is this one, behind a text. -/
structure Writer.Stands (w : Writer) (before : String) (line : Draft) : Prop where
  text : w.text = before ++ line.text
  fresh : w.fresh = line.isBlank

namespace Writer.Stands

variable {w : Writer} {before : String} {line : Draft}

theorem write (h : w.Stands before line) (text : String) :
    (w.write text).Stands before (line ++ [(w.level, text)]) := by
  have hfresh := h.fresh
  by_cases htext : text = ""
  -- Empty text leaves no trace on either side.
  · subst htext
    have hwrite : w.write "" = w := rfl
    have hline : Draft.text (line ++ [(w.level, "")]) = line.text := by
      cases hblank : line.isBlank with
      | true =>
        have hline : Draft.isBlank (line ++ [(w.level, "")]) = true := by
          rw [Draft.isBlank_append, hblank]
          rfl
        rw [Draft.text_of_isBlank hline, Draft.text_of_isBlank hblank]
      | false => simp [Draft.text_append_of_not_isBlank hblank]
    refine ⟨?_, ?_⟩
    · rw [hwrite, hline, h.text]
    · rw [hwrite, hfresh, Draft.isBlank_append, beq_self_eq_true, Bool.and_true]
  · cases hblank : line.isBlank with
    | true =>
      rw [hblank] at hfresh
      have hwrite : w.write text
          = { w with text := w.text ++ indentation w.level ++ text, fresh := false } := by
        simp [Writer.write, htext, hfresh]
      refine ⟨?_, ?_⟩
      · rw [hwrite, Draft.text_append_of_isBlank hblank w.level htext, h.text,
          Draft.text_of_isBlank hblank]
        simp [String.append_assoc]
      · rw [hwrite, Draft.isBlank_append]
        simp [htext]
    | false =>
      rw [hblank] at hfresh
      have hwrite : w.write text = { w with text := w.text ++ text } := by
        simp [Writer.write, htext, hfresh]
      refine ⟨?_, ?_⟩
      · rw [hwrite, Draft.text_append_of_not_isBlank hblank, h.text, String.append_assoc]
      · rw [hwrite, Draft.isBlank_append, hblank]
        exact hfresh

/-- Behind the end of a line stands nothing yet. -/
theorem endLine (h : w.Stands before line) :
    w.endLine.Stands (before ++ line.text ++ "\n") [] := by
  refine ⟨?_, rfl⟩
  rw [Writer.endLine, h.text]
  simp [Draft.text]

theorem of_level (h : w.Stands before line) (level : Nat) :
    { w with level }.Stands before line :=
  ⟨h.text, h.fresh⟩

end Writer.Stands

/-- An ended line stands in front of the others. -/
theorem append_intercalate_text (before : String) (line : Draft) {rest : List Draft}
    (h : rest ≠ []) :
    before ++ line.text ++ "\n" ++ "\n".intercalate (rest.map Draft.text)
      = before ++ "\n".intercalate ((line :: rest).map Draft.text) := by
  rw [List.map_cons, String.intercalate_cons_of_ne_nil (by simpa using h)]
  simp only [String.append_assoc]

/-- **Strokes write the lines that they describe**, behind what stood there. -/
theorem Writer.Stands.text_play? {w w' : Writer} {before : String} {line : Draft}
    {ss : List Stroke} (h : w.Stands before line) (hplay : w.play? ss = some w') :
    w'.text = before ++ "\n".intercalate ((drafts w.level line ss).map Draft.text) := by
  induction ss generalizing w before line with
  | nil =>
    obtain rfl := Option.some.inj hplay
    simpa [drafts] using h.text
  | cons s rest ih =>
    obtain ⟨between, hs, hrest⟩ := Option.bind_eq_some_iff.mp hplay
    have hrests : drafts w.level [] rest ≠ [] := drafts_ne_nil _ _ _
    cases s with
    | text text =>
      obtain rfl := Option.some.inj hs
      rw [ih (h.write text) hrest, Writer.level_write, drafts]
    | lineEnd =>
      obtain rfl := Option.some.inj hs
      have htext := ih h.endLine hrest
      rw [drafts, ← append_intercalate_text before line hrests]
      exact htext
    | gap =>
      obtain rfl := Option.some.inj hs
      have hfresh := h.fresh
      rw [drafts]
      cases hblank : line.isBlank with
      | true =>
        have hgap : w.blankLine = w.endLine := by simp [blankLine, hfresh, hblank]
        rw [hgap] at hrest
        have htext := ih h.endLine hrest
        rw [if_pos rfl, ← append_intercalate_text before line hrests]
        exact htext
      | false =>
        have hgap : w.blankLine = w.endLine.endLine := by simp [blankLine, hfresh, hblank]
        rw [hgap] at hrest
        have htext := ih h.endLine.endLine hrest
        rw [if_neg Bool.false_ne_true, ← append_intercalate_text before line (by simp),
          ← append_intercalate_text _ [] hrests]
        exact htext
    | deeper =>
      obtain rfl := Option.some.inj hs
      exact ih (h.of_level (w.level + 1)) hrest
    | back =>
      obtain ⟨level, hlevel, rfl⟩ : ∃ level, w.level = level + 1 ∧ between = { w with level } := by
        cases hlevel : w.level with
        | zero => simp [stroke?, dedent?, hlevel] at hs
        | succ level => exact ⟨level, rfl, by simpa [stroke?, dedent?, hlevel, eq_comm] using hs⟩
      rw [drafts, hlevel]
      exact ih (h.of_level level) hrest

/-! ## Lines in the text -/

/-- On a described line stand texts of the current line and of the strokes. -/
theorem mem_of_mem_drafts {level : Nat} {line d : Draft} {ss : List Stroke}
    (hd : d ∈ drafts level line ss) {entry : Nat × String} (hentry : entry ∈ d) :
    entry ∈ line ∨ .text entry.2 ∈ ss := by
  induction ss generalizing level line with
  | nil =>
    obtain rfl := List.mem_singleton.mp hd
    exact .inl hentry
  | cons s rest ih =>
    -- A line that begins behind a line's end has texts of the strokes alone.
    have hbehind : d ∈ drafts level [] rest → .text entry.2 ∈ s :: rest := fun hd =>
      List.mem_cons_of_mem s ((ih hd).resolve_left List.not_mem_nil)
    cases s with
    | text text =>
      rcases ih hd with hline | hrest
      · rcases List.mem_append.mp hline with hline | hnew
        · exact .inl hline
        · obtain rfl := List.mem_singleton.mp hnew
          exact .inr List.mem_cons_self
      · exact .inr (List.mem_cons_of_mem _ hrest)
    | lineEnd =>
      rcases List.mem_cons.mp hd with rfl | hd
      · exact .inl hentry
      · exact .inr (hbehind hd)
    | gap =>
      rw [drafts] at hd
      split at hd
      · rcases List.mem_cons.mp hd with rfl | hd
        · exact .inl hentry
        · exact .inr (hbehind hd)
      · rcases List.mem_cons.mp hd with rfl | hd
        · exact .inl hentry
        · rcases List.mem_cons.mp hd with rfl | hd
          · exact absurd hentry List.not_mem_nil
          · exact .inr (hbehind hd)
    | deeper => exact (ih hd).imp_right (List.mem_cons_of_mem _)
    | back => exact (ih hd).imp_right (List.mem_cons_of_mem _)

theorem Draft.break_not_mem_text {line : Draft} (h : ∀ entry ∈ line, '\n' ∉ entry.2.toList) :
    '\n' ∉ line.text.toList := by
  unfold Draft.text
  split
  · simp
  · rw [String.toList_append, String.toList_join, List.mem_append, List.mem_flatMap]
    rintro (hindent | ⟨text, htext, hbreak⟩)
    · simp [indentation] at hindent
    · obtain ⟨entry, hentry, rfl⟩ := List.mem_map.mp htext
      exact h entry hentry hbreak

/-- Lines without line breaks in them are the lines that the text has. -/
theorem splitOn_intercalate_text {lines : List Draft} (hne : lines ≠ [])
    (h : ∀ line ∈ lines, '\n' ∉ line.text.toList) :
    ("\n".intercalate (lines.map Draft.text)).toList.splitOn '\n'
      = lines.map fun line => line.text.toList := by
  have hbreak : "\n".toList = ['\n'] := rfl
  rw [String.toList_intercalate, hbreak, List.map_map]
  refine List.splitOn_intercalate '\n' ?_ (by simpa using hne)
  intro part hpart
  obtain ⟨line, hline, rfl⟩ := List.mem_map.mp hpart
  exact h line hline

/-- **Steps write the lines that they describe.** From any level on, they fail exactly where one of
    their strokes leads back from level zero. If they do not, they end as far down as the strokes lead,
    and what is written is the described lines; these are the lines of the text if no text breaks one.
    A block that is balanced inside comes back to its level, and steps behind others go on from where
    those ended. -/
theorem writes_drafts (level : Nat) (steps : List Step) :
    (Writer.run? { level } steps = none ↔ ∃ before after,
        strokesOfAll steps = before ++ .back :: after ∧ level + descent before = 0)
      ∧ (∀ w, Writer.run? { level } steps = some w →
        (w.level : Int) = level + descent (strokesOfAll steps)
          ∧ w.text = "\n".intercalate ((drafts level [] (strokesOfAll steps)).map Draft.text)
          ∧ ((∀ text, .text text ∈ strokesOfAll steps → '\n' ∉ text.toList) →
            w.text.toList.splitOn '\n'
              = (drafts level [] (strokesOfAll steps)).map fun line => line.text.toList))
      ∧ (∀ (w w' : Writer) (body : List Step), w.step? (.block body) = some w' →
        descent (strokesOfAll body) = 0 → w'.level = w.level)
      ∧ ∀ (w : Writer) (a b : List Step), w.run? (a ++ b) = (w.run? a).bind fun w => w.run? b := by
  refine ⟨?_, fun w hrun => ?_, fun w w' body hblock hbalanced => ?_, Writer.run?_append⟩
  · rw [Writer.run?_eq_play?]
    exact Writer.play?_eq_none_iff
  · rw [Writer.run?_eq_play?] at hrun
    have hstands : Writer.Stands { level } "" [] := ⟨rfl, rfl⟩
    have htext := hstands.text_play? hrun
    rw [String.empty_append] at htext
    refine ⟨Writer.level_play? hrun, htext, fun hunbroken => ?_⟩
    rw [htext]
    refine splitOn_intercalate_text (drafts_ne_nil _ _ _) fun line hline => ?_
    refine Draft.break_not_mem_text fun entry hentry => hunbroken entry.2 ?_
    exact (mem_of_mem_drafts hline hentry).resolve_left List.not_mem_nil
  · rw [Writer.step?_eq_play?] at hblock
    have hlevel := Writer.level_play? hblock
    rw [descent_block, hbalanced] at hlevel
    omega

/-- A line that goes deeper behind its first text, a gap behind it, a block that goes back and deeper
    again inside, and a last line that is not ended. -/
theorem writes_drafts_stairs :
    let stairs : List Step :=
      [.write "", .write "a", .indent, .write "b", .blankLine,
        .block [.dedent, .line "c", .indent], .dedent, .dedent, .write "d"]
    ∃ w, Writer.run? { level := 1 } stairs = some w ∧ w.level = 0
      ∧ w.text = "    ab\n\n        \x7b\n        c\n        \x7d\nd"
      ∧ w.text.toList.splitOn '\n'
        = ["    ab".toList, [], "        \x7b".toList, "        c".toList, "        \x7d".toList,
          ['d']]
      ∧ Writer.run? { level := 1 } (stairs ++ [.dedent]) = none := by
  intro stairs
  have hdescent : descent (strokesOfAll stairs) = -1 := by decide +kernel
  have hdrafts : drafts 1 [] (strokesOfAll stairs)
      = [[(1, ""), (1, "a"), (2, "b")], [], [(2, "\x7b")], [(2, "c")], [(2, "\x7d")], [(0, "d")]] := by
    decide +kernel
  have hunbroken : ∀ text, .text text ∈ strokesOfAll stairs → '\n' ∉ text.toList := by
    simp +decide [stairs, strokesOfAll, strokes]
  have hruns : (Writer.run? { level := 1 } stairs).isSome = true := by decide +kernel
  obtain ⟨w, hw⟩ := Option.isSome_iff_exists.mp hruns
  obtain ⟨hlevel, htext, hsplit⟩ := (writes_drafts 1 stairs).2.1 w hw
  rw [hdescent] at hlevel
  rw [hdrafts] at htext hsplit
  refine ⟨w, hw, by omega, htext.trans (by decide +kernel), (hsplit hunbroken).trans ?_, ?_⟩
  · decide +kernel
  · exact (writes_drafts 1 (stairs ++ [.dedent])).1.mpr
      ⟨strokesOfAll stairs, [], by decide +kernel, by rw [hdescent]; rfl⟩

end Companion.Source
