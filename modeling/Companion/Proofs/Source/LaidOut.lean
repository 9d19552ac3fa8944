import Companion.Source.Writer
import Companion.Text.Blank

/-!
# Lines that are laid out

What it means for lines of text that braces stand on lines of their own, that they are balanced, and
that every line is indented by the depth at which it stands. The depth is counted in the lines
themselves, so the reading needs nothing of how they were written.

Two things keep lines laid out: putting some behind others, and putting braces around some that
stand one deeper. Everything that a writer writes is made of these two.
-/

namespace Companion.Source

/-- A line of text, without its end. -/
abbrev Line := List Char

namespace Line

/-- The line without the blanks in front. -/
def trimmed (line : Line) : Line :=
  line.dropWhile (· == ' ')

/-- How many blanks stand in front. -/
def margin (line : Line) : Nat :=
  (line.takeWhile (· == ' ')).length

def opens (line : Line) : Bool :=
  trimmed line == ['\x7b']

def closes (line : Line) : Bool :=
  trimmed line == ['\x7d']

/-- How deep lines lead: the blocks that they open, less those that they close. -/
def depth (lines : List Line) : Int :=
  lines.countP opens - lines.countP closes

@[simp] theorem depth_nil : depth [] = 0 := rfl

theorem depth_append (a b : List Line) : depth (a ++ b) = depth a + depth b := by
  simp only [depth, List.countP_append]
  omega

theorem depth_cons (line : Line) (lines : List Line) :
    depth (line :: lines) = depth [line] + depth lines :=
  depth_append [line] lines

/-- The depth at which a line stands behind others. A line that closes a block stands where the
    block was opened. -/
def standing (before : List Line) (line : Line) : Int :=
  if closes line then depth (before ++ [line]) else depth before

theorem standing_append (a b : List Line) (line : Line) :
    standing (a ++ b) line = depth a + standing b line := by
  unfold standing
  split
  · rw [List.append_assoc, depth_append]
  · rw [depth_append]

/-- A text behind as many blanks as a level takes. -/
def indented (level : Nat) (text : List Char) : Line :=
  List.replicate (4 * level) ' ' ++ text

theorem trimmed_indented (level : Nat) {c : Char} (hc : c ≠ ' ') (rest : List Char) :
    trimmed (indented level (c :: rest)) = c :: rest := by
  unfold trimmed indented
  rw [List.dropWhile_append_of_pos (by simp)]
  simp [hc]

theorem margin_indented (level : Nat) {c : Char} (hc : c ≠ ' ') (rest : List Char) :
    margin (indented level (c :: rest)) = 4 * level := by
  unfold margin indented
  rw [List.takeWhile_append_of_pos (by simp)]
  simp [hc]

/-- The text begins like code: with neither a blank nor a brace. -/
def IsCode : List Char → Prop
  | [] => False
  | c :: _ => Text.isBlank c = false ∧ c ≠ '\x7b' ∧ c ≠ '\x7d'

instance (text : List Char) : Decidable (IsCode text) :=
  match text with
  | [] => inferInstanceAs (Decidable False)
  | c :: _ => inferInstanceAs (Decidable (Text.isBlank c = false ∧ c ≠ '\x7b' ∧ c ≠ '\x7d'))

theorem IsCode.append {text : List Char} (h : IsCode text) (more : List Char) :
    IsCode (text ++ more) := by
  cases text with
  | nil => exact h.elim
  | cons c rest => exact h

theorem ne_space_of_isBlank {c : Char} (h : Text.isBlank c = false) : c ≠ ' ' := by
  rintro rfl
  exact absurd h (by decide)

theorem depth_code (level : Nat) {text : List Char} (h : IsCode text) :
    depth [indented level text] = 0 := by
  cases text with
  | nil => exact h.elim
  | cons c rest =>
    obtain ⟨hblank, hopen, hclose⟩ := h
    have htrimmed := trimmed_indented level (ne_space_of_isBlank hblank) rest
    simp [depth, opens, closes, htrimmed, hopen, hclose]

theorem closes_code (level : Nat) {text : List Char} (h : IsCode text) :
    closes (indented level text) = false := by
  cases text with
  | nil => exact h.elim
  | cons c rest =>
    obtain ⟨hblank, -, hclose⟩ := h
    simp [closes, trimmed_indented level (ne_space_of_isBlank hblank), hclose]

theorem margin_code (level : Nat) {text : List Char} (h : IsCode text) :
    margin (indented level text) = 4 * level := by
  cases text with
  | nil => exact h.elim
  | cons c rest => exact margin_indented level (ne_space_of_isBlank h.1) rest

/-- A line with anything but blanks behind its margin is not blank. -/
theorem not_blank_indented (level : Nat) {c : Char} (hc : Text.isBlank c = false)
    (rest : List Char) : ¬ ∀ d ∈ indented level (c :: rest), Text.isBlank d = true := by
  intro h
  have hmem : c ∈ indented level (c :: rest) := List.mem_append_right _ List.mem_cons_self
  rw [h c hmem] at hc
  exact absurd hc (by simp)

theorem depth_open (level : Nat) : depth [indented level ['\x7b']] = 1 := by
  have h := trimmed_indented level (c := '\x7b') (by decide) []
  simp [depth, opens, closes, h]

theorem depth_close (level : Nat) : depth [indented level ['\x7d']] = -1 := by
  have h := trimmed_indented level (c := '\x7d') (by decide) []
  simp [depth, opens, closes, h]

/-- A line of two stretches stands in one of them. -/
theorem append_eq_append_cons {a b before after : List Line} {line : Line}
    (h : a ++ b = before ++ line :: after) :
    (∃ mid, before = a ++ mid ∧ b = mid ++ line :: after)
      ∨ ∃ mid, a = before ++ line :: mid ∧ after = mid ++ b := by
  rcases List.append_eq_append_iff.mp h with ⟨mid, hbefore, hb⟩ | ⟨mid, ha, hafter⟩
  · exact .inl ⟨mid, hbefore, hb⟩
  · cases mid with
    | nil => exact .inl ⟨[], by simpa using ha.symm, by simpa using hafter.symm⟩
    | cons first rest =>
      obtain ⟨rfl, hrest⟩ := List.cons.inj hafter
      exact .inr ⟨rest, ha, hrest⟩

end Line

open Line

/-- Lines are laid out from some depth on: braces are balanced, no line is blank but the empty one,
    and the others are indented by four blanks for each level at which they stand. -/
structure LaidOut (level : Nat) (lines : List Line) : Prop where
  nonneg : ∀ before after, lines = before ++ after → 0 ≤ depth before
  balanced : depth lines = 0
  blank : ∀ line ∈ lines, (∀ c ∈ line, Text.isBlank c = true) → line = []
  indented : ∀ before line after, lines = before ++ line :: after → line ≠ [] →
    (margin line : Int) = 4 * (level + standing before line)

namespace LaidOut

theorem nil (level : Nat) : LaidOut level [] where
  nonneg := by simp
  balanced := rfl
  blank := by simp
  indented := by simp

theorem append {level : Nat} {a b : List Line} (ha : LaidOut level a) (hb : LaidOut level b) :
    LaidOut level (a ++ b) where
  nonneg := by
    intro before after h
    rcases List.append_eq_append_iff.mp h with ⟨mid, rfl, hmid⟩ | ⟨mid, hmid, rfl⟩
    · rw [depth_append, ha.balanced, Int.zero_add]
      exact hb.nonneg mid after hmid
    · exact ha.nonneg before mid hmid
  balanced := by rw [depth_append, ha.balanced, hb.balanced, Int.zero_add]
  blank := by
    intro line hline
    rcases List.mem_append.mp hline with hline | hline
    · exact ha.blank line hline
    · exact hb.blank line hline
  indented := by
    intro before line after h hne
    rcases append_eq_append_cons h with ⟨mid, rfl, hmid⟩ | ⟨mid, rfl, -⟩
    · rw [standing_append, ha.balanced, Int.zero_add]
      exact hb.indented mid line after hmid hne
    · exact ha.indented before line mid rfl hne

theorem empty (level : Nat) : LaidOut level [[]] where
  nonneg := by
    intro before after h
    rcases List.singleton_eq_append_iff.mp h with ⟨rfl, -⟩ | ⟨rfl, -⟩ <;> decide
  balanced := by decide
  blank := by simp
  indented := by
    intro before line after h hne
    obtain ⟨rfl, h⟩ | ⟨rfl, h⟩ := List.singleton_eq_append_iff.mp h
    · exact absurd (List.cons.inj h).1.symm hne
    · exact absurd h (by simp)

theorem code (level : Nat) {text : List Char} (h : IsCode text) :
    LaidOut level [Line.indented level text] where
  nonneg := by
    intro before after hsplit
    rcases List.singleton_eq_append_iff.mp hsplit with ⟨rfl, -⟩ | ⟨rfl, -⟩
    · exact Int.le_refl 0
    · exact Int.le_of_eq (depth_code level h).symm
  balanced := depth_code level h
  blank := by
    intro line hline hblank
    obtain rfl := List.mem_singleton.mp hline
    cases text with
    | nil => exact h.elim
    | cons c rest => exact absurd hblank (not_blank_indented level h.1 rest)
  indented := by
    intro before line after hsplit _
    obtain ⟨rfl, hline⟩ | ⟨rfl, hline⟩ := List.singleton_eq_append_iff.mp hsplit
    · obtain ⟨rfl, -⟩ := List.cons.inj hline
      rw [standing, closes_code level h, margin_code level h]
      simp
    · exact absurd hline (by simp)

/-- Braces around lines that stand one deeper. -/
theorem braces {level : Nat} {body : List Line} (h : LaidOut (level + 1) body) :
    LaidOut level
      (Line.indented level ['\x7b'] :: (body ++ [Line.indented level ['\x7d']])) where
  nonneg := by
    intro before after hsplit
    cases before with
    | nil => exact Int.le_refl 0
    | cons first rest =>
      obtain ⟨rfl, hrest⟩ := List.cons.inj hsplit
      rw [depth_cons, depth_open]
      -- A beginning of the lines ends inside the body, or behind it with or without the last brace.
      rcases List.append_eq_append_iff.mp hrest with ⟨mid, rfl, hmid⟩ | ⟨mid, rfl, -⟩
      · rw [depth_append, h.balanced]
        rcases List.singleton_eq_append_iff.mp hmid with ⟨rfl, -⟩ | ⟨rfl, -⟩
        · decide
        · rw [depth_close]
          decide
      · have := h.nonneg rest mid rfl
        omega
  balanced := by
    rw [depth_cons, depth_append, depth_open, depth_close, h.balanced]
    rfl
  blank := by
    intro line hline hblank
    rcases List.mem_cons.mp hline with rfl | hline
    · exact absurd hblank (not_blank_indented level (by decide) [])
    · rcases List.mem_append.mp hline with hline | hline
      · exact h.blank line hline hblank
      · obtain rfl := List.mem_singleton.mp hline
        exact absurd hblank (not_blank_indented level (by decide) [])
  indented := by
    intro before line after hsplit hne
    cases before with
    | nil =>
      obtain ⟨rfl, -⟩ := List.cons.inj hsplit
      have hcloses : closes (Line.indented level ['\x7b']) = false := by
        simp [closes, trimmed_indented]
      rw [standing, hcloses]
      simp [margin_indented]
    | cons first rest =>
      obtain ⟨rfl, hrest⟩ := List.cons.inj hsplit
      rw [← List.singleton_append, standing_append, depth_open]
      rcases append_eq_append_cons hrest with ⟨mid, rfl, hmid⟩ | ⟨mid, rfl, -⟩
      · obtain ⟨rfl, hline⟩ | ⟨rfl, hline⟩ := List.singleton_eq_append_iff.mp hmid
        -- The closing brace counts itself, which brings it back to where the block was opened.
        · obtain ⟨rfl, -⟩ := List.cons.inj hline
          have hcloses : closes (Line.indented level ['\x7d']) = true := by
            simp [closes, trimmed_indented]
          rw [standing_append, h.balanced, standing, hcloses, List.nil_append, if_pos rfl,
            depth_close]
          simp [margin_indented]
        · exact absurd hline (by simp)
      · have := h.indented rest line mid rfl hne
        omega

end LaidOut

end Companion.Source
