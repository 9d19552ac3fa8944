import Companion.Diagnostic
import Companion.Proofs.Json.UniqueReading

/-!
# Messages

The arguments of a message are put into its format **one after the other**. Each pass goes over what
the passes before it have made of the format, arguments included. What a reader of the format expects
is that every place gets its own argument, all of them **at once**.

> **The two are the same if only the last argument has braces** (`message_filled`).

An argument with a place in it is still filled by the arguments behind it, and there are none behind
the last. So the one argument that a static subject's diagnostic has, its name, is quoted as it is.

A format whose braces all belong to places is a list of characters and places (`FormatPart`). What
carries the induction over the arguments is that every pass makes another such list of it, because an
argument without braces is characters.
-/

namespace Companion

/-! ## Formats -/

/-- The character is not a brace. -/
def IsPlain (c : Char) : Prop := c ≠ '\x7b' ∧ c ≠ '\x7d'

instance (c : Char) : Decidable (IsPlain c) := inferInstanceAs (Decidable (_ ∧ _))

/-- What a format is made of. -/
inductive FormatPart where
  | plain (c : Char) (isPlain : IsPlain c)
  | place (index : Nat)

namespace FormatPart

def text : FormatPart → List Char
  | plain c _ => [c]
  | place index => placeholder index

/-- The part with its argument in it. A place without an argument stays as it is. -/
def filled (argument? : Nat → Option (List Char)) : FormatPart → List Char
  | plain c _ => [c]
  | place index => (argument? index).getD (placeholder index)

@[simp] theorem text_plain (c : Char) (h : IsPlain c) : (plain c h).text = [c] := rfl

@[simp] theorem text_place (index : Nat) : (place index).text = placeholder index := rfl

section

variable (argument? : Nat → Option (List Char))

@[simp] theorem filled_plain (c : Char) (h : IsPlain c) : (plain c h).filled argument? = [c] := rfl

@[simp] theorem filled_place (index : Nat) :
    (place index).filled argument? = (argument? index).getD (placeholder index) := rfl

end

end FormatPart

/-- The format that the parts are written as. -/
def written (parts : List FormatPart) : List Char :=
  parts.flatMap FormatPart.text

/-- The format with all arguments put in at once. -/
def filled (argument? : Nat → Option (List Char)) (parts : List FormatPart) : List Char :=
  parts.flatMap (·.filled argument?)

theorem written_cons (p : FormatPart) (parts : List FormatPart) :
    written (p :: parts) = p.text ++ written parts :=
  List.flatMap_cons

theorem filled_cons (argument? : Nat → Option (List Char)) (p : FormatPart)
    (parts : List FormatPart) :
    filled argument? (p :: parts) = p.filled argument? ++ filled argument? parts :=
  List.flatMap_cons

/-! ## Places -/

theorem placeholder_eq (index : Nat) :
    placeholder index = '\x7b' :: (Nat.toDigits 10 index ++ ['\x7d']) := by
  show '\x7b' :: ((Nat.repr index).toList ++ ['\x7d']) = _
  rw [Nat.toList_repr]

/-- A brace opens a place, and none opens inside. -/
theorem not_open_of_mem_inside {index : Nat} {c : Char}
    (h : c ∈ Nat.toDigits 10 index ++ ['\x7d']) : c ≠ '\x7b' := by
  rcases List.mem_append.mp h with hdigit | hclose
  · rintro rfl
    exact absurd (Json.isDigit_of_mem_toDigits hdigit) (by decide)
  · rw [List.mem_singleton.mp hclose]
    decide

/-- A place says where it ends, so another place does not begin like it. -/
theorem placeholder_append_inj {i j : Nat} {rest rest' : List Char}
    (h : placeholder i ++ rest = placeholder j ++ rest') : i = j ∧ rest = rest' := by
  have hclosed : ∀ text, Json.Bounded ('\x7d' :: text) := fun _ => Json.bounded_cons (by decide)
  simp only [placeholder_eq, List.cons_append, List.append_assoc, List.nil_append] at h
  obtain ⟨hindex, hrest⟩ :=
    Json.digits_append_inj (hclosed rest) (hclosed rest') (List.cons.inj h).2
  exact ⟨hindex, (List.cons.inj hrest).2⟩

theorem isPrefixOf_placeholder {i j : Nat} {rest : List Char} :
    (placeholder i).isPrefixOf (placeholder j ++ rest) = true ↔ i = j := by
  rw [List.isPrefixOf_iff_prefix]
  constructor
  · intro ⟨_, h⟩
    exact (placeholder_append_inj h).1
  · rintro rfl
    exact List.prefix_append _ _

/-! ## One argument -/

section

variable {index : Nat} {argument : List Char}

theorem replaceAll_cons {c : Char} {rest : List Char}
    (h : (placeholder index).isPrefixOf (c :: rest) = false) :
    replaceAll (placeholder index) argument (c :: rest)
      = c :: replaceAll (placeholder index) argument rest := by
  rw [replaceAll, h]
  rfl

/-- Nothing is replaced before a brace opens. -/
theorem replaceAll_append {before : List Char} (h : ∀ c ∈ before, c ≠ '\x7b') (rest : List Char) :
    replaceAll (placeholder index) argument (before ++ rest)
      = before ++ replaceAll (placeholder index) argument rest := by
  induction before with
  | nil => rfl
  | cons c before ih =>
    rw [List.forall_mem_cons] at h
    have hother : (placeholder index).isPrefixOf (c :: (before ++ rest)) = false := by
      show ('\x7b' == c && _) = false
      simp [Ne.symm h.1]
    rw [List.cons_append, replaceAll_cons hother, ih h.2, List.cons_append]

theorem replaceAll_of_no_open {text : List Char} (h : ∀ c ∈ text, c ≠ '\x7b') :
    replaceAll (placeholder index) argument text = text := by
  have happend : replaceAll (placeholder index) argument (text ++ [])
      = text ++ replaceAll (placeholder index) argument [] := replaceAll_append h []
  simpa [replaceAll] using happend

theorem replaceAll_placeholder_self (rest : List Char) :
    replaceAll (placeholder index) argument (placeholder index ++ rest)
      = argument ++ replaceAll (placeholder index) argument rest := by
  have hplace : (placeholder index).isPrefixOf (placeholder index ++ rest) = true :=
    isPrefixOf_placeholder.mpr rfl
  rw [placeholder_eq] at hplace ⊢
  rw [List.cons_append] at hplace ⊢
  rw [replaceAll, hplace]
  simp

theorem replaceAll_placeholder_other {other : Nat} (h : other ≠ index) (rest : List Char) :
    replaceAll (placeholder index) argument (placeholder other ++ rest)
      = placeholder other ++ replaceAll (placeholder index) argument rest := by
  have hplace : (placeholder index).isPrefixOf (placeholder other ++ rest) = false := by
    rw [Bool.eq_false_iff]
    intro hprefix
    exact h (isPrefixOf_placeholder.mp hprefix).symm
  rw [placeholder_eq other] at hplace ⊢
  rw [List.cons_append] at hplace ⊢
  rw [replaceAll_cons hplace, replaceAll_append fun _ => not_open_of_mem_inside, List.cons_append]

/-- A pass fills the places with its number and leaves the rest, whatever the argument is. -/
theorem replaceAll_written (parts : List FormatPart) :
    replaceAll (placeholder index) argument (written parts)
      = filled (fun i => if i = index then some argument else none) parts := by
  induction parts with
  | nil => simp [written, filled, replaceAll]
  | cons p parts ih =>
    rw [written_cons, filled_cons, ← ih]
    cases p with
    | plain c hplain => exact replaceAll_append (by simpa using hplain.1) _
    | place i =>
      by_cases hi : i = index
      · subst hi
        simpa using replaceAll_placeholder_self _
      · simpa [hi] using replaceAll_placeholder_other hi _

end

/-! ## All arguments -/

theorem filled_append (argument? : Nat → Option (List Char)) (parts parts' : List FormatPart) :
    filled argument? (parts ++ parts') = filled argument? parts ++ filled argument? parts' :=
  List.flatMap_append

theorem filled_none (parts : List FormatPart) : filled (fun _ => none) parts = written parts := by
  induction parts with
  | nil => rfl
  | cons p parts ih =>
    rw [filled_cons, written_cons, ih]
    cases p with
    | plain c h => rfl
    | place i => rfl

/-- What becomes of a part when an argument without braces is put in: a place with its number gives
    way to the characters of the argument. -/
def FormatPart.pass (index : Nat) {argument : List Char} (h : ∀ c ∈ argument, IsPlain c) :
    FormatPart → List FormatPart
  | .plain c hc => [.plain c hc]
  | .place i => if i = index then argument.pmap .plain h else [.place i]

section

variable {index : Nat} {argument : List Char} (argument? : Nat → Option (List Char))

theorem filled_pmap (h : ∀ c ∈ argument, IsPlain c) :
    filled argument? (argument.pmap .plain h) = argument := by
  induction argument with
  | nil => rfl
  | cons c rest ih =>
    rw [List.pmap_cons, filled_cons, ih, FormatPart.filled_plain, List.singleton_append]

/-- What the passes after it put in goes by the argument of this one. -/
theorem filled_pass (h : ∀ c ∈ argument, IsPlain c) (parts : List FormatPart) :
    filled argument? (parts.flatMap (·.pass index h))
      = filled (fun i => if i = index then some argument else argument? i) parts := by
  induction parts with
  | nil => rfl
  | cons p parts ih =>
    rw [List.flatMap_cons, filled_append, filled_cons, ih]
    congr 1
    cases p with
    | plain c hc => rfl
    | place i =>
      by_cases hi : i = index
      -- The characters that came in are no places, so nothing comes in behind them.
      · simp [FormatPart.pass, hi, filled_pmap]
      · simp [FormatPart.pass, hi, filled]

theorem replaceAll_written_of_plain (h : ∀ c ∈ argument, IsPlain c) (parts : List FormatPart) :
    replaceAll (placeholder index) argument (written parts)
      = written (parts.flatMap (·.pass index h)) := by
  rw [replaceAll_written, ← filled_none, filled_pass]

end

/-- The arguments by their numbers, if they are counted from `index`. -/
def argumentsFrom (index : Nat) (arguments : List (List Char)) (i : Nat) : Option (List Char) :=
  if index ≤ i then arguments[i - index]? else none

theorem argumentsFrom_nil (index : Nat) : argumentsFrom index [] = fun _ => none := by
  funext i
  simp [argumentsFrom]

theorem argumentsFrom_cons (index : Nat) (argument : List Char) (rest : List (List Char)) :
    argumentsFrom index (argument :: rest)
      = fun i => if i = index then some argument else argumentsFrom (index + 1) rest i := by
  funext i
  unfold argumentsFrom
  -- Before the first number, at it, and behind it, where the rest is counted from the next one.
  rcases Nat.lt_trichotomy i index with hlt | rfl | hlt
  · rw [if_neg (by omega), if_neg (by omega), if_neg (by omega)]
  · simp
  · rw [if_pos (by omega), if_neg (by omega), if_pos (by omega)]
    have hsucc : i - index = (i - (index + 1)) + 1 := by omega
    rw [hsucc, List.getElem?_cons_succ]

/-- **Filling a format one argument after the other fills it at once**, if only the last argument has
    braces. By induction on the arguments: all but the last make a format of the format. -/
theorem fillFrom_written {arguments : List (List Char)}
    (h : ∀ argument ∈ arguments.dropLast, ∀ c ∈ argument, IsPlain c) (index : Nat)
    (parts : List FormatPart) :
    fillFrom index arguments (written parts) = filled (argumentsFrom index arguments) parts := by
  induction arguments generalizing index parts with
  | nil => rw [argumentsFrom_nil, filled_none, fillFrom]
  | cons argument rest ih =>
    rw [fillFrom, argumentsFrom_cons]
    cases rest with
    | nil => rw [fillFrom, replaceAll_written, argumentsFrom_nil]
    | cons next rest =>
      rw [List.dropLast_cons_cons, List.forall_mem_cons] at h
      rw [replaceAll_written_of_plain h.1, ih h.2, filled_pass]

/-! ## Formats as texts -/

/-- Every brace in the text belongs to a place. -/
def BracesInPlaces (text : List Char) : Prop :=
  ∀ k c, text[k]? = some c → ¬ IsPlain c →
    ∃ start index rest, text = start ++ (placeholder index ++ rest)
      ∧ start.length ≤ k ∧ k < start.length + (placeholder index).length

/-- A brace opens at the beginning of a place only. -/
theorem eq_nil_of_placeholder_eq {index : Nat} {before after : List Char}
    (h : placeholder index = before ++ '\x7b' :: after) : before = [] := by
  cases before with
  | nil => rfl
  | cons c before =>
    rw [placeholder_eq, List.cons_append] at h
    have hmem : '\x7b' ∈ Nat.toDigits 10 index ++ ['\x7d'] := by
      rw [(List.cons.inj h).2]
      simp
    exact absurd rfl (not_open_of_mem_inside hmem)

theorem bracesInPlaces_written (parts : List FormatPart) : BracesInPlaces (written parts) := by
  induction parts with
  | nil =>
    intro k c hk
    simp [written] at hk
  | cons p parts ih =>
    intro k c hk hc
    rw [written_cons] at hk ⊢
    by_cases hinside : k < p.text.length
    · cases p with
      | plain c' hplain =>
        rw [List.getElem?_append_left hinside] at hk
        have hmem : c ∈ [c'] := List.mem_of_getElem? hk
        rw [List.mem_singleton.mp hmem] at hc
        exact absurd hplain hc
      | place index => exact ⟨[], index, written parts, rfl, Nat.zero_le k, by simpa using hinside⟩
    · rw [List.getElem?_append_right (by omega)] at hk
      obtain ⟨start, index, rest, hrest, hfrom, hto⟩ := ih _ c hk hc
      refine ⟨p.text ++ start, index, rest, by rw [hrest, List.append_assoc], ?_, ?_⟩
      · rw [List.length_append]
        omega
      · rw [List.length_append]
        omega

/-- What stands behind a part of a format is a format. -/
theorem BracesInPlaces.behind {p : FormatPart} {text : List Char}
    (h : BracesInPlaces (p.text ++ text)) : BracesInPlaces text := by
  intro k c hk hc
  have hk' : (p.text ++ text)[p.text.length + k]? = some c := by
    rw [List.getElem?_append_right (by omega), Nat.add_sub_cancel_left]
    exact hk
  obtain ⟨start, index, rest, hsplit, hfrom, hto⟩ := h _ c hk' hc
  rcases List.append_eq_append_iff.mp hsplit with ⟨start', rfl, hrest⟩ | ⟨inside, htext, hrest⟩
  · refine ⟨start', index, rest, hrest, ?_, ?_⟩
    · rw [List.length_append] at hfrom
      omega
    · rw [List.length_append] at hto
      omega
  · cases inside with
    | nil =>
      rw [List.append_nil] at htext
      rw [htext] at hfrom hto
      exact ⟨[], index, rest, hrest.symm, Nat.zero_le k, by simpa using hto⟩
    | cons d inside =>
      -- The place that the brace belongs to would begin inside the part.
      have hopen : d = '\x7b' := by
        rw [placeholder_eq] at hrest
        exact (List.cons.inj hrest).1.symm
      subst hopen
      cases p with
      | plain c' hplain =>
        have hmem : '\x7b' ∈ [c'] := by
          show '\x7b' ∈ (FormatPart.plain c' hplain).text
          rw [htext]
          simp
        exact absurd (List.mem_singleton.mp hmem).symm hplain.1
      | place i =>
        rw [FormatPart.text_place] at htext hto
        obtain rfl := eq_nil_of_placeholder_eq htext
        rw [List.nil_append] at htext
        rw [← htext] at hrest
        obtain ⟨rfl, -⟩ := placeholder_append_inj hrest
        rw [List.length_nil] at hto
        omega

/-- **A text in which every brace belongs to a place is a format.** By induction on how long it is: it
    begins with a part, and what stands behind that part is shorter. -/
theorem BracesInPlaces.exists_written {text : List Char} (h : BracesInPlaces text) :
    ∃ parts, text = written parts := by
  induction hlength : text.length using Nat.strongRecOn generalizing text with
  | ind n ih =>
    subst hlength
    have hbehind : ∀ (p : FormatPart) (rest : List Char), text = p.text ++ rest → p.text ≠ [] →
        ∃ parts, text = written parts := by
      rintro p rest rfl hfull
      have hshorter : rest.length < (p.text ++ rest).length := by
        have hpositive := List.length_pos_iff.mpr hfull
        rw [List.length_append]
        omega
      obtain ⟨parts, hparts⟩ := ih rest.length hshorter h.behind rfl
      exact ⟨p :: parts, by rw [written_cons, ← hparts]⟩
    cases text with
    | nil => exact ⟨[], rfl⟩
    | cons c rest =>
      by_cases hplain : IsPlain c
      · exact hbehind (.plain c hplain) rest rfl (by simp)
      · obtain ⟨start, index, behind, hsplit, hfrom, -⟩ := h 0 c rfl hplain
        obtain rfl := List.length_eq_zero_iff.mp (Nat.le_zero.mp hfrom)
        exact hbehind (.place index) behind hsplit (by simp [placeholder_eq])

/-! ## Messages -/

theorem argumentsFrom_zero (arguments : List String) :
    argumentsFrom 0 (arguments.map String.toList) = fun i => (arguments[i]?).map String.toList := by
  funext i
  simp [argumentsFrom]

theorem toList_message (r : Rule) (arguments : List String) :
    (r.message arguments).toList
      = fillFrom 0 (arguments.map String.toList) r.messageFormat.toList := by
  rw [Rule.message, String.toList_ofList]

/-- A static subject is named between two texts without braces. -/
theorem message_unsupportedStaticType (s : SubjectDescriptor) :
    (Diagnostic.unsupportedStaticType s).message
      = "Unsupported static type '" ++ s.name
        ++ "'. Static types will be supported from a future release onward." := by
  have hformat : Rule.unsupportedStaticType.messageFormat.toList
      = "Unsupported static type '".toList
        ++ (placeholder 0
          ++ "'. Static types will be supported from a future release onward.".toList) := by
    decide +kernel
  apply String.toList_inj.mp
  show (Rule.unsupportedStaticType.message [s.name]).toList = _
  rw [toList_message, hformat, List.map_singleton, fillFrom, fillFrom,
    replaceAll_append (by simp), replaceAll_placeholder_self, replaceAll_of_no_open (by simp),
    String.toList_append, String.toList_append, List.append_assoc]

/-- **Messages are their formats with all arguments put in at once.** If every brace of a format belongs
    to a place, it is a list of parts, and if all arguments but the last are without braces, the
    message is the parts with every place filled that there is an argument for, and nothing else
    changed. The last argument may be any text, and so may the only one: the diagnostic of a static
    subject quotes its name as it is. -/
theorem messages_filled :
    (∀ (r : Rule) (arguments : List String), BracesInPlaces r.messageFormat.toList →
      (∀ argument ∈ arguments.dropLast, ∀ c ∈ argument.toList, IsPlain c) →
      (∃ parts, r.messageFormat.toList = written parts)
        ∧ ∀ parts, r.messageFormat.toList = written parts →
          (r.message arguments).toList
            = filled (fun i => (arguments[i]?).map String.toList) parts)
      ∧ ∀ s : SubjectDescriptor, (Diagnostic.unsupportedStaticType s).message
        = "Unsupported static type '" ++ s.name
          ++ "'. Static types will be supported from a future release onward." := by
  refine ⟨?_, message_unsupportedStaticType⟩
  intro r arguments hformat hplain
  refine ⟨hformat.exists_written, ?_⟩
  intro parts hparts
  have hplain' : ∀ argument ∈ (arguments.map String.toList).dropLast, ∀ c ∈ argument, IsPlain c := by
    rw [← List.map_dropLast, List.forall_mem_map]
    exact hplain
  rw [toList_message, hparts, fillFrom_written hplain', argumentsFrom_zero]

theorem messages_filled_swapped :
    letI r : Rule :=
      { Rule.unsupportedStaticType with messageFormat := "\x7b1\x7d-\x7b0\x7d-\x7b2\x7d" }
    letI arguments := ["a", "\x7b0\x7d"]
    BracesInPlaces r.messageFormat.toList
      ∧ (∀ argument ∈ arguments.dropLast, ∀ c ∈ argument.toList, IsPlain c)
      ∧ r.message arguments = "\x7b0\x7d-a-\x7b2\x7d" := by
  let parts : List FormatPart :=
    [.place 1, .plain '-' (by decide), .place 0, .plain '-' (by decide), .place 2]
  have hparts : "\x7b1\x7d-\x7b0\x7d-\x7b2\x7d".toList = written parts := by decide +kernel
  have hformat : BracesInPlaces "\x7b1\x7d-\x7b0\x7d-\x7b2\x7d".toList := by
    rw [hparts]
    exact bracesInPlaces_written parts
  have hplain : ∀ argument ∈ ["a", "\x7b0\x7d"].dropLast, ∀ c ∈ argument.toList, IsPlain c := by
    simp [IsPlain]
  obtain ⟨-, hfilled⟩ := messages_filled.1
    { Rule.unsupportedStaticType with messageFormat := "\x7b1\x7d-\x7b0\x7d-\x7b2\x7d" }
    ["a", "\x7b0\x7d"] hformat hplain
  refine ⟨hformat, hplain, String.toList_inj.mp ?_⟩
  rw [hfilled parts hparts]
  decide +kernel

/-- A place in an argument is filled by the arguments behind it. -/
example : ({ Rule.unsupportedStaticType with messageFormat := "\x7b0\x7d" } : Rule).message
    ["\x7b1\x7d", "a"] = "a" := by
  cbv

end Companion
