import Companion.Data.Json

/-!
# A value is determined by its compact text

Fingerprints are digests of compact text. Whatever is remembered under a fingerprint is therefore
remembered for *every* input that has this text, and nothing downstream can tell two such inputs
apart. The fact that makes this harmless is proved here, once and for values in general:

> **the compact text of a value can be read in one way only** (`compact_inj`).

It is not true of all values. `null` and a decimal number are both written `null`, a scalar that
nobody has typed is written like a text, and a key that is a position is written like a name.
`Plain` excludes exactly these, and the encodings of models and options are plain.

The statement that goes through an induction is about a value *with more text behind it*: if two
such texts agree, then so do the values, and so does what stands behind them. A number would
swallow digits that follow it, so what follows must not begin with one (`Bounded`); inside a list
or a record it is always a comma or a closing bracket.
-/

namespace Companion
namespace Json

/-! ## Quoted text -/

/-- The characters with a short escape, behind the letter that stands for them. -/
def shortEscapes : List (Char × Char) :=
  [('"', '"'), ('\\', '\\'), ('n', '\n'), ('r', '\r'), ('t', '\t'), ('b', '\x08'), ('f', '\x0c')]

theorem eq_of_mem_shortEscapes {e c d : Char} (hc : (e, c) ∈ shortEscapes)
    (hd : (e, d) ∈ shortEscapes) : c = d := by
  have h : ∀ p ∈ shortEscapes, ∀ q ∈ shortEscapes, p.1 = q.1 → p.2 = q.2 := by decide
  exact h _ hc _ hd rfl

theorem ne_of_mem_shortEscapes {e c : Char} (h : (e, c) ∈ shortEscapes) : e ≠ 'u' := by
  have h' : ∀ p ∈ shortEscapes, p.1 ≠ 'u' := by decide
  exact h' _ h

theorem hexDigit_inj {a b : Nat} (ha : a < 16) (hb : b < 16) (h : hexDigit a = hexDigit b) :
    a = b := by
  have h' : ∀ a < 16, ∀ b < 16, hexDigit a = hexDigit b → a = b := by decide
  exact h' a ha b hb h

/-- The three ways in which a character stands inside quotation marks: as itself, behind a
    backslash, or by its number. -/
theorem escapeChar_cases (c : Char) :
    (escapeChar c = [c] ∧ c ≠ '"' ∧ c ≠ '\\')
    ∨ (∃ e, escapeChar c = ['\\', e] ∧ (e, c) ∈ shortEscapes)
    ∨ (escapeChar c = ['\\', 'u', '0', '0', hexDigit (c.toNat / 16), hexDigit c.toNat]
      ∧ c.toNat < 32) := by
  unfold escapeChar
  -- One split for each of the printer's tests, in its order.
  split
  · next h => exact .inr (.inl ⟨'"', rfl, by rw [eq_of_beq h]; decide⟩)
  split
  · next h => exact .inr (.inl ⟨'\\', rfl, by rw [eq_of_beq h]; decide⟩)
  split
  · next h => exact .inr (.inl ⟨'n', rfl, by rw [eq_of_beq h]; decide⟩)
  split
  · next h => exact .inr (.inl ⟨'r', rfl, by rw [eq_of_beq h]; decide⟩)
  split
  · next h => exact .inr (.inl ⟨'t', rfl, by rw [eq_of_beq h]; decide⟩)
  split
  · next h =>
    have hc : c = '\x08' := Char.toNat_inj.mp (eq_of_beq h)
    exact .inr (.inl ⟨'b', rfl, by rw [hc]; decide⟩)
  split
  · next h =>
    have hc : c = '\x0c' := Char.toNat_inj.mp (eq_of_beq h)
    exact .inr (.inl ⟨'f', rfl, by rw [hc]; decide⟩)
  split
  · next h => exact .inr (.inr ⟨rfl, h⟩)
  · next hq hb _ _ _ _ _ _ => exact .inl ⟨rfl, by simpa using hq, by simpa using hb⟩

/-- No escape begins with a quotation mark, so none is taken for the end of the text. -/
theorem escapeChar_append_ne {c : Char} {x r : List Char} : escapeChar c ++ x ≠ '"' :: r := by
  rcases escapeChar_cases c with ⟨h, hq, -⟩ | ⟨e, h, -⟩ | ⟨h, -⟩
  · rw [h]; intro he; exact hq (by simpa using (List.cons.inj he).1)
  · rw [h]; simp
  · rw [h]; simp

/-- No escape is the beginning of another one. -/
theorem escapeChar_append_inj {c d : Char} {x y : List Char}
    (h : escapeChar c ++ x = escapeChar d ++ y) : c = d ∧ x = y := by
  rcases escapeChar_cases c with ⟨hc, -, hc'⟩ | ⟨e, hc, he⟩ | ⟨hc, hc'⟩ <;>
    rcases escapeChar_cases d with ⟨hd, -, hd'⟩ | ⟨f, hd, hf⟩ | ⟨hd, hd'⟩ <;>
    rw [hc, hd] at h <;>
    simp only [List.cons_append, List.nil_append, List.cons.injEq, true_and] at h
  -- Two different ways differ in their first character or in the one behind the backslash.
  · exact h
  · exact absurd h.1 hc'
  · exact absurd h.1 hc'
  · exact absurd h.1.symm hd'
  · obtain ⟨rfl, rfl⟩ := h
    exact ⟨eq_of_mem_shortEscapes he hf, rfl⟩
  · exact absurd h.1 (ne_of_mem_shortEscapes he)
  · exact absurd h.1.symm hd'
  · exact absurd h.1.symm (ne_of_mem_shortEscapes hf)
  · obtain ⟨hhigh, hlow, rfl⟩ := h
    have hdiv : c.toNat / 16 = d.toNat / 16 := hexDigit_inj (by omega) (by omega) hhigh
    have hmod : c.toNat % 16 = d.toNat % 16 :=
      hexDigit_inj (by omega) (by omega) (by simpa [hexDigit] using hlow)
    exact ⟨Char.toNat_inj.mp (by omega), rfl⟩

/-- The end of a text is found, and the text in front of it read, in one way only. -/
theorem escaped_append_inj : ∀ {s t r r' : List Char},
    s.flatMap escapeChar ++ '"' :: r = t.flatMap escapeChar ++ '"' :: r' → s = t ∧ r = r' := by
  intro s
  induction s with
  | nil =>
    intro t r r' h
    cases t with
    | nil => exact ⟨rfl, (List.cons.inj h).2⟩
    | cons d t =>
      rw [List.flatMap_cons, List.append_assoc] at h
      exact absurd h.symm escapeChar_append_ne
  | cons c s ih =>
    intro t r r' h
    rw [List.flatMap_cons, List.append_assoc] at h
    cases t with
    | nil => exact absurd h escapeChar_append_ne
    | cons d t =>
      rw [List.flatMap_cons, List.append_assoc] at h
      obtain ⟨rfl, hrest⟩ := escapeChar_append_inj h
      obtain ⟨rfl, rfl⟩ := ih hrest
      exact ⟨rfl, rfl⟩

theorem toList_quote (s : String) :
    (quote s).toList = '"' :: (s.toList.flatMap escapeChar ++ ['"']) := by
  simp [quote]

theorem quote_append_inj {s t : String} {r r' : List Char}
    (h : (quote s).toList ++ r = (quote t).toList ++ r') : s = t ∧ r = r' := by
  rw [toList_quote, toList_quote] at h
  simp only [List.cons_append, List.append_assoc, List.nil_append, List.cons.injEq, true_and] at h
  obtain ⟨hst, hr⟩ := escaped_append_inj h
  exact ⟨String.toList_inj.mp hst, hr⟩

/-! ## Numbers -/

/-- What may stand behind a value: anything that does not begin with a digit. -/
def Bounded (rest : List Char) : Prop := ∀ c ∈ rest.head?, c.isDigit = false

theorem bounded_nil : Bounded [] := by simp [Bounded]

theorem bounded_cons {c : Char} {rest : List Char} (h : c.isDigit = false) :
    Bounded (c :: rest) := by
  simpa [Bounded] using h

theorem Bounded.takeWhile {rest : List Char} (h : Bounded rest) :
    rest.takeWhile Char.isDigit = [] := by
  cases rest with
  | nil => rfl
  | cons c rest => simp [h c rfl]

theorem isDigit_of_mem_toDigits {n : Nat} {c : Char} (h : c ∈ Nat.toDigits 10 n) :
    c.isDigit = true :=
  Nat.isDigit_of_mem_toDigits (by decide) (by decide) h

/-- Where digits end, the number ends. -/
theorem takeWhile_digits (n : Nat) {rest : List Char} (h : Bounded rest) :
    (Nat.toDigits 10 n ++ rest).takeWhile Char.isDigit = Nat.toDigits 10 n := by
  rw [List.takeWhile_append_of_pos fun _ => isDigit_of_mem_toDigits, h.takeWhile, List.append_nil]

theorem digits_append_inj {n m : Nat} {r r' : List Char} (hr : Bounded r) (hr' : Bounded r')
    (h : Nat.toDigits 10 n ++ r = Nat.toDigits 10 m ++ r') : n = m ∧ r = r' := by
  have hdigits : Nat.toDigits 10 n = Nat.toDigits 10 m := by
    rw [← takeWhile_digits n hr, h, takeWhile_digits m hr']
  have hnumber : n = m := by
    rw [← Nat.ofDigitChars_ten_toDigits (n := n), hdigits, Nat.ofDigitChars_ten_toDigits]
  rw [hdigits] at h
  exact ⟨hnumber, List.append_cancel_left h⟩

theorem toList_compact_integer : ∀ (n : Int), (compact (.integer n)).toList =
    if n < 0 then '-' :: Nat.toDigits 10 n.natAbs else Nat.toDigits 10 n.natAbs
  | .ofNat n => by
    rw [if_neg (by simp)]
    exact Nat.toList_repr
  | .negSucc n => by
    rw [if_pos (Int.negSucc_lt_zero n)]
    simp [compact, Int.natAbs_negSucc, toString, Int.repr]

/-- The text of a whole number begins with its sign or with a digit. -/
theorem compact_integer_head (n : Int) :
    ∃ c t, (compact (.integer n)).toList = c :: t ∧ (c = '-' ∨ c.isDigit = true) := by
  rw [toList_compact_integer]
  split
  · exact ⟨'-', _, rfl, .inl rfl⟩
  · obtain ⟨c, t, h⟩ := List.exists_cons_of_ne_nil (Nat.toDigits_ne_nil (n := n.natAbs) (b := 10))
    have hc : c ∈ Nat.toDigits 10 n.natAbs := by rw [h]; exact List.mem_cons_self
    exact ⟨c, t, h, .inr (isDigit_of_mem_toDigits hc)⟩

theorem integer_append_inj {n m : Int} {r r' : List Char} (hr : Bounded r) (hr' : Bounded r')
    (h : (compact (.integer n)).toList ++ r = (compact (.integer m)).toList ++ r') :
    n = m ∧ r = r' := by
  -- No digit is a minus sign, so the signs agree before the digits are looked at.
  have hminus : ∀ (k : Nat) {x y : List Char}, Nat.toDigits 10 k ++ x ≠ '-' :: y := by
    intro k x y he
    obtain ⟨c, t, hk⟩ := List.exists_cons_of_ne_nil (Nat.toDigits_ne_nil (n := k) (b := 10))
    have hc : c.isDigit = true :=
      isDigit_of_mem_toDigits (n := k) (by rw [hk]; exact List.mem_cons_self)
    rw [hk] at he
    rw [(List.cons.inj he).1] at hc
    exact absurd hc (by decide)
  rw [toList_compact_integer, toList_compact_integer] at h
  split at h <;> split at h
  · obtain ⟨habs, hrest⟩ := digits_append_inj hr hr' (List.cons.inj h).2
    exact ⟨by omega, hrest⟩
  · exact absurd h.symm (hminus _)
  · exact absurd h (hminus _)
  · obtain ⟨habs, hrest⟩ := digits_append_inj hr hr' h
    exact ⟨by omega, hrest⟩

/-! ## Plain values -/

mutual

/-- The values that have a text of their own: whole numbers only, keys that are names, no scalars.
    -/
def Plain : Value → Prop
  | .null | .flag _ | .integer _ | .text _ => True
  | .decimal | .scalar _ => False
  | .list items => PlainItems items
  | .record entries => PlainEntries entries

def PlainItems : List Value → Prop
  | [] => True
  | v :: rest => Plain v ∧ PlainItems rest

/-- Every entry has a name and holds something plain. -/
def PlainEntries : List (Key × Value) → Prop
  | [] => True
  | (k, v) :: rest => (∃ n, k = .name n) ∧ Plain v ∧ PlainEntries rest

end

theorem plainItems_iff {items : List Value} : PlainItems items ↔ ∀ v ∈ items, Plain v := by
  induction items with
  | nil => simp [PlainItems]
  | cons v rest ih => simp [PlainItems, ih]

theorem plain_ofFields_iff {fields : List (String × Value)} :
    Plain (.ofFields fields) ↔ ∀ f ∈ fields, Plain f.2 := by
  rw [Value.ofFields, Plain]
  induction fields with
  | nil => simp [PlainEntries]
  | cons f rest ih => simp [PlainEntries, ih]

/-! ## Values -/

/-- The first character of a text, where every number counts as beginning with a zero. -/
def leadOf (c : Char) : Char :=
  if c = '-' ∨ c.isDigit then '0' else c

/-- What the text of a plain value begins with. It tells the kind of the value. -/
def lead : Value → Char
  | .null => 'n'
  | .flag true => 't'
  | .flag false => 'f'
  | .text _ => '"'
  | .list _ => '['
  | .record _ => '\x7b'
  | _ => '0'

theorem leadOf_head {v : Value} (h : Plain v) :
    ∃ c t, (compact v).toList = c :: t ∧ leadOf c = lead v := by
  cases v with
  | null => exact ⟨'n', _, rfl, rfl⟩
  | flag b => cases b <;> exact ⟨_, _, rfl, rfl⟩
  | integer n =>
    obtain ⟨c, t, hc, hd⟩ := compact_integer_head n
    exact ⟨c, t, hc, if_pos hd⟩
  | decimal => exact absurd h (by simp [Plain])
  | text s => exact ⟨'"', _, toList_quote s, rfl⟩
  | list items => exact ⟨'[', _, by rw [compact]; simp; rfl, rfl⟩
  | record entries => exact ⟨'\x7b', _, by rw [compact]; simp; rfl, rfl⟩
  | scalar s => exact absurd h (by simp [Plain])

/-- Values of one kind. Of the two flags, each is a kind of its own. -/
def Alike : Value → Value → Prop
  | .null, .null => True
  | .flag b, .flag c => b = c
  | .integer _, .integer _ => True
  | .text _, .text _ => True
  | .list _, .list _ => True
  | .record _, .record _ => True
  | _, _ => False

theorem alike_of_lead {v w : Value} (hv : Plain v) (hw : Plain w) (h : lead v = lead w) :
    Alike v w := by
  cases v with
  | flag b =>
    cases w with
    | flag c => cases b <;> cases c <;> first | rfl | exact absurd h (by decide)
    | _ => cases b <;> first | exact hw | exact absurd h (by simp [lead])
  | _ =>
    cases w with
    | flag c => cases c <;> first | exact hv | exact absurd h (by simp [lead])
    | _ => first | trivial | exact hv | exact hw | exact absurd h (by simp [lead])

/-- A value never begins with a closing bracket. -/
theorem compact_append_ne {v : Value} (h : Plain v) {x r : List Char} :
    (compact v).toList ++ x ≠ ']' :: r := by
  obtain ⟨c, t, hc, hlead⟩ := leadOf_head h
  rw [hc]
  intro he
  rw [(List.cons.inj he).1] at hlead
  have hne : ∀ w : Value, leadOf ']' ≠ lead w := by
    intro w
    unfold lead
    split <;> decide
  exact hne v hlead

/-- The parts behind the first one, a comma in front of each, and the closing bracket. -/
def tail (closing : Char) : List (List Char) → List Char
  | [] => [closing]
  | p :: rest => ',' :: (p ++ tail closing rest)

theorem intercalate_append_closing (closing : Char) (p : List Char) (ps : List (List Char)) :
    [','].intercalate (p :: ps) ++ [closing] = p ++ tail closing ps := by
  induction ps generalizing p with
  | nil => simp [tail]
  | cons q qs ih =>
    simp only [List.intercalate_cons_cons, List.append_assoc, ih q, tail, List.cons_append,
      List.nil_append]

theorem bounded_tail_append {closing : Char} (h : closing.isDigit = false) (ps : List (List Char))
    (r : List Char) : Bounded (tail closing ps ++ r) := by
  cases ps with
  | nil => exact bounded_cons h
  | cons p ps => exact bounded_cons (by decide)

def entryText (e : Key × Value) : List Char :=
  (quote (keyText e.1)).toList ++ ':' :: (compact e.2).toList

theorem compactItems_eq (items : List Value) : compactItems items = items.map compact := by
  induction items with
  | nil => rfl
  | cons v rest ih => rw [compactItems, ih, List.map_cons]

theorem toList_compactEntries (entries : List (Key × Value)) :
    (compactEntries entries).map String.toList = entries.map entryText := by
  induction entries with
  | nil => rfl
  | cons e rest ih =>
    obtain ⟨k, v⟩ := e
    simp [compactEntries, ih, entryText]

/-- The text of a list with an item: a bracket, the first item, and the others behind it. -/
theorem toList_compact_list_cons (v : Value) (rest : List Value) :
    (compact (.list (v :: rest))).toList
      = '[' :: ((compact v).toList ++ tail ']' (rest.map fun w => (compact w).toList)) := by
  rw [compact, compactItems_eq]
  simp only [String.toList_append, String.toList_intercalate, List.map_cons, List.map_map]
  rw [List.append_assoc]
  exact congrArg ('[' :: ·) (intercalate_append_closing ']' _ _)

theorem toList_compact_record_cons (e : Key × Value) (rest : List (Key × Value)) :
    (compact (.record (e :: rest))).toList
      = '\x7b' :: (entryText e ++ tail '\x7d' (rest.map entryText)) := by
  rw [compact]
  simp only [String.toList_append, String.toList_intercalate, toList_compactEntries, List.map_cons]
  rw [List.append_assoc]
  exact congrArg ('\x7b' :: ·) (intercalate_append_closing '\x7d' _ _)

mutual

/-- **The text of a plain value is read in one way only**, and it is known where it ends. The
    induction follows the printer: a value, the items behind a comma, the entries behind a comma. -/
theorem compact_append_inj {v w : Value} {r r' : List Char} (hv : Plain v) (hw : Plain w)
    (hr : Bounded r) (hr' : Bounded r')
    (h : (compact v).toList ++ r = (compact w).toList ++ r') : v = w ∧ r = r' := by
  -- The first character tells the kind, so that only values of one kind are left to compare.
  have halike : Alike v w := by
    obtain ⟨c, t, hc, hcv⟩ := leadOf_head hv
    obtain ⟨d, u, hd, hdw⟩ := leadOf_head hw
    rw [hc, hd] at h
    exact alike_of_lead hv hw (by rw [← hcv, ← hdw, (List.cons.inj h).1])
  cases v with
  | null =>
    cases w with
    | null => exact ⟨rfl, List.append_cancel_left h⟩
    | _ => exact halike.elim
  | flag b =>
    cases w with
    | flag c =>
      obtain rfl : b = c := halike
      exact ⟨rfl, List.append_cancel_left h⟩
    | _ => exact halike.elim
  | integer n =>
    cases w with
    | integer m =>
      obtain ⟨rfl, hrest⟩ := integer_append_inj hr hr' h
      exact ⟨rfl, hrest⟩
    | _ => exact halike.elim
  | decimal => exact hv.elim
  | text s =>
    cases w with
    | text t =>
      obtain ⟨rfl, hrest⟩ := quote_append_inj h
      exact ⟨rfl, hrest⟩
    | _ => exact halike.elim
  | list xs =>
    cases w with
    | list ys =>
      obtain ⟨rfl, hrest⟩ := list_append_inj hv hw h
      exact ⟨rfl, hrest⟩
    | _ => exact halike.elim
  | record xs =>
    cases w with
    | record ys =>
      obtain ⟨rfl, hrest⟩ := record_append_inj hv hw h
      exact ⟨rfl, hrest⟩
    | _ => exact halike.elim
  | scalar s => exact hv.elim
termination_by structural v

/-- A list is read item by item. The empty one has its closing bracket where others have an item. -/
theorem list_append_inj {xs ys : List Value} {r r' : List Char} (hxs : PlainItems xs)
    (hys : PlainItems ys)
    (h : (compact (.list xs)).toList ++ r = (compact (.list ys)).toList ++ r') :
    xs = ys ∧ r = r' := by
  cases xs with
  | nil =>
    cases ys with
    | nil => exact ⟨rfl, List.append_cancel_left h⟩
    | cons y ys =>
      rw [toList_compact_list_cons, List.cons_append, List.append_assoc] at h
      exact absurd (List.cons.inj h).2.symm (compact_append_ne hys.1)
  | cons x xs =>
    rw [toList_compact_list_cons, List.cons_append, List.append_assoc] at h
    cases ys with
    | nil => exact absurd (List.cons.inj h).2 (compact_append_ne hxs.1)
    | cons y ys =>
      rw [toList_compact_list_cons, List.cons_append, List.append_assoc] at h
      -- Behind an item stands a comma or the bracket, in which no number goes on.
      obtain ⟨rfl, htail⟩ := compact_append_inj hxs.1 hys.1 (bounded_tail_append (by decide) _ _)
        (bounded_tail_append (by decide) _ _) (List.cons.inj h).2
      obtain ⟨rfl, hrest⟩ := items_append_inj hxs.2 hys.2 htail
      exact ⟨rfl, hrest⟩
termination_by structural xs

theorem items_append_inj {xs ys : List Value} {r r' : List Char} (hxs : PlainItems xs)
    (hys : PlainItems ys)
    (h : tail ']' (xs.map fun w => (compact w).toList) ++ r
      = tail ']' (ys.map fun w => (compact w).toList) ++ r') : xs = ys ∧ r = r' := by
  cases xs with
  | nil =>
    cases ys with
    | nil => exact ⟨rfl, (List.cons.inj h).2⟩
    | cons y ys => exact absurd (List.cons.inj h).1 (by decide)
  | cons x xs =>
    cases ys with
    | nil => exact absurd (List.cons.inj h).1 (by decide)
    | cons y ys =>
      simp only [List.map_cons, tail, List.cons_append, List.append_assoc] at h
      obtain ⟨rfl, htail⟩ := compact_append_inj hxs.1 hys.1 (bounded_tail_append (by decide) _ _)
        (bounded_tail_append (by decide) _ _) (List.cons.inj h).2
      obtain ⟨rfl, hrest⟩ := items_append_inj hxs.2 hys.2 htail
      exact ⟨rfl, hrest⟩
termination_by structural xs

/-- A record is read entry by entry: its key up to the closing quotation mark, then its value. -/
theorem record_append_inj {xs ys : List (Key × Value)} {r r' : List Char} (hxs : PlainEntries xs)
    (hys : PlainEntries ys)
    (h : (compact (.record xs)).toList ++ r = (compact (.record ys)).toList ++ r') :
    xs = ys ∧ r = r' := by
  cases xs with
  | nil =>
    cases ys with
    | nil => exact ⟨rfl, List.append_cancel_left h⟩
    | cons e ys =>
      rw [toList_compact_record_cons, entryText, toList_quote] at h
      exact absurd (List.cons.inj (List.cons.inj h).2).1 (by decide)
  | cons e xs =>
    cases ys with
    | nil =>
      rw [toList_compact_record_cons, entryText, toList_quote] at h
      exact absurd (List.cons.inj (List.cons.inj h).2).1 (by decide)
    | cons f ys =>
      obtain ⟨_, x⟩ := e
      obtain ⟨_, y⟩ := f
      obtain ⟨⟨k, rfl⟩, hx, hxs⟩ := hxs
      obtain ⟨⟨l, rfl⟩, hy, hys⟩ := hys
      rw [toList_compact_record_cons, toList_compact_record_cons, entryText, entryText] at h
      simp only [List.cons_append, List.append_assoc] at h
      obtain ⟨rfl, hvalue⟩ := quote_append_inj (List.cons.inj h).2
      obtain ⟨rfl, htail⟩ := compact_append_inj hx hy (bounded_tail_append (by decide) _ _)
        (bounded_tail_append (by decide) _ _) (List.cons.inj hvalue).2
      obtain ⟨rfl, hrest⟩ := entries_append_inj hxs hys htail
      exact ⟨rfl, hrest⟩
termination_by structural xs

theorem entries_append_inj {xs ys : List (Key × Value)} {r r' : List Char}
    (hxs : PlainEntries xs) (hys : PlainEntries ys)
    (h : tail '\x7d' (xs.map entryText) ++ r = tail '\x7d' (ys.map entryText) ++ r') :
    xs = ys ∧ r = r' := by
  cases xs with
  | nil =>
    cases ys with
    | nil => exact ⟨rfl, (List.cons.inj h).2⟩
    | cons f ys => exact absurd (List.cons.inj h).1 (by decide)
  | cons e xs =>
    cases ys with
    | nil => exact absurd (List.cons.inj h).1 (by decide)
    | cons f ys =>
      obtain ⟨_, x⟩ := e
      obtain ⟨_, y⟩ := f
      obtain ⟨⟨k, rfl⟩, hx, hxs⟩ := hxs
      obtain ⟨⟨l, rfl⟩, hy, hys⟩ := hys
      simp only [List.map_cons, tail, entryText, List.cons_append, List.append_assoc] at h
      obtain ⟨rfl, hvalue⟩ := quote_append_inj (List.cons.inj h).2
      obtain ⟨rfl, htail⟩ := compact_append_inj hx hy (bounded_tail_append (by decide) _ _)
        (bounded_tail_append (by decide) _ _) (List.cons.inj hvalue).2
      obtain ⟨rfl, hrest⟩ := entries_append_inj hxs hys htail
      exact ⟨rfl, hrest⟩
termination_by structural xs

end

/-- Plain values with one text are one value. -/
theorem compact_inj {v w : Value} (hv : Plain v) (hw : Plain w) (h : compact v = compact w) :
    v = w :=
  (compact_append_inj hv hw bounded_nil bounded_nil (by rw [h])).1

end Json
end Companion
