import Companion.Cache
import Companion.Proofs.Json.UniqueReading

/-!
# What a fingerprint is a fingerprint of

A fingerprint is the hexadecimal form of the digest of the canonical text of a model with options.
Three steps lead from the inputs to it, and two of them lose nothing:

* the canonical text: models and options can be recovered from it (`canonicalText_inj`);
* its bytes, and the hexadecimal form of a digest (`Sha256.hex_inj`).

What remains is the digest itself. So two inputs with one fingerprint are one input, unless their
texts are a collision of the digest (`fingerprint_tells_apart`); nothing else can make a remembered
outcome the outcome of something else.

Each encoding has two lemmas here, that it is plain and that it is injective. They go by its fields;
the encodings that leave fields out do so for empty lists only, which no list that is written is.
-/

namespace Companion

/-! ## Modifiers -/

theorem filter_intercalate {α : Type} (p : α → Bool) (separator : List α) (parts : List (List α)) :
    (separator.intercalate parts).filter p
      = (separator.filter p).intercalate (parts.map (List.filter p)) := by
  induction parts with
  | nil => rfl
  | cons a rest ih =>
    cases rest with
    | nil => simp
    | cons b rest =>
      simp only [List.intercalate_cons_cons, List.filter_append, List.map_cons] at *
      rw [ih]

namespace Modifiers

/-- A flag is set exactly if it is listed, so the list tells the flags. -/
theorem names_inj {m n : Modifiers} (h : m.names = n.names) : m = n := by
  have hmem : ∀ name, name ∈ m.names ↔ name ∈ n.names := by simp [h]
  -- Each name is listed for its own flag and for no other.
  have h₁ := hmem "STATIC"
  have h₂ := hmem "OVERRIDE"
  have h₃ := hmem "READ_ONLY"
  have h₄ := hmem "UNSAFE"
  have h₅ := hmem "REF_STRUCT"
  have h₆ := hmem "PARTIAL"
  have h₇ := hmem "REF"
  have h₈ := hmem "REF_READ_ONLY"
  clear hmem h
  obtain ⟨_, _, _, _, _, _, _, _⟩ := m
  obtain ⟨_, _, _, _, _, _, _, _⟩ := n
  simp [names, flags] at h₁ h₂ h₃ h₄ h₅ h₆ h₇ h₈
  simp [*]

/-- No name has a blank or a bar in it, and none is empty. -/
theorem name_spec {m : Modifiers} {name : String} (h : name ∈ m.names) :
    name.toList.filter (· != ' ') = name.toList ∧ '|' ∉ name.toList ∧ name.toList ≠ [] := by
  have hflag : name ∈ m.flags.map (·.1) := by
    obtain ⟨p, hp, rfl⟩ := List.mem_map.mp h
    exact List.mem_map_of_mem (List.mem_filter.mp hp).1
  simp only [flags, List.map_cons, List.map_nil, List.mem_cons, List.not_mem_nil, or_false] at hflag
  rcases hflag with rfl | rfl | rfl | rfl | rfl | rfl | rfl | rfl <;> decide

/-- Without its blanks, a listing is its names with single bars between them. -/
theorem filter_display (m : Modifiers) :
    m.display.toList.filter (· != ' ') = ['|'].intercalate (m.names.map String.toList) := by
  have hnames : m.names.map (List.filter (· != ' ') ∘ String.toList) = m.names.map String.toList :=
    List.map_congr_left fun name hname => (name_spec hname).1
  rw [display, String.toList_intercalate, filter_intercalate, List.map_map, hnames]
  rfl

/-- The names are read back from a listing at the bars, unless there are none. -/
theorem splitOn_filter_display {m : Modifiers} (h : m.names ≠ []) :
    (m.display.toList.filter (· != ' ')).splitOn '|' = m.names.map String.toList := by
  rw [filter_display]
  refine List.splitOn_intercalate '|' (fun part hpart => ?_) (by simpa using h)
  obtain ⟨name, hname, rfl⟩ := List.mem_map.mp hpart
  exact (name_spec hname).2.1

theorem filter_display_ne_nil {m : Modifiers} (h : m.names ≠ []) :
    m.display.toList.filter (· != ' ') ≠ [] := by
  intro he
  obtain ⟨name, rest, hn⟩ := List.exists_cons_of_ne_nil h
  have hsplit := splitOn_filter_display h
  rw [he, hn, List.splitOn_nil, List.map_cons] at hsplit
  have hname : name ∈ m.names := by rw [hn]; exact List.mem_cons_self
  exact (name_spec hname).2.2 (List.cons.inj hsplit).1.symm

theorem display_inj {m n : Modifiers} (h : m.display = n.display) : m = n := by
  apply names_inj
  -- Only the empty listing reads back as one empty name, so it is told from the others first.
  have hempty : ∀ {k : Modifiers}, k.names = [] → k.display.toList.filter (· != ' ') = [] := by
    intro k hk
    rw [filter_display, hk]
    rfl
  by_cases hm : m.names = []
  · by_cases hn : n.names = []
    · rw [hm, hn]
    · exact absurd (h ▸ hempty hm) (filter_display_ne_nil hn)
  · by_cases hn : n.names = []
    · exact absurd (h ▸ hempty hn) (filter_display_ne_nil hm)
    · have hnames : m.names.map String.toList = n.names.map String.toList := by
        rw [← splitOn_filter_display hm, h, splitOn_filter_display hn]
      exact (List.map_inj_right fun _ _ => String.toList_inj.mp).mp hnames

end Modifiers

/-! ## Encodings are plain -/

open Json (Plain)

theorem plain_list_map {α : Type} {encode : α → Value} (h : ∀ a, Plain (encode a)) (as : List α) :
    Plain (.list (as.map encode)) := by
  rw [Plain, Json.plainItems_iff]
  intro v hv
  obtain ⟨a, -, rfl⟩ := List.mem_map.mp hv
  exact h a

theorem plain_ofOption {α : Type} {encode : α → Value} (h : ∀ a, Plain (encode a)) (a : Option α) :
    Plain (.ofOption encode a) := by
  cases a with
  | none => trivial
  | some a => exact h a

theorem plain_text (s : String) : Plain (.text s) := trivial

theorem SourceLocation.plain_encode (l : SourceLocation) : Plain l.encode := by
  simp [SourceLocation.encode, Json.plain_ofFields_iff, Plain]

theorem SubjectDescriptor.plain_encode (s : SubjectDescriptor) : Plain s.encode := by
  simp [SubjectDescriptor.encode, SourceLocation.encode?, Json.plain_ofFields_iff, plain_list_map,
    plain_ofOption, plain_text, Vocabulary.write, SourceLocation.plain_encode]

theorem PropertyDescriptor.plain_encode (p : PropertyDescriptor) : Plain p.encode := by
  simp [PropertyDescriptor.encode, Json.plain_ofFields_iff, plain_text]

theorem ParameterDescriptor.plain_encode (p : ParameterDescriptor) : Plain p.encode := by
  simp [ParameterDescriptor.encode, Json.plain_ofFields_iff, plain_text]

theorem TypeParameterDescriptor.plain_encode (p : TypeParameterDescriptor) : Plain p.encode := by
  rw [TypeParameterDescriptor.encode, Json.plain_ofFields_iff]
  split <;> simp [plain_text, plain_list_map]

theorem MethodDescriptor.plain_encode (m : MethodDescriptor) : Plain m.encode := by
  rw [MethodDescriptor.encode, Json.plain_ofFields_iff]
  split <;> simp [plain_text, plain_list_map, ParameterDescriptor.plain_encode,
    TypeParameterDescriptor.plain_encode]

theorem SubjectModel.plain_encode (m : SubjectModel) : Plain m.encode := by
  simp [SubjectModel.encode, Json.plain_ofFields_iff, SubjectDescriptor.plain_encode,
    plain_list_map, PropertyDescriptor.plain_encode, MethodDescriptor.plain_encode]

theorem Options.plain_encode (o : Options) : Plain o.encode := by
  simp [Options.encode, Json.plain_ofFields_iff, Plain]

/-! ## Encodings are injective -/

theorem list_map_inj {α : Type} {encode : α → Value} (h : ∀ a b, encode a = encode b → a = b)
    {as bs : List α} (heq : Value.list (as.map encode) = .list (bs.map encode)) : as = bs :=
  (List.map_inj_right h).mp (Value.list.inj heq)

/-- Null is written for what is missing, so nothing that is there may be written so. -/
theorem ofOption_inj {α : Type} {encode : α → Value} (hnull : ∀ a, encode a ≠ .null)
    (h : ∀ a b, encode a = encode b → a = b) {a b : Option α}
    (heq : Value.ofOption encode a = .ofOption encode b) : a = b := by
  cases a with
  | none =>
    cases b with
    | none => rfl
    | some b => exact absurd heq.symm (hnull b)
  | some a =>
    cases b with
    | none => exact absurd heq (hnull a)
    | some b => rw [h a b heq]

theorem text_inj (s t : String) (h : Value.text s = .text t) : s = t := Value.text.inj h

theorem SourceLocation.encode_inj (l k : SourceLocation) (h : l.encode = k.encode) : l = k := by
  obtain ⟨path, line, column⟩ := l
  obtain ⟨path', line', column'⟩ := k
  simp only [encode, Value.ofFields, List.map_cons, List.map_nil, Value.record.injEq,
    List.cons.injEq, Prod.mk.injEq, true_and, and_true, Value.text.injEq, Value.integer.injEq,
    Int.natCast_inj, UInt32.toNat_inj] at h
  obtain ⟨rfl, rfl, rfl⟩ := h
  rfl

theorem DeclarationKind.write_inj {j k : DeclarationKind}
    (h : Vocabulary.write j = Vocabulary.write k) : j = k := by
  have hword : Vocabulary.word j = Vocabulary.word k := Value.text.inj h
  cases j <;> cases k <;> first | rfl | exact absurd hword (by decide)

theorem Passing.listed_inj {p q : Passing} (h : p.listed = q.listed) : p = q := by
  cases p <;> cases q <;> first | rfl | exact absurd h (by decide)

theorem SubjectDescriptor.encode_inj (s t : SubjectDescriptor) (h : s.encode = t.encode) :
    s = t := by
  obtain ⟨name, ns, reference, kind, modifiers, generics, location⟩ := s
  obtain ⟨name', ns', reference', kind', modifiers', generics', location'⟩ := t
  simp only [encode, Value.ofFields, List.map_cons, List.map_nil, Value.record.injEq,
    List.cons.injEq, Prod.mk.injEq, true_and, and_true, Value.text.injEq] at h
  obtain ⟨rfl, hns, rfl, hkind, hmodifiers, hgenerics, hlocation⟩ := h
  obtain rfl := ofOption_inj (fun _ => Value.noConfusion) text_inj hns
  obtain rfl := DeclarationKind.write_inj hkind
  obtain rfl := Modifiers.display_inj hmodifiers
  obtain rfl := list_map_inj text_inj hgenerics
  obtain rfl := ofOption_inj (fun _ => Value.noConfusion) SourceLocation.encode_inj hlocation
  rfl

theorem PropertyDescriptor.encode_inj (p q : PropertyDescriptor) (h : p.encode = q.encode) :
    p = q := by
  obtain ⟨name, type, modifiers⟩ := p
  obtain ⟨name', type', modifiers'⟩ := q
  simp only [encode, Value.ofFields, List.map_cons, List.map_nil, Value.record.injEq,
    List.cons.injEq, Prod.mk.injEq, true_and, and_true, Value.text.injEq] at h
  obtain ⟨rfl, rfl, hmodifiers⟩ := h
  rw [Modifiers.display_inj hmodifiers]

theorem ParameterDescriptor.encode_inj (p q : ParameterDescriptor) (h : p.encode = q.encode) :
    p = q := by
  obtain ⟨name, type, passing⟩ := p
  obtain ⟨name', type', passing'⟩ := q
  simp only [encode, Value.ofFields, List.map_cons, List.map_nil, Value.record.injEq,
    List.cons.injEq, Prod.mk.injEq, true_and, and_true, Value.text.injEq] at h
  obtain ⟨rfl, rfl, hpassing⟩ := h
  rw [Passing.listed_inj hpassing]

/-- A list that is left out when empty is still told from every other one. -/
theorem optionalField_inj {α : Type} {name : String} {encode : α → Value}
    (h : ∀ a b, encode a = encode b → a = b) {as bs : List α}
    (heq : (if as.isEmpty then [] else [(name, Value.list (as.map encode))])
      = if bs.isEmpty then [] else [(name, Value.list (bs.map encode))]) : as = bs := by
  cases as with
  | nil =>
    cases bs with
    | nil => rfl
    | cons b bs => exact absurd heq (by simp)
  | cons a as =>
    cases bs with
    | nil => exact absurd heq (by simp)
    | cons b bs => exact list_map_inj h (Prod.mk.inj (List.cons.inj heq).1).2

theorem ofFields_inj {xs ys : List (String × Value)} (h : Value.ofFields xs = .ofFields ys) :
    xs = ys := by
  refine (List.map_inj_right fun f g hfg => ?_).mp (Value.record.inj h)
  obtain ⟨hkey, hvalue⟩ := Prod.mk.inj hfg
  exact Prod.ext (Key.name.inj hkey) hvalue

theorem TypeParameterDescriptor.encode_inj (p q : TypeParameterDescriptor)
    (h : p.encode = q.encode) : p = q := by
  obtain ⟨name, constraints⟩ := p
  obtain ⟨name', constraints'⟩ := q
  have hfields := ofFields_inj h
  simp only [List.cons_append, List.nil_append, List.cons.injEq, Prod.mk.injEq, true_and,
    Value.text.injEq] at hfields
  obtain ⟨rfl, hconstraints⟩ := hfields
  rw [optionalField_inj text_inj hconstraints]

theorem MethodDescriptor.encode_inj (m n : MethodDescriptor) (h : m.encode = n.encode) : m = n := by
  obtain ⟨name, returnType, modifiers, parameters, typeParameters⟩ := m
  obtain ⟨name', returnType', modifiers', parameters', typeParameters'⟩ := n
  have hfields := ofFields_inj h
  simp only [List.cons_append, List.nil_append, List.cons.injEq, Prod.mk.injEq, true_and,
    Value.text.injEq] at hfields
  obtain ⟨rfl, rfl, hmodifiers, hparameters, htypes⟩ := hfields
  obtain rfl := Modifiers.display_inj hmodifiers
  obtain rfl := list_map_inj ParameterDescriptor.encode_inj hparameters
  rw [optionalField_inj TypeParameterDescriptor.encode_inj htypes]

theorem SubjectModel.encode_inj {m n : SubjectModel} (h : m.encode = n.encode) : m = n := by
  obtain ⟨subject, properties, methods⟩ := m
  obtain ⟨subject', properties', methods'⟩ := n
  have hfields := ofFields_inj h
  simp only [List.cons.injEq, Prod.mk.injEq, true_and, and_true] at hfields
  obtain ⟨hsubject, hproperties, hmethods⟩ := hfields
  obtain rfl := SubjectDescriptor.encode_inj _ _ hsubject
  obtain rfl := list_map_inj PropertyDescriptor.encode_inj hproperties
  rw [list_map_inj MethodDescriptor.encode_inj hmethods]

theorem Options.encode_inj {o u : Options} (h : o.encode = u.encode) : o = u := by
  obtain ⟨implicitConversion, proxySuffix⟩ := o
  obtain ⟨implicitConversion', proxySuffix'⟩ := u
  have hfields := ofFields_inj h
  simp only [List.cons.injEq, Prod.mk.injEq, true_and, and_true, Value.flag.injEq,
    Value.text.injEq] at hfields
  obtain ⟨rfl, rfl⟩ := hfields
  rfl

/-! ## The canonical text -/

theorem canonicalText_inj {m n : SubjectModel} {o u : Options}
    (h : canonicalText m o = canonicalText n u) : m = n ∧ o = u := by
  have hplain : ∀ (m : SubjectModel) (o : Options), Plain (.list [m.encode, o.encode]) :=
    fun m o => ⟨m.plain_encode, o.plain_encode, trivial⟩
  have hlist := Value.list.inj (Json.compact_inj (hplain m o) (hplain n u) h)
  obtain ⟨hmodel, hoptions⟩ := List.cons.inj hlist
  exact ⟨SubjectModel.encode_inj hmodel, Options.encode_inj (List.cons.inj hoptions).1⟩

/-- The bytes that are digested for a model with options. -/
def digested (m : SubjectModel) (o : Options) : List UInt8 :=
  (canonicalText m o).toUTF8.toList

theorem toList_loop_eq (bytes : ByteArray) (i : Nat) (acc : List UInt8) :
    ByteArray.toList.loop bytes i acc = acc.reverse ++ bytes.data.toList.drop i := by
  -- The loop gathers the bytes from an index on, last one first.
  fun_induction ByteArray.toList.loop bytes i acc with
  | case1 i acc h ih =>
    have hlt : i < bytes.data.toList.length := by simpa using h
    have hget : bytes.get! i = bytes.data.toList[i] := by
      show bytes.data[i]! = _
      rw [getElem!_pos bytes.data i (by simpa using hlt), Array.getElem_toList]
    rw [ih, List.drop_eq_getElem_cons hlt, hget, List.reverse_cons, List.append_assoc]
    rfl
  | case2 i acc h =>
    have hle : bytes.data.toList.length ≤ i := by simpa using h
    rw [List.drop_eq_nil_of_le hle, List.append_nil]

theorem toUTF8_toList (s : String) : s.toUTF8.toList = s.toByteArray.data.toList := by
  rw [ByteArray.toList, toList_loop_eq]
  rfl

theorem toUTF8_toList_inj {s t : String} (h : s.toUTF8.toList = t.toUTF8.toList) : s = t := by
  rw [toUTF8_toList, toUTF8_toList] at h
  exact String.toByteArray_inj.mp (ByteArray.ext (Array.toList_inj.mp h))

theorem digested_inj {m n : SubjectModel} {o u : Options} (h : digested m o = digested n u) :
    m = n ∧ o = u :=
  canonicalText_inj (toUTF8_toList_inj h)

/-! ## The hexadecimal form -/

namespace Sha256

theorem digitChar_inj {a b : Nat} (ha : a < 16) (hb : b < 16)
    (h : Nat.digitChar a = Nat.digitChar b) : a = b := by
  have h' : ∀ a < 16, ∀ b < 16, Nat.digitChar a = Nat.digitChar b → a = b := by decide
  exact h' a ha b hb h

/-- Two digits to a byte: the form is cut into bytes in one way only. -/
theorem flatMap_hexByte_inj {xs ys : List UInt8} (h : xs.flatMap hexByte = ys.flatMap hexByte) :
    xs = ys := by
  induction xs generalizing ys with
  | nil =>
    cases ys with
    | nil => rfl
    | cons y ys => exact absurd h (by simp [hexByte])
  | cons x xs ih =>
    cases ys with
    | nil => exact absurd h (by simp [hexByte])
    | cons y ys =>
      simp only [List.flatMap_cons, hexByte, List.cons_append, List.nil_append,
        List.cons.injEq] at h
      obtain ⟨hhigh, hlow, hrest⟩ := h
      have hx := x.toNat_lt
      have hy := y.toNat_lt
      have hdiv := digitChar_inj (by omega) (by omega) hhigh
      have hmod := digitChar_inj (by omega) (by omega) hlow
      rw [ih hrest, UInt8.toNat_inj.mp (by omega : x.toNat = y.toNat)]

theorem hex_inj {s t : String} (h : hex s = hex t) :
    digest s.toUTF8.toList = digest t.toUTF8.toList :=
  flatMap_hexByte_inj (String.ofList_injective h)

end Sha256

/-- Inputs with one fingerprint have one digest. -/
theorem digest_eq_of_fingerprint_eq {m n : SubjectModel} {o u : Options}
    (h : fingerprint m o = fingerprint n u) :
    Sha256.digest (digested m o) = Sha256.digest (digested n u) :=
  Sha256.hex_inj h

/-- Two messages are a collision of the digest. -/
def Sha256.Collide (a b : List UInt8) : Prop :=
  a ≠ b ∧ digest a = digest b

/-- **What a fingerprint tells apart.** The bytes that are digested tell all inputs apart, and the
    hexadecimal form tells all digests apart. So two inputs share a fingerprint if they are one
    input or their bytes are a collision of the digest, and not otherwise. -/
theorem fingerprint_tells_apart (m n : SubjectModel) (o u : Options) :
    (digested m o = digested n u ↔ m = n ∧ o = u)
      ∧ (Function.Injective fun digest : List UInt8 => String.ofList (digest.flatMap Sha256.hexByte))
      ∧ (fingerprint m o = fingerprint n u
        ↔ (m = n ∧ o = u) ∨ Sha256.Collide (digested m o) (digested n u)) := by
  refine ⟨⟨digested_inj, ?_⟩, fun a b h => ?_, fun h => ?_, ?_⟩
  · rintro ⟨rfl, rfl⟩
    rfl
  · exact Sha256.flatMap_hexByte_inj (String.ofList_injective h)
  · by_cases hbytes : digested m o = digested n u
    · exact .inl (digested_inj hbytes)
    · exact .inr ⟨hbytes, digest_eq_of_fingerprint_eq h⟩
  · rintro (⟨rfl, rfl⟩ | ⟨-, hdigest⟩)
    · rfl
    · exact congrArg (fun digest => String.ofList (digest.flatMap Sha256.hexByte)) hdigest

end Companion
