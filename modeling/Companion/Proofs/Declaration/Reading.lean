import Companion.Declaration.Decode
import Companion.Proofs.Declaration.Spelling

/-!
# Reading what is spelled

Every spelling of a declaration is read as that declaration (`declarations_read_back`), its full form
among them. So what is written of a value that was read is read as the same value again.

A reader is a chain of readings of fields, and each of them takes the spellings of its field
(`Reads`); the proofs below follow the readers link by link. Only type references nest in
themselves. Their reader ends because fields are smaller than their record, and keeps the equations
that say so; once it is brought into the form of the others (`decode?_of_fields`,
`decodeShape?_of_tagged`), its proof is by recursion on the reference.
-/

namespace Companion

/-- Every spelling is read as that value. -/
def Reads {α : Type} (read : Value → Option α) (spells : Value → Prop) (a : α) : Prop :=
  ∀ v, spells v → read v = some a

theorem bind_eq_some {α β : Type} {x : Option α} {a : α} {f : α → Option β} {b : β}
    (hx : x = some a) (hf : f a = some b) : x >>= f = some b := by
  rw [hx]
  exact hf

section

variable {α : Type} {specs : List FieldSpelling} {fields : List (String × Value)} {name : String}

/-! ## Fields of records -/

theorem readEntries?_names {known : List String} (hnodup : (fields.map (·.1)).Nodup)
    (hknown : fields.map (·.1) ⊆ known) :
    Value.readEntries? known (fields.map fun f => (.name f.1, f.2)) = some fields := by
  induction fields with
  | nil => rfl
  | cons f rest ih =>
    rw [List.map_cons, List.nodup_cons] at hnodup
    rw [List.map_cons, List.cons_subset] at hknown
    have hnew : rest.any (·.1 == f.1) = false := by
      rw [List.any_eq_false]
      intro g hg heq
      exact hnodup.1 (beq_iff_eq.mp heq ▸ List.mem_map_of_mem hg)
    rw [List.map_cons, Value.readEntries?, ih hnodup.2 hknown.2]
    simp [Value.fieldOf?, hknown.1, hnew]

/-- A spelled record is read by the names of its fields. -/
theorem SpelledFields.fields? (h : SpelledFields specs fields) :
    (Value.ofFields fields).fields? (specs.map (·.name)) = some fields :=
  readEntries?_names h.nodup h.known

theorem FieldSpelling.In.there {spells : Value → Prop}
    (h : (FieldSpelling.required name spells).In fields) :
    ∃ v, field? fields name = some v ∧ spells v := by
  unfold In FieldSpelling.required at h
  split at h
  · next v hv => exact ⟨v, hv, h⟩
  · exact h.elim

theorem FieldSpelling.In.required {spells : Value → Prop} {read : Value → Option α} {a : α}
    (h : (FieldSpelling.required name spells).In fields) (hread : Reads read spells a) :
    Companion.required fields name read = some a := by
  obtain ⟨v, hv, hspells⟩ := h.there
  rw [Companion.required, hv, Option.bind_some, hread v hspells]

theorem FieldSpelling.In.withDefault {spells : Value → Prop} {read : Value → Option α}
    {a default : α} (h : (FieldSpelling.defaulted name (a = default) spells).In fields)
    (hread : Reads read spells a) : Companion.withDefault fields name read default = some a := by
  unfold In FieldSpelling.defaulted at h
  unfold Companion.withDefault
  split at h
  · next v hv => rw [hv]; exact hread v h
  · next hnone => rw [hnone]; exact congrArg some h.symm

/-! ## Parts -/

theorem reads_text (text : String) : Reads Value.text? (Value.IsText text) text := by
  rintro v rfl
  rfl

theorem reads_flag (b : Bool) : Reads Value.flag? (· = .flag b) b := by
  rintro v rfl
  rfl

theorem reads_word32 (n : UInt32) : Reads Value.word32? (· = .integer n.toNat) n := by
  rintro v rfl
  have hbound : n.toNat < UInt32.size := n.toNat_lt
  simp [Value.word32?, Option.filter, hbound]

theorem reads_list {spells : α → Value → Prop} {read : Value → Option α}
    (h : ∀ a, Reads read (spells a) a) (as : List α) :
    Reads (Value.listOf? read) (Value.IsList spells as) as := by
  rintro v ⟨items, rfl, hitems⟩
  show items.mapM read = some as
  induction hitems with
  | nil => rfl
  | cons hv _ ih => rw [List.mapM_cons, h _ _ hv, ih]; rfl

theorem reads_optional {spells : α → Value → Prop} {read : Value → Option α}
    (h : ∀ a v, spells a v → v.optional? read = some (some a)) (a? : Option α) :
    Reads (Value.optional? read) (Value.IsOptional spells a?) a? := by
  intro v hv
  cases a? with
  | none =>
    obtain rfl : v = .null := hv
    rfl
  | some a => exact h a v hv

theorem optional?_text {text : String} {v : Value} (h : v.IsText text) :
    v.optional? Value.text? = some (some text) := by
  obtain rfl := h
  rfl

theorem optional?_of_isRecord {read : Value → Option α} {a : α} {v : Value}
    (h : v.IsRecord specs) (hread : read v = some a) : v.optional? read = some (some a) := by
  obtain ⟨fields, rfl, -⟩ := h
  show (read (.ofFields fields)).map some = _
  rw [hread, Option.map_some]

/-- Each word of the vocabulary is read as the value that it is written for. -/
class LawfulVocabulary (α : Type) [Vocabulary α] : Prop where
  ofWord?_word : ∀ a : α, Vocabulary.ofWord? (Vocabulary.word a) = some a

theorem reads_word [Vocabulary α] [LawfulVocabulary α] (a : α) :
    Reads Vocabulary.read? (· = Vocabulary.write a) a := by
  rintro v rfl
  exact LawfulVocabulary.ofWord?_word a

theorem reads_wordInVariant [Vocabulary α] [LawfulVocabulary α] (a : α) :
    Reads Vocabulary.readInVariant? (· = Vocabulary.write a) a := by
  rintro v rfl
  exact LawfulVocabulary.ofWord?_word a

instance : LawfulVocabulary ShapeKind := ⟨fun a => by cases a <;> decide⟩
instance : LawfulVocabulary Accessibility := ⟨fun a => by cases a <;> decide⟩
instance : LawfulVocabulary DeclarationKind := ⟨fun a => by cases a <;> decide⟩
instance : LawfulVocabulary MethodKind := ⟨fun a => by cases a <;> decide⟩
instance : LawfulVocabulary Passing := ⟨fun a => by cases a <;> decide⟩
instance : LawfulVocabulary ReturnPassing := ⟨fun a => by cases a <;> decide⟩
instance : LawfulVocabulary OtherMemberKind := ⟨fun a => by cases a <;> decide⟩

/-! ## Variants -/

/-- Fields stay spelled without a field that they do not need. -/
theorem SpelledFields.filter {f : FieldSpelling} (h : SpelledFields (f :: specs) fields)
    (hname : f.name ∉ specs.map (·.name)) :
    SpelledFields specs (fields.filter (·.1 != f.name)) := by
  have heach := h.each
  rw [List.forall_cons] at heach
  refine ⟨?_, ?_, ?_⟩
  · exact h.nodup.sublist (List.filter_sublist.map _)
  · intro name hmem
    obtain ⟨g, hg, rfl⟩ := List.mem_map.mp hmem
    rw [List.mem_filter, bne_iff_ne] at hg
    rcases List.mem_cons.mp (h.known (List.mem_map_of_mem hg.1)) with heq | hmem
    · exact absurd heq hg.2
    · exact hmem
  · rw [List.forall_iff_forall_mem]
    intro g hg
    have hne : g.name ≠ f.name := fun heq => hname (heq ▸ List.mem_map_of_mem hg)
    rw [FieldSpelling.In, field?_filter hne]
    exact (List.forall_iff_forall_mem.mp heach.2) g hg

theorem filter_eq_of_field? {v : Value} (hnodup : (fields.map (·.1)).Nodup)
    (h : field? fields name = some v) : fields.filter (·.1 == name) = [(name, v)] := by
  induction fields with
  | nil => cases h
  | cons f rest ih =>
    rw [List.map_cons, List.nodup_cons] at hnodup
    rw [field?_cons] at h
    by_cases hf : name = f.1
    · subst hf
      rw [if_pos rfl] at h
      cases h
      rw [List.filter_cons, if_pos (beq_self_eq_true _), List.cons.injEq, List.filter_eq_nil_iff]
      refine ⟨rfl, fun g hg heq => hnodup.1 ?_⟩
      exact beq_iff_eq.mp heq ▸ List.mem_map_of_mem hg
    · rw [if_neg hf] at h
      rw [List.filter_cons, if_neg (by simpa using Ne.symm hf), ih hnodup.2 h]

theorem filter_map_name (q : Key → Bool) {p : String → Bool} (h : ∀ n, q (.name n) = p n)
    (fields : List (String × Value)) :
    (fields.map fun f => (Key.name f.1, f.2)).filter (fun e => q e.1)
      = (fields.filter fun f => p f.1).map fun f => (.name f.1, f.2) := by
  rw [List.filter_map]
  congr 1
  exact List.filter_congr fun f _ => h f.1

theorem splitName_ofFields {v : Value} (hnodup : (fields.map (·.1)).Nodup)
    (h : field? fields name = some v) :
    Value.splitName name (fields.map fun f => (Key.name f.1, f.2))
      = ([(.name name, v)], (fields.filter (·.1 != name)).map fun f => (.name f.1, f.2)) := by
  have hnamed : ∀ n, (Key.name n == .name name) = (n == name) := fun n => by
    rw [Bool.eq_iff_iff, beq_iff_eq, beq_iff_eq, Key.name.injEq]
  have hothers : ∀ n, (!(Key.name n == .name name)) = (n != name) := fun n => by
    rw [hnamed, bne]
  have htag := filter_map_name (· == .name name) hnamed fields
  have hrest := filter_map_name (fun k => !(k == .name name)) hothers fields
  rw [filter_eq_of_field? hnodup h] at htag
  rw [Value.splitName, List.partition_eq_filter_filter, htag, ← hrest]
  rfl

theorem tagged?_ofFields {v : Value} (hnodup : (fields.map (·.1)).Nodup)
    (h : field? fields name = some v) :
    (Value.ofFields fields).tagged? name
      = some (v, .ofFields (fields.filter (·.1 != name))) := by
  rw [Value.ofFields, Value.tagged?, splitName_ofFields hnodup h, Value.ofFields]

/-- A record with a tag is taken apart into the tag and a record of the other fields. -/
theorem Value.IsRecord.tagged {word : String} {v : Value}
    (h : v.IsRecord (.tag name word :: specs)) (hname : name ∉ specs.map (·.name)) :
    ∃ rest, v.tagged? name = some (.text word, rest) ∧ rest.IsRecord specs := by
  obtain ⟨fields, rfl, hfields⟩ := h
  obtain ⟨v, hv, rfl⟩ := ((List.forall_cons _ _ _).mp hfields.each).1.there
  exact ⟨_, tagged?_ofFields hfields.nodup hv, _, rfl, hfields.filter hname⟩

end

/-! ## Type references -/

namespace TypeRef

/-- Reads a list of references. -/
def decodeItems? : Value → Option (List TypeRef)
  | .list items => decodeAll? items
  | _ => none

/-- Reads a reference that may be null. -/
def decodeContaining? : Value → Option (Option TypeRef)
  | .null => some none
  | v => (decode? v).map some

section

/-! The matches below keep the equation that a field was found by, since that is what ends the
reading. They do what reading the field does. -/

variable {fields : List (String × Value)}

theorem bind_shape {shape : TypeShape TypeRef}
    (h : withDefault fields "shape" decodeShape? .named = some shape)
    (next : TypeShape TypeRef → Option TypeRef) :
    (match _hw : field? fields "shape" with
      | none => some .named >>= next
      | some w => decodeShape? w >>= next) = next shape := by
  unfold withDefault at h
  split <;> simp_all

theorem bind_arguments {arguments : List TypeRef}
    (h : withDefault fields "type-arguments" decodeItems? [] = some arguments)
    (next : List TypeRef → Option TypeRef) :
    (match _hw : field? fields "type-arguments" with
      | none => some [] >>= next
      | some (.list items) => decodeAll? items >>= next
      | some _ => none >>= next) = next arguments := by
  unfold withDefault decodeItems? at h
  split <;> simp_all

theorem decodeContaining?_of_ne_null {v : Value} (h : v ≠ .null) :
    decodeContaining? v = (decode? v).map some := by
  unfold decodeContaining?
  split
  · exact absurd rfl h
  · rfl

theorem bind_containing {containing : Option TypeRef}
    (h : withDefault fields "containing-type" decodeContaining? none = some containing)
    (next : Option TypeRef → Option TypeRef) :
    (match _hw : field? fields "containing-type" with
      | none => some none >>= next
      | some .null => some none >>= next
      | some w => (decode? w).map some >>= next) = next containing := by
  unfold withDefault at h
  split
  · simp_all
  · simp_all [decodeContaining?]
  · next w hne hw =>
    rw [hw] at h
    have hread : decodeContaining? w = some containing := h
    rw [← decodeContaining?_of_ne_null hne, hread]
    rfl

end

/-- A reference is read field by field. -/
theorem decode?_of_fields {v : Value} {fields : List (String × Value)}
    {display : String} {accessibility : Accessibility} {shape : TypeShape TypeRef}
    {arguments : List TypeRef} {containing : Option TypeRef}
    (hv : ∀ text, v ≠ .text text) (hfields : v.fields? fieldNames = some fields)
    (hdisplay : required fields "display" Value.text? = some display)
    (haccessibility :
      withDefault fields "accessibility" Vocabulary.read? .publicAccess = some accessibility)
    (hshape : withDefault fields "shape" decodeShape? .named = some shape)
    (harguments : withDefault fields "type-arguments" decodeItems? [] = some arguments)
    (hcontaining : withDefault fields "containing-type" decodeContaining? none = some containing) :
    decode? v = some ⟨display, accessibility, shape, arguments, containing⟩ := by
  rw [decode?.eq_def]
  split
  · exact absurd rfl (hv _)
  · split
    · next hnone => exact absurd (hfields.symm.trans hnone) (by simp)
    · next found hfound =>
      obtain rfl := Option.some.inj (hfields.symm.trans hfound)
      rw [hdisplay, haccessibility]
      exact (bind_shape hshape _).trans
        ((bind_arguments harguments _).trans (bind_containing hcontaining _))

/-- The parts of a shape of that kind. -/
def decodeParts? (kind : ShapeKind) (rest : Value) : Option (TypeShape TypeRef) :=
  match kind with
  | .named => if rest.isBare then some .named else none
  | .void => if rest.isBare then some .void else none
  | .pointer => do
    let fields ← rest.fields? ["pointee"]
    (required fields "pointee" decode?).map .pointer
  | .array => do
    let fields ← rest.fields? ["element"]
    (required fields "element" decode?).map .array
  | .typeParameter => do
    let fields ← rest.fields? ["constraints"]
    (withDefault fields "constraints" decodeItems? []).map .typeParameter

theorem decodeShape?_of_tagged {v tag rest : Value} {kind : ShapeKind}
    (htag : v.tagged? "kind" = some (tag, rest)) (hkind : ShapeKind.read? tag = some kind) :
    decodeShape? v = decodeParts? kind rest := by
  rw [decodeShape?.eq_def]
  split
  · next hnone => exact absurd (htag.symm.trans hnone) (by simp)
  · next hfound =>
    cases htag.symm.trans hfound
    rw [hkind]
    cases kind with
    | named | void => rfl
    | pointer | array =>
      dsimp only [decodeParts?, required]
      split
      · simp_all
      · next fields hfields => split <;> simp_all
    | typeParameter =>
      dsimp only [decodeParts?, withDefault]
      split
      · simp_all
      · next fields hfields => split <;> simp_all [decodeItems?]

theorem SpelledBy.ne_null {t : TypeRef} {v : Value} (h : t.SpelledBy v) : v ≠ .null := by
  obtain ⟨display, accessibility, shape, arguments, containing⟩ := t
  rw [SpelledBy] at h
  rcases h with ⟨-, rfl⟩ | ⟨fields, rfl, -⟩
  · simp
  · simp [Value.ofFields]

/-- A shape is read by its kind. -/
theorem reads_kind {specs : List FieldSpelling} {shape : TypeShape TypeRef} (kind : ShapeKind)
    (hname : "kind" ∉ specs.map (·.name))
    (hparts : Reads (decodeParts? kind) (Value.IsRecord specs) shape) :
    Reads decodeShape? (Value.IsRecord (.tag "kind" (Vocabulary.word kind) :: specs)) shape := by
  intro v hv
  obtain ⟨rest, htag, hrest⟩ := hv.tagged hname
  rw [decodeShape?_of_tagged htag (LawfulVocabulary.ofWord?_word kind), hparts rest hrest]

mutual

/-- **Every spelling of a type reference is read as that reference.** -/
theorem reads_spelledBy : (t : TypeRef) → Reads decode? t.SpelledBy t
  | ⟨display, accessibility, shape, arguments, containing⟩ => by
    intro v hv
    rw [SpelledBy] at hv
    rcases hv with ⟨hbare, rfl⟩ | ⟨fields, rfl, hfields⟩
    · rw [decode?, hbare]
    · obtain ⟨hdisplay, haccessibility, hshape, harguments, hcontaining⟩ := hfields.each
      exact decode?_of_fields (by simp [Value.ofFields]) hfields.fields?
        (hdisplay.required (reads_text display))
        (haccessibility.withDefault (reads_word accessibility))
        (hshape.withDefault (reads_shape shape))
        (harguments.withDefault (reads_items arguments))
        (hcontaining.withDefault (reads_containing containing))

theorem reads_shape :
    (shape : TypeShape TypeRef) → Reads decodeShape? (ShapeSpelledBy shape) shape
  | .named => reads_kind .named (by simp) fun v ⟨fields, hv, _⟩ => by rw [hv]; rfl
  | .void => reads_kind .void (by simp) fun v ⟨fields, hv, _⟩ => by rw [hv]; rfl
  | .pointer pointee => by
    refine reads_kind .pointer (by simp) ?_
    rintro _ ⟨fields, rfl, hfields⟩
    have hpointee := hfields.each.required (reads_spelledBy pointee)
    refine bind_eq_some hfields.fields? ?_
    rw [hpointee, Option.map_some]
  | .array element => by
    refine reads_kind .array (by simp) ?_
    rintro _ ⟨fields, rfl, hfields⟩
    have helement := hfields.each.required (reads_spelledBy element)
    refine bind_eq_some hfields.fields? ?_
    rw [helement, Option.map_some]
  | .typeParameter constraints => by
    refine reads_kind .typeParameter (by simp) ?_
    rintro _ ⟨fields, rfl, hfields⟩
    have hconstraints := hfields.each.withDefault (reads_items constraints)
    refine bind_eq_some hfields.fields? ?_
    rw [hconstraints, Option.map_some]

theorem reads_items : (ts : List TypeRef) →
    Reads decodeItems? (fun v => ∃ items, v = .list items ∧ AllSpelledBy ts items) ts
  | [] => by
    rintro _ ⟨_, rfl, rfl⟩
    rw [decodeItems?, decodeAll?]
  | t :: rest => by
    rintro _ ⟨_, rfl, v, more, rfl, hv, hmore⟩
    have hrest : decodeAll? more = some rest := reads_items rest _ ⟨more, rfl, hmore⟩
    rw [decodeItems?, decodeAll?, reads_spelledBy t v hv, hrest]
    rfl

theorem reads_containing : (containing : Option TypeRef) →
    Reads decodeContaining? (ContainingSpelledBy containing) containing
  | none => by
    rintro _ rfl
    rfl
  | some t => by
    intro v hv
    have hspelled : t.SpelledBy v := hv
    rw [decodeContaining?_of_ne_null hspelled.ne_null, reads_spelledBy t v hspelled,
      Option.map_some]

end

end TypeRef

/-! ## Members -/

theorem SourceLocation.reads_spelledBy (l : SourceLocation) : Reads decode? l.SpelledBy l := by
  rintro _ ⟨fields, rfl, hfields⟩
  obtain ⟨hpath, hline, hcolumn⟩ := hfields.each
  exact bind_eq_some hfields.fields? <|
    bind_eq_some (hpath.required (reads_text _)) <|
    bind_eq_some (hline.required (reads_word32 _)) <|
    bind_eq_some (hcolumn.required (reads_word32 _)) rfl

theorem SourceLocation.optional?_spelledBy (l : SourceLocation) (v : Value) (h : l.SpelledBy v) :
    v.optional? decode? = some (some l) :=
  optional?_of_isRecord h (l.reads_spelledBy v h)

theorem PropertyDecl.reads_spelling (p : PropertyDecl) :
    Reads decode? (Value.IsRecord p.spelling) p := by
  rintro _ ⟨fields, rfl, hfields⟩
  obtain ⟨hname, htype, haccessibility, hstatic, hreadOnly, hlocation⟩ := hfields.each
  exact bind_eq_some hfields.fields? <|
    bind_eq_some (hname.required (reads_text _)) <|
    bind_eq_some (htype.required p.type.reads_spelledBy) <|
    bind_eq_some (haccessibility.withDefault (reads_wordInVariant _)) <|
    bind_eq_some (hstatic.withDefault (reads_flag _)) <|
    bind_eq_some (hreadOnly.withDefault (reads_flag _)) <|
    bind_eq_some (hlocation.withDefault (reads_optional SourceLocation.optional?_spelledBy _)) rfl

theorem ParameterDecl.reads_spelledBy (p : ParameterDecl) : Reads decode? p.SpelledBy p := by
  rintro _ ⟨fields, rfl, hfields⟩
  obtain ⟨hname, htype, hpassing⟩ := hfields.each
  exact bind_eq_some hfields.fields? <|
    bind_eq_some (hname.required (reads_text _)) <|
    bind_eq_some (htype.required p.type.reads_spelledBy) <|
    bind_eq_some (hpassing.withDefault (reads_wordInVariant _)) rfl

theorem TypeParameterDecl.reads_spelledBy (p : TypeParameterDecl) :
    Reads decode? p.SpelledBy p := by
  rintro _ ⟨fields, rfl, hfields⟩
  obtain ⟨hname, hconstraints⟩ := hfields.each
  exact bind_eq_some hfields.fields? <|
    bind_eq_some (hname.required (reads_text _)) <|
    bind_eq_some (hconstraints.withDefault (reads_list TypeRef.reads_spelledBy _)) rfl

theorem MethodDecl.reads_spelling (m : MethodDecl) :
    Reads decode? (Value.IsRecord m.spelling) m := by
  rintro _ ⟨fields, rfl, hfields⟩
  obtain ⟨hname, hkind, hreturnType, hreturnsBy, hparameters, htypeParameters, haccessibility,
    hstatic, hlocation⟩ := hfields.each
  exact bind_eq_some hfields.fields? <|
    bind_eq_some (hname.required (reads_text _)) <|
    bind_eq_some (hkind.withDefault (reads_wordInVariant _)) <|
    bind_eq_some (hreturnType.withDefault m.returnType.reads_spelledBy) <|
    bind_eq_some (hreturnsBy.withDefault (reads_wordInVariant _)) <|
    bind_eq_some (hparameters.withDefault (reads_list ParameterDecl.reads_spelledBy _)) <|
    bind_eq_some (htypeParameters.withDefault (reads_list TypeParameterDecl.reads_spelledBy _)) <|
    bind_eq_some (haccessibility.withDefault (reads_wordInVariant _)) <|
    bind_eq_some (hstatic.withDefault (reads_flag _)) <|
    bind_eq_some (hlocation.withDefault (reads_optional SourceLocation.optional?_spelledBy _)) rfl

theorem OtherMemberDecl.reads_spelling (o : OtherMemberDecl) :
    Reads decode? (Value.IsRecord o.spelling) o := by
  rintro _ ⟨fields, rfl, hfields⟩
  obtain ⟨hname, hkind⟩ := hfields.each
  exact bind_eq_some hfields.fields? <|
    bind_eq_some (hname.required (reads_text _)) <|
    bind_eq_some (hkind.withDefault (reads_wordInVariant _)) rfl

theorem MemberDecl.reads_spelledBy : (m : MemberDecl) → Reads decode? m.SpelledBy m
  | .property p => by
    intro v hv
    obtain ⟨rest, htag, hrest⟩ := Value.IsRecord.tagged hv (by simp [PropertyDecl.spelling])
    refine bind_eq_some htag ?_
    show (PropertyDecl.decode? rest).map MemberDecl.property = _
    rw [p.reads_spelling rest hrest, Option.map_some]
  | .method m => by
    intro v hv
    obtain ⟨rest, htag, hrest⟩ := Value.IsRecord.tagged hv (by simp [MethodDecl.spelling])
    refine bind_eq_some htag ?_
    show (MethodDecl.decode? rest).map MemberDecl.method = _
    rw [m.reads_spelling rest hrest, Option.map_some]
  | .other o => by
    intro v hv
    obtain ⟨rest, htag, hrest⟩ := Value.IsRecord.tagged hv (by simp [OtherMemberDecl.spelling])
    refine bind_eq_some htag ?_
    show (OtherMemberDecl.decode? rest).map MemberDecl.other = _
    rw [o.reads_spelling rest hrest, Option.map_some]

/-! ## Subjects and manifests -/

theorem SubjectDecl.reads_spelledBy (s : SubjectDecl) : Reads decode? s.SpelledBy s := by
  rintro _ ⟨fields, rfl, hfields⟩
  obtain ⟨hname, hnamespace, hreference, hkind, hstatic, hrefLike, hpointers, hgeneric, hlocation,
    hmembers⟩ := hfields.each
  exact bind_eq_some hfields.fields? <|
    bind_eq_some (hname.required (reads_text _)) <|
    bind_eq_some (hnamespace.withDefault (reads_optional (fun _ _ => optional?_text) _)) <|
    bind_eq_some (hreference.required (reads_text _)) <|
    bind_eq_some (hkind.withDefault (reads_word _)) <|
    bind_eq_some (hstatic.withDefault (reads_flag _)) <|
    bind_eq_some (hrefLike.withDefault (reads_flag _)) <|
    bind_eq_some (hpointers.withDefault (reads_flag _)) <|
    bind_eq_some (hgeneric.withDefault (reads_list reads_text _)) <|
    bind_eq_some (hlocation.withDefault (reads_optional SourceLocation.optional?_spelledBy _)) <|
    bind_eq_some (hmembers.withDefault (reads_list MemberDecl.reads_spelledBy _)) rfl

theorem Manifest.reads_import (path : String) :
    Reads decodeImport? (Value.IsRecord [.required "path" (Value.IsText path)]) path := by
  rintro _ ⟨fields, rfl, hfields⟩
  exact bind_eq_some hfields.fields? (hfields.each.required (reads_text path))

theorem Manifest.reads_spelledBy (m : Manifest) : Reads decode? m.SpelledBy m := by
  rintro _ ⟨fields, rfl, hfields⟩
  obtain ⟨hmanifest, hsubjects⟩ := hfields.each
  obtain ⟨_, hmanifest, about, rfl, habout⟩ := hmanifest.there
  obtain ⟨hassembly, hdescription, himports⟩ := habout.each
  exact bind_eq_some hfields.fields? <|
    bind_eq_some (Option.bind_eq_some_iff.mpr ⟨_, hmanifest, habout.fields?⟩) <|
    bind_eq_some (hassembly.required (reads_text _)) <|
    bind_eq_some (hdescription.withDefault (reads_optional (fun _ _ => optional?_text) _)) <|
    bind_eq_some (himports.withDefault (reads_list reads_import _)) <|
    bind_eq_some (hsubjects.withDefault (reads_list SubjectDecl.reads_spelledBy _)) rfl

/-! ## All of them -/

/-- A kind of declarations with their full forms, their spellings and a reader. The full form is one
    of the spellings, all of them are read as what they spell, and writing what was read settles
    after one time. -/
structure ReadsBack {α : Type} (encode : α → Value) (decode? : Value → Option α)
    (SpelledBy : α → Value → Prop) : Prop where
  full : ∀ a, SpelledBy a (encode a)
  reads : ∀ a v, SpelledBy a v → decode? v = some a
  settles : ∀ v w, (decode? v).map encode = some w → (decode? w).map encode = some w

theorem readsBack {α : Type} {encode : α → Value} {decode? : Value → Option α}
    {SpelledBy : α → Value → Prop} (hfull : ∀ a, SpelledBy a (encode a))
    (hreads : ∀ a, Reads decode? (SpelledBy a) a) : ReadsBack encode decode? SpelledBy where
  full := hfull
  reads := hreads
  settles := by
    intro v w h
    obtain ⟨a, -, rfl⟩ := Option.map_eq_some_iff.mp h
    rw [hreads a _ (hfull a), Option.map_some]

/-- **Every spelling of a declaration is read as that declaration**, be it a type reference, a
    member, a subject or a manifest. -/
theorem declarations_read_back :
    ReadsBack TypeRef.encode TypeRef.decode? TypeRef.SpelledBy
      ∧ ReadsBack MemberDecl.encode MemberDecl.decode? MemberDecl.SpelledBy
      ∧ ReadsBack SubjectDecl.encode SubjectDecl.decode? SubjectDecl.SpelledBy
      ∧ ReadsBack Manifest.encode Manifest.decode? Manifest.SpelledBy :=
  ⟨readsBack TypeRef.spelledBy_encode TypeRef.reads_spelledBy,
    readsBack MemberDecl.spelledBy_encode MemberDecl.reads_spelledBy,
    readsBack SubjectDecl.spelledBy_encode SubjectDecl.reads_spelledBy,
    readsBack Manifest.spelledBy_encode Manifest.reads_spelledBy⟩

/-- A method that is only named returns nothing, but a bare `void` is a type of that name. -/
example :
    MemberDecl.decode? (.ofFields [("name", .text "Run"), ("member", .text "method")])
        = some (.method { name := "Run" })
      ∧ MemberDecl.decode? (.ofFields
          [("member", .text "method"), ("name", .text "Run"), ("return-type", .text "void")])
        = some (.method { name := "Run", returnType := .named "void" }) := by
  cbv

end Companion
