import Companion.Options

/-!
# Layers of options

A configuration is laid over options, and the options of a run are those of a configuration laid over
the defaults. Both steps look at the suffix, and both may refuse it. This file says what a suffix is
accepted for, and what a refusal leaves behind:

* a suffix is accepted exactly if it turns **every** identifier into an identifier, and it is enough to
  try it on one (`suffix_judged`);
* an accepted configuration sets what it names and leaves the rest, but a refused one **has set the
  conversion by then** (`Config.apply_layers`, `Config.apply_halfway`).

Nothing of a refused configuration reaches a run, for resolving ends with the refusal.
-/

namespace Companion

/-! ## Suffixes -/

namespace Identifier

/-- A suffix may go on with an identifier from its first character. -/
theorem isSuffix_iff {suffix : String} :
    isSuffix suffix = true ↔ suffix ≠ "" ∧ ∀ c ∈ suffix.toList, isContinue c = true := by
  have hvalid : isValid ("_" ++ suffix) = suffix.toList.all isContinue := by
    show spells ("_" ++ suffix).toList = _
    rw [String.toList_append]
    show (isStart '_' && suffix.toList.all isContinue) = _
    simp [isStart]
  rw [isSuffix, hvalid, Bool.and_eq_true, List.all_eq_true]
  simp

/-- **A suffix neither makes an identifier nor breaks one**, unless there was nothing before it. -/
theorem isValid_append {name suffix : String} (h : isSuffix suffix = true) :
    isValid (name ++ suffix) = true ↔ isValid name = true ∨ name = "" ∧ isValid suffix = true := by
  obtain ⟨-, hsuffix⟩ := isSuffix_iff.mp h
  rw [isValid, isValid, String.toList_append]
  cases hname : name.toList with
  | nil =>
    have hempty : name = "" := by simpa using hname
    simp [spells, hempty, isValid]
  | cons c rest =>
    have hfull : name ≠ "" := by
      rintro rfl
      cases hname
    simp only [List.cons_append, spells, List.all_append, List.all_eq_true.mpr hsuffix, hfull,
      Bool.and_true, false_and, or_false]

/-- What follows an identifier and leaves it one is a suffix, unless it is nothing. -/
theorem isSuffix_of_isValid_append {name suffix : String} (hname : isValid name = true)
    (hfull : suffix ≠ "") (h : isValid (name ++ suffix) = true) : isSuffix suffix = true := by
  rw [isValid] at hname
  rw [isValid, String.toList_append] at h
  apply isSuffix_iff.mpr
  refine ⟨hfull, ?_⟩
  cases hchars : name.toList with
  | nil =>
    rw [hchars] at hname
    cases hname
  | cons c rest =>
    rw [hchars, List.cons_append, spells, List.all_append, Bool.and_eq_true, Bool.and_eq_true] at h
    exact List.all_eq_true.mp h.2.2

theorem isValid_underscore : isValid "_" = true := by
  decide +kernel

/-- A suffix is what every identifier stays one with. -/
theorem isSuffix_iff_forall {suffix : String} :
    isSuffix suffix = true
      ↔ suffix ≠ "" ∧ ∀ name, isValid name = true → isValid (name ++ suffix) = true := by
  constructor
  · intro h
    refine ⟨(isSuffix_iff.mp h).1, ?_⟩
    intro name hname
    exact (isValid_append h).mpr (.inl hname)
  · intro h
    exact isSuffix_of_isValid_append isValid_underscore h.1 (h.2 "_" isValid_underscore)

/-- It is enough that some identifier stays one. -/
theorem isSuffix_iff_exists {suffix : String} :
    isSuffix suffix = true
      ↔ suffix ≠ "" ∧ ∃ name, isValid name = true ∧ isValid (name ++ suffix) = true := by
  constructor
  · intro h
    obtain ⟨hfull, hevery⟩ := isSuffix_iff_forall.mp h
    exact ⟨hfull, "_", isValid_underscore, hevery "_" isValid_underscore⟩
  · intro h
    obtain ⟨hfull, name, hname, happended⟩ := h
    exact isSuffix_of_isValid_append hname hfull happended

end Identifier

theorem validateSuffix_eq_ok_iff {suffix : String} :
    validateSuffix suffix = .ok () ↔ Identifier.isSuffix suffix = true := by
  unfold validateSuffix
  split <;> simp [*]

theorem validateSuffix_of_refused {suffix : String} (h : Identifier.isSuffix suffix = false) :
    validateSuffix suffix = .error (.invalidSuffix suffix) := by
  simp [validateSuffix, h]

/-! ## Configurations over options -/

namespace Config

variable {c : Config} {o : Options}

/-- The options that a configuration asks for: what it names, and the rest as it was. -/
def laidOver (c : Config) (o : Options) : Options where
  implicitConversion := c.implicitConversion.getD o.implicitConversion
  proxySuffix := c.proxySuffix.getD o.proxySuffix

/-- A configuration is accepted if it names no suffix that is refused. -/
def Accepted (c : Config) : Prop :=
  ∀ suffix, c.proxySuffix = some suffix → Identifier.isSuffix suffix = true

theorem accepted_or_refused (c : Config) :
    c.Accepted ∨ ∃ suffix, c.proxySuffix = some suffix ∧ Identifier.isSuffix suffix = false := by
  by_cases h : c.Accepted
  · exact .inl h
  · right
    simpa [Accepted] using h

/-- An accepted configuration is laid over all of the options. -/
theorem apply_of_accepted (h : c.Accepted) : c.apply o = (c.laidOver o, .ok ()) := by
  unfold apply laidOver
  cases hsuffix : c.proxySuffix with
  | none => rfl
  | some suffix => simp [validateSuffix_eq_ok_iff.mpr (h suffix hsuffix)]

/-- The suffix is refused when the conversion is already set. -/
theorem apply_of_refused {suffix : String} (hsuffix : c.proxySuffix = some suffix)
    (h : Identifier.isSuffix suffix = false) :
    c.apply o = ({ o with implicitConversion := (c.laidOver o).implicitConversion },
      .error (.invalidSuffix suffix)) := by
  unfold apply laidOver
  simp [hsuffix, validateSuffix_of_refused h]

end Config

/-! ## Options of a run -/

/-- The suffix that counts in a run: the configuration's, or else the default one. -/
def suffixInForce (config : Option Config) : String :=
  (config.bind (·.proxySuffix)).getD ({} : Options).proxySuffix

theorem suffixInForce_of_named {c : Config} {suffix : String} (h : c.proxySuffix = some suffix) :
    suffixInForce (some c) = suffix := by
  simp [suffixInForce, h]

namespace Options

/-- What is done with options once a configuration was laid over them. -/
theorem validated_eq (o : Options) (flag : Bool) :
    (do
        let o : Options := { o with implicitConversion := o.implicitConversion || flag }
        validateSuffix o.proxySuffix
        return o : Except OptionsError Options)
      = if Identifier.isSuffix o.proxySuffix then
          .ok { o with implicitConversion := o.implicitConversion || flag }
        else .error (.invalidSuffix o.proxySuffix) := by
  cases hjudged : Identifier.isSuffix o.proxySuffix with
  | false =>
    simp only [validateSuffix_of_refused hjudged]
    rfl
  | true =>
    simp only [validateSuffix_eq_ok_iff.mpr hjudged]
    rfl

/-- The two looks at the suffix come to one, at the suffix that counts. -/
theorem resolve_eq (config : Option Config) (flag : Bool) :
    resolve config flag
      = if Identifier.isSuffix (suffixInForce config) then
          .ok
            { implicitConversion := (config.bind (·.implicitConversion)).getD false || flag
              proxySuffix := suffixInForce config }
        else .error (.invalidSuffix (suffixInForce config)) := by
  cases config with
  | none => exact validated_eq {} flag
  | some c =>
    rw [resolve]
    rcases c.accepted_or_refused with haccepted | ⟨suffix, hsuffix, hjudged⟩
    · rw [Config.apply_of_accepted haccepted]
      exact validated_eq (c.laidOver {}) flag
    · rw [Config.apply_of_refused hsuffix hjudged, suffixInForce_of_named hsuffix, hjudged]
      rfl

/-- Options are resolved exactly if the suffix that counts is accepted, and it is their suffix. -/
theorem exists_resolve_iff {config : Option Config} {flag : Bool} :
    (∃ o, resolve config flag = .ok o) ↔ Identifier.isSuffix (suffixInForce config) = true := by
  rw [resolve_eq]
  split <;> simp [*]

theorem proxySuffix_of_resolve {config : Option Config} {flag : Bool} {o : Options}
    (h : resolve config flag = .ok o) : o.proxySuffix = suffixInForce config := by
  rw [resolve_eq] at h
  split at h
  · cases h
    rfl
  · cases h

theorem error_of_resolve {config : Option Config} {flag : Bool} {e : OptionsError}
    (h : resolve config flag = .error e) : e = .invalidSuffix (suffixInForce config) := by
  rw [resolve_eq] at h
  split at h
  · cases h
  · cases h
    rfl

end Options

/-- The suffix of resolved options was looked at, wherever it comes from. -/
theorem isSuffix_of_resolve {config : Option Config} {flag : Bool} {o : Options}
    (h : Options.resolve config flag = .ok o) : Identifier.isSuffix o.proxySuffix = true := by
  rw [Options.proxySuffix_of_resolve h]
  exact Options.exists_resolve_iff.mp ⟨o, h⟩

/-! ## Judgements -/

/-- **A suffix is judged by what it does to identifiers.** It is accepted exactly if it is not empty and
    turns every identifier into one, for which it is enough that it does so to some identifier. Options
    are resolved exactly if the suffix that counts is accepted, whatever the flag; then it is their
    suffix, and else it is what the refusal names. -/
theorem suffix_judged (suffix : String) (config : Option Config) (flag : Bool) :
    (validateSuffix suffix = .ok ()
        ↔ suffix ≠ "" ∧ ∀ name, Identifier.isValid name = true →
          Identifier.isValid (name ++ suffix) = true)
      ∧ (validateSuffix suffix = .ok ()
        ↔ suffix ≠ "" ∧ ∃ name, Identifier.isValid name = true
          ∧ Identifier.isValid (name ++ suffix) = true)
      ∧ ((∃ o, Options.resolve config flag = .ok o)
        ↔ validateSuffix (suffixInForce config) = .ok ())
      ∧ (∀ o, Options.resolve config flag = .ok o →
        o.proxySuffix = suffixInForce config
          ∧ ∀ name, Identifier.isValid name = true →
            Identifier.isValid (name ++ o.proxySuffix) = true)
      ∧ ∀ e, Options.resolve config flag = .error e →
        e = .invalidSuffix (suffixInForce config) := by
  refine ⟨?_, ?_, ?_, ?_, fun e => Options.error_of_resolve⟩
  · rw [validateSuffix_eq_ok_iff]
    exact Identifier.isSuffix_iff_forall
  · rw [validateSuffix_eq_ok_iff]
    exact Identifier.isSuffix_iff_exists
  · rw [validateSuffix_eq_ok_iff]
    exact Options.exists_resolve_iff
  · intro o ho
    exact ⟨Options.proxySuffix_of_resolve ho,
      (Identifier.isSuffix_iff_forall.mp (isSuffix_of_resolve ho)).2⟩

theorem suffix_judged_view :
    letI config : Config := { proxySuffix := some "View2" }
    Identifier.isValid "Größe" = true ∧ Identifier.isValid ("Größe" ++ "View2") = true
      ∧ validateSuffix "View2" = .ok ()
      ∧ (∃ o, Options.resolve (some config) true = .ok o ∧ o.proxySuffix = "View2"
        ∧ Identifier.isValid ("Größe" ++ o.proxySuffix) = true)
      ∧ ∀ e, Options.resolve (some { proxySuffix := some "-" }) false = .error e →
        e = .invalidSuffix "-" := by
  have hname : Identifier.isValid "Größe" = true := by decide +kernel
  have happended : Identifier.isValid ("Größe" ++ "View2") = true := by decide +kernel
  obtain ⟨-, hsome, hresolves, hresolved, -⟩ :=
    suffix_judged "View2" (some { proxySuffix := some "View2" }) true
  have haccepted := hsome.mpr ⟨by decide, "Größe", hname, happended⟩
  obtain ⟨o, ho⟩ := hresolves.mpr haccepted
  obtain ⟨hsuffix, hevery⟩ := hresolved o ho
  exact ⟨hname, happended, haccepted, ⟨o, ho, hsuffix, hevery "Größe" hname⟩,
    (suffix_judged "-" (some { proxySuffix := some "-" }) false).2.2.2.2⟩

namespace Config

/-- **What a configuration does to options.** It is accepted exactly if it names no suffix or one that
    is accepted, and then each option is what it names, or else what it was. If it is refused, then for
    its suffix; the suffix of the options is what it was, and the conversion is set as it names it. So
    the options are what they were exactly if it names no conversion, or the one they have. A refused
    configuration resolves to nothing. -/
theorem apply_layers (c : Config) (o : Options) :
    ((c.apply o).2 = .ok ()
        ↔ ∀ suffix, c.proxySuffix = some suffix → validateSuffix suffix = .ok ())
      ∧ ((c.apply o).2 = .ok () → (c.apply o).1 = c.laidOver o)
      ∧ ∀ e, (c.apply o).2 = .error e →
        (∃ suffix, c.proxySuffix = some suffix ∧ e = .invalidSuffix suffix)
          ∧ (c.apply o).1 = { o with implicitConversion := (c.laidOver o).implicitConversion }
          ∧ ((c.apply o).1 = o
            ↔ c.implicitConversion = none ∨ c.implicitConversion = some o.implicitConversion)
          ∧ ∀ flag, Options.resolve (some c) flag = .error e := by
  simp only [validateSuffix_eq_ok_iff]
  rcases c.accepted_or_refused with haccepted | ⟨suffix, hsuffix, hjudged⟩
  · rw [apply_of_accepted haccepted]
    refine ⟨⟨fun _ => haccepted, fun _ => rfl⟩, fun _ => rfl, fun e he => ?_⟩
    cases he
  · rw [apply_of_refused hsuffix hjudged]
    refine ⟨⟨fun h => ?_, fun h => ?_⟩, fun h => ?_, fun e he => ?_⟩
    · cases h
    · simp [h suffix hsuffix] at hjudged
    · cases h
    · cases he
      refine ⟨⟨suffix, hsuffix, rfl⟩, rfl, ?_, fun flag => ?_⟩
      · cases o
        cases hconversion : c.implicitConversion <;> simp [laidOver, hconversion]
      · rw [Options.resolve_eq, suffixInForce_of_named hsuffix, hjudged]
        rfl

theorem apply_layers_views :
    letI accepted : Config := { implicitConversion := some true, proxySuffix := some "View" }
    letI refused : Config := { implicitConversion := some false, proxySuffix := some "-View" }
    (accepted.apply {}).1 = { implicitConversion := true, proxySuffix := "View" }
      ∧ (refused.apply {}).2 = .error (.invalidSuffix "-View")
      ∧ (refused.apply {}).1 = {}
      ∧ Options.resolve (some refused) true = .error (.invalidSuffix "-View") := by
  let accepted : Config := { implicitConversion := some true, proxySuffix := some "View" }
  let refused : Config := { implicitConversion := some false, proxySuffix := some "-View" }
  have haccepted : (accepted.apply {}).2 = .ok () := by
    apply (apply_layers accepted {}).1.mpr
    rintro _ ⟨⟩
    exact validateSuffix_eq_ok_iff.mpr (by decide +kernel)
  have hrefused : (refused.apply {}).2 = .error (.invalidSuffix "-View") := by
    rw [apply_of_refused rfl (by decide +kernel)]
  obtain ⟨-, -, hunchanged, hresolve⟩ := (apply_layers refused {}).2.2 _ hrefused
  exact ⟨(apply_layers accepted {}).2.1 haccepted, hrefused, hunchanged.mpr (.inr rfl),
    hresolve true⟩

/-- **A refused configuration may leave the options changed**: the conversion that it names is set
    before its suffix is refused. -/
theorem apply_halfway :
    letI c : Config := { implicitConversion := some true, proxySuffix := some "-Proxy" }
    (c.apply {}).2 = .error (.invalidSuffix "-Proxy")
      ∧ (c.apply {}).1 = { implicitConversion := true }
      ∧ (c.apply {}).1 ≠ {} := by
  rw [apply_of_refused rfl (by decide +kernel)]
  exact ⟨rfl, rfl, by decide⟩

end Config

end Companion
