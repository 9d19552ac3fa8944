import Companion.Proofs.Output

/-!
# Hint names that clash

Two sources of one hint name would end up in one file, so they are refused. What is said about them
is which two they are, and which two that is depends on the order in which sources are looked at:

> **the first source whose hint name was there before is named, with the one that had it**
> (`writeSources_rejects`).

There is only one that had it, since up to there no two sources share a hint name
(`firstClash_of_split`). The refusal comes before anything is asked of the file system, whatever
file system that is, so that nothing can have been made or written.

Among the sources of a run, hint names are shared exactly where simple names are
(`exists_sharesHint_run_iff`): one suffix and one extension are put behind all of them.
-/

namespace Companion

/-! ## Clashes in a list -/

/-- Some two entries of the list are not related, the one that comes first to the other. -/
theorem not_pairwise_iff {α : Type} {R : α → α → Prop} {l : List α} :
    ¬ l.Pairwise R ↔ ∃ (i j : Nat) (a b : α), i < j ∧ l[i]? = some a ∧ l[j]? = some b ∧ ¬ R a b := by
  rw [List.pairwise_iff_getElem]
  push Not
  constructor
  · rintro ⟨i, j, hi, hj, hij, hR⟩
    exact ⟨i, j, l[i], l[j], hij, List.getElem?_eq_getElem hi, List.getElem?_eq_getElem hj, hR⟩
  · rintro ⟨i, j, a, b, hij, ha, hb, hR⟩
    obtain ⟨hi, rfl⟩ := List.getElem?_eq_some_iff.mp ha
    obtain ⟨hj, rfl⟩ := List.getElem?_eq_some_iff.mp hb
    exact ⟨i, j, hi, hj, hij, hR⟩

/-- The source at the later place has the hint name of the one at the earlier place. -/
def SharesHint (sources : List GeneratedSource) (i j : Nat) : Prop :=
  i < j ∧ ∃ first second, sources[i]? = some first ∧ sources[j]? = some second
    ∧ first.hintName = second.hintName

theorem exists_sharesHint_iff {sources : List GeneratedSource} :
    (∃ i j, SharesHint sources i j) ↔ ¬ (sources.map (·.hintName)).Nodup := by
  rw [List.Nodup, List.pairwise_map, not_pairwise_iff]
  constructor
  · rintro ⟨i, j, hij, first, second, hfirst, hsecond, hsame⟩
    exact ⟨i, j, first, second, hij, hfirst, hsecond, not_not.mpr hsame⟩
  · rintro ⟨i, j, first, second, hij, hfirst, hsecond, hsame⟩
    exact ⟨i, j, hij, first, second, hfirst, hsecond, not_not.mp hsame⟩

/-- The first clash of a list: at `j` is the first source whose hint name was there before, and of
    the sources before it the one at `i` alone has that hint name. -/
structure FirstClash (sources : List GeneratedSource) (i j : Nat)
    (first second : GeneratedSource) : Prop where
  order : i < j
  there : sources[i]? = some first
  again : sources[j]? = some second
  same : first.hintName = second.hintName
  least : ∀ i' j', SharesHint sources i' j' → j ≤ j'
  only : ∀ i', SharesHint sources i' j → i' = i

theorem FirstClash.sharesHint {sources : List GeneratedSource} {i j : Nat}
    {first second : GeneratedSource} (h : FirstClash sources i j first second) :
    SharesHint sources i j :=
  ⟨h.order, first, second, h.there, h.again, h.same⟩

/-- Where a list is split at a source whose hint name was there before, and no two sources before it
    share theirs, it has its first clash. -/
theorem firstClash_of_split {before after : List GeneratedSource} {first second : GeneratedSource}
    (hnodup : (before.map (·.hintName)).Nodup) (hfirst : first ∈ before)
    (hsame : first.hintName = second.hintName) :
    ∃ i, FirstClash (before ++ second :: after) i before.length first second := by
  obtain ⟨i, hi⟩ := List.getElem?_of_mem hfirst
  have hlt : i < before.length := (List.getElem?_eq_some_iff.mp hi).1
  have hbefore : ∀ k < before.length, (before ++ second :: after)[k]? = before[k]? :=
    fun k hk => List.getElem?_append_left hk
  have hagain : (before ++ second :: after)[before.length]? = some second := by simp
  refine ⟨i, hlt, by rw [hbefore i hlt, hi], hagain, hsame, ?_, ?_⟩
  · rintro i' j' ⟨hlt', a, b, ha, hb, heq⟩
    by_contra hj
    have hj' : j' < before.length := by omega
    rw [hbefore i' (by omega)] at ha
    rw [hbefore j' hj'] at hb
    exact exists_sharesHint_iff.mp ⟨i', j', hlt', a, b, ha, hb, heq⟩ hnodup
  · rintro i' ⟨hlt', a, b, ha, hb, heq⟩
    rw [hbefore i' hlt'] at ha
    obtain rfl : second = b := Option.some.inj (hagain.symm.trans hb)
    -- Both have the hint name, and before the clash only one source can.
    have hnames : (before.map (·.hintName))[i']? = (before.map (·.hintName))[i]? := by
      simp [ha, hi, heq, hsame]
    exact (List.getElem?_inj (by simpa using hlt') hnodup).mp hnames

/-! ## What the check finds -/

/-- The check stops at a source behind which no hint name was seen twice, with the one among those
    seen that has the same hint name. -/
theorem duplicateHint?_eq_some {seen sources : List GeneratedSource}
    {first second : GeneratedSource}
    (h : duplicateHint? seen sources = some (first, second)) :
    ∃ before after, sources = before ++ second :: after ∧ duplicateHint? seen before = none
      ∧ first ∈ seen ++ before ∧ first.hintName = second.hintName := by
  induction sources generalizing seen with
  | nil => cases h
  | cons s rest ih =>
    rw [duplicateHint?] at h
    cases hfound : seen.find? (·.hintName == s.hintName) with
    | some found =>
      simp only [hfound, Option.some.injEq, Prod.mk.injEq] at h
      obtain ⟨rfl, rfl⟩ := h
      refine ⟨[], rest, rfl, rfl, ?_, ?_⟩
      · simpa using List.mem_of_find?_eq_some hfound
      · simpa using List.find?_some hfound
    | none =>
      simp only [hfound] at h
      obtain ⟨before, after, hsplit, hnone, hmem, hsame⟩ := ih h
      refine ⟨s :: before, after, by rw [hsplit]; rfl, ?_, by simpa using hmem, hsame⟩
      rw [duplicateHint?, hfound]
      exact hnone

/-- A list in which hint names are shared is refused at its first clash. -/
theorem exists_firstClash {sources : List GeneratedSource}
    {pair : GeneratedSource × GeneratedSource} (h : duplicateHint? [] sources = some pair) :
    ∃ i j, FirstClash sources i j pair.1 pair.2 := by
  obtain ⟨before, after, rfl, hnone, hmem, hsame⟩ := duplicateHint?_eq_some h
  obtain ⟨i, hclash⟩ :=
    firstClash_of_split (duplicateHint?_eq_none_iff.mp hnone).1 (by simpa using hmem) hsame
  exact ⟨i, before.length, hclash⟩

/-- There is one first clash. -/
theorem FirstClash.unique {sources : List GeneratedSource} {i j i' j' : Nat}
    {first second first' second' : GeneratedSource} (h : FirstClash sources i j first second)
    (h' : FirstClash sources i' j' first' second') : first = first' ∧ second = second' := by
  obtain rfl : j = j' :=
    Nat.le_antisymm (h.least i' j' h'.sharesHint) (h'.least i j h.sharesHint)
  obtain rfl : i = i' := (h.only i' h'.sharesHint).symm
  exact ⟨Option.some.inj (h.there.symm.trans h'.there),
    Option.some.inj (h.again.symm.trans h'.again)⟩

theorem FirstClash.duplicateHint? {sources : List GeneratedSource} {i j : Nat}
    {first second : GeneratedSource} (h : FirstClash sources i j first second) :
    duplicateHint? [] sources = some (first, second) := by
  cases hfound : Companion.duplicateHint? [] sources with
  | none =>
    have hnodup := (duplicateHint?_eq_none_iff.mp hfound).1
    exact absurd hnodup (exists_sharesHint_iff.mp ⟨i, j, h.sharesHint⟩)
  | some pair =>
    obtain ⟨i', j', hclash⟩ := exists_firstClash hfound
    obtain ⟨rfl, rfl⟩ := h.unique hclash
    rfl

/-- Sources with a clash are refused without a request to the file system. -/
theorem writeSources_of_firstClash {m : Type → Type} [Monad m] [Files m] {folder : String}
    {sources : List GeneratedSource} {i j : Nat} {first second : GeneratedSource}
    (h : FirstClash sources i j first second) :
    (writeSources folder sources : Writing m (List String))
      = throw (.duplicate second.hintName first.subject second.subject) := by
  rw [writeSources, h.duplicateHint?]

/-- Writing one source after another fails at a write, and not for a clash. -/
theorem exec_writeEach_ne_duplicate {folder : String} (sources : List GeneratedSource)
    {t t' : FileTree} {hintName first second : String} :
    (sources.mapM (writeSource folder) : Writing (StateM FileTree) _).exec t
      ≠ (.error (.duplicate hintName first second), t') := by
  induction sources generalizing t with
  | nil =>
    intro h
    cases h
  | cons s rest ih =>
    intro h
    rw [List.mapM_cons] at h
    rcases Writing.exec_bind_eq_error.mp h with hfirst | ⟨path, between, -, h⟩
    · rw [exec_writeSource] at hfirst
      cases hwrite : t.write (s.path folder) s.text <;> simp [hwrite] at hfirst
    · rcases Writing.exec_bind_eq_error.mp h with hrest | ⟨paths, last, -, hdone⟩
      · exact ih hrest
      · cases hdone

/-- Sources that do not clash may still not be written, but then for another cause. -/
theorem exec_writeSources_ne_duplicate {folder : String} {sources : List GeneratedSource}
    (hnone : duplicateHint? [] sources = none) {t t' : FileTree} {hintName first second : String} :
    (writeSources folder sources : Writing (StateM FileTree) _).exec t
      ≠ (.error (.duplicate hintName first second), t') := by
  intro h
  rw [writeSources, hnone] at h
  rcases Writing.exec_bind_eq_error.mp h with hmade | ⟨outcome, made, -, h⟩
  · rw [Writing.exec_liftM] at hmade
    cases hmade
  · cases outcome with
    | error cause => cases h
    | ok _ => exact exec_writeEach_ne_duplicate sources h

/-! ## Clashes in a run -/

theorem sources_of_sorts {o : Options} {subjects : List SubjectDecl} {r : Report}
    (h : Report.Sorts o subjects r) :
    r.sources = (subjects.filter (·.fate = .sourced)).map (·.model.source o) := by
  refine List.map_injective_iff.mpr (fun _ _ => Outcome.source.inj) ?_
  rw [h.sources, List.map_map]
  refine List.map_congr_left fun s hs => ?_
  exact SubjectDecl.generate_of_sourced (by simpa using (List.mem_filter.mp hs).2) o

theorem hintName_source (s : SubjectDecl) (o : Options) :
    (s.model.source o).hintName = s.name ++ o.proxySuffix ++ ".g.cs" := by
  show s.model.subject.name ++ o.proxySuffix ++ ".g.cs" = _
  rw [s.subject_model]
  rfl

/-- Names that are told apart are still told apart behind one ending. -/
theorem hintName_source_inj {s s' : SubjectDecl} {o : Options} :
    (s.model.source o).hintName = (s'.model.source o).hintName ↔ s.name = s'.name := by
  rw [hintName_source, hintName_source, String.append_left_inj, String.append_left_inj]

/-- Two sources of a run share a hint name exactly if two of its emitted subjects, at different
    places, share a simple name. -/
theorem exists_sharesHint_run_iff {o : Options} {subjects : List SubjectDecl} {r : Report}
    (h : Report.Sorts o subjects r) :
    (∃ i j, SharesHint r.sources i j)
      ↔ ∃ (i j : Nat) (s s' : SubjectDecl), i < j ∧ subjects[i]? = some s ∧ subjects[j]? = some s'
        ∧ s.fate = .sourced ∧ s'.fate = .sourced ∧ s.name = s'.name := by
  rw [exists_sharesHint_iff, sources_of_sorts h, List.Nodup, List.pairwise_map, List.pairwise_map,
    List.pairwise_filter, not_pairwise_iff]
  simp only [hintName_source_inj, decide_eq_true_eq, ne_eq, not_forall, not_not, exists_prop]

/-! ## Refusals -/

/-- **Clashes are refused precisely, and before anything happens.** Writing sources on a tree is
    refused as a clash exactly if two of them share a hint name. Then the tree is as it was, and what
    is said is the first clash: the hint name, the subject of the one source before it that has the
    name, and the subject of the source at it. On any file system such sources are refused without a
    request to it. Of the sources of a run, whatever earlier runs left in the cache, two share a hint
    name exactly if two emitted subjects, at different places, have one simple name. -/
theorem writeSources_rejects (folder : String) (sources : List GeneratedSource) :
    (∀ t : FileTree, (∃ hintName first second t',
        (writeSources folder sources : Writing (StateM FileTree) _).exec t
          = (.error (.duplicate hintName first second), t'))
      ↔ ∃ i j, SharesHint sources i j)
    ∧ (∀ (t t' : FileTree) (hintName first second : String),
        (writeSources folder sources : Writing (StateM FileTree) _).exec t
          = (.error (.duplicate hintName first second), t') →
        t' = t ∧ ∃ i j a b, FirstClash sources i j a b
          ∧ hintName = b.hintName ∧ first = a.subject ∧ second = b.subject)
    ∧ (∀ i j a b, FirstClash sources i j a b → ∀ (m : Type → Type) [Monad m] [Files m],
        (writeSources folder sources : Writing m (List String))
          = throw (.duplicate b.hintName a.subject b.subject))
    ∧ ∀ (earlier : List Run) (o : Options) (subjects : List SubjectDecl),
        Sha256.CollisionFree ((earlier.flatMap Run.requests
          ++ (Run.mk o subjects).requests).map Request.message) →
        ((∃ i j, SharesHint (reportAfter earlier o subjects).sources i j)
          ↔ ∃ (i j : Nat) (s s' : SubjectDecl),
            i < j ∧ subjects[i]? = some s ∧ subjects[j]? = some s'
              ∧ s.fate = .sourced ∧ s'.fate = .sourced ∧ s.name = s'.name) := by
  -- Without a clash a refusal has another cause, and with one it is the one that the check found.
  have hrefused : ∀ (t t' : FileTree) (hintName first second : String),
      (writeSources folder sources : Writing (StateM FileTree) _).exec t
        = (.error (.duplicate hintName first second), t') →
      t' = t ∧ ∃ i j a b, FirstClash sources i j a b
        ∧ hintName = b.hintName ∧ first = a.subject ∧ second = b.subject := by
    intro t t' hintName first second h
    cases hfound : duplicateHint? [] sources with
    | none => exact absurd h (exec_writeSources_ne_duplicate hfound)
    | some pair =>
      obtain ⟨i, j, hclash⟩ := exists_firstClash hfound
      rw [writeSources_of_firstClash hclash] at h
      obtain ⟨hcause, rfl⟩ := Prod.mk.inj h
      simp only [Except.error.injEq, OutputError.duplicate.injEq] at hcause
      obtain ⟨rfl, rfl, rfl⟩ := hcause
      exact ⟨rfl, i, j, pair.1, pair.2, hclash, rfl, rfl, rfl⟩
  refine ⟨fun t => ⟨?_, ?_⟩, hrefused, fun i j a b h m _ _ => writeSources_of_firstClash h, ?_⟩
  · rintro ⟨hintName, first, second, t', h⟩
    obtain ⟨-, i, j, a, b, hclash, -⟩ := hrefused t t' hintName first second h
    exact ⟨i, j, hclash.sharesHint⟩
  · intro hshares
    obtain ⟨hintName, first, second, h⟩ :=
      exec_writeSources_of_clash folder (exists_sharesHint_iff.mp hshares) t
    exact ⟨hintName, first, second, t, h⟩
  · intro earlier o subjects h
    rw [reportAfter_eq_ofOutcomes h]
    exact exists_sharesHint_run_iff (Report.sorts_ofOutcomes o subjects)

/-- Two classes of one simple name. -/
def namesakes : List SubjectDecl :=
  [.ofName "X" (some "A"), .ofName "X" (some "B")]

theorem writeSources_rejects_namesakes :
    letI sources := (reportAfter [] {} namesakes).sources
    Sha256.CollisionFree ((([] : List Run).flatMap Run.requests
        ++ (Run.mk {} namesakes).requests).map Request.message)
      ∧ (∃ i j, SharesHint sources i j)
      ∧ (writeSources "out" sources : Writing (StateM FileTree) _).exec bareTree
        = (.error (.duplicate "XProxy.g.cs" "global::A.X" "global::B.X"), bareTree)
      ∧ ∃ i j a b, FirstClash sources i j a b ∧ a.subject = "global::A.X"
        ∧ (writeSources "out" sources : Writing (StateM FileTree) _)
          = throw (.duplicate b.hintName a.subject b.subject) := by
  have hfree : Sha256.CollisionFree ((([] : List Run).flatMap Run.requests
      ++ (Run.mk {} namesakes).requests).map Request.message) := by
    simp only [namesakes, Run.requests, List.flatMap_nil, List.nil_append, List.map_cons,
      List.map_nil, Request.message, digested, toUTF8_toList]
    refine Sha256.collisionFree_pair ?_
    decide +kernel
  have hsources : (reportAfter [] {} namesakes).sources = namesakes.map (·.model.source {}) := by
    rw [reportAfter_eq_ofOutcomes hfree]
    rfl
  obtain ⟨-, hfirst, hevery, hrun⟩ :=
    writeSources_rejects "out" (reportAfter [] {} namesakes).sources
  have hshares := (hrun [] {} namesakes hfree).mpr
    ⟨0, 1, _, _, Nat.zero_lt_one, rfl, rfl, rfl, rfl, rfl⟩
  have hrefused : (writeSources "out" (reportAfter [] {} namesakes).sources
        : Writing (StateM FileTree) _).exec bareTree
      = (.error (.duplicate "XProxy.g.cs" "global::A.X" "global::B.X"), bareTree) := by
    rw [hsources]
    rfl
  obtain ⟨-, i, j, a, b, hab, -, ha, -⟩ := hfirst bareTree bareTree _ _ _ hrefused
  exact ⟨hfree, hshares, hrefused, i, j, a, b, hab, ha.symm, hevery i j a b hab _⟩

end Companion
