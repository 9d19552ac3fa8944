import Companion.Proofs.Loading.History

/-!
# Loading from a tree of files

A loader that runs on a tree leaves the tree as it is, and does what it does over the tree's answers
alone (`FileTree.frozen`). So what is proved of loading over file systems that nobody changes holds
of loading from any tree of files.
-/

namespace Companion

namespace Loading

/-- The two steps do the same, and the first leaves the tree alone. -/
def Mirrors {α : Type} (t : FileTree) (x : Loading (StateM FileTree) α) (y : Loading Id α) : Prop :=
  ∀ l, (x.run.run l).run t = (y.exec l, t)

section

variable {α β : Type} {t : FileTree}

theorem mirrors_pure (a : α) : Mirrors t (pure a) (pure a) := fun _ => rfl

theorem mirrors_throw (e : LoadError) : Mirrors (α := α) t (throw e) (throw e) := fun _ => rfl

theorem mirrors_get : Mirrors t get get := fun _ => rfl

theorem mirrors_modify (f : Loader → Loader) : Mirrors t (modify f) (modify f) := fun _ => rfl

/-- An answer of the tree, as a step. -/
def answer {m : Type → Type} [Monad m] (x : m α) : Loading m α := liftM x

theorem mirrors_lift {x : StateM FileTree α} {y : Id α} (h : x.run t = (y.run, t)) :
    Mirrors t (answer x) (answer y) := by
  intro l
  show ((Except.ok (x.run t).1, l), (x.run t).2) = _
  rw [h]
  rfl

/-- Mirroring composes along steps. -/
theorem Mirrors.bind {x : Loading (StateM FileTree) α} {y : Loading Id α}
    {f : α → Loading (StateM FileTree) β} {g : α → Loading Id β} (h : Mirrors t x y)
    (hf : ∀ a, Mirrors t (f a) (g a)) : Mirrors t (x >>= f) (y >>= g) := by
  intro l
  have hx : x l t = (y.exec l, t) := h l
  rw [exec_bind]
  show ExceptT.bindCont f (x l t).1.1 (x l t).1.2 (x l t).2 = _
  rw [hx]
  cases y.exec l with
  | mk outcome next =>
    cases outcome with
    | error e => rfl
    | ok a => exact hf a next

theorem mirrors_forM {f : α → Loading (StateM FileTree) Unit} {g : α → Loading Id Unit}
    (h : ∀ a, Mirrors t (f a) (g a)) (as : List α) : Mirrors t (as.forM f) (as.forM g) := by
  induction as with
  | nil => exact mirrors_pure ()
  | cons a rest ih => exact (h a).bind fun _ => ih

end

end Loading

namespace Loader

open Loading

variable {t : FileTree}

theorem mirrors_request {α : Type} {path : String} {x : StateM FileTree (Except IoFailure α)}
    {y : Id (Except IoFailure α)} (h : x.run t = (y.run, t)) :
    Mirrors t (request path x) (request path y) := by
  unfold request
  refine Mirrors.bind (mirrors_lift h) fun outcome => ?_
  cases outcome with
  | error cause => exact mirrors_throw _
  | ok a => exact mirrors_pure a

theorem mirrors_canonical (path : String) :
    letI := t.frozen
    Mirrors t (request path (Files.canonical path)) (request path (Files.canonical path)) :=
  mirrors_request rfl

theorem mirrors_read (path : String) :
    letI := t.frozen
    Mirrors t (request path (Files.read path)) (request path (Files.read path)) :=
  mirrors_request rfl

theorem mirrors_mergeSubject (s : SubjectDecl) :
    Mirrors t (mergeSubject s) (mergeSubject s) := by
  unfold mergeSubject
  refine mirrors_get.bind fun l => ?_
  cases l.merger.offer s with
  | mk answer merger =>
    refine (mirrors_modify _).bind fun _ => ?_
    cases answer with
    | error e => exact mirrors_throw _
    | ok _ => exact mirrors_pure _

theorem mirrors_register (manifest : Manifest) :
    Mirrors t (register manifest) (register manifest) :=
  (mirrors_forM mirrors_mergeSubject _).bind fun _ => mirrors_modify _

theorem mirrors_parse (origin text : String) :
    Mirrors t (parse origin text) (parse origin text) := by
  unfold parse
  cases Manifest.parse text with
  | error f => exact mirrors_throw _
  | ok manifest => exact mirrors_pure manifest

theorem run_firstThere (paths : List String) :
    letI := t.frozen
    (firstThere paths : StateM FileTree _).run t = (Id.run (firstThere paths), t) := by
  induction paths with
  | nil => rfl
  | cons path rest ih =>
    unfold firstThere
    show (if t.leadsSomewhere path = true then pure (some path) else firstThere rest :
      StateM FileTree _).run t = (Id.run (if t.leadsSomewhere path = true then _ else _), t)
    split
    · rfl
    · exact ih

theorem mirrors_resolveImport (importer : Option String) (path : String) :
    letI := t.frozen
    Mirrors t (resolveImport importer path) (resolveImport importer path) := by
  let files := t.frozen
  refine mirrors_get.bind fun l => ?_
  refine (mirrors_lift (run_firstThere _)).bind fun found? => ?_
  cases found? with
  | none => exact mirrors_throw _
  | some found => exact mirrors_canonical found

theorem mirrors_loadFileWithin (depth : Nat) (path : String) :
    letI := t.frozen
    Mirrors t (loadFileWithin depth path) (loadFileWithin depth path) := by
  let files := t.frozen
  induction depth generalizing path with
  | zero => exact mirrors_throw (.unending path)
  | succ depth ih =>
    unfold loadFileWithin
    refine (mirrors_canonical path).bind fun file => mirrors_get.bind fun l => ?_
    by_cases h : file ∈ l.met
    · simp only [h, if_true]
      exact mirrors_pure ()
    · simp only [h, if_false]
      refine (mirrors_modify _).bind fun _ => (mirrors_read path).bind fun text => ?_
      refine (mirrors_parse path text).bind fun manifest => ?_
      refine (mirrors_forM (fun i => ?_) _).bind fun _ => mirrors_register manifest
      exact (mirrors_resolveImport _ i).bind fun next => ih next

theorem mirrors_loadFile (path : String) :
    letI := t.frozen
    Mirrors t (loadFile path) (loadFile path) := by
  let files := t.frozen
  refine Mirrors.bind ?_ fun depth => mirrors_loadFileWithin depth path
  exact (mirrors_lift rfl).bind fun bound => mirrors_pure _

/-- Loading files from a tree is loading them from the tree's answers. -/
theorem mirrors_loadAll (roots : List String) :
    letI := t.frozen
    Mirrors t (loadAll roots) (loadAll roots) :=
  mirrors_forM mirrors_loadFile roots

theorem mirrors_loadText (origin text : String) :
    letI := t.frozen
    Mirrors t (loadText origin text) (loadText origin text) := by
  let files := t.frozen
  unfold loadText
  refine (mirrors_parse origin text).bind fun manifest => ?_
  refine (mirrors_forM (fun i => ?_) _).bind fun _ => mirrors_register manifest
  exact (mirrors_resolveImport none i).bind fun file => mirrors_loadFile file

/-! ## Calls -/

theorem mirrors_call (c : Call) :
    letI := t.frozen
    Mirrors t c.run c.run := by
  cases c with
  | file path => exact mirrors_loadFile path
  | text origin contents => exact mirrors_loadText origin contents

/-- Calls one after another, with their answers. -/
def serve {m : Type → Type} [Monad m] [Files m] :
    List Call → StateT Loader m (List (Except LoadError Unit))
  | [] => return []
  | c :: rest => do return (← c.run.run) :: (← serve rest)

/-- A loader that serves calls on a tree answers them as on the tree's answers, and is what it is
    there after them. -/
theorem serve_on_tree (calls : List Call) (l : Loader) :
    letI := t.frozen
    ((serve calls : StateT Loader (StateM FileTree) _).run l).run t
      = ((l.answers calls, l.after calls), t) := by
  let files := t.frozen
  induction calls generalizing l with
  | nil => rfl
  | cons c rest ih =>
    have hcall : ((c.run : Loading (StateM FileTree) Unit).run.run l).run t = (c.run.exec l, t) :=
      mirrors_call c l
    rw [serve, StateT.run_bind, StateT.run_bind, hcall, answers, after]
    simp only [bind_pure_comp, StateT.run_map]
    -- The others are served by what the first call left.
    show _ <$> ((serve rest : StateT Loader (StateM FileTree) _).run (c.run.exec l).2).run t = _
    rw [ih]
    rfl

end Loader

end Companion
