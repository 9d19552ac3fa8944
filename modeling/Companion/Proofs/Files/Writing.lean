import Companion.Proofs.Files.Frozen

/-!
# Writing to trees of files

A write that is not refused puts a file at one place, and the path that it was given leads there
(`exists_place_of_write`). A file never takes the place of a folder, and that is what lets every other
path lead where it led before (`locate_put`): the text of a file changes only under a later write to
the same place, whatever paths are used.

A path that was joined from a folder and a name leads into that folder, right below it, if the name is
one (`exists_folder_of_write_join`). A name with a slash in it is none.
-/

namespace Companion

/-! ## Names behind a folder -/

namespace Path

theorem not_isAbsolute_of_slash_not_mem {name : String} (h : '/' ∉ name.toList) :
    isAbsolute name = false := by
  cases hname : name.toList with
  | nil => simp [isAbsolute, hname]
  | cons c rest =>
    have hc : c ≠ '/' := by
      intro hc
      rw [hname, hc] at h
      exact h List.mem_cons_self
    simpa [isAbsolute, hname] using hc

theorem segments_of_slash_not_mem {name : String} (h : '/' ∉ name.toList) :
    segments name = [name] := by
  rw [segments, splitSlashes_of_not_mem h, List.map_cons, List.map_nil, String.ofList_toList]

/-- A joined path has the name as its last segment. What is in front of it are the segments of the
    folder, without the empty one that a slash at the end of the folder adds. -/
theorem segments_join (folder : String) {name : String} (h : '/' ∉ name.toList) :
    ∃ above, segments (join folder name) = above ++ [name]
      ∧ (segments folder = above ∨ segments folder = above ++ [""]) := by
  have hname := splitSlashes_of_not_mem h
  rw [join, not_isAbsolute_of_slash_not_mem h, if_neg Bool.false_ne_true]
  cases hlast : folder.toList.getLast? with
  | none =>
    have hfolder : folder = "" := by simpa using hlast
    subst hfolder
    refine ⟨[], ?_, .inr ?_⟩
    · simpa using segments_of_slash_not_mem h
    · decide
  | some c =>
    obtain ⟨front, hfront⟩ := List.getLast?_eq_some_iff.mp hlast
    by_cases hc : c = '/'
    · subst hc
      have hjoined : (folder ++ name).toList = front ++ '/' :: name.toList := by
        rw [String.toList_append, hfront]
        simp
      refine ⟨(splitSlashes front).map String.ofList, ?_, .inr ?_⟩
      · show segments (folder ++ name) = _
        rw [segments, hjoined, splitSlashes_append, hname]
        simp
      · rw [segments, hfront, splitSlashes_append]
        simp [splitSlashes]
    · have hjoined : (folder ++ "/" ++ name).toList = folder.toList ++ '/' :: name.toList := by
        simp
      refine ⟨segments folder, ?_, .inl rfl⟩
      split
      · next heq => exact absurd heq (by simp)
      · next heq => exact absurd (Option.some.inj heq) hc
      · rw [segments, hjoined, splitSlashes_append, hname]
        simp [segments]

theorem isAbsolute_join {folder name : String} (h : '/' ∉ name.toList) :
    isAbsolute (join folder name) = isAbsolute folder := by
  have hname := not_isAbsolute_of_slash_not_mem h
  rw [join, hname, if_neg Bool.false_ne_true]
  cases hfolder : folder.toList with
  | nil =>
    have hempty : folder = "" := by simpa using hfolder
    subst hempty
    simpa [hname] using (show false = isAbsolute "" by decide)
  | cons c rest => split <;> simp [isAbsolute, hfolder]

end Path

namespace FileTree

/-! ## Single segments -/

section

variable {t : FileTree} {here place path found : List String} {e : FileEntry}

/-- Where a single segment leads from a place. -/
def enter (t : FileTree) (here : List String) (segment : String) :
    Except IoFailure (List String) :=
  if !t.isFolder here then .error .notFolder
  else if isIdle segment then .ok here
  else if segment == ".." then .ok here.dropLast
  else if Path.isTooLongName segment then .error .tooLong
  else if (t.entry? (here ++ [segment])).isNone then .error .notFound
  else .ok (here ++ [segment])

/-- A walk enters one segment after the other. -/
theorem walk_cons (here : List String) (segment : String) (rest : List String) :
    t.walk here (segment :: rest)
      = (t.enter here segment).bind fun next => t.walk next rest := by
  rw [walk, enter]
  split
  · rfl
  · split
    · rfl
    · split
      · rfl
      · split
        · rfl
        · split <;> rfl

theorem walk_cons_eq_ok {segment : String} {rest : List String} :
    t.walk here (segment :: rest) = .ok found
      ↔ ∃ next, t.enter here segment = .ok next ∧ t.walk next rest = .ok found := by
  rw [walk_cons]
  cases t.enter here segment with
  | error e => simp [Except.bind]
  | ok next => simp [Except.bind]

theorem isFolder_of_enter {segment : String} {next : List String}
    (h : t.enter here segment = .ok next) : t.isFolder here = true := by
  cases hhere : t.isFolder here with
  | true => rfl
  | false => simp [enter, hhere] at h

theorem enter_name {segment : String} (hhere : t.isFolder here) (hidle : isIdle segment = false)
    (hback : segment ≠ "..") (hlong : Path.isTooLongName segment = false)
    (hthere : (t.entry? (here ++ [segment])).isSome) :
    t.enter here segment = .ok (here ++ [segment]) := by
  simp [enter, hhere, hidle, hback, hlong, Option.isSome_iff_ne_none.mp hthere]

/-- To stay in a folder is to walk nowhere. -/
theorem walk_stay (h : t.isFolder here) : t.walk here ["."] = .ok here := by
  have hthere : (t.entry? here).isSome := by
    rw [isFolder, beq_iff_eq] at h
    simp [h]
  rw [walk_cons_eq_ok]
  exact ⟨here, by simp [enter, h, isIdle], by simp [walk, hthere]⟩

/-! ## Walks to folders -/

theorem isFolder_of_walkToFolder {segments folder : List String}
    (h : t.walkToFolder here segments = .ok folder) : t.isFolder folder = true := by
  rw [walkToFolder] at h
  induction segments generalizing here with
  | nil =>
    obtain ⟨next, hnext, -⟩ := walk_cons_eq_ok.mp h
    have hhere := isFolder_of_enter hnext
    rw [List.nil_append, walk_stay hhere] at h
    cases h
    exact hhere
  | cons s rest ih =>
    obtain ⟨next, -, hrest⟩ := walk_cons_eq_ok.mp h
    exact ih hrest

/-- Behind the segments that lead to a folder, a walk goes on from there. -/
theorem walk_append {segments folder : List String}
    (h : t.walkToFolder here segments = .ok folder) (rest : List String) :
    t.walk here (segments ++ rest) = t.walk folder rest := by
  rw [walkToFolder] at h
  induction segments generalizing here with
  | nil =>
    obtain ⟨next, hnext, -⟩ := walk_cons_eq_ok.mp h
    rw [List.nil_append, walk_stay (isFolder_of_enter hnext)] at h
    cases h
    rfl
  | cons s more ih =>
    obtain ⟨next, hnext, hmore⟩ := walk_cons_eq_ok.mp h
    rw [List.cons_append, walk_cons, hnext]
    exact ih hmore

/-- A walk that arrives has come through folders up to its last segment. -/
theorem exists_folder_of_walk {above : List String} {name : String}
    (h : t.walk here (above ++ [name]) = .ok found) :
    ∃ folder, t.walkToFolder here above = .ok folder ∧ t.walk folder [name] = .ok found := by
  induction above generalizing here with
  | nil =>
    obtain ⟨next, hnext, -⟩ := walk_cons_eq_ok.mp h
    exact ⟨here, walk_stay (isFolder_of_enter hnext), h⟩
  | cons s more ih =>
    obtain ⟨next, hnext, hmore⟩ := walk_cons_eq_ok.mp h
    obtain ⟨folder, hfolder, hname⟩ := ih hmore
    exact ⟨folder, walk_cons_eq_ok.mpr ⟨next, hnext, hfolder⟩, hname⟩

/-- An empty segment at the end of a path to a folder makes no difference. -/
theorem walkToFolder_append_empty (here segments : List String) :
    t.walkToFolder here (segments ++ [""]) = t.walkToFolder here segments := by
  rw [walkToFolder, walkToFolder, List.append_assoc]
  show t.walk here (segments ++ ["", "."]) = _
  induction segments generalizing here with
  | nil =>
    rw [List.nil_append, List.nil_append, walk_cons]
    by_cases hhere : t.isFolder here = true
    · simp [enter, hhere, isIdle, Except.bind]
    · simp [walk_cons, enter, hhere, Except.bind]
  | cons s rest ih =>
    rw [List.cons_append, List.cons_append, walk_cons, walk_cons]
    congr 1
    funext next
    exact ih next

/-! ## Places -/

theorem lookup_filter_ne (h : path ≠ place) (entries : List (List String × FileEntry)) :
    (entries.filter (·.1 != place)).lookup path = entries.lookup path := by
  induction entries with
  | nil => rfl
  | cons entry rest ih =>
    by_cases hentry : entry.1 = place
    · have hne : (path == entry.1) = false := by
        rw [beq_eq_false_iff_ne, hentry]
        exact h
      rw [List.filter_cons_of_neg (by simpa using hentry), ih, List.lookup_cons, hne]
    · rw [List.filter_cons_of_pos (by simpa using hentry), List.lookup_cons, List.lookup_cons, ih]

theorem entry?_put_self (h : place ≠ []) : FileTree.entry? (t.put place e) place = some e := by
  simp [put, entry?, h]

theorem entry?_put_other (h : path ≠ place) :
    FileTree.entry? (t.put place e) path = t.entry? path := by
  have hne : (path == place) = false := beq_eq_false_iff_ne.mpr h
  simp only [put, entry?, List.lookup_cons, hne, lookup_filter_ne h]

theorem isSome_entry?_put (h : (t.entry? path).isSome) :
    (FileTree.entry? (t.put place e) path).isSome := by
  by_cases hpath : path = place
  · subst hpath
    by_cases hroot : path = []
    · subst hroot
      rfl
    · rw [entry?_put_self hroot]
      rfl
  · rwa [entry?_put_other hpath]

/-- A file may be put at the place: it is not the root, and no folder is there. -/
structure IsFree (t : FileTree) (place : List String) : Prop where
  ne_root : place ≠ []
  not_folder : t.isFolder place = false

variable {text : Option String}

theorem isFolder_put (hfree : t.IsFree place) (path : List String) :
    (t.put place (.file text)).isFolder path = t.isFolder path := by
  by_cases hpath : path = place
  · subst hpath
    rw [isFolder, entry?_put_self hfree.ne_root, hfree.not_folder]
    rfl
  · rw [isFolder, entry?_put_other hpath, isFolder]

theorem enter_put (hfree : t.IsFree place) {segment : String} {next : List String}
    (h : t.enter here segment = .ok next) :
    (t.put place (.file text)).enter here segment = .ok next := by
  unfold enter at h ⊢
  rw [isFolder_put hfree]
  split at h
  · cases h
  · next hfolder =>
    rw [if_neg hfolder]
    split at h
    · next hidle => rw [if_pos hidle, h]
    · next hidle =>
      rw [if_neg hidle]
      split at h
      · next hback => rw [if_pos hback, h]
      · next hback =>
        rw [if_neg hback]
        split at h
        · cases h
        · next hlong =>
          rw [if_neg hlong]
          split at h
          · cases h
          · next hthere =>
            have hsome : (t.entry? (here ++ [segment])).isSome := by
              simpa [Option.isSome_iff_ne_none] using hthere
            have hstays : (FileTree.entry? (t.put place (.file text)) (here ++ [segment])).isSome :=
              isSome_entry?_put hsome
            rw [if_neg (by simpa [Option.isSome_iff_ne_none] using hstays), h]

/-- A walk that arrives still arrives there when a file was put somewhere: each segment needs a folder
    or something that is there, and both stay. -/
theorem walk_put (hfree : t.IsFree place) {segments : List String}
    (h : t.walk here segments = .ok found) :
    (t.put place (.file text)).walk here segments = .ok found := by
  induction segments generalizing here with
  | nil =>
    rw [walk] at h ⊢
    split at h
    · next hthere => rw [if_pos (isSome_entry?_put hthere), h]
    · cases h
  | cons s rest ih =>
    obtain ⟨next, hnext, hrest⟩ := walk_cons_eq_ok.mp h
    exact walk_cons_eq_ok.mpr ⟨next, enter_put hfree hnext, ih hrest⟩

/-- **A path leads where it led before a file was put somewhere.** -/
theorem locate_put (hfree : t.IsFree place) {path : String} (h : t.locate path = .ok found) :
    (t.put place (.file text)).locate path = .ok found := by
  unfold locate at h ⊢
  split at h
  · cases h
  · next hzero =>
    split at h
    · cases h
    · next hempty =>
      rw [if_neg hzero, if_neg hempty]
      exact walk_put hfree h

/-! ## Writes -/

theorem lastName?_append {above : List String} {name : String} (h : IsName name) :
    lastName? (above ++ [name]) = some (above, name, false) := by
  have hempty : name.isEmpty = false := by
    have hidle := h.1
    rw [isIdle, Bool.or_eq_false_iff] at hidle
    simpa using hidle.1
  have hdot : name ≠ "." := by
    have hidle := h.1
    rw [isIdle, Bool.or_eq_false_iff] at hidle
    simpa using hidle.2
  simp [lastName?, hempty, hdot, h.2.1]

/-- A path whose last name is followed by nothing is made of that name and what is in front of it. -/
theorem eq_append_of_lastName? {segments above : List String} {name : String}
    (h : lastName? segments = some (above, name, false)) :
    segments = above ++ [name] ∧ isIdle name = false ∧ name ≠ ".." := by
  unfold lastName? at h
  simp only at h
  cases hnamed : segments.reverse.dropWhile (·.isEmpty) with
  | nil => simp [hnamed] at h
  | cons last front =>
    simp only [hnamed] at h
    split at h
    · cases h
    · next hdots =>
      obtain ⟨rfl, rfl, hlength⟩ : front.reverse = above ∧ last = name
          ∧ ((last :: front).length != segments.length) = false := by
        simpa using h
      -- Nothing was dropped, so that the last name is the last segment.
      have hsame : last :: front = segments.reverse := by
        rw [← hnamed]
        refine (List.dropWhile_suffix _).eq_of_length ?_
        rw [hnamed, List.length_reverse]
        simpa using hlength
      have hfull : last.isEmpty = false := by
        have hhead := List.head?_dropWhile_not (·.isEmpty) segments.reverse
        rw [hnamed] at hhead
        simpa using hhead
      refine ⟨?_, ?_, ?_⟩
      · rw [← List.reverse_reverse segments, ← hsame, List.reverse_cons]
      · simp only [Bool.or_eq_true, not_or] at hdots
        simp [isIdle, hdots.1]
        simpa using hfull
      · simp only [Bool.or_eq_true, not_or] at hdots
        simpa using hdots.2

theorem locate_eq_walk {path : String} (h : accept path = .ok ()) (hpath : path ≠ "") :
    t.locate path = t.walk (t.start path) (Path.segments path) := by
  have hzero : Path.hasZero path = false := by
    cases hzero : Path.hasZero path with
    | true => simp [accept, hzero] at h
    | false => rfl
  simp [locate, hzero, hpath]

/-- What a write that is not refused has found: a folder, and a name in it that no folder has. -/
theorem write_eq_ok {t' : FileTree} {path text : String} (h : t.write path text = .ok t') :
    accept path = .ok () ∧ path ≠ "" ∧ ∃ above name folder,
      lastName? (Path.segments path) = some (above, name, false)
        ∧ t.walkToFolder (t.start path) above = .ok folder
        ∧ Path.isTooLongName name = false ∧ t.isFolder (folder ++ [name]) = false
        ∧ t' = t.put (folder ++ [name]) (.file (some text)) := by
  unfold write at h
  cases haccept : accept path with
  | error e => simp [haccept, bind, Except.bind] at h
  | ok _ =>
    simp only [haccept, bind, Except.bind] at h
    split at h
    · cases h
    · next hempty =>
      refine ⟨rfl, by simpa using hempty, ?_⟩
      split at h
      · split at h <;> cases h
      · next above name slashed hlast =>
        cases hfolder : t.walkToFolder (t.start path) above with
        | error e => simp [hfolder] at h
        | ok folder =>
          simp only [hfolder] at h
          split at h
          · cases h
          · next hslashed =>
            split at h
            · cases h
            · next hlong =>
              split at h
              · cases h
              · next hoccupied =>
                refine ⟨above, name, folder, ?_, hfolder, ?_, ?_, ?_⟩
                · simpa [hslashed] using hlast
                · simpa using hlong
                · simpa using hoccupied
                · exact (Except.ok.inj h).symm

/-- **What a write does**: it puts a file at a place, and its path leads there then. -/
theorem exists_place_of_write {t' : FileTree} {path text : String}
    (h : t.write path text = .ok t') :
    ∃ place, t.IsFree place ∧ t' = t.put place (.file (some text)) ∧ accept path = .ok ()
      ∧ t'.locate path = .ok place := by
  obtain ⟨haccept, hpath, above, name, folder, hlast, hfolder, hlong, hfree, rfl⟩ := write_eq_ok h
  obtain ⟨hsegments, hidle, hback⟩ := eq_append_of_lastName? hlast
  have hplace : t.IsFree (folder ++ [name]) := ⟨by simp, hfree⟩
  refine ⟨folder ++ [name], hplace, rfl, haccept, ?_⟩
  have hfolder' : (t.put (folder ++ [name]) (.file (some text))).walkToFolder (t.start path) above
      = .ok folder := walk_put hplace hfolder
  have hthere : (FileTree.entry? (t.put (folder ++ [name]) (.file (some text)))
      (folder ++ [name])).isSome := by
    rw [entry?_put_self hplace.ne_root]
    rfl
  rw [locate_eq_walk haccept hpath, hsegments]
  show (t.put _ _).walk (t.start path) (above ++ [name]) = _
  rw [walk_append hfolder', walk_cons_eq_ok]
  refine ⟨folder ++ [name], ?_, by rw [walk, if_pos hthere]⟩
  exact enter_name (isFolder_of_walkToFolder hfolder') hidle hback hlong hthere

theorem entry?_of_write {t' : FileTree} {path text : String} {place : List String}
    (h : t.write path text = .ok t') (hplace : t'.locate path = .ok place) :
    t'.entry? place = some (.file (some text)) := by
  obtain ⟨written, hfree, rfl, -, hwritten⟩ := exists_place_of_write h
  obtain rfl := Except.ok.inj (hplace.symm.trans hwritten)
  exact entry?_put_self hfree.ne_root

/-! ## Names in a folder -/

/-- The folder's own path, and the one that a name was joined to, lead to the same folder. -/
theorem walkToFolder_of_segments_join {folder : String} {above : List String}
    (h : Path.segments folder = above ∨ Path.segments folder = above ++ [""]) (here : List String) :
    t.walkToFolder here (Path.segments folder) = t.walkToFolder here above := by
  rcases h with h | h
  · rw [h]
  · rw [h, walkToFolder_append_empty]

theorem start_join {folder name : String} (hname : IsName name) :
    t.start (Path.join folder name) = t.start folder := by
  rw [start, start, Path.isAbsolute_join hname.2.2]

/-- Where a name that is joined to a folder leads: right into the folder. -/
theorem exists_folder_of_locate_join {folder name : String} (hname : IsName name)
    (h : t.locate (Path.join folder name) = .ok found) :
    ∃ place, t.walkToFolder (t.start folder) (Path.segments folder) = .ok place
      ∧ found = place ++ [name] := by
  obtain ⟨above, hsegments, hfolder⟩ := Path.segments_join folder hname.2.2
  unfold locate at h
  split at h
  · cases h
  · split at h
    · cases h
    · rw [start_join hname, hsegments] at h
      obtain ⟨place, hplace, hfound⟩ := exists_folder_of_walk h
      refine ⟨place, by rw [walkToFolder_of_segments_join hfolder, hplace], ?_⟩
      refine walk_names (fun s hs => ?_) hfound
      rw [List.mem_singleton.mp hs]
      exact hname

/-- **A write to a name that is joined to a folder puts a file of that name into the folder.** -/
theorem exists_folder_of_write_join {t' : FileTree} {folder name text : String} (hname : IsName name)
    (h : t.write (Path.join folder name) text = .ok t') :
    ∃ place, t.walkToFolder (t.start folder) (Path.segments folder) = .ok place
      ∧ t' = t.put (place ++ [name]) (.file (some text)) := by
  obtain ⟨above, hsegments, hfolder⟩ := Path.segments_join folder hname.2.2
  obtain ⟨-, -, above', name', place, hlast, hplace, -, -, rfl⟩ := write_eq_ok h
  rw [hsegments, lastName?_append hname] at hlast
  obtain ⟨rfl, rfl, -⟩ : above = above' ∧ name = name' ∧ false = false := by simpa using hlast
  rw [start_join hname] at hplace
  exact ⟨place, by rw [walkToFolder_of_segments_join hfolder, hplace], rfl⟩

end

end FileTree

end Companion
