import KotlinContract.CommandLine.FileStore
import KotlinContract.Proofs.Chain

/-!
# What is kept in a store of files

Putting something at a path leaves what stands at every other path (`node?_put_of_ne`). Writing a
file puts its bytes where its route leads, which is never a directory (`write_eq_ok`), and making
directories puts them where nothing was (`grows_makeAll`), so a directory stays one and a route that
could be followed still can be. What was written to a file is read from it (`read_write`), and any
other file that could be read is read as before (`read_write_of_read`); it can also be written once
more (`exists_write_of_write`). A file that can be read is found along its tidy route too, where its
digest is taken (`digest_of_read`).
-/
namespace KotlinContract.FileStore

variable {files after : FileStore} {path place other : Path} {node found : Node}
  {segments : List String} {text : String} {bytes : List UInt8}

/-- In a list whose entry at a path is replaced, something else is found at that path, if anything
is, and the same at any other. -/
theorem lookup_replace (entries : List (Path × Node)) (path : Path) (node : Node) (other : Path) :
    (entries.map fun entry => if entry.1 = path then (path, node) else entry).lookup other =
      if other = path then (entries.lookup path).map fun _ => node else entries.lookup other := by
  induction entries with
  | nil => simp
  | cons entry rest hypothesis =>
    obtain ⟨name, old⟩ := entry
    by_cases wanted : other = name
    · by_cases same : name = path <;> simp [wanted, same]
    · have passed : (other == name) = false := beq_eq_false_iff_ne.mpr wanted
      by_cases same : name = path
      · subst same
        simpa [List.lookup_cons, wanted, passed] using hypothesis
      · have kept : (path == name) = false := beq_eq_false_iff_ne.mpr (Ne.symm same)
        simpa [List.lookup_cons, same, passed, kept] using hypothesis

/-- The last thing that was put at a path is found there, and what was there at any other path. -/
theorem lookup_put (files : FileStore) (path : Path) (node : Node) (other : Path) :
    (files.put path node).entries.lookup other =
      if other = path then some node else files.entries.lookup other := by
  rw [put]
  split
  next present =>
    obtain ⟨entry, member, named⟩ := List.any_eq_true.mp present
    have same : path = entry.1 := (of_decide_eq_true named).symm
    obtain ⟨old, stored⟩ : ∃ old, files.entries.lookup path = some old := by
      rw [← Option.isSome_iff_exists, List.lookup_isSome_iff]
      exact ⟨entry, member, by simpa using same⟩
    rw [lookup_replace, stored, Option.map_some]
  next absent =>
    have missing : files.entries.lookup path = none := by
      rw [List.lookup_eq_none_iff]
      intro entry member
      have unlike : entry.1 ≠ path := fun same =>
        absent (List.any_eq_true.mpr ⟨entry, member, decide_eq_true same⟩)
      exact bne_iff_ne.mpr (Ne.symm unlike)
    rw [List.lookup_append]
    by_cases wanted : other = path
    · simp [wanted, missing]
    · have passed : (other == path) = false := beq_eq_false_iff_ne.mpr wanted
      simp [wanted, List.lookup_cons, passed]

/-- What was put at a path stands there. -/
theorem node?_put_self (files : FileStore) (path : Path) (node : Node) :
    (files.put path node).node? path = some node := by
  rw [node?, lookup_put, if_pos rfl]

/-- A path that led on to something still does. -/
theorem leadsOn_put (leads : files.entries.any (fun entry => other.isPrefixOf entry.1) = true) :
    (files.put path node).entries.any (fun entry => other.isPrefixOf entry.1) = true := by
  obtain ⟨entry, member, below⟩ := List.any_eq_true.mp leads
  rw [put, List.any_eq_true]
  split
  · refine ⟨if entry.1 = path then (path, node) else entry, List.mem_map_of_mem member, ?_⟩
    split
    next same => rwa [← same]
    next => exact below
  · exact ⟨entry, List.mem_append_left _ member, below⟩

/-- What stands at other paths stands there still. -/
theorem node?_put_of_ne (differs : other ≠ path) (stands : files.node? other = some found) :
    (files.put path node).node? other = some found := by
  rw [node?] at stands ⊢
  rw [lookup_put, if_neg differs]
  cases listed : files.entries.lookup other with
  | some stored => simpa [listed] using stands
  | none =>
    rw [listed] at stands
    simp only at stands ⊢
    split at stands
    next above =>
      rw [← stands, if_pos]
      simp only [Bool.or_eq_true] at above ⊢
      exact above.imp id leadsOn_put
    next => contradiction

/-- Following segments is following the first of them and then the others. -/
theorem walk_append (files : FileStore) (path : Path) (front back : List String) :
    files.walk path (front ++ back) =
      files.walk path front >>= fun place => files.walk place back := by
  induction front generalizing path with
  | nil => rfl
  | cons segment rest hypothesis =>
    rw [List.cons_append, walk, walk]
    split
    · exact hypothesis _
    · rfl
    · rfl

/-- One segment is followed from a directory. -/
theorem walk_singleton_eq_ok_iff {segment : String} :
    files.walk path [segment] = .ok place ↔
      files.node? path = some .directory ∧ path.step segment = place := by
  rw [walk]
  split
  next directory => simp [walk, directory]
  next stored => simp [stored]
  next missing => simp [missing]

/-- Segments lead to a directory if they can be followed and a directory is where they end. -/
theorem enter_eq_ok_iff :
    files.enter path segments = .ok place ↔
      files.walk path segments = .ok place ∧ files.node? place = some .directory := by
  have idle (above : Path) : above.step "." = above := Path.step_of_isIdle rfl
  simp only [enter, walk_append, Chain.bind_eq_ok_iff, walk_singleton_eq_ok_iff, idle]
  constructor
  · rintro ⟨above, walked, directory, rfl⟩
    exact ⟨walked, directory⟩
  · rintro ⟨walked, directory⟩
    exact ⟨place, walked, directory, rfl⟩

/-- Where every directory stays one, a route that could be followed still can be. -/
theorem walk_of_directories
    (kept : ∀ path, files.node? path = some .directory → after.node? path = some .directory)
    (walked : files.walk path segments = .ok place) : after.walk path segments = .ok place := by
  induction segments generalizing path with
  | nil => exact walked
  | cons segment rest hypothesis =>
    rw [walk] at walked ⊢
    split at walked
    next directory =>
      rw [kept path directory]
      exact hypothesis walked
    · contradiction
    · contradiction

/-- Everything that stands in the first store stands in the second. -/
def Grows (files after : FileStore) : Prop :=
  ∀ path node, files.node? path = some node → after.node? path = some node

/-- Putting something where nothing was leaves everything else. -/
theorem grows_put (free : files.node? path = none) : files.Grows (files.put path node) := by
  intro other found stands
  refine node?_put_of_ne (fun same => ?_) stands
  rw [same, free] at stands
  contradiction

/-- A directory is made where nothing was. -/
theorem grows_makeLast {route : Route} (made : files.makeLast route = .ok after) :
    files.Grows after := by
  rw [makeLast] at made
  split at made
  · contradiction
  · split at made
    · contradiction
    · split at made
      · contradiction
      next last _ _ above _ refused =>
        have free : files.node? (above.step last) = none := by
          simp only [Bool.or_eq_true, not_or] at refused
          simpa using refused.2
        cases made
        exact grows_put free

/-- However making directories ends, what was there stays. -/
theorem grows_makeAll (files : FileStore) (absolute : Bool) (segments : List String) :
    files.Grows (files.makeAll absolute segments).files := by
  induction segments with
  | nil => exact fun _ _ stands => stands
  | cons last above hypothesis =>
    simp only [makeAll]
    split
    next made => exact grows_makeLast made
    next =>
      split
      · exact hypothesis
      · split
        next made => exact fun path node stands => grows_makeLast made _ _ (hypothesis _ _ stands)
        · exact hypothesis
        · exact hypothesis
    · exact fun _ _ stands => stands

/-- A file is read where its route leads. -/
theorem read_eq_ok_iff :
    files.read text = .ok bytes ↔
      ∃ place, files.walk (Route.ofText text).start (Route.ofText text).segments = .ok place ∧
        files.node? place = some (.file bytes) := by
  simp only [read]
  split
  next stopped => simp [stopped]
  next place walked =>
    simp only [walked, Except.ok.injEq, exists_eq_left']
    split
    next stored => simp [stored]
    next directory => simp [directory]
    next missing => simp [missing]

/-- Without an empty segment at its end, a list keeps all of its end. -/
theorem reverse_dropWhile_reverse_eq_self (visible : segments.getLast? ≠ some "") :
    (segments.reverse.dropWhile (· = "")).reverse = segments := by
  rw [← List.head?_reverse] at visible
  rw [List.reverse_eq_iff]
  cases backward : segments.reverse with
  | nil => rfl
  | cons last rest =>
    have unlike : last ≠ "" := by simpa [backward] using visible
    rw [List.dropWhile_cons_of_neg (by simpa using unlike)]

/-- A file that was written stands where its route leads, and no directory stood there. -/
theorem write_eq_ok (written : files.write text bytes = .ok after) :
    ∃ place, files.walk (Route.ofText text).start (Route.ofText text).segments = .ok place ∧
      files.node? place ≠ some .directory ∧ after = files.put place (.file bytes) := by
  simp only [write] at written
  split at written
  · contradiction
  next above entered =>
    split at written
    · contradiction
    next passed =>
      simp only [Bool.or_eq_true, decide_eq_true_eq, not_or] at passed
      obtain ⟨⟨⟨visible, named⟩, -⟩, free⟩ := passed
      -- the route does not end with a slash, so no segment is dropped from its end
      rw [reverse_dropWhile_reverse_eq_self visible] at entered written named free
      cases written
      rcases List.eq_nil_or_concat (Route.ofText text).segments with none | ⟨front, last, split⟩
      · exact absurd (by rw [none]; rfl) named
      · rw [split] at entered free ⊢
        simp only [List.concat_eq_append, List.dropLast_concat, List.getLastD_concat] at *
        obtain ⟨walked, directory⟩ := enter_eq_ok_iff.mp entered
        refine ⟨above.step last, ?_, free, rfl⟩
        rw [walk_append, walked]
        exact walk_singleton_eq_ok_iff.mpr ⟨directory, rfl⟩

/-- Writing a file leaves every directory. -/
theorem directory_put (free : files.node? place ≠ some .directory)
    (directory : files.node? path = some .directory) :
    (files.put place node).node? path = some .directory := by
  refine node?_put_of_ne (fun same => ?_) directory
  rw [same] at directory
  exact free directory

/-- What was written to a file is read from it. -/
theorem read_write (written : files.write text bytes = .ok after) :
    after.read text = .ok bytes := by
  obtain ⟨place, walked, free, rfl⟩ := write_eq_ok written
  refine read_eq_ok_iff.mpr ⟨place, walk_of_directories (fun _ => directory_put free) walked, ?_⟩
  exact node?_put_self files place (.file bytes)

/-- A file that was written can be written again. -/
theorem exists_write_of_write (written : files.write text bytes = .ok after)
    (later : List UInt8) : ∃ last, after.write text later = .ok last := by
  simp only [write] at written ⊢
  split at written
  · contradiction
  next above entered =>
    split at written
    · contradiction
    next passed =>
      cases written
      simp only [Bool.or_eq_true, decide_eq_true_eq, not_or] at passed
      obtain ⟨named, free⟩ := passed
      -- the route leads there still, and now to a file
      obtain ⟨walked, directory⟩ := enter_eq_ok_iff.mp entered
      have stays (path : Path) (stood : files.node? path = some .directory) :
          (files.put _ (.file bytes)).node? path = some .directory := directory_put free stood
      have entered := enter_eq_ok_iff.mpr
        ⟨walk_of_directories stays walked, stays above directory⟩
      rw [entered]
      refine ⟨_, if_neg ?_⟩
      simp only [Bool.or_eq_true, decide_eq_true_eq, not_or, node?_put_self]
      exact ⟨named, nofun⟩

/-- A file that could be read has what was written to it, if its route stops where that of the
written file does, and else what it had. -/
theorem read_write_of_read {name : String} {old : List UInt8} (read : files.read name = .ok old)
    (written : files.write text bytes = .ok after) :
    after.read name =
      .ok (if (Route.ofText text).stop = (Route.ofText name).stop then bytes else old) := by
  obtain ⟨place, walked, free, rfl⟩ := write_eq_ok written
  obtain ⟨stored, reached, stands⟩ := read_eq_ok_iff.mp read
  refine read_eq_ok_iff.mpr ⟨stored, walk_of_directories (fun _ => directory_put free) reached, ?_⟩
  have wrote : (Route.ofText text).stop = place := walk_eq_ok walked
  have stopped : (Route.ofText name).stop = stored := walk_eq_ok reached
  rw [wrote, stopped]
  split
  next same => rw [← same, node?_put_self]
  next differs => exact node?_put_of_ne (Ne.symm differs) stands

/-- A file that could be read is read from a store that has grown. -/
theorem Grows.read (grown : files.Grows after) (read : files.read text = .ok bytes) :
    after.read text = .ok bytes := by
  obtain ⟨place, walked, stands⟩ := read_eq_ok_iff.mp read
  exact read_eq_ok_iff.mpr
    ⟨place, walk_of_directories (fun path => grown path .directory) walked, grown _ _ stands⟩

/-- A file that can be read is found along its tidy route. -/
theorem at?_of_read (read : files.read text = .ok bytes) :
    files.at? (Route.ofText text).tidy = some (.file bytes) := by
  obtain ⟨place, walked, stands⟩ := read_eq_ok_iff.mp read
  have tidied : files.walk (Route.ofText text).tidy.start (Route.ofText text).tidy.segments =
      .ok place := walk_tidy walked
  rw [at?, tidied]
  exact stands

/-- A file that can be read is there. -/
theorem has_of_read (read : files.read text = .ok bytes) : files.has text = true := by
  rw [has, at?_of_read read]
  rfl

/-- The digest of a file that can be read is that of its text. -/
theorem digest_of_read (read : files.read text = .ok bytes) :
    files.digest text =
      (textOf bytes).map fun chars => some (Digest.hexDigest (String.ofList chars)) := by
  rw [digest, at?_of_read read]

end KotlinContract.FileStore
