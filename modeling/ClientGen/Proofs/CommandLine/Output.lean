import ClientGen.Proofs.CommandLine.Machine
import ClientGen.Proofs.OrderedMap

/-!
# Output directories of runs

A run makes its output directory and writes files below it: those of a client, and an introduction
if they have none. It writes all of them and nothing else, unless the system hinders it.
-/

namespace ClientGen.CommandLine

open FileTree

variable {s : Machine} {tree before grown : FileTree} {current target : Place}
  {directory : String} {files : Files}

/-! ## Files below a directory -/

/-- The system hinders a run: the path of the output directory leads to no directory once all is
made that can be, or there is a directory where a file is to be written. -/
inductive Hindered (tree : FileTree) (current : Place) (directory : String) (files : Files) :
    Failure → Prop where
  | directory
      (h : ∀ target, ¬LeadsTo (tree.makePath current directory).1 current directory target) :
    Hindered tree current directory files (.outputBlocked directory)
  | file {target : Place} {file : String × String}
      (htarget : LeadsTo (tree.makePath current directory).1 current directory target)
      (hfile : file ∈ filesToWrite files)
      (h : (tree.makePath current directory).1.isDirectory (target ++ [file.1]) = true) :
    Hindered tree current directory files (.fileBlocked (joinPath directory file.1))

/-- A run has written files below the directory of a path: each of them with its content, an
introduction if none of them is one, and nothing else but directories on the way. -/
structure Written (before after : FileTree) (current : Place) (directory : String) (files : Files)
    (target : Place) : Prop where
  leadsTo : LeadsTo after current directory target
  file : ∀ {name text : String}, files.get? name = some text →
    after.entry? (target ++ [name]) = some (.file text)
  introduction : files.get? introductionName = none →
    after.entry? (target ++ [introductionName]) = some (.file CommandLine.introduction)
  other : ∀ place, (∀ name ∈ introductionName :: files.keys, place ≠ target ++ [name]) →
    KeptOrMade (startOf current directory) (pathSteps directory) before after place

/-- The files to write are the files of a client, and an introduction if there is none among
them. -/
theorem mem_filesToWrite_iff {name text : String} :
    (name, text) ∈ filesToWrite files ↔ files.get? name = some text ∨
      files.get? introductionName = none ∧ name = introductionName ∧ text = introduction := by
  rw [filesToWrite, OrderedMap.contains, OrderedMap.get?_eq_some_iff]
  split
  next h => simp [Option.isSome_iff_ne_none.mp h]
  next h => simp [Option.not_isSome_iff_eq_none.mp h]

/-- No name is written twice. -/
theorem nodup_filesToWrite (files : Files) : ((filesToWrite files).map Prod.fst).Nodup := by
  rw [filesToWrite]
  split
  · exact files.nodup_keys
  next h =>
    have hnone : introductionName ∉ files.keys := fun hmem =>
      h (OrderedMap.contains_iff_mem_keys.mpr hmem)
    rw [List.map_append]
    refine List.nodup_append.mpr ⟨files.nodup_keys, List.nodup_singleton _, ?_⟩
    rintro name hname _ hother rfl
    obtain rfl := List.mem_singleton.mp hother
    exact hnone hname

/-- Filling the output directory of a tree that has grown writes the files. -/
theorem written_fill
    (hgrown : GrownOn (startOf current directory) (pathSteps directory) before grown)
    (hleads : LeadsTo grown current directory target)
    (hfree : ∀ file ∈ filesToWrite files, grown.isDirectory (target ++ [file.1]) = false) :
    Written before (grown.fill target (filesToWrite files)) current directory files target := by
  have hkept := keepsDirectories_fill hfree
  have hthere {name text : String} (h : (name, text) ∈ filesToWrite files) :
      entry? (grown.fill target (filesToWrite files)) (target ++ [name]) = some (.file text) :=
    entry?_fill_of_mem (nodup_filesToWrite files) h
  refine ⟨hleads.mono hkept, fun h => hthere (mem_filesToWrite_iff.mpr (Or.inl h)),
    fun h => hthere (mem_filesToWrite_iff.mpr (Or.inr ⟨h, rfl, rfl⟩)), fun place hplace => ?_⟩
  have hother : ∀ file ∈ filesToWrite files, place ≠ target ++ [file.1] := by
    rintro ⟨name, text⟩ hfile
    refine hplace name (List.mem_cons.mpr ?_)
    obtain h | ⟨-, h, -⟩ := mem_filesToWrite_iff.mp hfile
    · exact Or.inr (List.mem_map_of_mem (OrderedMap.get?_eq_some_iff.mp h))
    · exact Or.inl h
  have hentry : entry? (grown.fill target (filesToWrite files)) place = grown.entry? place :=
    entry?_fill_of_not_mem hother
  obtain heq | ⟨hnone, hmade, way, hway, hwalk⟩ := hgrown place
  · exact Or.inl (hentry.trans heq)
  · exact Or.inr ⟨hnone, hentry.trans hmade, way, hway, hkept.walk? hwalk⟩

/-- The system does not hinder a run whose output directory has a path of names, if no file is on
the way and no directory is in the place of a file. Making the directory puts none there either, as
the way to a file is longer than the one to its directory. -/
theorem not_hindered (hstart : tree.isDirectory (startOf current directory) = true)
    (hnull : '\x00' ∉ directory.toList) (hnames : ∀ step ∈ pathSteps directory, IsName step)
    (hway : ∀ way, way <+: pathSteps directory →
      tree.text? (startOf current directory ++ way) = none)
    (hfiles : ∀ file ∈ filesToWrite files,
      tree.isDirectory (startOf current directory ++ pathSteps directory ++ [file.1]) = false) :
    ∀ failure, ¬Hindered tree current directory files failure := by
  have hmade := (makePath_names hstart hnull hnames).mpr hway
  obtain ⟨target, htarget⟩ := (makePath_iff tree current directory).mp hmade
  rintro failure (hnowhere | @⟨other, file, hother, hfile, hdirectory⟩)
  · exact hnowhere target htarget
  · obtain rfl := walk?_names hnames hother.walk
    rw [isDirectory_iff] at hdirectory
    obtain heq | ⟨-, -, way, hpart, hwalk⟩ := makePath_grown tree current directory
      (startOf current directory ++ pathSteps directory ++ [file.1])
    · have hfree := hfiles file hfile
      rw [isDirectory, ← heq, hdirectory] at hfree
      cases hfree
    · have hlong := walk?_names (fun step hstep => hnames step (hpart.subset hstep)) hwalk
      have hlength := congrArg List.length hlong
      have hle := hpart.length_le
      simp only [List.length_append, List.length_singleton] at hlength
      omega

/-! ## Writing -/

/-- What a run does with the files of a client. -/
def writeFiles (directory : String) (files : Files) : Action (StateM Machine) Unit := do
  demand (← (liftM (Host.makePath directory : StateM Machine Bool))) (.outputBlocked directory)
  let files := filesToWrite files
  files.forM (writeIn directory)
  (liftM (Host.report ("Generated " ++ toString files.length ++ " files in " ++ directory) :
    StateM Machine Unit))
  (liftM (Host.report "" : StateM Machine Unit))
  (liftM (Host.report
    "The generated directory should not be edited manually, changes will be overwritten." :
    StateM Machine Unit))

/-- Files are written below the directory of a path, unless the system hinders it. -/
theorem writeFiles_on (hcurrent : s.tree.isDirectory s.current = true)
    (hnames : ∀ file ∈ filesToWrite files, IsName file.1) :
    ∃ result s', (writeFiles directory files).on s = (result, s') ∧
      s'.current = s.current ∧ s'.output = s.output ∧
      ((∃ failure, result = .error failure ∧ Hindered s.tree s.current directory files failure) ∨
        result = .ok () ∧ (∀ failure, ¬Hindered s.tree s.current directory files failure) ∧
          ∃ target, Written s.tree s'.tree s.current directory files target) := by
  have hgrown := makePath_grown s.tree s.current directory
  have hmake := makePath_on directory s
  cases hmade : (s.tree.makePath s.current directory).2 with
  | false =>
    rw [hmade] at hmake
    have hnowhere := (not_congr (makePath_iff s.tree s.current directory)).mp (by simp [hmade])
    rw [writeFiles, Action.on_bind_ok hmake, Action.on_bind_error (demand_error rfl _ _)]
    refine ⟨_, _, rfl, rfl, rfl, Or.inl ⟨_, rfl, .directory ?_⟩⟩
    intro target htarget
    exact hnowhere ⟨target, htarget⟩
  | true =>
    rw [hmade] at hmake
    obtain ⟨target, htarget⟩ := (makePath_iff s.tree s.current directory).mp hmade
    rw [writeFiles, Action.on_bind_ok hmake, Action.on_bind_ok (demand_ok rfl _ _)]
    obtain ⟨s', hcurrent', houtput, hwritten | hblocked⟩ := writeAll_on
      (s := { s with tree := (s.tree.makePath s.current directory).1 }) htarget
      (hgrown.keepsDirectories _ hcurrent) hnames
    · obtain ⟨hfree, htree, hon⟩ := hwritten
      rw [Action.on_bind_ok hon, Action.on_bind_ok (report_on _ _),
        Action.on_bind_ok (report_on _ _), report_on]
      refine ⟨.ok (), _, rfl, hcurrent', houtput, Or.inr ⟨rfl, ?_, target, ?_⟩⟩
      · rintro failure (hnowhere | ⟨hother, hfile, hdirectory⟩)
        · exact hnowhere target htarget
        · obtain rfl := Option.some.inj (htarget.walk.symm.trans hother.walk)
          simp [hfree _ hfile] at hdirectory
      · have hfilled := written_fill hgrown htarget hfree
        rwa [← htree] at hfilled
    · obtain ⟨file, hfile, hdirectory, hon⟩ := hblocked
      rw [Action.on_bind_error hon]
      exact ⟨_, s', rfl, hcurrent', houtput, Or.inl ⟨_, rfl, .file htarget hfile hdirectory⟩⟩

end ClientGen.CommandLine
