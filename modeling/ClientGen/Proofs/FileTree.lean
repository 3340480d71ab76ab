import ClientGen.FileTree
import Mathlib.Data.List.Basic
import Mathlib.Data.List.Induction
import Mathlib.Data.List.TakeWhile

/-!
# Directories that are made and files that are written

Making directories adds directories on the way to a path, and nothing else. A file that is written
in a directory is at its name below it, and all other places hold what they held before.
-/

namespace ClientGen

variable {path directory name : String} {current start place target : Place} {steps : List String}

/-! ## Steps of paths -/

/-- Steps end with the step that is taken last and dots after it. -/
theorem exists_stepsAbove_append (h : steps ≠ []) :
    ∃ step dots, stepsAbove steps ++ step :: dots = steps := by
  have hsplit := List.takeWhile_append_dropWhile (p := fun step => decide (step = "."))
    (l := steps.reverse)
  cases hdrop : steps.reverse.dropWhile (fun step => decide (step = ".")) with
  | nil =>
    obtain ⟨step, dots, rfl⟩ := List.exists_cons_of_ne_nil h
    exact ⟨step, dots, by rw [stepsAbove, hdrop]; rfl⟩
  | cons step above =>
    refine ⟨step, (steps.reverse.takeWhile fun step => decide (step = ".")).reverse, ?_⟩
    rw [hdrop] at hsplit
    have hsteps := congrArg List.reverse hsplit
    rw [List.reverse_reverse, List.reverse_append, List.reverse_cons, List.append_assoc] at hsteps
    rw [stepsAbove, hdrop, List.tail_cons]
    exact hsteps

/-- The steps to the directory above come first. -/
theorem isPrefix_stepsAbove (steps : List String) : stepsAbove steps <+: steps := by
  by_cases h : steps = []
  · simp [h, stepsAbove]
  · obtain ⟨step, dots, hsteps⟩ := exists_stepsAbove_append h
    exact ⟨step :: dots, hsteps⟩

/-- A slash separates the steps before it from those after it. -/
theorem stepsFrom_slash (step cs ds : List Char) :
    stepsFrom step (cs ++ '/' :: ds) = stepsFrom step cs ++ stepsFrom [] ds := by
  fun_induction stepsFrom step cs with
  | case1 => rfl
  | case2 step rest ih => rw [List.cons_append, stepsFrom, ih, List.cons_append]
  | case3 step c rest hc ih => rw [List.cons_append, stepsFrom, ih]; exact hc

/-- A text without slashes is one step. -/
theorem stepsFrom_of_not_mem (step : List Char) {cs : List Char} (h : '/' ∉ cs) :
    stepsFrom step cs = [step.reverse ++ cs] := by
  induction cs generalizing step with
  | nil => rw [stepsFrom, List.append_nil]
  | cons c cs ih =>
    rw [List.mem_cons, not_or] at h
    rw [stepsFrom, ih _ h.2, List.reverse_cons, List.append_assoc, List.singleton_append]
    exact fun hc => h.1 hc.symm

/-- A slash separates steps. -/
theorem pathSteps_slash (above below : String) :
    pathSteps (above ++ "/" ++ below) = pathSteps above ++ pathSteps below := by
  have hslash : "/".toList = ['/'] := rfl
  rw [pathSteps, String.toList_append, String.toList_append, hslash, List.append_assoc,
    List.singleton_append, stepsFrom_slash, List.filter_append, List.map_append]
  rfl

/-- An empty path has no steps. -/
theorem pathSteps_empty : pathSteps "" = [] := rfl

/-- A slash after a path does not change where it leads to. -/
theorem pathSteps_trailing (above : String) : pathSteps (above ++ "/") = pathSteps above := by
  rw [← String.append_empty (s := above ++ "/"), pathSteps_slash, pathSteps_empty, List.append_nil]

/-- A text that is a step of its own and leads down from any directory. -/
structure IsName (name : String) : Prop where
  ne_empty : name ≠ ""
  ne_here : name ≠ "."
  ne_above : name ≠ ".."
  slash : '/' ∉ name.toList
  null : '\x00' ∉ name.toList

instance : Decidable (IsName name) :=
  decidable_of_iff
    (name ≠ "" ∧ name ≠ "." ∧ name ≠ ".." ∧ '/' ∉ name.toList ∧ '\x00' ∉ name.toList)
    ⟨fun ⟨hempty, hhere, habove, hslash, hnull⟩ => ⟨hempty, hhere, habove, hslash, hnull⟩,
      fun h => ⟨h.ne_empty, h.ne_here, h.ne_above, h.slash, h.null⟩⟩

/-- The path of a name is a single step. -/
theorem IsName.pathSteps_eq (h : IsName name) : pathSteps name = [name] := by
  have hne : name.toList ≠ [] := fun hnil => h.ne_empty (String.toList_eq_nil_iff.mp hnil)
  rw [pathSteps, stepsFrom_of_not_mem [] h.slash]
  simp [hne]

/-- The path of a name is the name itself, or it follows on a slash that may have been part of the
directory's path. -/
theorem joinPath_cases (directory name : String) :
    (directory = "" ∧ joinPath directory name = name) ∨
      ∃ above, joinPath directory name = above ++ "/" ++ name ∧
        ((directory = above ∧ above ≠ "") ∨ directory = above ++ "/") := by
  rw [joinPath]
  split
  next h =>
    by_cases hempty : directory = ""
    · exact Or.inl ⟨hempty, by rw [hempty]; rfl⟩
    · have hlast := h.resolve_left hempty
      obtain ⟨front, hfront⟩ := List.getLast?_eq_some_iff.mp hlast
      have hdirectory : directory = String.ofList front ++ "/" := by
        rw [← String.toList_inj, String.toList_append, String.toList_ofList, hfront]
        rfl
      exact Or.inr ⟨String.ofList front, by rw [← hdirectory], Or.inr hdirectory⟩
  next h =>
    rw [not_or] at h
    exact Or.inr ⟨directory, rfl, Or.inl ⟨rfl, h.1⟩⟩

/-- The path of a name ends with the name, and before it there is a slash at most that the
directory's path does not have. -/
theorem exists_joinPath_eq (directory name : String) :
    ∃ front, (joinPath directory name).toList = front ++ name.toList ∧
      ∀ c ∈ front, c ≠ '/' → c ∈ directory.toList := by
  rw [joinPath]
  split
  · exact ⟨directory.toList, String.toList_append, fun c hc _ => hc⟩
  · refine ⟨directory.toList ++ ['/'], by simp [String.toList_append], fun c hc hslash => ?_⟩
    exact (List.mem_append.mp hc).resolve_right fun hc => hslash (List.mem_singleton.mp hc)

/-- The path of a name takes the steps of the directory's path and one more. -/
theorem pathSteps_joinPath (directory : String) (h : IsName name) :
    pathSteps (joinPath directory name) = pathSteps directory ++ [name] := by
  obtain ⟨rfl, hjoin⟩ | ⟨above, hjoin, ⟨rfl, -⟩ | rfl⟩ := joinPath_cases directory name
  · rw [hjoin, h.pathSteps_eq]
    rfl
  · rw [hjoin, pathSteps_slash, h.pathSteps_eq]
  · rw [hjoin, pathSteps_slash, h.pathSteps_eq, pathSteps_trailing]

/-- A name has no slashes. -/
theorem IsName.forall_ne_slash (h : IsName name) :
    ∀ c ∈ name.toList.reverse, (decide (c ≠ '/')) = true := fun _ hc =>
  decide_eq_true fun heq => h.slash (heq ▸ List.mem_reverse.mp hc)

/-- The path above a name is what stands before its slash. -/
theorem parentPath_slash (above : String) (h : IsName name) :
    parentPath (above ++ "/" ++ name) = above := by
  have hreverse : (above ++ "/" ++ name).toList.reverse =
      name.toList.reverse ++ '/' :: above.toList.reverse := by
    simp [String.toList_append]
  rw [parentPath, hreverse, List.dropWhile_append_of_pos h.forall_ne_slash]
  simp

/-- Above a name alone there is the empty path. -/
theorem IsName.parentPath_eq (h : IsName name) : parentPath name = "" := by
  rw [parentPath, List.dropWhile_eq_nil_iff.mpr h.forall_ne_slash]
  rfl

namespace FileTree

variable {tree before middle after : FileTree} {entry : Entry}

/-! ## Entries -/

/-- The root is a directory. -/
@[simp]
theorem entry?_root (tree : FileTree) : tree.entry? [] = some .directory := if_pos rfl

/-- A place is a directory if its entry is one. -/
theorem isDirectory_iff : tree.isDirectory place = true ↔ tree.entry? place = some .directory := by
  rw [isDirectory, beq_iff_eq]

/-- A place has no text if its entry is no file. -/
theorem text?_eq_none_iff :
    tree.text? place = none ↔ ∀ text, tree.entry? place ≠ some (.file text) := by
  rw [text?]
  split
  next text hfile => simp [hfile]
  next hfile => exact iff_of_true rfl hfile

/-- Removing the entries of a place keeps those of other places. -/
theorem lookup_filter_ne {entries : List (Place × Entry)} {other : Place} (h : other ≠ place) :
    (entries.filter fun e => e.1 ≠ place).lookup other = entries.lookup other := by
  induction entries with
  | nil => rfl
  | cons e entries ih =>
    obtain ⟨at', entry⟩ := e
    by_cases he : at' = place
    · have hother : (other == at') = false := beq_eq_false_iff_ne.mpr fun heq => h (heq.trans he)
      rw [List.filter_cons_of_neg (by simpa using he), ih, List.lookup_cons, hother]
    · rw [List.filter_cons_of_pos (by simpa using he), List.lookup_cons, List.lookup_cons, ih]

/-- Below the root an entry is put at its place, and all other places are as before. -/
theorem entry?_put (tree : FileTree) (entry : Entry) (hplace : place ≠ []) (other : Place) :
    entry? (tree.put place entry) other =
      if other = place then some entry else tree.entry? other := by
  by_cases hroot : other = []
  · subst hroot
    rw [entry?_root, entry?_root, if_neg (Ne.symm hplace)]
  · unfold entry?
    rw [if_neg hroot, if_neg hroot, put, List.lookup_cons]
    by_cases heq : other = place
    · rw [if_pos heq, beq_iff_eq.mpr heq]
    · rw [if_neg heq, beq_eq_false_iff_ne.mpr heq, lookup_filter_ne heq]

/-! ## Ways -/

/-- A walk along more steps goes on from where the first steps lead. -/
theorem walk?_append (tree : FileTree) (place : Place) (steps more : List String) :
    tree.walk? place (steps ++ more) =
      (tree.walk? place steps).bind fun reached => tree.walk? reached more := by
  induction steps generalizing place with
  | nil => rfl
  | cons step steps ih =>
    rw [List.cons_append, walk?, walk?]
    split
    · exact ih _
    · rfl

/-- Steps lead to a directory if the walk along them ends in one. -/
theorem leadsToDirectory_iff : tree.leadsToDirectory place steps = true ↔
    ∃ target, tree.walk? place steps = some target ∧ tree.isDirectory target = true := by
  rw [leadsToDirectory]
  cases tree.walk? place steps <;> simp

/-- A way that goes on leads through a directory. -/
theorem leadsToDirectory_of_walk? {step : String} {rest : List String}
    (h : tree.walk? place (steps ++ step :: rest) = some target) :
    tree.leadsToDirectory place steps = true := by
  rw [walk?_append] at h
  obtain ⟨reached, hreached, hrest⟩ := Option.bind_eq_some_iff.mp h
  refine leadsToDirectory_iff.mpr ⟨reached, hreached, ?_⟩
  rw [walk?] at hrest
  by_contra hdirectory
  rw [if_neg hdirectory] at hrest
  cases hrest

/-- A name leads from a directory to the place below it. -/
theorem walk?_name (h : IsName name) (hwalk : tree.walk? place steps = some target)
    (htarget : tree.isDirectory target = true) :
    tree.walk? place (steps ++ [name]) = some (target ++ [name]) := by
  rw [walk?_append, hwalk, Option.bind_some, walk?, if_pos htarget]
  simp only [if_neg h.ne_here, if_neg h.ne_above]
  rfl

/-- All directories of a tree are directories of another one. -/
def KeepsDirectories (before after : FileTree) : Prop :=
  ∀ place, before.isDirectory place = true → after.isDirectory place = true

/-- A walk ends in the same place as long as directories are kept. -/
theorem KeepsDirectories.walk? (h : KeepsDirectories before after)
    (hwalk : before.walk? place steps = some target) :
    after.walk? place steps = some target := by
  induction steps generalizing place with
  | nil => exact hwalk
  | cons step steps ih =>
    rw [FileTree.walk?] at hwalk ⊢
    by_cases hplace : before.isDirectory place = true
    · rw [if_pos hplace] at hwalk
      rw [if_pos (h place hplace)]
      exact ih hwalk
    · rw [if_neg hplace] at hwalk
      cases hwalk

/-- What is put where no directory is takes the place of none. -/
theorem keepsDirectories_put (hplace : tree.isDirectory place = false) (entry : Entry) :
    KeepsDirectories tree (tree.put place entry) := by
  intro other hother
  have hne : other ≠ place := fun heq => by simp [heq, hplace] at hother
  have hroot : place ≠ [] := fun heq => by simp [heq, isDirectory] at hplace
  rw [isDirectory_iff] at hother ⊢
  rw [entry?_put tree entry hroot, if_neg hne, hother]

/-- A file that is put where no directory is changes no directories. -/
theorem isDirectory_put_file (hplace : tree.isDirectory place = false) (text : String)
    (other : Place) : (tree.put place (.file text)).isDirectory other = tree.isDirectory other := by
  have hroot : place ≠ [] := fun heq => by simp [heq, isDirectory] at hplace
  by_cases hother : other = place
  · subst hother
    rw [hplace, isDirectory, entry?_put tree _ hroot, if_pos rfl]
    rfl
  · rw [isDirectory, isDirectory, entry?_put tree _ hroot, if_neg hother]

/-! ## Directories that are made -/

/-- A place holds what it held before, or a directory where there was nothing, which a part of the
steps leads to. -/
def KeptOrMade (start : Place) (steps : List String) (before after : FileTree)
    (place : Place) : Prop :=
  after.entry? place = before.entry? place ∨
    before.entry? place = none ∧ after.entry? place = some .directory ∧
      ∃ way, way <+: steps ∧ after.walk? start way = some place

/-- A tree has grown on the way of some steps. -/
def GrownOn (start : Place) (steps : List String) (before after : FileTree) : Prop :=
  ∀ place, KeptOrMade start steps before after place

/-- A tree that stays as it is has grown by nothing. -/
theorem GrownOn.refl (tree : FileTree) : GrownOn start steps tree tree := fun _ => Or.inl rfl

/-- A tree that has grown keeps its directories. -/
theorem GrownOn.keepsDirectories (h : GrownOn start steps before after) :
    KeepsDirectories before after := by
  intro place hplace
  rw [isDirectory_iff] at hplace ⊢
  obtain heq | ⟨-, hmade, -⟩ := h place
  · rw [heq, hplace]
  · exact hmade

/-- A tree may grow twice on the way along the same steps. -/
theorem GrownOn.trans (h : GrownOn start steps before middle)
    (h' : GrownOn start steps middle after) : GrownOn start steps before after := by
  intro place
  obtain heq | ⟨hnone, hmade, hway⟩ := h' place
  · obtain heq' | ⟨hnone, hmade, way, hprefix, hwalk⟩ := h place
    · exact Or.inl (heq.trans heq')
    · exact Or.inr ⟨hnone, heq.trans hmade, way, hprefix, h'.keepsDirectories.walk? hwalk⟩
  · obtain heq' | ⟨-, hmade', -⟩ := h place
    · exact Or.inr ⟨heq' ▸ hnone, hmade, hway⟩
    · simp [hmade'] at hnone

/-- A tree that has grown on a way has done so on a longer one. -/
theorem GrownOn.mono {more : List String} (h : GrownOn start steps before after)
    (hsteps : steps <+: more) : GrownOn start more before after := fun place =>
  (h place).imp_right fun ⟨hnone, hmade, way, hway, hwalk⟩ =>
    ⟨hnone, hmade, way, hway.trans hsteps, hwalk⟩

/-- Growing neither makes nor removes files. -/
theorem GrownOn.text?_eq (h : GrownOn start steps before after) (place : Place) :
    after.text? place = before.text? place := by
  obtain heq | ⟨hnone, hmade, -⟩ := h place
  · rw [text?, text?, heq]
  · rw [text?, text?, hnone, hmade]

/-- A directory is made where there is nothing. -/
theorem makeDirectory?_grown (h : before.makeDirectory? start steps = some after) :
    GrownOn start steps before after ∧ after.leadsToDirectory start steps = true := by
  rw [makeDirectory?] at h
  split at h
  next target hwalk =>
    split at h
    next hfree =>
      cases h
      have hnone : before.entry? target = none := Option.isNone_iff_eq_none.mp hfree
      have hroot : target ≠ [] := fun heq => by simp [heq] at hnone
      have hdirectory : before.isDirectory target = false := by simp [isDirectory, hnone]
      have hkept := keepsDirectories_put hdirectory .directory
      have htarget : entry? (before.put target .directory) target = some .directory := by
        rw [entry?_put before .directory hroot, if_pos rfl]
      refine ⟨fun place => ?_, leadsToDirectory_iff.mpr
        ⟨target, hkept.walk? hwalk, isDirectory_iff.mpr htarget⟩⟩
      by_cases hplace : place = target
      · subst hplace
        exact Or.inr ⟨hnone, htarget, steps, List.prefix_rfl, hkept.walk? hwalk⟩
      · exact Or.inl (by rw [entry?_put before .directory hroot, if_neg hplace])
    next => cases h
  next => cases h

/-- Making directories changes nothing but what is on the way, and it says whether the steps lead to
a directory then: what they lead to cannot be reached without the directory above. -/
theorem makeDirectories_grown (tree : FileTree) (start : Place) (steps : List String) :
    GrownOn start steps tree (tree.makeDirectories start steps).1 ∧
      (tree.makeDirectories start steps).1.leadsToDirectory start steps =
        (tree.makeDirectories start steps).2 := by
  rw [makeDirectories]
  split
  next => exact ⟨.refl tree, rfl⟩
  next hsteps =>
    split
    next hleads => exact ⟨.refl tree, hleads⟩
    next =>
      obtain ⟨hgrown, hleads⟩ := makeDirectories_grown tree start (stepsAbove steps)
      have hgrown' := hgrown.mono (isPrefix_stepsAbove steps)
      dsimp only
      split
      next =>
        split
        next made hmade =>
          obtain ⟨hmore, hthere⟩ := makeDirectory?_grown hmade
          exact ⟨hgrown'.trans hmore, hthere⟩
        next => exact ⟨hgrown', rfl⟩
      next hfails =>
        refine ⟨hgrown', Bool.eq_false_iff.mpr fun hthere => hfails ?_⟩
        obtain ⟨target, hwalk, -⟩ := leadsToDirectory_iff.mp hthere
        obtain ⟨step, dots, happend⟩ := exists_stepsAbove_append hsteps
        have habove : (tree.makeDirectories start (stepsAbove steps)).1.walk? start
            (stepsAbove steps ++ step :: dots) = some target := by rwa [happend]
        rw [← hleads]
        exact leadsToDirectory_of_walk? habove
termination_by steps.length
decreasing_by exact length_stepsAbove_lt ‹_›

/-- Along names a way leads down. -/
theorem walk?_names (hnames : ∀ step ∈ steps, IsName step)
    (h : tree.walk? start steps = some target) : target = start ++ steps := by
  induction steps generalizing start with
  | nil => simpa [walk?] using h.symm
  | cons step steps ih =>
    obtain ⟨hstep, hsteps⟩ := List.forall_mem_cons.mp hnames
    rw [walk?, if_neg hstep.ne_here, if_neg hstep.ne_above] at h
    split at h
    · rw [ih hsteps h, List.append_assoc, List.singleton_append]
    · cases h

/-- The steps above a name are all but the name. -/
theorem stepsAbove_concat (h : name ≠ ".") : stepsAbove (steps ++ [name]) = steps := by
  simp [stepsAbove, h]

/-- Where a way along names leads to a directory, no file is on the way. -/
theorem text?_of_leadsToDirectory (hnames : ∀ step ∈ steps, IsName step)
    (h : tree.leadsToDirectory start steps = true) {way : List String} (hway : way <+: steps) :
    tree.text? (start ++ way) = none := by
  obtain ⟨rest, rfl⟩ := hway
  have hdirectory : tree.leadsToDirectory start way = true := by
    cases rest with
    | nil => rwa [List.append_nil] at h
    | cons step rest =>
      obtain ⟨target, hwalk, -⟩ := leadsToDirectory_iff.mp h
      exact leadsToDirectory_of_walk? hwalk
  obtain ⟨target, hwalk, htarget⟩ := leadsToDirectory_iff.mp hdirectory
  have heq := walk?_names (fun step hstep => hnames step (List.mem_append_left _ hstep)) hwalk
  rw [← heq, text?, isDirectory_iff.mp htarget]

/-- The directory at the end of a way along names is made exactly if no file is on the way. -/
theorem makeDirectories_names (hstart : tree.isDirectory start = true)
    (hnames : ∀ step ∈ steps, IsName step) :
    (tree.makeDirectories start steps).2 = true ↔
      ∀ way, way <+: steps → tree.text? (start ++ way) = none := by
  constructor
  · intro hmade way hway
    obtain ⟨hgrown, hleads⟩ := makeDirectories_grown tree start steps
    rw [hmade] at hleads
    rw [← hgrown.text?_eq]
    exact text?_of_leadsToDirectory hnames hleads hway
  · intro hfree
    induction steps using List.reverseRecOn with
    | nil =>
      rw [makeDirectories, dif_pos rfl]
      have hhere : tree.walk? start [] = some start := rfl
      exact leadsToDirectory_iff.mpr ⟨start, hhere, hstart⟩
    | append_singleton steps last ih =>
      obtain ⟨hsteps, hlast⟩ := List.forall_mem_append.mp hnames
      have hname : IsName last := hlast last (List.mem_singleton_self last)
      have hok := ih hsteps fun way hway => hfree way (hway.trans (List.prefix_append _ _))
      obtain ⟨hgrown, hleads⟩ := makeDirectories_grown tree start steps
      rw [hok] at hleads
      obtain ⟨above, hwalk, habove⟩ := leadsToDirectory_iff.mp hleads
      obtain rfl := walk?_names hsteps hwalk
      have hthere := walk?_name hname hwalk habove
      rw [makeDirectories, dif_neg (by simp), stepsAbove_concat hname.ne_here]
      split
      · rfl
      · dsimp only
        rw [if_pos hok]
        split
        · rfl
        next hmake =>
          rw [makeDirectory?, hthere] at hmake
          refine leadsToDirectory_iff.mpr ⟨_, hthere, isDirectory_iff.mpr ?_⟩
          have hnofile := (hgrown.text?_eq (start ++ steps ++ [last])).trans
            (List.append_assoc start steps [last] ▸ hfree _ List.prefix_rfl)
          cases hentry : entry? (tree.makeDirectories start steps).1 (start ++ steps ++ [last]) with
          | none => simp [-List.append_assoc, hentry] at hmake
          | some entry =>
            cases entry with
            | directory => rfl
            | file text => exact absurd hentry (text?_eq_none_iff.mp hnofile text)

/-! ## Output directories -/

/-- A path leads to a directory. -/
structure LeadsTo (tree : FileTree) (current : Place) (path : String) (target : Place) : Prop where
  null : '\x00' ∉ path.toList
  walk : tree.walk? (startOf current path) (pathSteps path) = some target
  directory : tree.isDirectory target = true

/-- A path leads to the same place as long as directories are kept. -/
theorem LeadsTo.mono (h : LeadsTo before current path target)
    (hkept : KeepsDirectories before after) : LeadsTo after current path target :=
  ⟨h.null, hkept.walk? h.walk, hkept target h.directory⟩

/-- Making the directory of a path changes nothing but what is on the way. -/
theorem makePath_grown (tree : FileTree) (current : Place) (path : String) :
    GrownOn (startOf current path) (pathSteps path) tree (tree.makePath current path).1 := by
  rw [makePath]
  split
  · exact .refl tree
  · exact (makeDirectories_grown tree _ _).1

/-- The directory of a path is made exactly if the path leads to a directory then. -/
theorem makePath_iff (tree : FileTree) (current : Place) (path : String) :
    (tree.makePath current path).2 = true ↔
      ∃ target, LeadsTo (tree.makePath current path).1 current path target := by
  rw [makePath]
  split
  next hnull =>
    exact iff_of_false Bool.false_ne_true fun ⟨_, h⟩ => h.null (List.contains_iff_mem.mp hnull)
  next hnull =>
    rw [← (makeDirectories_grown tree _ _).2, leadsToDirectory_iff]
    refine exists_congr fun target => ⟨fun h => ⟨?_, h.1, h.2⟩, fun h => ⟨h.walk, h.directory⟩⟩
    exact fun hmem => hnull (List.contains_iff_mem.mpr hmem)

/-- There is nothing to make where a path leads to a directory. -/
theorem LeadsTo.makePath_eq (h : LeadsTo tree current path target) :
    tree.makePath current path = (tree, true) := by
  have hleads : tree.leadsToDirectory (startOf current path) (pathSteps path) = true :=
    leadsToDirectory_iff.mpr ⟨target, h.walk, h.directory⟩
  have hnull : ¬path.toList.contains '\x00' = true := fun hmem =>
    h.null (List.contains_iff_mem.mp hmem)
  rw [makePath, if_neg hnull, makeDirectories, hleads]
  split <;> rfl

/-- A path of names is made exactly if no file is on the way. -/
theorem makePath_names (hstart : tree.isDirectory (startOf current path) = true)
    (hnull : '\x00' ∉ path.toList) (hnames : ∀ step ∈ pathSteps path, IsName step) :
    (tree.makePath current path).2 = true ↔
      ∀ way, way <+: pathSteps path → tree.text? (startOf current path ++ way) = none := by
  rw [makePath, if_neg fun hmem => hnull (List.contains_iff_mem.mp hmem)]
  exact makeDirectories_names hstart hnames

/-- A path that goes on starts where its first part does. -/
theorem startOf_append (current : Place) {above : String} (habove : above ≠ "") (rest : String) :
    startOf current (above ++ rest) = startOf current above := by
  have hne : above.toList ≠ [] := fun hnil => habove (String.toList_eq_nil_iff.mp hnil)
  rw [startOf, startOf, String.toList_append, List.head?_append_of_ne_nil _ hne]

/-- The path of a name starts where the path of its directory does. -/
theorem startOf_joinPath (current : Place) (directory : String) (h : IsName name) :
    startOf current (joinPath directory name) = startOf current directory := by
  obtain ⟨rfl, hjoin⟩ | ⟨above, hjoin, ⟨rfl, habove⟩ | rfl⟩ := joinPath_cases directory name
  · have hhead : name.toList.head? ≠ some '/' := fun hhead =>
      h.slash (List.mem_of_mem_head? (Option.mem_def.mpr hhead))
    rw [hjoin, startOf, startOf, if_neg hhead, if_neg (by decide)]
  · rw [hjoin, String.append_assoc, startOf_append current habove]
  · rw [hjoin, startOf_append current (by simp)]

/-- The directory above the path of a name is there if the directory of the path is: it has the same
path, but the root is written as the empty path, which stands for the current directory. -/
theorem LeadsTo.exists_parent (h : LeadsTo tree current directory target) (hname : IsName name)
    (hcurrent : tree.isDirectory current = true) :
    ∃ above, LeadsTo tree current (parentPath (joinPath directory name)) above := by
  have hhere : LeadsTo tree current "" current := ⟨by decide, rfl, hcurrent⟩
  obtain ⟨rfl, hjoin⟩ | ⟨above, hjoin, ⟨rfl, -⟩ | rfl⟩ := joinPath_cases directory name
  · rw [hjoin, hname.parentPath_eq]
    exact ⟨current, hhere⟩
  · rw [hjoin, parentPath_slash _ hname]
    exact ⟨target, h⟩
  · rw [hjoin, parentPath_slash _ hname]
    by_cases habove : above = ""
    · exact ⟨current, habove ▸ hhere⟩
    · refine ⟨target, ?_, ?_, h.directory⟩
      · exact fun hmem => h.null (by simp [hmem])
      · rw [← startOf_append current habove "/", ← pathSteps_trailing]
        exact h.walk

/-- The path of a name leads to the place below the directory. -/
theorem LeadsTo.locate? (h : LeadsTo tree current directory target) (hname : IsName name) :
    tree.locate? current (joinPath directory name) = some (target ++ [name]) := by
  obtain ⟨front, htext, hfront⟩ := exists_joinPath_eq directory name
  have hne : name.toList ≠ [] := fun hnil => hname.ne_empty (String.toList_eq_nil_iff.mp hnil)
  have hpath : ¬(joinPath directory name = "" ∨
      (joinPath directory name).toList.contains '\x00' = true) := by
    rw [← String.toList_eq_nil_iff, List.contains_iff_mem, htext, List.append_eq_nil_iff,
      List.mem_append]
    rintro (⟨-, hnil⟩ | hmem | hmem)
    · exact hne hnil
    · exact h.null (hfront _ hmem (by decide))
    · exact hname.null hmem
  have hlast : (joinPath directory name).toList.getLast? ≠ some '/' := by
    rw [htext, List.getLast?_append_of_ne_nil _ hne]
    exact fun hlast => hname.slash (List.mem_of_getLast? hlast)
  rw [FileTree.locate?, if_neg hpath, pathUseSteps, if_neg hlast, startOf_joinPath _ _ hname,
    pathSteps_joinPath _ hname]
  exact walk?_name hname h.walk h.directory

/-- A file is written below the directory, unless a directory is in its place. -/
theorem LeadsTo.writeText? (h : LeadsTo tree current directory target) (hname : IsName name)
    (text : String) : tree.writeText? current (joinPath directory name) text =
      if tree.isDirectory (target ++ [name]) then none
      else some (tree.put (target ++ [name]) (.file text)) := by
  rw [FileTree.writeText?, h.locate? hname]

/-! ## Filled directories -/

/-- A tree with files put in a directory one after the other. -/
def fill (tree : FileTree) (target : Place) (files : List (String × String)) : FileTree :=
  files.foldl (fun tree file => tree.put (target ++ [file.1]) (.file file.2)) tree

/-- Files are put into a directory one after the other. -/
theorem fill_cons (file : String × String) (files : List (String × String)) :
    tree.fill target (file :: files) =
      (tree.put (target ++ [file.1]) (.file file.2)).fill target files := rfl

/-- A file that is put into a directory is the entry of its own place only. -/
theorem entry?_put_below (tree : FileTree) (target : Place) (name text : String)
    (place : Place) : entry? (tree.put (target ++ [name]) (.file text)) place =
      if place = target ++ [name] then some (.file text) else tree.entry? place :=
  entry?_put tree (.file text) (by simp) place

/-- Filling a directory changes the places of the files only. -/
theorem entry?_fill_of_not_mem {files : List (String × String)}
    (h : ∀ file ∈ files, place ≠ target ++ [file.1]) :
    entry? (tree.fill target files) place = tree.entry? place := by
  induction files generalizing tree with
  | nil => rfl
  | cons file files ih =>
    obtain ⟨hfile, hfiles⟩ := List.forall_mem_cons.mp h
    rw [fill_cons, ih hfiles, entry?_put_below, if_neg hfile]

/-- Files with different names are all there once the directory is filled. -/
theorem entry?_fill_of_mem {files : List (String × String)} (hnodup : (files.map Prod.fst).Nodup)
    {file : String × String} (h : file ∈ files) :
    entry? (tree.fill target files) (target ++ [file.1]) = some (.file file.2) := by
  induction files generalizing tree with
  | nil => cases h
  | cons first files ih =>
    obtain ⟨hfirst, hrest⟩ := List.nodup_cons.mp hnodup
    rw [fill_cons]
    obtain rfl | hmem := List.mem_cons.mp h
    · rw [entry?_fill_of_not_mem, entry?_put_below, if_pos rfl]
      intro other hother heq
      have hname : file.1 = other.1 := by simpa using heq
      exact hfirst (hname ▸ List.mem_map_of_mem hother)
    · exact ih hrest hmem

/-- Files that take the place of no directory keep all directories. -/
theorem keepsDirectories_fill {files : List (String × String)}
    (h : ∀ file ∈ files, tree.isDirectory (target ++ [file.1]) = false) :
    KeepsDirectories tree (tree.fill target files) := by
  intro place hplace
  have hother : ∀ file ∈ files, place ≠ target ++ [file.1] := by
    rintro file hfile rfl
    rw [h file hfile] at hplace
    cases hplace
  rw [isDirectory_iff] at hplace ⊢
  rw [entry?_fill_of_not_mem hother, hplace]

end FileTree

end ClientGen
