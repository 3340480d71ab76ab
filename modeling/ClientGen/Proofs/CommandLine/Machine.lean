import ClientGen.CommandLine.Run
import ClientGen.Proofs.FileTree

/-!
# Actions on machines

What an action does on a machine: its result, and the machine after it. Files are written below a
directory one after the other, until a directory is in the place of one.
-/

namespace ClientGen.CommandLine

open FileTree

variable {α β : Type} {s s' : Machine} {failure : Failure} {current target : Place}
  {directory : String}

/-! ## Actions -/

/-- The result of an action on a machine, and the machine after it. -/
def Action.on (action : Action (StateM Machine) α) (s : Machine) : Except Failure α × Machine :=
  (action.run.run s).run

/-- An action goes on with what comes before it, unless that fails. -/
theorem Action.on_bind (action : Action (StateM Machine) α) (next : α → Action (StateM Machine) β)
    (s : Machine) : (action >>= next).on s =
      match action.on s with
      | (.ok a, s') => (next a).on s'
      | (.error failure, s') => (.error failure, s') := by
  have hbind : (action >>= next).on s =
      ((ExceptT.bindCont next (action.on s).1 : StateM Machine _).run (action.on s).2).run := rfl
  rw [hbind]
  rcases action.on s with ⟨_ | _, _⟩ <;> rfl

/-- An action goes on after a result. -/
theorem Action.on_bind_ok {action : Action (StateM Machine) α} {a : α}
    (h : action.on s = (.ok a, s')) (next : α → Action (StateM Machine) β) :
    (action >>= next).on s = (next a).on s' := by
  rw [on_bind, h]

/-- An action stops after a failure. -/
theorem Action.on_bind_error {action : Action (StateM Machine) α}
    (h : action.on s = (.error failure, s')) (next : α → Action (StateM Machine) β) :
    (action >>= next).on s = (.error failure, s') := by
  rw [on_bind, h]

/-- An action that only returns leaves the machine as it is. -/
theorem Action.on_pure (a : α) (s : Machine) :
    (pure a : Action (StateM Machine) α).on s = (.ok a, s) := rfl

/-- A failure leaves the machine as it is. -/
theorem Action.on_throw (failure : Failure) (s : Machine) :
    (throw failure : Action (StateM Machine) α).on s = (.error failure, s) := rfl

/-- What is demanded and the case leaves the machine as it is. -/
theorem demand_ok {condition : Bool} (h : condition = true) (failure : Failure) (s : Machine) :
    (demand condition failure : Action (StateM Machine) Unit).on s = (.ok (), s) := by
  rw [h]
  rfl

/-- What is demanded and not the case is a failure. -/
theorem demand_error {condition : Bool} (h : condition = false) (failure : Failure) (s : Machine) :
    (demand condition failure : Action (StateM Machine) Unit).on s = (.error failure, s) := by
  rw [h]
  rfl

/-! ## Requests -/

namespace Machine

/-- Whether there is something at the end of a path. -/
def isPresent (s : Machine) (path : String) : Bool :=
  ((s.tree.locate? s.current path).bind s.tree.entry?).isSome

/-- The text of the file that a path leads to. -/
def textAt? (s : Machine) (path : String) : Option String :=
  (s.tree.locate? s.current path).bind s.tree.text?

/-- The machine with one more line among its messages. -/
def reported (s : Machine) (line : String) : Machine :=
  { s with messages := s.messages ++ line ++ "\n" }

end Machine

/-- Looking for a file leaves the machine as it is. -/
theorem isPresent_on (path : String) (s : Machine) :
    (liftM (Host.isPresent path : StateM Machine Bool) : Action (StateM Machine) Bool).on s =
      (.ok (s.isPresent path), s) := rfl

/-- Reading a file leaves the machine as it is. -/
theorem readText?_on (path : String) (s : Machine) :
    (liftM (Host.readText? path : StateM Machine (Option String)) :
      Action (StateM Machine) (Option String)).on s = (.ok (s.textAt? path), s) := rfl

/-- Making the directories of a path changes the files only. -/
theorem makePath_on (path : String) (s : Machine) :
    (liftM (Host.makePath path : StateM Machine Bool) : Action (StateM Machine) Bool).on s =
      (.ok (s.tree.makePath s.current path).2,
        { s with tree := (s.tree.makePath s.current path).1 }) := rfl

/-- A report adds a line to the messages of the machine. -/
theorem report_on (line : String) (s : Machine) :
    (liftM (Host.report line : StateM Machine Unit) : Action (StateM Machine) Unit).on s =
      (.ok (), s.reported line) := rfl

/-- Writing a text changes the files, if it can be written. -/
theorem writeText_on (path text : String) (s : Machine) :
    (liftM (Host.writeText path text : StateM Machine Bool) : Action (StateM Machine) Bool).on s =
      match s.tree.writeText? s.current path text with
      | some tree => (.ok true, { s with tree })
      | none => (.ok false, s) := by
  have hrun : (liftM (Host.writeText path text : StateM Machine Bool) :
      Action (StateM Machine) Bool).on s =
      let (written, s') := ((match s.tree.writeText? s.current path text with
        | some tree => do
          set { s with tree }
          return true
        | none => return false : StateM Machine Bool).run s).run
      (.ok written, s') := rfl
  rw [hrun]
  cases s.tree.writeText? s.current path text <;> rfl

/-! ## Files -/

/-- A file is written below the directory, and the run stops where a directory is in its place. -/
theorem writeIn_on (h : LeadsTo s.tree s.current directory target)
    (hcurrent : s.tree.isDirectory s.current = true) {file : String × String}
    (hname : IsName file.1) : (writeIn directory file : Action (StateM Machine) Unit).on s =
      if s.tree.isDirectory (target ++ [file.1]) then
        (.error (.fileBlocked (joinPath directory file.1)), s)
      else
        (.ok (), { s with tree := s.tree.put (target ++ [file.1]) (.file file.2) }.reported
          ("  wrote " ++ joinPath directory file.1)) := by
  obtain ⟨above, habove⟩ := h.exists_parent hname hcurrent
  rw [writeIn, Action.on_bind_ok (makePath_on _ s), habove.makePath_eq,
    Action.on_bind_ok (demand_ok rfl _ s)]
  have hwrite := writeText_on (joinPath directory file.1) file.2 s
  rw [h.writeText? hname] at hwrite
  split
  next hblocked =>
    rw [if_pos hblocked] at hwrite
    rw [Action.on_bind_ok hwrite, Action.on_bind_error (demand_error rfl _ s)]
  next hfree =>
    rw [if_neg hfree] at hwrite
    rw [Action.on_bind_ok hwrite, Action.on_bind_ok (demand_ok rfl _ _), report_on]

/-- Files are written below the directory if no directory is in the place of one. -/
theorem writeAll_on {files : List (String × String)}
    (h : LeadsTo s.tree s.current directory target)
    (hcurrent : s.tree.isDirectory s.current = true) (hnames : ∀ file ∈ files, IsName file.1) :
    ∃ s', s'.current = s.current ∧ s'.output = s.output ∧
      (((∀ file ∈ files, s.tree.isDirectory (target ++ [file.1]) = false) ∧
        s'.tree = s.tree.fill target files ∧
        (files.forM (writeIn directory) : Action (StateM Machine) Unit).on s = (.ok (), s')) ∨
      ∃ file ∈ files, s.tree.isDirectory (target ++ [file.1]) = true ∧
        (files.forM (writeIn directory) : Action (StateM Machine) Unit).on s =
          (.error (.fileBlocked (joinPath directory file.1)), s')) := by
  induction files generalizing s with
  | nil => exact ⟨s, rfl, rfl, Or.inl ⟨List.forall_mem_nil _, rfl, rfl⟩⟩
  | cons file files ih =>
    obtain ⟨hname, hrest⟩ := List.forall_mem_cons.mp hnames
    have hwrite := writeIn_on h hcurrent hname
    have hforM : ((file :: files).forM (writeIn directory) : Action (StateM Machine) Unit) =
        writeIn directory file >>= fun _ => files.forM (writeIn directory) := rfl
    rw [hforM]
    cases hfile : s.tree.isDirectory (target ++ [file.1]) with
    | true =>
      rw [if_pos hfile] at hwrite
      refine ⟨s, rfl, rfl, Or.inr ⟨file, List.mem_cons_self, hfile, ?_⟩⟩
      rw [Action.on_bind_error hwrite]
    | false =>
      rw [if_neg (by simp [hfile])] at hwrite
      have hkept := isDirectory_put_file hfile file.2
      obtain ⟨s', hcurrent', houtput', houtcome⟩ := ih
        (s := { s with tree := s.tree.put (target ++ [file.1]) (.file file.2) }.reported
          ("  wrote " ++ joinPath directory file.1))
        (h.mono (keepsDirectories_put hfile _)) ((hkept _).trans hcurrent) hrest
      rw [Action.on_bind_ok hwrite]
      refine ⟨s', hcurrent', houtput', houtcome.imp ?_ ?_⟩
      · rintro ⟨hfree, htree, hon⟩
        exact ⟨List.forall_mem_cons.mpr ⟨hfile, fun other hother =>
          (hkept _).symm.trans (hfree other hother)⟩, htree, hon⟩
      · rintro ⟨other, hother, hblocked, hon⟩
        exact ⟨other, List.mem_cons_of_mem _ hother, (hkept _).symm.trans hblocked, hon⟩

end ClientGen.CommandLine
