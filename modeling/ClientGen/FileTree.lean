/-!
# File trees

Files and directories in memory. A place is the list of names that leads to it from the root; a
path is a text that leads to a place step by step, from the root or from another place. Steps are
taken in directories only, so a path that goes on after a file leads nowhere.
-/

namespace ClientGen

/-- The names on the way from the root. -/
abbrev Place := List String

/-- What a place holds. -/
inductive Entry where
  | file (text : String)
  | directory
deriving DecidableEq

/-! ## Paths -/

/-- The steps of a path, empty ones among them; `step` holds the current one, last character
first. -/
def stepsFrom (step : List Char) : List Char → List (List Char)
  | [] => [step.reverse]
  | '/' :: rest => step.reverse :: stepsFrom [] rest
  | c :: rest => stepsFrom (c :: step) rest

/-- The steps of a path without the empty ones. -/
def pathSteps (path : String) : List String :=
  (((stepsFrom [] path.toList).filter fun step => step ≠ [])).map String.ofList

/-- The steps to take in order to use what a path leads to. A slash at the end demands a directory,
as a dot does. -/
def pathUseSteps (path : String) : List String :=
  if path.toList.getLast? = some '/' then pathSteps path ++ ["."] else pathSteps path

/-- The path of a name in the directory of a path. -/
def joinPath (directory name : String) : String :=
  if directory = "" ∨ directory.toList.getLast? = some '/' then directory ++ name
  else directory ++ "/" ++ name

/-- A path up to its last slash, which is not part of the result. -/
def parentPath (path : String) : String :=
  String.ofList ((path.toList.reverse.dropWhile (· ≠ '/')).drop 1).reverse

/-- Whether the file of a path has an extension: its name ends with it, after a point that is not
the name's first character. -/
def hasExtension (path extension : String) : Bool :=
  match ((pathSteps path).filter (· ≠ ".")).getLast? with
  | none => false
  | some name =>
    let ending := '.' :: extension.toList
    ending.isSuffixOf name.toList && ending.length < name.length

/-- The steps before the last one that names something; dots at the end name nothing. -/
def stepsAbove (steps : List String) : List String :=
  (steps.reverse.dropWhile (· = ".")).tail.reverse

/-- The steps to the directory above are fewer. -/
theorem length_stepsAbove_lt {steps : List String} (h : steps ≠ []) :
    (stepsAbove steps).length < steps.length := by
  have hle := (List.dropWhile_sublist (l := steps.reverse) (· = ".")).length_le
  have hpos : 0 < steps.length := List.length_pos_iff.mpr h
  simp only [stepsAbove, List.length_reverse, List.length_tail] at *
  omega

/-! ## Trees -/

/-- Files and directories by their places. The root is a directory that is not listed. -/
structure FileTree where
  entries : List (Place × Entry)

namespace FileTree

/-- The tree that has only a root. -/
def empty : FileTree := ⟨[]⟩

instance : Inhabited FileTree := ⟨empty⟩

/-- What a place holds. -/
def entry? (tree : FileTree) (place : Place) : Option Entry :=
  if place = [] then some .directory else tree.entries.lookup place

/-- Whether a place holds a directory. -/
def isDirectory (tree : FileTree) (place : Place) : Bool :=
  tree.entry? place == some .directory

/-- The text of a file. -/
def text? (tree : FileTree) (place : Place) : Option String :=
  match tree.entry? place with
  | some (.file text) => some text
  | _ => none

/-- Puts an entry at a place below the root, instead of what it holds. -/
def put (tree : FileTree) (place : Place) (entry : Entry) : FileTree :=
  ⟨(place, entry) :: tree.entries.filter fun e => e.1 ≠ place⟩

/-- The place that steps lead to. The last step may lead to a place that holds nothing. -/
def walk? (tree : FileTree) (place : Place) : List String → Option Place
  | [] => some place
  | step :: rest =>
    if tree.isDirectory place then
      let next :=
        if step = "." then place else if step = ".." then place.dropLast else place ++ [step]
      tree.walk? next rest
    else none

/-- Where a path starts from. -/
def startOf (current : Place) (path : String) : Place :=
  if path.toList.head? = some '/' then [] else current

/-- The place that a path leads to. An empty path leads nowhere, and neither does a path with a null
character. -/
def locate? (tree : FileTree) (current : Place) (path : String) : Option Place :=
  if path = "" ∨ path.toList.contains '\x00' then none
  else tree.walk? (startOf current path) (pathUseSteps path)

/-- Makes the directory that steps lead to, if there is nothing yet. -/
def makeDirectory? (tree : FileTree) (place : Place) (steps : List String) : Option FileTree :=
  match tree.walk? place steps with
  | some target => if (tree.entry? target).isNone then some (tree.put target .directory) else none
  | none => none

/-- Whether steps lead to a directory. -/
def leadsToDirectory (tree : FileTree) (place : Place) (steps : List String) : Bool :=
  (tree.walk? place steps).any tree.isDirectory

/-- Makes the directories on the way that do not exist, and says whether the steps lead to a
directory then. -/
def makeDirectories (tree : FileTree) (place : Place) (steps : List String) : FileTree × Bool :=
  if _h : steps = [] then (tree, tree.leadsToDirectory place steps)
  else if tree.leadsToDirectory place steps then (tree, true)
  else
    let (grown, ok) := tree.makeDirectories place (stepsAbove steps)
    if ok then
      match grown.makeDirectory? place steps with
      | some made => (made, true)
      | none => (grown, grown.leadsToDirectory place steps)
    else (grown, false)
termination_by steps.length
decreasing_by exact length_stepsAbove_lt _h

/-- Makes the directory of a path with those above it, and says whether it exists then. The empty
path stands for where one is. -/
def makePath (tree : FileTree) (current : Place) (path : String) : FileTree × Bool :=
  if path.toList.contains '\x00' then (tree, false)
  else tree.makeDirectories (startOf current path) (pathSteps path)

/-- Writes a file, unless there is no directory for it or there is a directory in its place. -/
def writeText? (tree : FileTree) (current : Place) (path text : String) : Option FileTree :=
  match tree.locate? current path with
  | some place => if tree.isDirectory place then none else some (tree.put place (.file text))
  | none => none

/-- The path of a place below another one. -/
def pathBelow? (current place : Place) : Option String :=
  if current.isPrefixOf place then some ("/".intercalate (place.drop current.length)) else none

/-- The files below a place that are new or have another text than before, by their paths. -/
def changes (before after : FileTree) (current : Place) : List (String × String) :=
  let changed := after.entries.filterMap fun (place, entry) =>
    match entry with
    | .directory => none
    | .file text =>
      if before.text? place = some text then none
      else (pathBelow? current place).map fun path => (path, text)
  changed.mergeSort fun a b => a.1 ≤ b.1

end FileTree

end ClientGen
