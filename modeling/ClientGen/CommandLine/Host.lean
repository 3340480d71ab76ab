import ClientGen.FileTree

/-!
# Hosts

What a command asks of the system that it runs on: to look at files, to write them and to show
texts. A machine in memory is such a system.
-/

namespace ClientGen.CommandLine

/-- The requests that a system answers. -/
class Host (m : Type → Type) where
  /-- Whether there is something at a path. -/
  isPresent : String → m Bool
  /-- The text of a file, if it can be read. -/
  readText? : String → m (Option String)
  /-- Makes a directory with those above it, and says whether it exists then. -/
  makePath : String → m Bool
  /-- Writes a file, and says whether it could be written. -/
  writeText : String → String → m Bool
  /-- Writes a text to the output. -/
  print : String → m Unit
  /-- Writes a line to the messages. -/
  report : String → m Unit

/-- A system in memory: a file tree, the current directory and what was shown. -/
structure Machine where
  tree : FileTree
  current : Place
  output : String
  messages : String

namespace Machine

/-- The answers of a machine. -/
instance : Host (StateM Machine) where
  isPresent path := do
    let s ← get
    return ((s.tree.locate? s.current path).bind s.tree.entry?).isSome
  readText? path := do
    let s ← get
    return (s.tree.locate? s.current path).bind s.tree.text?
  makePath path := do
    let s ← get
    let (tree, ok) := s.tree.makePath s.current path
    set { s with tree }
    return ok
  writeText path text := do
    let s ← get
    match s.tree.writeText? s.current path text with
    | some tree =>
      set { s with tree }
      return true
    | none => return false
  print text := modify fun s => { s with output := s.output ++ text }
  report line := modify fun s => { s with messages := s.messages ++ line ++ "\n" }

/-- The machine with a directory that holds files, given by their paths. A file that cannot be
written is left out. -/
def ofFiles (current : Place) (files : List (String × String)) : Machine where
  tree :=
    files.foldl (fun tree (path, text) =>
      let (grown, _) := tree.makePath current (parentPath path)
      (grown.writeText? current path text).getD grown)
      (FileTree.empty.makeDirectories [] current).1
  current := current
  output := ""
  messages := ""

end Machine

end ClientGen.CommandLine
