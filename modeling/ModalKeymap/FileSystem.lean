/-!
# File systems

A tree of files and directories, as a list of paths with what is at them.
`set` and `remove` change one path.  What setting it does to every other path
is said by `get?_set`, and removing undoes setting where nothing was before
(`remove_set_of_new`).
-/

namespace ModalKeymap

/-- The names that lead to a file, outermost first. -/
abbrev FilePath := List String

/-- What is at a path. -/
inductive FileNode where
  | file (bytes : ByteArray)
  | directory

/-- Whether a node is a directory. -/
def FileNode.isDirectory : FileNode → Bool
  | .file _ => false
  | .directory => true

/-- Files and directories below a root directory. -/
structure FileSystem where
  nodes : List (FilePath × FileNode) := []
  /-- The directory from which relative locations lead. -/
  working : FilePath := []

namespace FileSystem

/-- What is at a path, below the root. -/
def get? (files : FileSystem) (path : FilePath) : Option FileNode :=
  files.nodes.lookup path

/-- The bytes of the file at a path. -/
def read? (files : FileSystem) (path : FilePath) : Option ByteArray :=
  match files.get? path with
  | some (.file bytes) => some bytes
  | _ => none

/-- Whether a path is a directory; the root is one. -/
def isDirectory (files : FileSystem) (path : FilePath) : Bool :=
  path.isEmpty || (files.get? path).any FileNode.isDirectory

/-- The nodes with one of them put in place, or added at the end. -/
def setNode (path : FilePath) (node : FileNode) :
    List (FilePath × FileNode) → List (FilePath × FileNode)
  | [] => [(path, node)]
  | (other, old) :: rest =>
      if other = path then
        (other, node) :: rest
      else
        (other, old) :: setNode path node rest

/-- Put a file or a directory at a path. -/
def set (files : FileSystem) (path : FilePath) (node : FileNode) :
    FileSystem :=
  { files with nodes := setNode path node files.nodes }

/-- Remove what is at a path. -/
def remove (files : FileSystem) (path : FilePath) : FileSystem :=
  { files with nodes := files.nodes.filter fun entry => entry.1 ≠ path }

/-- Make a directory, unless something is at its path. -/
def makeDirectory (files : FileSystem) (path : FilePath) : FileSystem :=
  match files.get? path with
  | some _ => files
  | none => files.set path .directory

/-- Make a directory and those that lead to it. -/
def makeDirectories (files : FileSystem) (path : FilePath) : FileSystem :=
  (List.range path.length).foldl (fun files depth =>
    files.makeDirectory (path.take (depth + 1))) files

theorem lookup_setNode (path other : FilePath) (node : FileNode)
    (nodes : List (FilePath × FileNode)) :
    (setNode path node nodes).lookup other =
      if other = path then some node else nodes.lookup other := by
  induction nodes with
  | nil =>
      by_cases same : other = path
      · simp [setNode, same]
      · have different : (other == path) = false := by simpa using same
        simp [setNode, List.lookup_cons, different, same]
  | cons first rest ih =>
      obtain ⟨present, old⟩ := first
      by_cases here : present = path
      · subst here
        by_cases same : other = present
        · simp [setNode, same]
        · have different : (other == present) = false := by simpa using same
          simp [setNode, List.lookup_cons, different, same]
      · by_cases same : other = present
        · subst same
          simp [setNode, here]
        · have different : (other == present) = false := by simpa using same
          simp only [setNode, here, if_false, List.lookup_cons, different, ih]

@[simp]
theorem working_set (files : FileSystem) (path : FilePath)
    (node : FileNode) : (files.set path node).working = files.working := rfl

/-- Setting one path changes nothing at any other. -/
@[simp]
theorem get?_set (files : FileSystem) (path other : FilePath)
    (node : FileNode) :
    (files.set path node).get? other =
      if other = path then some node else files.get? other :=
  lookup_setNode path other node files.nodes

/-- A file that was not there before leaves nothing behind when removed. -/
theorem remove_set_of_new {files : FileSystem} {path : FilePath}
    {node : FileNode} (new : ∀ entry ∈ files.nodes, entry.1 ≠ path) :
    (files.set path node).remove path = files := by
  obtain ⟨nodes, working⟩ := files
  simp only [set, remove, FileSystem.mk.injEq, and_true]
  induction nodes with
  | nil => simp [setNode]
  | cons first rest ih =>
      obtain ⟨present, old⟩ := first
      have different : present ≠ path := new (present, old) (by simp)
      have others := ih fun entry member =>
        new entry (List.mem_cons_of_mem _ member)
      simpa [setNode, different] using others

end FileSystem

end ModalKeymap
