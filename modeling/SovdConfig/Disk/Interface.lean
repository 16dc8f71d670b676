import SovdConfig.Disk.Tree

namespace SovdConfig

/-!
# Working on a file system

Main definitions:

* `Disk` — the operations that a program performs on a file system;
* an instance for programs whose state is a `FileTree`.

Several files can be made ready before the first of them takes its place: `createTemporary`,
`setMode` and `fill` write a temporary file, each of them with failures of its own; `commit` renames
the file and `discard` removes it.
-/

/-- The operations on a file system, as effects of `m`. -/
class Disk (m : Type → Type) where
  /-- A temporary file, which has no place of its own yet. -/
  Staged : Type
  currentDirectory : m Path
  isDirectory : Path → m Bool
  isFile : Path → m Bool
  doesExist : Path → m Bool
  read : Path → m (Except DiskFault Bytes)
  /-- A file with the given content in place of what it held. -/
  write : Path → Bytes → m (Except DiskFault Unit)
  /-- A file with more content behind what it held. -/
  append : Path → Bytes → m (Except DiskFault Unit)
  /-- A directory and those above it that are missing. -/
  createDirectories : Path → m (Except DiskFault Unit)
  /-- An empty temporary file in a directory; on failure also the path that was tried. -/
  createTemporary : Path → m (Except (DiskFault × Path) Staged)
  /-- The temporary file may be read by everyone, and written by its owner. -/
  setMode : Staged → m (Except DiskFault Unit)
  /-- The content of the temporary file; on failure also its path. -/
  fill : Staged → Bytes → m (Except (DiskFault × Path) Unit)
  /-- The temporary file takes the place of the path. -/
  commit : Staged → Path → m (Except DiskFault Unit)
  /-- The temporary file is removed. -/
  discard : Staged → m Unit

namespace FileTree

/-- A change of the tree that may fail. -/
def attempt (f : FileTree → Except DiskFault FileTree) : StateM FileTree (Except DiskFault Unit) :=
  fun t =>
    match f t with
    | .ok t' => (.ok (), t')
    | .error e => (.error e, t)

instance : Disk (StateM FileTree) where
  Staged := Location
  currentDirectory := fun t => (pathOf t.current, t)
  isDirectory p := fun t => (t.isDirectory p, t)
  isFile p := fun t => (t.isFile p, t)
  doesExist p := fun t => (t.isThere p, t)
  read p := fun t => (t.read p, t)
  write p content := attempt (·.write p content)
  append p more := attempt (·.appendTo p more)
  createDirectories p := fun t => let (t', r) := t.createDirectories p; (r, t')
  createTemporary p := fun t =>
    match t.createTemporary p with
    | .ok (staged, t') => (.ok staged, t')
    | .error e => (.error (e, t.temporaryPath p), t)
  setMode _ := fun t => (.ok (), t)
  fill staged content := fun t => (.ok (), t.put staged (.file content))
  commit staged p := attempt (·.commit staged p)
  discard staged := modify (·.erase staged)

end FileTree

end SovdConfig
