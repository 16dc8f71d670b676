import SovdConfig.Disk.Interface
import SovdConfig.Timestamp

namespace SovdConfig

/-!
# What a program shows

Main definitions:

* `Console` — the streams that a program writes to, and the clock;
* `World` — a file system and what a program has shown so far, as a value;
* instances of `Disk` and `Console` for programs whose state is a `World`.
-/

/-- The streams that a program writes to, and the clock, as effects of `m`. -/
class Console (m : Type → Type) where
  print : String → m Unit
  printError : String → m Unit
  /-- The time in UTC. -/
  now : m Timestamp
  /-- The readings of the local clock, one for each document that is generated. -/
  readings : m (Nat → Timestamp)

/-- All that a program can read and change. -/
structure World where
  disk : FileTree
  output : String := ""
  errors : String := ""
  now : Timestamp := default
  clock : Nat → Timestamp := fun _ => default

namespace World

variable {α : Type}

/-- An operation on the file system. -/
def onDisk (f : StateM FileTree α) : StateM World α := fun w =>
  let (a, disk) := f w.disk
  (a, { w with disk })

instance : Disk (StateM World) where
  Staged := Location
  currentDirectory := onDisk Disk.currentDirectory
  isDirectory p := onDisk (Disk.isDirectory p)
  isFile p := onDisk (Disk.isFile p)
  doesExist p := onDisk (Disk.doesExist p)
  read p := onDisk (Disk.read p)
  write p content := onDisk (Disk.write p content)
  append p more := onDisk (Disk.append p more)
  createDirectories p := onDisk (Disk.createDirectories p)
  createTemporary p := onDisk (Disk.createTemporary (m := StateM FileTree) p)
  setMode staged := onDisk (Disk.setMode (m := StateM FileTree) staged)
  fill staged content := onDisk (Disk.fill (m := StateM FileTree) staged content)
  commit staged p := onDisk (Disk.commit (m := StateM FileTree) staged p)
  discard staged := onDisk (Disk.discard (m := StateM FileTree) staged)

instance : Console (StateM World) where
  print text := modify fun w => { w with output := w.output ++ text }
  printError text := modify fun w => { w with errors := w.errors ++ text }
  now := fun w => (w.now, w)
  readings := fun w => (w.clock, w)

end World

end SovdConfig
