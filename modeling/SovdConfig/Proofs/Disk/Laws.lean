import Mathlib.Logic.Function.Basic
import SovdConfig.Console
import SovdConfig.Proofs.Path.Definitions

namespace SovdConfig

/-!
# Laws of file systems

What a program may rely on when it works on a file system, whatever fails on the way.  Main
definitions:

* `DiskView` — what can be seen of a file system: entries, what is at them, and what has been
  reported;
* `Becomes` — how two states differ in what is at the entries, and in nothing else;
* `LawfulDisk` — what the operations do to that.

The laws say of temporary files that they are made under names that are free, and of renaming that
it replaces its target or does nothing.  When an operation fails is left open.
-/

/-- What can be seen of the files in a state. -/
class DiskView (σ : Type) [Disk (StateM σ)] where
  /-- A name in a directory, whether or not there is something under it. -/
  Entry : Type
  [decEq : DecidableEq Entry]
  /-- The name of an entry. -/
  nameOf : Entry → Bytes
  /-- The entry that a path leads to. -/
  target? : σ → Path → Option Entry
  /-- Whether a path leads to a directory. -/
  isDirectory : σ → Path → Bool
  /-- What is at an entry. -/
  node? : σ → Entry → Option Node
  /-- The entry of a temporary file. -/
  temporary : Disk.Staged (StateM σ) → Entry
  /-- What has been reported on the error stream. -/
  errors : σ → String

attribute [reducible, instance] DiskView.decEq

open DiskView

section

variable {σ : Type} [Disk (StateM σ)] [DiskView σ]

/-- Whether a temporary file is still there. -/
def IsStaged (s : σ) (staged : Disk.Staged (StateM σ)) : Prop :=
  ∃ content, node? s (temporary staged) = some (.file content)

/-- What is at the entries in the later state; paths lead where they did, to the same directories,
    and nothing has been reported in between. -/
structure Becomes (s s' : σ) (nodes : Entry σ → Option Node) : Prop where
  nodes : node? s' = nodes
  entries : target? s' = target? s
  directories : isDirectory s' = isDirectory s
  errors : errors s' = errors s

/-- One change after the other. -/
theorem Becomes.trans {s s₁ s₂ : σ} {nodes₁ nodes₂ : Entry σ → Option Node}
    (h₁ : Becomes s s₁ nodes₁) (h₂ : Becomes s₁ s₂ nodes₂) : Becomes s s₂ nodes₂ where
  nodes := h₂.nodes
  entries := h₂.entries.trans h₁.entries
  directories := h₂.directories.trans h₁.directories
  errors := h₂.errors.trans h₁.errors

/-- A temporary file is still there after a change that puts it there. -/
theorem Becomes.isStaged {s s' : σ} {nodes : Entry σ → Option Node} (h : Becomes s s' nodes)
    {staged : Disk.Staged (StateM σ)} {content : Bytes}
    (hnode : nodes (temporary staged) = some (.file content)) : IsStaged s' staged :=
  ⟨content, by rw [h.nodes, hnode]⟩

end

/-- What the operations of a program do to what can be seen of its files.  Those on a temporary
    file suppose that it is still there. -/
class LawfulDisk (σ : Type) [Disk (StateM σ)] [Console (StateM σ)] [DiskView σ] : Prop where
  isDirectory_run (p : Path) (s : σ) :
    (Disk.isDirectory (m := StateM σ) p).run s = (DiskView.isDirectory s p, s)
  createTemporary_error {p : Path} {s s' : σ} {e : DiskFault × Path} :
    (Disk.createTemporary (m := StateM σ) p).run s = (.error e, s') → Becomes s s' (node? s)
  createTemporary_ok {p : Path} {s s' : σ} {staged : Disk.Staged (StateM σ)} :
    (Disk.createTemporary (m := StateM σ) p).run s = (.ok staged, s') →
      node? s (temporary staged) = none ∧
        Becomes s s' (Function.update (node? s) (temporary staged) (some (.file [])))
  setMode {staged : Disk.Staged (StateM σ)} {s s' : σ} {r : Except DiskFault Unit} :
    (Disk.setMode (m := StateM σ) staged).run s = (r, s') → Becomes s s' (node? s)
  /-- A failure may leave a part of the content. -/
  fill_error {staged : Disk.Staged (StateM σ)} {content : Bytes} {s s' : σ}
      {e : DiskFault × Path} :
    IsStaged s staged → (Disk.fill (m := StateM σ) staged content).run s = (.error e, s') →
      ∃ part, Becomes s s' (Function.update (node? s) (temporary staged) (some (.file part)))
  fill_ok {staged : Disk.Staged (StateM σ)} {content : Bytes} {s s' : σ} :
    IsStaged s staged → (Disk.fill (m := StateM σ) staged content).run s = (.ok (), s') →
      Becomes s s' (Function.update (node? s) (temporary staged) (some (.file content)))
  discard {staged : Disk.Staged (StateM σ)} {s s' : σ} :
    IsStaged s staged → (Disk.discard (m := StateM σ) staged).run s = ((), s') →
      Becomes s s' (Function.update (node? s) (temporary staged) none)
  commit_error {staged : Disk.Staged (StateM σ)} {p : Path} {s s' : σ} {e : DiskFault} :
    IsStaged s staged → (Disk.commit (m := StateM σ) staged p).run s = (.error e, s') →
      Becomes s s' (node? s)
  /-- The file takes the place of the path under the name at the path's end. -/
  commit_ok {staged : Disk.Staged (StateM σ)} {p : Path} {s s' : σ} :
    IsStaged s staged → (Disk.commit (m := StateM σ) staged p).run s = (.ok (), s') →
      ∃ e, target? s p = some e ∧ nameOf e = Path.endOf p.bytes ∧
        Becomes s s' (Function.update (Function.update (node? s) (temporary staged) none) e
          (node? s (temporary staged)))
  printError {text : String} {s s' : σ} :
    (Console.printError (m := StateM σ) text).run s = ((), s') →
      node? s' = node? s ∧ target? s' = target? s ∧
        DiskView.isDirectory s' = DiskView.isDirectory s ∧ errors s' = errors s ++ text

end SovdConfig
