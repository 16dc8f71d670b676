import SovdConfig.Command.Failure
import SovdConfig.Console
import SovdConfig.Definition.Document

namespace SovdConfig

/-!
# Output of generated documents

Main definitions:

* `Documents` — a configuration and, on request, the definitions that go with it;
* `Documents.print` — the documents on the output stream;
* `Documents.write` — the documents in files.

Files are written all or none as far as that can be foreseen: before any of them takes its place,
each is made ready as a temporary file in its directory.
-/

/-- What a run generates. -/
structure Documents where
  configuration : String
  definitions : Option String
deriving DecidableEq, Repr

/-- A file that is to be written. -/
structure OutputFile where
  /-- What is in it, at the start of a sentence. -/
  title : String
  /-- What is in it, inside a sentence. -/
  noun : String
  path : Path
  content : String
deriving DecidableEq, Repr

namespace Documents

/-- The line that tells the definitions from the configuration. -/
def definitionsHeading : String := "# === DID Definitions (save as dids.yaml) ==="

/-- The documents as one text. -/
def text (d : Documents) : String :=
  d.configuration ++ "\n" ++
    match d.definitions with
    | some definitions => "\n" ++ definitionsHeading ++ "\n\n" ++ definitions ++ "\n"
    | none => ""

/-- The files for the documents. -/
def files (d : Documents) (path : Path) : List OutputFile :=
  ⟨"Config", "config", path, d.configuration⟩ ::
    (d.definitions.map fun text => ⟨"DIDs", "DIDs", path.definitions, text⟩).toList

section

variable {d : Documents} {definitions : String}

/-- A configuration without definitions is one file. -/
theorem files_of_none (h : d.definitions = none) (path : Path) :
    d.files path = [⟨"Config", "config", path, d.configuration⟩] := by
  rw [files, h]
  rfl

/-- Definitions are a second file, behind the configuration. -/
theorem files_of_some (h : d.definitions = some definitions) (path : Path) :
    d.files path =
      [⟨"Config", "config", path, d.configuration⟩,
        ⟨"DIDs", "DIDs", path.definitions, definitions⟩] := by
  rw [files, h]
  rfl

/-- Something holds of all files if it holds of the configuration and of the definitions, if there
    are any. -/
theorem forall_mem_files {path : Path} {P : OutputFile → Prop} :
    (∀ f ∈ d.files path, P f) ↔
      P ⟨"Config", "config", path, d.configuration⟩ ∧
        ∀ definitions, d.definitions = some definitions →
          P ⟨"DIDs", "DIDs", path.definitions, definitions⟩ := by
  cases h : d.definitions with
  | none => simp [files_of_none h]
  | some definitions => simp [files_of_some h]

end

end Documents

namespace OutputFile

variable {m : Type → Type} [Monad m] [Disk m] [Console m]

/-- The directory of a file. -/
def directory (f : OutputFile) : Path :=
  match f.path.parent? with
  | some parent => if parent.isEmpty then .ofText "." else parent
  | none => .ofText "."

/-- A temporary file gets its mode and its content, or is removed. -/
def prepare (f : OutputFile) (staged : Disk.Staged m) : m (Except Failure (Disk.Staged m)) := do
  match ← Disk.setMode staged with
  | .error cause => do
    Disk.discard staged
    return .error (.staging f.noun f.path cause none)
  | .ok () =>
    match ← Disk.fill staged (Text.encodeUtf8 f.content) with
    | .error (cause, tried) => do
      Disk.discard staged
      return .error (.staging f.noun f.path cause (some tried))
    | .ok () => return .ok staged

/-- A file is made ready. -/
def stage (f : OutputFile) : m (Except Failure (Disk.Staged m)) := do
  if ← Disk.isDirectory f.path then return .error (.outputIsDirectory f.noun f.path)
  else
    match ← Disk.createTemporary (m := m) f.directory with
    | .error (cause, tried) => return .error (.staging f.noun f.path cause (some tried))
    | .ok staged => f.prepare staged

/-- Temporary files are removed. -/
def discardAll (staged : List (Disk.Staged m)) : m Unit :=
  match staged with
  | [] => pure ()
  | s :: rest => do
    Disk.discard s
    discardAll rest

/-- All files are made ready, or none is left. -/
def stageAll : List OutputFile → m (Except Failure (List (Disk.Staged m)))
  | [] => return .ok []
  | f :: rest => do
    match ← f.stage with
    | .error e => return .error e
    | .ok staged =>
      match ← stageAll rest with
      | .error e => do
        Disk.discard staged
        return .error e
      -- this file was ready, but one behind it could not be made so
      | .ok more => return .ok (staged :: more)

/-- What is reported of a file that has been written. -/
def notice (title : String) (path : Path) : String :=
  title ++ " written to " ++ path.display ++ "\n"

/-- Temporary files take their places, one after the other, until one of them cannot. -/
def commitAll (quiet : Bool) : List (OutputFile × Disk.Staged m) → m (Except Failure Unit)
  | [] => return .ok ()
  | (f, staged) :: rest => do
    match ← Disk.commit staged f.path with
    | .error cause => do
      -- files that have taken their places stay there
      discardAll (staged :: rest.map Prod.snd)
      return .error (.committing f.noun f.path cause)
    | .ok () => do
      if !quiet then Console.printError (notice f.title f.path)
      commitAll quiet rest

/-- Files are written. -/
def writeAll (quiet : Bool) (files : List OutputFile) : m (Except Failure Unit) := do
  match ← stageAll files with
  | .error e => return .error e
  | .ok staged => commitAll quiet (files.zip staged)

end OutputFile

namespace Documents

variable {m : Type → Type} [Monad m] [Disk m] [Console m]

/-- The documents on the output stream. -/
def print (d : Documents) : m Unit := Console.print d.text

/-- The documents in files. -/
def write (d : Documents) (quiet : Bool) (path : Path) : m (Except Failure Unit) :=
  OutputFile.writeAll quiet (d.files path)

end Documents

end SovdConfig
