import Std.Time
import SovdConfig.Command.Run

namespace SovdConfig

/-!
# The command line program

Main definitions:

* instances of `Disk` and `Console` for a real file system, real streams and a real clock;
* `main` — the program.

File names that are no text cannot be told apart here: they are used as they display.
-/

/-- Why an operation of the system failed. -/
def DiskFault.ofError : IO.Error → DiskFault
  | .noFileOrDirectory .. => .notFound
  | .alreadyExists .. => .alreadyExists
  | .inappropriateType _ code message =>
    if code = 20 then .notDirectory
    else if code = 21 then .isDirectory
    else .other message
  | .resourceExhausted _ code message => if code = 36 then .nameTooLong else .other message
  | e => .other (toString e)

/-- An operation of the system and its failure. -/
def attempt {α : Type} (act : IO α) : IO (Except DiskFault α) := do
  try return .ok (← act) catch e => return .error (DiskFault.ofError e)

/-- A name for a temporary file that is not likely to be in use. -/
def temporaryName : IO String := do
  let bytes ← IO.getRandomBytes 3
  return ".tmp" ++ String.ofList (bytes.toList.flatMap fun b => padLeft 2 (hexDigits false b.toNat))

/-- An empty temporary file in a directory. -/
def makeTemporary (directory : Path) : IO (Except (DiskFault × Path) String) := do
  let here : Path := .ofText (← IO.currentDir).toString
  let path := (here.join directory).join (.ofText (← temporaryName))
  match ← attempt (IO.FS.Handle.mk path.display .writeNew) with
  | .ok _ => return .ok path.display
  | .error e => return .error (e, path)

/-- Read by everyone, written by the owner. -/
def sharedRights : IO.FileRight where
  user := { read := true, write := true }
  group := { read := true }
  other := { read := true }

/-- The content of a temporary file. -/
def fillTemporary (staged : String) (content : Bytes) : IO (Except (DiskFault × Path) Unit) := do
  match ← attempt (IO.FS.writeBinFile staged content.toByteArray) with
  | .ok () => return .ok ()
  | .error e => return .error (e, .ofText staged)

instance : Disk IO where
  Staged := String
  currentDirectory := do return .ofText (← IO.currentDir).toString
  isDirectory p := do ((← IO.currentDir) / p.display).isDir
  isFile p := do
    let file := (← IO.currentDir) / p.display
    return (← file.pathExists) && !(← file.isDir)
  doesExist p := do ((← IO.currentDir) / p.display).pathExists
  read p := attempt do return (← IO.FS.readBinFile p.display).toList
  write p content := attempt (IO.FS.writeBinFile p.display content.toByteArray)
  append p more := attempt do
    let handle ← IO.FS.Handle.mk p.display .append
    handle.write more.toByteArray
  createDirectories p := attempt (IO.FS.createDirAll p.display)
  createTemporary := makeTemporary
  setMode staged := attempt (IO.setAccessRights staged sharedRights)
  fill := fillTemporary
  commit staged p := attempt (IO.FS.rename staged p.display)
  discard staged := do
    let _ ← attempt (IO.FS.removeFile staged)
    return ()

/-- The fields of a date and a time of day as a timestamp. -/
def Timestamp.ofDateTime (t : Std.Time.PlainDateTime) : Timestamp :=
  (ofFields? t.year.toInt t.month.val.toNat t.day.val.toNat t.hour.val.toNat t.minute.val.toNat
    t.second.val.toNat t.nanosecond.val.toNat).getD default

instance : Console IO where
  print := IO.print
  printError := IO.eprint
  now := do
    let wall := Std.Time.WallTime.ofTimestamp (← Std.Time.Timestamp.now) .zero
    return .ofDateTime (Std.Time.PlainDateTime.ofWallTime wall)
  readings := do
    let reading := Timestamp.ofDateTime (← Std.Time.PlainDateTime.now)
    return fun _ => reading

/-- The variables among lines that end with a zero byte. -/
def Environment.ofBlock (block : Bytes) : List (Bytes × Bytes) :=
  let isName (b : UInt8) : Bool := b ≠ CommandLine.equalsSign
  (block.splitOn 0).filterMap fun line =>
    match line.dropWhile isName with
    | [] => none
    | _ :: value => some (line.takeWhile isName, value)

/-- The environment that the program was started with. -/
def Environment.ofProcess : IO Environment := do
  match ← attempt (IO.FS.readBinFile "/proc/self/environ") with
  | .ok block => return { bindings := Environment.ofBlock block.toList }
  | .error _ => return {}

end SovdConfig

open SovdConfig in
/-- The program. -/
def main (args : List String) : IO UInt32 := do
  let env ← Environment.ofProcess
  let terminal ← (← IO.getStderr).isTty
  let code ← Program.run env terminal (args.map Text.encodeUtf8)
  return code.toNat.toUInt32
