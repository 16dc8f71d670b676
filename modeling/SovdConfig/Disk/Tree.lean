import SovdConfig.Disk.Fault
import SovdConfig.Number.Digits

namespace SovdConfig

/-!
# File trees

A file system as a value: directories and files below a root, and the directory from which relative
paths start.  Main definitions:

* `FileTree` — the tree;
* `FileTree.resolve` — where a path leads;
* `FileTree.read`, `write`, `appendTo`, `createDirectories` — the operations on one file;
* `FileTree.createTemporary`, `commit`, `erase` — a file is put in place in two steps: it is made
  under a name that is not used, and then takes its place or is removed;
* `FileTree.changes` — what differs between two trees.

What the changes of one entry do is stated by `FileTree.node?_put` and `FileTree.node?_erase`.

There are no links and no permissions.
-/

/-- What a name stands for. -/
inductive Node
  | file (content : Bytes)
  | directory
deriving DecidableEq, Repr

/-- The names from the root down to a file or directory. -/
abbrev Location := List Bytes

/-- A file system; the root is a directory without an entry. -/
structure FileTree where
  current : Location
  entries : List (Location × Node)
deriving DecidableEq, Repr

/-- Where a path leads: to something that exists, or to a free name in a directory. -/
inductive Place
  | taken (location : Location) (node : Node)
  | free (directory : Location) (name : Bytes)
deriving DecidableEq, Repr

namespace FileTree

/-- The longest name of a file, in bytes. -/
def maxNameBytes : Nat := 255

/-- The longest path, in bytes. -/
def maxPathBytes : Nat := 4095

/-- What is at a location. -/
def node? (t : FileTree) (location : Location) : Option Node :=
  if location = [] then some .directory else t.entries.lookup location

/-- Where names lead from a directory. -/
def walk (t : FileTree) : Location → List Bytes → Except DiskFault Place
  | location, [] => .ok (.taken location .directory)
  | location, name :: rest =>
    if name = [Path.dot] then walk t location rest
    else if name = [Path.dot, Path.dot] then walk t location.dropLast rest
    else if maxNameBytes < name.length then .error .nameTooLong
    else
      match t.node? (location ++ [name]) with
      | some .directory => walk t (location ++ [name]) rest
      | some (.file content) =>
        if rest = [] then .ok (.taken (location ++ [name]) (.file content))
        else .error .notDirectory
      | none => if rest = [] then .ok (.free location name) else .error .notFound

/-- Where a path leads. -/
def resolve (t : FileTree) (p : Path) : Except DiskFault Place :=
  if 0 ∈ p.bytes then .error .nulByte
  else if p.bytes = [] then .error .notFound
  else if maxPathBytes < p.bytes.length then .error .nameTooLong
  else
    t.walk (if p.isAbsolute then [] else t.current) (p.segments.filter fun seg => seg ≠ [])

/-- Whether the path says by a slash at its end that it names a directory. -/
def namesDirectory (p : Path) : Bool := p.bytes.getLast? == some Path.slash

/-- What a path leads to, if it exists. -/
def find? (t : FileTree) (p : Path) : Option Node :=
  match t.resolve p with
  | .ok (.taken _ .directory) => some .directory
  | .ok (.taken _ (.file content)) => if namesDirectory p then none else some (.file content)
  | _ => none

/-- Whether the path leads to something. -/
def isThere (t : FileTree) (p : Path) : Bool := (t.find? p).isSome

/-- Whether the path leads to a directory. -/
def isDirectory (t : FileTree) (p : Path) : Bool := t.find? p == some .directory

/-- Whether the path leads to a file. -/
def isFile (t : FileTree) (p : Path) : Bool :=
  match t.find? p with
  | some (.file _) => true
  | _ => false

/-- The other entries stay when those of a location are removed. -/
theorem lookup_filter_ne (entries : List (Location × Node)) {location other : Location}
    (h : other ≠ location) :
    (entries.filter fun e => e.1 ≠ location).lookup other = entries.lookup other := by
  induction entries with
  | nil => rfl
  | cons e rest ih =>
    by_cases he : e.1 = location
    · rw [List.filter_cons_of_neg (by simp [he]), ih, List.lookup_cons,
        beq_false_of_ne (by simpa [he] using h)]
    · rw [List.filter_cons_of_pos (by simp [he]), List.lookup_cons, List.lookup_cons, ih]

/-- A location whose entries are removed has none. -/
theorem lookup_filter_self (entries : List (Location × Node)) (location : Location) :
    (entries.filter fun e => e.1 ≠ location).lookup location = none := by
  induction entries with
  | nil => rfl
  | cons e rest ih =>
    by_cases he : e.1 = location
    · rw [List.filter_cons_of_neg (by simp [he]), ih]
    · rw [List.filter_cons_of_pos (by simp [he]), List.lookup_cons,
        beq_false_of_ne (fun h => he h.symm), ih]

/-- The tree with a node at a location. -/
def put (t : FileTree) (location : Location) (node : Node) : FileTree :=
  { t with entries := (location, node) :: t.entries.filter fun e => e.1 ≠ location }

/-- The new node is at its location, and nothing else has changed. -/
theorem node?_put (t : FileTree) {location : Location} (h : location ≠ []) (node : Node)
    (other : Location) :
    (t.put location node).node? other = if other = location then some node else t.node? other := by
  by_cases ho : other = location
  · simp [node?, put, ho, h]
  · by_cases hr : other = []
    · simp [node?, hr, h.symm]
    · rw [if_neg ho, node?, node?, if_neg hr, if_neg hr, put, List.lookup_cons,
        beq_false_of_ne ho, lookup_filter_ne _ ho]

/-- The content of a file. -/
def read (t : FileTree) (p : Path) : Except DiskFault Bytes := do
  match ← t.resolve p with
  | .taken _ (.file content) => if namesDirectory p then .error .notDirectory else .ok content
  | .taken _ .directory => .error .isDirectory
  | .free .. => .error .notFound

/-- The location of the file that is opened for writing, and its present content. -/
def openForWriting (t : FileTree) (p : Path) : Except DiskFault (Location × Bytes) := do
  match ← t.resolve p with
  | .taken location (.file content) =>
    if namesDirectory p then .error .notDirectory else .ok (location, content)
  | .taken _ .directory => .error .isDirectory
  | .free directory name =>
    if namesDirectory p then .error .isDirectory else .ok (directory ++ [name], [])

/-- A file with the given content in place of what it held. -/
def write (t : FileTree) (p : Path) (content : Bytes) : Except DiskFault FileTree := do
  let (location, _) ← t.openForWriting p
  return t.put location (.file content)

/-- A file with more content behind what it held. -/
def appendTo (t : FileTree) (p : Path) (more : Bytes) : Except DiskFault FileTree := do
  let (location, content) ← t.openForWriting p
  return t.put location (.file (content ++ more))

/-- A new directory in a directory that exists. -/
def createDirectory (t : FileTree) (p : Path) : Except DiskFault FileTree := do
  match ← t.resolve p with
  | .taken .. => .error .alreadyExists
  | .free directory name => return t.put (directory ++ [name]) .directory

/-- A directory and those above it that are missing; directories that exist are left alone.  A
    parent is shorter than its path, so as many steps as there are bytes suffice. -/
def createWithParents : Nat → FileTree → Path → FileTree × Except DiskFault Unit
  | 0, t, _ => (t, .ok ())
  | fuel + 1, t, p =>
    if p.isEmpty then (t, .ok ())
    else
      match t.createDirectory p with
      | .ok t' => (t', .ok ())
      | .error .notFound =>
        -- what is above is missing, so that is made first
        match p.parent? with
        | none => (t, .error (.other "failed to create whole tree"))
        | some parent =>
          match createWithParents fuel t parent with
          | (t', .error e) => (t', .error e)
          | (t', .ok ()) =>
            match t'.createDirectory p with
            | .ok t'' => (t'', .ok ())
            -- a path with dots in it may be there by now
            | .error e => (t', if t'.isDirectory p then .ok () else .error e)
      | .error e => (t, if t.isDirectory p then .ok () else .error e)

/-- A directory and those above it that are missing. -/
def createDirectories (t : FileTree) (p : Path) : FileTree × Except DiskFault Unit :=
  createWithParents (p.bytes.length + 1) t p

/-! ### Temporary files -/

/-- The tree without what is at a location. -/
def erase (t : FileTree) (location : Location) : FileTree :=
  { t with entries := t.entries.filter fun e => e.1 ≠ location }

/-- Nothing is left at the location, and nothing else has changed. -/
theorem node?_erase (t : FileTree) {location : Location} (h : location ≠ [])
    (other : Location) :
    (t.erase location).node? other = if other = location then none else t.node? other := by
  by_cases ho : other = location
  · rw [if_pos ho, node?, ho, if_neg h, erase, lookup_filter_self]
  · rw [if_neg ho, node?, node?, erase, lookup_filter_ne _ ho]

/-- Whether something in the tree has the name. -/
def usesName (t : FileTree) (name : Bytes) : Bool :=
  t.entries.any fun e => e.1.getLast? == some name

/-- The temporary name of a number. -/
def temporaryName (n : Nat) : Bytes :=
  Text.encodeUtf8 (".tmp" ++ String.ofList (padLeft 6 (decimalText n).toList))

/-- The first temporary name from a number on that is not used.  Of one name more than the tree has
    entries, one is free. -/
def freshNameFrom (t : FileTree) : Nat → Nat → Bytes
  | 0, n => temporaryName n
  | fuel + 1, n =>
    if t.usesName (temporaryName n) then freshNameFrom t fuel (n + 1) else temporaryName n

/-- The path from the root to a location. -/
def pathOf (location : Location) : Path := ⟨location.flatMap fun name => Path.slash :: name⟩

/-- The path of the next temporary file in a directory. -/
def temporaryPath (t : FileTree) (directory : Path) : Path :=
  ((pathOf t.current).join directory).join ⟨t.freshNameFrom t.entries.length 0⟩

/-- An empty temporary file in a directory, and where it is. -/
def createTemporary (t : FileTree) (directory : Path) :
    Except DiskFault (Location × FileTree) := do
  match ← t.resolve (t.temporaryPath directory) with
  | .taken .. => .error .alreadyExists
  | .free directory name => return (directory ++ [name], t.put (directory ++ [name]) (.file []))

/-- A file with the given content at a path, whether or not there was a file. -/
def replace (t : FileTree) (p : Path) (content : Bytes) : Except DiskFault FileTree := do
  match ← t.resolve p with
  | .taken location (.file _) =>
    if namesDirectory p then .error .notDirectory else .ok (t.put location (.file content))
  | .taken _ .directory => .error .isDirectory
  | .free directory name =>
    if namesDirectory p then .error .notDirectory
    else .ok (t.put (directory ++ [name]) (.file content))

/-- A temporary file takes the place of a path. -/
def commit (t : FileTree) (staged : Location) (p : Path) : Except DiskFault FileTree :=
  match t.node? staged with
  -- the temporary file goes first, so the path may lead to its very entry
  | some (.file content) => (t.erase staged).replace p content
  | _ => .error .notFound

/-! ### Comparison -/

/-- How one location differs between two trees. -/
inductive Change
  | written (content : Bytes)
  | made
  | removed
deriving DecidableEq, Repr

/-- How a location differs between two trees, if it does. -/
def changeAt? (before after : FileTree) (location : Location) : Option Change :=
  if before.node? location = after.node? location then none
  else
    match after.node? location with
    | some (.file content) => some (.written content)
    | some .directory => some .made
    | none => some .removed

/-- What differs between two trees: a change for each location that holds something else. -/
def changes (before after : FileTree) : List (Location × Change) :=
  let locations := (before.entries ++ after.entries).map Prod.fst
  locations.eraseDups.filterMap fun l => (changeAt? before after l).map (l, ·)

end FileTree

end SovdConfig
