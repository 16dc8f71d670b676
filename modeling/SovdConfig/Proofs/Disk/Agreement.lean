import Mathlib.Data.List.Forall2
import SovdConfig.Proofs.Disk.Growth

namespace SovdConfig

/-!
# Trees that agree

Two file trees that are the same but for what is in some files, which are veiled.  Main definitions:

* `Alike` — attempts that end alike: with the same fault, or with results that are related;
* `FileTree.AgreeBut` — trees that agree but for the contents of veiled files.

Main statements:

* `FileTree.AgreeBut.resolve`, `read` — paths lead to the same places, and what is not veiled is
  read;
* `FileTree.AgreeBut.write`, `createDirectories`, `createTemporary`, `commit` — what changes one of
  the trees changes the other one alike, and they still agree.

A veiled file may be written over, but a temporary file is never veiled: it comes where nothing was.
-/

/-- Two attempts fail with the same fault, or succeed with results that are related. -/
inductive Alike {ε α β : Type} (R : α → β → Prop) : Except ε α → Except ε β → Prop
  | error (e : ε) : Alike R (.error e) (.error e)
  | ok {a : α} {b : β} : R a b → Alike R (.ok a) (.ok b)

/-- Attempts in a row end alike if each of them does. -/
theorem Alike.bind {ε α β α' β' : Type} {R : α → β → Prop} {R' : α' → β' → Prop}
    {x : Except ε α} {y : Except ε β} {f : α → Except ε α'} {g : β → Except ε β'}
    (h : Alike R x y) (hfg : ∀ a b, x = .ok a → R a b → Alike R' (f a) (g b)) :
    Alike R' (x >>= f) (y >>= g) := by
  cases h with
  | error e => exact .error e
  | ok hab => exact hfg _ _ rfl hab

/-- So does what is done when a condition holds. -/
theorem Alike.ite {ε α β : Type} {R : α → β → Prop} {c : Prop} [Decidable c]
    {x x' : Except ε α} {y y' : Except ε β} (h : Alike R x y) (h' : Alike R x' y') :
    Alike R (if c then x else x') (if c then y else y') := by
  split
  · exact h
  · exact h'

/-- Attempts that end alike, with the same results, are the same. -/
theorem Alike.eq {ε α : Type} {x y : Except ε α} (h : Alike Eq x y) : y = x := by
  cases h with
  | error e => rfl
  | ok hab => rw [hab]

/-- Two nodes are the same, or files whose contents may differ. -/
inductive Node.Agree (veiled : Prop) : Node → Node → Prop
  | same (node : Node) : Agree veiled node node
  | file (content content' : Bytes) : veiled → Agree veiled (.file content) (.file content')

/-- Two places are the same, up to the content of a file. -/
inductive Place.Agree (veiled : Location → Prop) : Place → Place → Prop
  | taken (l : Location) {node node' : Node} :
    Node.Agree (veiled l) node node' → Agree veiled (.taken l node) (.taken l node')
  | free (directory : Location) (name : Bytes) :
    Agree veiled (.free directory name) (.free directory name)

/-- Nodes that agree without a veil are the same. -/
theorem Node.Agree.eq {veiled : Prop} {node node' : Node} (h : Node.Agree veiled node node')
    (hnone : ¬ veiled) : node = node' := by
  cases h with
  | same => rfl
  | file content content' hveiled => exact absurd hveiled hnone

namespace FileTree

/-- Lists of entries for the same locations, with nodes that agree. -/
abbrev EntriesAgree (veiled : Location → Prop) (entries entries' : List (Location × Node)) : Prop :=
  List.Forall₂ (fun e e' => e.1 = e'.1 ∧ Node.Agree (veiled e.1) e.2 e'.2) entries entries'

/-- Two trees agree but for the contents of veiled files, which are there. -/
structure AgreeBut (veiled : Location → Prop) (t t' : FileTree) : Prop where
  current : t'.current = t.current
  entries : EntriesAgree veiled t.entries t'.entries
  there : ∀ l, veiled l → t.node? l ≠ none

namespace EntriesAgree

variable {veiled : Location → Prop} {entries entries' : List (Location × Node)}

/-- Both keep what is not at a location. -/
theorem filter (h : EntriesAgree veiled entries entries') (l : Location) :
    EntriesAgree veiled (entries.filter fun e => e.1 ≠ l) (entries'.filter fun e => e.1 ≠ l) := by
  refine List.rel_filter (fun e e' he => ?_) h
  simp only [he.1]

/-- Both have a node at a location, or neither has. -/
theorem lookup (h : EntriesAgree veiled entries entries') (l : Location) :
    Option.Rel (Node.Agree (veiled l)) (entries.lookup l) (entries'.lookup l) := by
  induction h with
  | nil => exact .none
  | @cons e e' _ _ he _ ih =>
    obtain ⟨l', node⟩ := e
    obtain ⟨l'', node'⟩ := e'
    obtain ⟨rfl, hnode⟩ : l' = l'' ∧ Node.Agree (veiled l') node node' := he
    rw [List.lookup_cons, List.lookup_cons]
    by_cases hl : l = l'
    · subst hl
      rw [beq_self_eq_true]
      exact .some hnode
    · rw [beq_false_of_ne hl]
      exact ih

/-- Both use a name, or neither does. -/
theorem any_name (h : EntriesAgree veiled entries entries') (name : Bytes) :
    (entries'.any fun e => e.1.getLast? == some name) =
      entries.any fun e => e.1.getLast? == some name := by
  induction h with
  | nil => rfl
  | cons he _ ih => rw [List.any_cons, List.any_cons, ih, he.1]

end EntriesAgree

namespace AgreeBut

variable {veiled : Location → Prop} {t t' : FileTree}

/-- A tree agrees with itself. -/
theorem refl (h : ∀ l, veiled l → t.node? l ≠ none) : AgreeBut veiled t t where
  current := rfl
  entries := List.forall₂_same.2 fun e _ => ⟨rfl, .same e.2⟩
  there := h

/-- Trees that agree without a veil are the same. -/
theorem eq (h : AgreeBut (fun _ => False) t t') : t = t' := by
  obtain ⟨current, entries⟩ := t
  obtain ⟨current', entries'⟩ := t'
  obtain rfl : current' = current := h.current
  have hentries : List.Forall₂ Eq entries entries' :=
    h.entries.imp fun e e' he => Prod.ext he.1 (he.2.eq id)
  rw [List.forall₂_eq_eq_eq] at hentries
  rw [hentries]

/-! ### What is there -/

/-- What two trees have at a location agrees. -/
theorem node? (h : AgreeBut veiled t t') (l : Location) :
    Option.Rel (Node.Agree (veiled l)) (t.node? l) (t'.node? l) := by
  unfold FileTree.node?
  split
  · exact .some (.same _)
  · exact h.entries.lookup l

/-- They have the same where there is no veil. -/
theorem node?_eq (h : AgreeBut veiled t t') {l : Location} (hl : ¬ veiled l) :
    t'.node? l = t.node? l := by
  have hnode := h.node? l
  generalize t.node? l = node, t'.node? l = node' at hnode ⊢
  cases hnode with
  | some hnode => rw [hnode.eq hl]
  | none => rfl

/-- The next temporary file has the same path. -/
theorem temporaryPath (h : AgreeBut veiled t t') (p : Path) :
    t'.temporaryPath p = t.temporaryPath p := by
  have hfresh : ∀ fuel n, t'.freshNameFrom fuel n = t.freshNameFrom fuel n := by
    intro fuel
    induction fuel with
    | zero => exact fun _ => rfl
    | succ fuel ih =>
      intro n
      rw [freshNameFrom, freshNameFrom, usesName, usesName, h.entries.any_name, ih]
  rw [FileTree.temporaryPath, FileTree.temporaryPath, h.current, hfresh, h.entries.length_eq]

/-! ### Where paths lead -/

/-- Walks end alike. -/
theorem walk (h : AgreeBut veiled t t') (location : Location) (names : List Bytes) :
    Alike (Place.Agree veiled) (t.walk location names) (t'.walk location names) := by
  induction names generalizing location with
  | nil => exact .ok (.taken location (.same _))
  | cons name rest ih =>
    rw [FileTree.walk, FileTree.walk]
    refine .ite (ih location) (.ite (ih location.dropLast) (.ite (.error _) ?_))
    -- what has the name agrees, so the walk goes on in both trees or in neither
    have hnode := h.node? (location ++ [name])
    generalize t.node? (location ++ [name]) = node, t'.node? (location ++ [name]) = node' at hnode ⊢
    rcases hnode with ⟨⟨_ | -⟩ | ⟨content, content', hveiled⟩⟩ | -
    · exact .ite (.ok (.taken _ (.same _))) (.error _)
    · exact ih _
    · exact .ite (.ok (.taken _ (.file content content' hveiled))) (.error _)
    · exact .ite (.ok (.free location name)) (.error _)

/-- Paths lead to the same places. -/
theorem resolve (h : AgreeBut veiled t t') (p : Path) :
    Alike (Place.Agree veiled) (t.resolve p) (t'.resolve p) := by
  unfold FileTree.resolve
  rw [h.current]
  exact .ite (.error _) (.ite (.error _) (.ite (.error _) (h.walk _ _)))

/-- What paths lead to agrees. -/
theorem find? (h : AgreeBut veiled t t') (p : Path) :
    Option.Rel (Node.Agree True) (t.find? p) (t'.find? p) := by
  have hresolve := h.resolve p
  unfold FileTree.find?
  generalize t.resolve p = r, t'.resolve p = r' at hresolve ⊢
  rcases hresolve with _ | ⟨⟨l, ⟨content | -⟩ | ⟨content, content', -⟩⟩ | ⟨directory, name⟩⟩
  · exact .none
  · dsimp only
    split
    · exact .none
    · exact .some (.same _)
  · exact .some (.same _)
  · dsimp only
    split
    · exact .none
    · exact .some (.file content content' trivial)
  · exact .none

/-- The same paths lead to directories. -/
theorem isDirectory (h : AgreeBut veiled t t') (p : Path) :
    t'.isDirectory p = t.isDirectory p := by
  have hfind := h.find? p
  unfold FileTree.isDirectory
  generalize t.find? p = node, t'.find? p = node' at hfind ⊢
  rcases hfind with ⟨_ | _⟩ | - <;> rfl

/-- The same paths lead to something. -/
theorem isThere (h : AgreeBut veiled t t') (p : Path) : t'.isThere p = t.isThere p := by
  have hfind := h.find? p
  unfold FileTree.isThere
  generalize t.find? p = node, t'.find? p = node' at hfind ⊢
  rcases hfind with - | - <;> rfl

/-- The same is read, unless it is veiled. -/
theorem read (h : AgreeBut veiled t t') {p : Path}
    (hp : ∀ l, t.entryOf? p = some l → ¬ veiled l) : t'.read p = t.read p := by
  refine Alike.eq ((h.resolve p).bind fun place place' hresolve hplace => ?_)
  rcases hplace with ⟨l, ⟨content | -⟩ | ⟨content, content', hveiled⟩⟩ | ⟨directory, name⟩
  · exact .ite (.error _) (.ok rfl)
  · exact .error _
  · refine absurd hveiled (hp l ?_)
    rw [entryOf?, hresolve]
    rfl
  · exact .error _

/-! ### Changes -/

/-- The same node is put in both. -/
theorem put (h : AgreeBut veiled t t') (l : Location) (node : Node) :
    AgreeBut veiled (t.put l node) (t'.put l node) where
  current := h.current
  entries := .cons ⟨rfl, .same node⟩ (h.entries.filter l)
  there other hother := by
    have hthere := h.there other hother
    unfold FileTree.node? FileTree.put at *
    split
    · simp
    · next hroot =>
      rw [if_neg hroot] at hthere
      by_cases hl : other = l
      · simp [hl]
      · rwa [List.lookup_cons, beq_false_of_ne hl, lookup_filter_ne _ hl]

/-- A location is erased in both, unless it is veiled. -/
theorem erase (h : AgreeBut veiled t t') {l : Location} (hl : ¬ veiled l) :
    AgreeBut veiled (t.erase l) (t'.erase l) where
  current := h.current
  entries := h.entries.filter l
  there other hother := by
    have hthere := h.there other hother
    have hne : other ≠ l := by
      rintro rfl
      exact hl hother
    unfold FileTree.node? FileTree.erase at *
    rwa [lookup_filter_ne _ hne]

/-- A file is opened for writing at the same location. -/
theorem openForWriting (h : AgreeBut veiled t t') (p : Path) :
    Alike (fun a a' => a.1 = a'.1) (t.openForWriting p) (t'.openForWriting p) := by
  refine (h.resolve p).bind fun place place' _ hplace => ?_
  rcases hplace with ⟨l, ⟨content | -⟩ | ⟨content, content', -⟩⟩ | ⟨directory, name⟩
  · exact .ite (.error _) (.ok rfl)
  · exact .error _
  · exact .ite (.error _) (.ok rfl)
  · exact .ite (.error _) (.ok rfl)

/-- A file is written in both. -/
theorem write (h : AgreeBut veiled t t') (p : Path) (content : Bytes) :
    Alike (AgreeBut veiled) (t.write p content) (t'.write p content) := by
  refine (h.openForWriting p).bind fun a a' _ ha => ?_
  obtain ⟨l, old⟩ := a
  obtain ⟨l', old'⟩ := a'
  obtain rfl : l = l' := ha
  exact .ok (h.put l _)

/-- A directory is made in both. -/
theorem createDirectory (h : AgreeBut veiled t t') (p : Path) :
    Alike (AgreeBut veiled) (t.createDirectory p) (t'.createDirectory p) := by
  refine (h.resolve p).bind fun place place' _ hplace => ?_
  rcases hplace with ⟨l, -⟩ | ⟨directory, name⟩
  · exact .error _
  · exact .ok (h.put _ .directory)

/-- Directories are made in both. -/
theorem createWithParents (h : AgreeBut veiled t t') (fuel : Nat) (p : Path) :
    AgreeBut veiled (createWithParents fuel t p).1 (createWithParents fuel t' p).1 ∧
      (FileTree.createWithParents fuel t' p).2 = (FileTree.createWithParents fuel t p).2 := by
  induction fuel generalizing t t' p with
  | zero => exact ⟨h, rfl⟩
  | succ fuel ih =>
    rw [FileTree.createWithParents, FileTree.createWithParents, h.isDirectory]
    split
    · exact ⟨h, rfl⟩
    have hmade := h.createDirectory p
    generalize t.createDirectory p = r, t'.createDirectory p = r' at hmade ⊢
    rcases hmade with e | hagree
    · cases e with
      | notFound =>
        rcases p.parent? with - | parent
        · exact ⟨h, rfl⟩
        -- the parents come first, and then the directory itself
        obtain ⟨habove, hend⟩ := ih h parent
        dsimp only
        generalize FileTree.createWithParents fuel t parent = made,
          FileTree.createWithParents fuel t' parent = made' at habove hend ⊢
        obtain ⟨t₁, e | ⟨⟩⟩ := made
        · obtain ⟨t₁', r₁⟩ := made'
          obtain rfl : r₁ = .error e := hend
          exact ⟨habove, rfl⟩
        · obtain ⟨t₁', r₁⟩ := made'
          obtain rfl : r₁ = .ok () := hend
          have hlast := habove.createDirectory p
          dsimp only
          rw [habove.isDirectory]
          generalize t₁.createDirectory p = r₁, t₁'.createDirectory p = r₁' at hlast ⊢
          rcases hlast with e | hagree
          · exact ⟨habove, rfl⟩
          · exact ⟨hagree, rfl⟩
      | _ => exact ⟨h, rfl⟩
    · exact ⟨hagree, rfl⟩

/-- A temporary file is made in both, at a location that is not veiled. -/
theorem createTemporary (h : AgreeBut veiled t t') (p : Path) :
    Alike (fun a a' => a.1 = a'.1 ∧ ¬ veiled a.1 ∧ AgreeBut veiled a.2 a'.2)
      (t.createTemporary p) (t'.createTemporary p) := by
  unfold FileTree.createTemporary
  rw [h.temporaryPath]
  refine (h.resolve _).bind fun place place' hresolve hplace => ?_
  rcases hplace with ⟨l, -⟩ | ⟨directory, name⟩
  · exact .error _
  · -- nothing is there, but whatever is veiled is
    have hfree : t.node? (directory ++ [name]) = none := (resolve_ok hresolve (by simp)).1
    exact .ok ⟨rfl, fun hveiled => h.there _ hveiled hfree, h.put _ _⟩

/-- A file takes the place of a path in both. -/
theorem replace (h : AgreeBut veiled t t') (p : Path) (content : Bytes) :
    Alike (AgreeBut veiled) (t.replace p content) (t'.replace p content) := by
  refine (h.resolve p).bind fun place place' _ hplace => ?_
  rcases hplace with ⟨l, ⟨old | -⟩ | ⟨old, old', -⟩⟩ | ⟨directory, name⟩
  · exact .ite (.error _) (.ok (h.put _ _))
  · exact .error _
  · exact .ite (.error _) (.ok (h.put _ _))
  · exact .ite (.error _) (.ok (h.put _ _))

/-- A temporary file takes its place in both. -/
theorem commit (h : AgreeBut veiled t t') {staged : Location} (hstaged : ¬ veiled staged)
    (p : Path) : Alike (AgreeBut veiled) (t.commit staged p) (t'.commit staged p) := by
  rw [FileTree.commit, FileTree.commit, h.node?_eq hstaged]
  rcases t.node? staged with - | ⟨content | -⟩
  · exact .error _
  · exact (h.erase hstaged).replace p content
  · exact .error _

end AgreeBut

end FileTree

end SovdConfig
