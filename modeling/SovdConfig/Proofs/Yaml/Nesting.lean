import SovdConfig.Proofs.Yaml.Block
import SovdConfig.Proofs.Yaml.Outline

namespace SovdConfig.Yaml

/-!
# Nested block collections, line by line

Main definitions:

* `Place` — the collections that are open, and the text that comes next;
* `Place.Leads`, `Place.Finishes` — the tokens from one place to another, and to the end;
* `IsIndented` — how far to the right the next token stands at most;
* `memberText` — the line of a member whose value is a text.

Main statements: `Place.leads_members`, `Place.leads_table`, `Place.leads_header` and
`Place.leads_hyphen`, one for each kind of line, and `Place.finishes`.
-/

/-! ### Gaps -/

/-- One gap follows the other. -/
theorem Blanks.trans {b b' : Bool} {cs cs' cs'' : List Char} {n n' n'' : Nat}
    (h : Blanks b cs n cs' n') (h' : Blanks b' cs' n' cs'' n'') :
    Blanks (b || b') cs n cs'' n'' := by
  induction h with
  | here => rwa [Bool.false_or]
  | space _ ih => exact .space (ih h')
  | newline _ ih => exact .newline (ih h')
  | comment hnote _ ih => exact .comment hnote (ih h')

/-- Whether the next token of a line stands at most so far to the right. -/
def IsIndented (text : List Char) (n : Nat) : Prop :=
  ∃ b cs m, Blanks b text 0 cs m ∧ IsSolid cs ∧ m ≤ n

namespace IsIndented

variable {text : List Char} {n m : Nat}

/-- A bound further to the right is a bound, too. -/
theorem mono (h : IsIndented text n) (hle : n ≤ m) : IsIndented text m := by
  obtain ⟨b, cs, k, hblanks, hsolid, hk⟩ := h
  exact ⟨b, cs, k, hblanks, hsolid, Nat.le_trans hk hle⟩

/-- There may be a gap before the line. -/
theorem of_blanks {b : Bool} {text' : List Char} (h : Blanks b text 0 text' 0)
    (h' : IsIndented text' n) : IsIndented text n := by
  obtain ⟨b', cs, k, hblanks, hsolid, hk⟩ := h'
  exact ⟨b || b', cs, k, h.trans hblanks, hsolid, hk⟩

/-- A line starts with blanks. -/
theorem spaces {cs : List Char} (hsolid : IsSolid cs) (n : Nat) :
    IsIndented (List.replicate n ' ' ++ cs) n :=
  ⟨false, cs, n, .spaces n (by rw [Nat.zero_add]; exact .here), hsolid, Nat.le_refl n⟩

end IsIndented

/-! ### Members -/

/-- The line of a member whose value is a text, after so many blanks. -/
def memberText (j : Nat) (m : String × String) : List Char :=
  List.replicate j ' ' ++ (m.1.toList ++ ':' :: ' ' :: m.2.toList ++ ['\n'])

/-- Whether the lexer reads the parts of a member as they are. -/
def IsMember (m : String × String) : Prop := IsKey m.1.toList ∧ IsPlain m.2.toList

/-- The next member is no further to the right than it is indented. -/
theorem isIndented_members {more : List Char} {n : Nat} {members : List (String × String)}
    (hm : ∀ m ∈ members, IsMember m) (hmore : IsIndented more n) :
    IsIndented (members.flatMap (memberText n) ++ more) n := by
  cases members with
  | nil => exact hmore
  | cons m members =>
    have hstarts := (hm m (by simp)).1.startsScalar
      (':' :: ' ' :: m.2.toList ++ '\n' :: (members.flatMap (memberText n) ++ more))
    simpa [memberText] using IsIndented.spaces hstarts.isSolid n

/-! ### Places -/

/-- The collections that are open, given by their indentation, and the text that comes next with its
    column. -/
structure Place where
  indent : Int
  outer : List Int
  text : List Char
  column : Nat := 0

namespace Place

open Scan (opening around)

/-- Whether the lexer is somewhere in the gap before the next token of a place. -/
def IsAt (p : Place) (s : Scan) : Prop :=
  s.indent = p.indent ∧ s.outer = p.outer ∧
    ∀ b cs n, Blanks b p.text p.column cs n → IsSolid cs → s.Before cs n

/-- Whether the tokens of these kinds are read from one place to another. -/
def Leads (p : Place) (kinds : List TokenKind) (p' : Place) : Prop :=
  ∀ s, p.IsAt s → ∃ s', s.Yields kinds s' ∧ p'.IsAt s'

/-- Whether the tokens of these kinds are read from a place to the end of the text. -/
def Finishes (p : Place) (kinds : List TokenKind) : Prop := ∀ s, p.IsAt s → s.Ends kinds

variable {p p' p'' : Place} {kinds kinds' : List TokenKind} {indent : Int} {outer : List Int}
  {text more : List Char} {n column : Nat}

/-- Tokens are read one after the other. -/
theorem Leads.trans (h : p.Leads kinds p') (h' : p'.Leads kinds' p'') :
    p.Leads (kinds ++ kinds') p'' := by
  intro s hs
  obtain ⟨s', hyields, hs'⟩ := h s hs
  obtain ⟨s'', hyields', hs''⟩ := h' s' hs'
  exact ⟨s'', hyields.trans hyields', hs''⟩

/-- Tokens are read one after the other up to the end. -/
theorem Leads.finishes (h : p.Leads kinds p') (h' : p'.Finishes kinds') :
    p.Finishes (kinds ++ kinds') := by
  intro s hs
  obtain ⟨s', hyields, hs'⟩ := h s hs
  exact hyields.ends (h' s' hs')

/-- No token is read from a gap. -/
theorem leads_of_blanks {b : Bool} {text' : List Char} {column' : Nat}
    (h : Blanks b text column text' column') (indent : Int) (outer : List Int) :
    Leads ⟨indent, outer, text, column⟩ [] ⟨indent, outer, text', column'⟩ := by
  rintro s ⟨hindent, houter, hbefore⟩
  exact ⟨s, .refl s, hindent, houter, fun b' cs n hblanks hsolid =>
    hbefore _ cs n (h.trans hblanks) hsolid⟩

/-- A document starts with no collection open. -/
theorem map_kind_tokens (h : Finishes ⟨-1, [], text, 0⟩ kinds) :
    ((Lexer.ofText text).tokens.drop 1).map Token.kind = kinds :=
  Scan.map_kind_tokens (h { rest := text } ⟨rfl, rfl, fun b _ _ hblanks _ =>
    ⟨b, hblanks, Bool.true_or b⟩⟩)

/-! ### Reading members -/

/-- A key is read, and the mapping of that indentation is open then. -/
theorem yields_key {k : String} {rest : List Char} {s : Scan} (hk : IsKey k.toList)
    (hrest : endsWord rest = true) (hindent : indent ≤ n) {j : Nat} (hcolumn : column + j = n)
    (hs : IsAt ⟨indent, outer, List.replicate j ' ' ++ (k.toList ++ ':' :: rest), column⟩ s) :
    s.Yields (opening indent n .blockMappingStart ++ [.key, .scalar k .plain, .value])
      { rest, column := n + k.toList.length + 1, indent := n, outer := around indent outer n,
        keyAllowed := false } := by
  obtain ⟨rfl, rfl, hbefore⟩ := hs
  have hblanks : Blanks false (List.replicate j ' ' ++ (k.toList ++ ':' :: rest)) column
      (k.toList ++ ':' :: rest) n := .spaces j (by rw [hcolumn]; exact .here)
  have hyields := Scan.yields_key hk hrest
    (hbefore _ _ _ hblanks (hk.startsScalar _).isSolid) hindent
  have hopen : (if s.indent < n then (n : Int) else s.indent) = n := by
    split
    · rfl
    · omega
  rw [String.ofList_toList] at hyields
  simpa only [Scan.opened, hopen] using hyields

/-- A member whose value is a text is read.  A mapping may start with it. -/
theorem leads_member {m : String × String} (hm : IsMember m) (hindent : indent ≤ n) {j : Nat}
    (hcolumn : column + j = n) (hmore : IsIndented more n) (outer : List Int) :
    Leads ⟨indent, outer, memberText j m ++ more, column⟩
      (opening indent n .blockMappingStart ++
        [.key, .scalar m.1 .plain, .value, .scalar m.2 .plain])
      ⟨n, around indent outer n, more, 0⟩ := by
  obtain ⟨hk, hv⟩ := hm
  intro s hs
  have htext : memberText j m ++ more =
      List.replicate j ' ' ++ (m.1.toList ++ ':' :: (' ' :: m.2.toList ++ '\n' :: more)) := by
    simp [memberText]
  rw [htext] at hs
  have hkey := yields_key hk (by rfl) hindent hcolumn hs
  obtain ⟨b, cs, column', hblanks, hsolid, hcolumn'⟩ := hmore
  let afterKey : Scan :=
    { rest := ' ' :: m.2.toList ++ '\n' :: more, column := n + m.1.toList.length + 1, indent := n,
      outer := around indent outer n, keyAllowed := false }
  have hinside : (n : Int) ≤ (n + m.1.toList.length + 1 : Nat) := by omega
  have hvalue := Scan.yields_value (s := afterKey) hv rfl rfl hblanks hsolid
    (Int.ofNat_le.2 hcolumn') hinside
  rw [String.ofList_toList] at hvalue
  refine ⟨_, by simpa using hkey.trans hvalue, rfl, rfl, fun b' cs' n' hblanks' hsolid' => ?_⟩
  obtain ⟨⟨b'', hblanks''⟩, -⟩ := hblanks'.pastSpaces hsolid'
  exact ⟨b'', hblanks'', Bool.true_or b''⟩

/-- Members whose values are texts are read, the mapping being open. -/
theorem leads_members {members : List (String × String)} (hm : ∀ m ∈ members, IsMember m)
    (hmore : IsIndented more n) (outer : List Int) :
    Leads ⟨n, outer, members.flatMap (memberText n) ++ more, 0⟩
      (Outline.kindsMembers (members.map fun m => (m.1, .text m.2))) ⟨n, outer, more, 0⟩ := by
  induction members with
  | nil => exact leads_of_blanks .here n outer
  | cons m members ih =>
    have hrest : ∀ m ∈ members, IsMember m := fun m h => hm m (by simp [h])
    have hfirst := leads_member (hm m (by simp)) (Int.le_refl n) (Nat.zero_add n)
      (isIndented_members hrest hmore) outer
    rw [opening, around, if_neg (by omega), if_neg (by omega), List.nil_append] at hfirst
    rw [List.flatMap_cons, List.append_assoc, List.map_cons, Outline.kindsMembers]
    exact hfirst.trans (ih hrest)

/-- A table of texts is read where no mapping of that indentation is open. -/
theorem leads_table {members : List (String × String)} (hne : members ≠ [])
    (hm : ∀ m ∈ members, IsMember m) (hindent : indent < n) (hmore : IsIndented more n)
    (outer : List Int) :
    Leads ⟨indent, outer, members.flatMap (memberText n) ++ more, 0⟩
      (.blockMappingStart :: Outline.kindsMembers (members.map fun m => (m.1, .text m.2)))
      ⟨n, indent :: outer, more, 0⟩ := by
  obtain ⟨m, members, rfl⟩ := List.exists_cons_of_ne_nil hne
  have hrest : ∀ m ∈ members, IsMember m := fun m h => hm m (by simp [h])
  have hfirst := leads_member (hm m (by simp)) (Int.le_of_lt hindent) (Nat.zero_add n)
    (isIndented_members hrest hmore) outer
  rw [opening, around, if_pos hindent, if_pos hindent] at hfirst
  rw [List.flatMap_cons, List.append_assoc, List.map_cons, Outline.kindsMembers]
  exact hfirst.trans (leads_members hrest hmore (indent :: outer))

/-- A key whose value is a collection on the next lines is read.  A mapping may start with it. -/
theorem leads_header {k : String} (hk : IsKey k.toList) (hindent : indent ≤ n) {j : Nat}
    (hcolumn : column + j = n) (more : List Char) (outer : List Int) :
    Leads ⟨indent, outer, List.replicate j ' ' ++ (k.toList ++ ':' :: '\n' :: more), column⟩
      (opening indent n .blockMappingStart ++ [.key, .scalar k .plain, .value])
      ⟨n, around indent outer n, more, 0⟩ := by
  intro s hs
  exact ⟨_, yields_key hk rfl hindent hcolumn hs, rfl, rfl, fun b _ _ hblanks _ =>
    ⟨true, .newline hblanks, rfl⟩⟩

/-! ### Reading items -/

/-- What remains open at a column is indented no more. -/
theorem le_of_closes {c indent' : Int} {outer' : List Int} {k : Nat}
    (h : Scan.Closes c indent outer k indent' outer') : indent' ≤ c := by
  induction h with
  | stay hle => exact hle
  | close _ _ ih => exact ih

/-- A hyphen is read.  Collections may end before it, and a sequence may start with it. -/
theorem leads_hyphen {indent' : Int} {outer' : List Int} {k : Nat}
    (hcloses : Scan.Closes n indent outer k indent' outer') (hk : k ≤ 2) (rest : List Char) :
    Leads ⟨indent, outer, List.replicate n ' ' ++ '-' :: ' ' :: rest, 0⟩
      (List.replicate k .blockEnd ++ (opening indent' n .blockSequenceStart ++ [.blockEntry]))
      ⟨n, around indent' outer' n, ' ' :: rest, n + 1⟩ := by
  rintro s ⟨rfl, rfl, hbefore⟩
  have hblanks :
      Blanks false (List.replicate n ' ' ++ '-' :: ' ' :: rest) 0 ('-' :: ' ' :: rest) n :=
    .spaces n (by rw [Nat.zero_add]; exact .here)
  have hyields := Scan.yields_hyphen (hbefore _ _ _ hblanks (isSolid_hyphen _)) hcloses hk
  have hle := le_of_closes hcloses
  -- no block that stays open is deeper than the hyphen
  have hopen : (if indent' < n then (n : Int) else indent') = n := by
    split
    · rfl
    · omega
  simp only [Scan.opened, hopen] at hyields
  exact ⟨_, hyields, rfl, rfl, fun b cs m hblanks _ => ⟨b, hblanks, Bool.true_or b⟩⟩

/-- At the end of the text, all collections end. -/
theorem finishes {b : Bool} (h : Blanks b text 0 [] 0) {k : Nat}
    (hcloses : Scan.Closes (-1) indent outer k (-1) []) (hk : k ≤ 6) :
    Finishes ⟨indent, outer, text, 0⟩ (List.replicate k .blockEnd ++ [.streamEnd]) := by
  rintro s ⟨rfl, rfl, hbefore⟩
  obtain ⟨b', hblanks, -⟩ := hbefore b [] 0 h (by rintro d ⟨⟩)
  exact Scan.ends_of_blanks hblanks hcloses hk

end Place

end SovdConfig.Yaml
