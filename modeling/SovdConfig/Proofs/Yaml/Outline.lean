import SovdConfig.Yaml.Node.Reader

namespace SovdConfig.Yaml

/-!
# Outlines of documents

Main definitions:

* `Outline` — texts, lists and tables, without the places where they stand;
* `Outline.kinds` — the tokens of an outline in block style;
* `Outline.Shows` — the nodes that an outline is one of.

Main statements: `Composer.exists_nodeFrom`, the tokens of an outline are read as such a node;
`Document.exists_ofTokens`, so are those of a document.
-/

/-- Texts, lists and tables, without the places where they stand. -/
inductive Outline
  | text (content : String)
  | list (items : List Outline)
  | table (members : List (String × Outline))

namespace Outline

mutual

/-- The tokens of an outline in block style. -/
def kinds : Outline → List TokenKind
  | text content => [.scalar content .plain]
  | list items => .blockSequenceStart :: kindsAll items ++ [.blockEnd]
  | table members => .blockMappingStart :: kindsMembers members ++ [.blockEnd]

/-- The tokens of items, each after its hyphen. -/
def kindsAll : List Outline → List TokenKind
  | [] => []
  | o :: rest => .blockEntry :: o.kinds ++ kindsAll rest

/-- The tokens of members, each after its key. -/
def kindsMembers : List (String × Outline) → List TokenKind
  | [] => []
  | (k, o) :: rest => .key :: .scalar k .plain :: .value :: o.kinds ++ kindsMembers rest

end

/-- The tokens of members that follow others. -/
theorem kindsMembers_append (members more : List (String × Outline)) :
    kindsMembers (members ++ more) = kindsMembers members ++ kindsMembers more := by
  induction members with
  | nil => rfl
  | cons m members ih => simp [kindsMembers, ih]

mutual

/-- Whether a node is one of the outline. -/
def Shows : Outline → Node → Prop
  | text content, n => ∃ mark, n = .scalar { mark } content .plain
  | list items, n => ∃ mark nodes, n = .sequence { mark } nodes ∧ ShowsAll items nodes
  | table members, n => ∃ mark nodes, n = .mapping { mark } nodes ∧ ShowsMembers members nodes

/-- Whether nodes are those of the outlines, one by one. -/
def ShowsAll : List Outline → List Node → Prop
  | [], nodes => nodes = []
  | o :: rest, nodes => ∃ n more, nodes = n :: more ∧ o.Shows n ∧ ShowsAll rest more

/-- Whether nodes are those of the members, one by one. -/
def ShowsMembers : List (String × Outline) → List (Node × Node) → Prop
  | [], nodes => nodes = []
  | (k, o) :: rest, nodes => ∃ mark n more, nodes = (.scalar { mark } k .plain, n) :: more ∧
      o.Shows n ∧ ShowsMembers rest more

end

/-- The first token of an outline is a text or the start of a collection. -/
theorem exists_kinds_cons (o : Outline) : ∃ kind tail, o.kinds = kind :: tail ∧
    ((∃ content, kind = .scalar content .plain) ∨ kind = .blockSequenceStart ∨
      kind = .blockMappingStart) := by
  cases o with
  | text content => exact ⟨_, _, by rw [kinds], .inl ⟨content, rfl⟩⟩
  | list items => exact ⟨_, _, by rw [kinds, List.cons_append], .inr (.inl rfl)⟩
  | table members => exact ⟨_, _, by rw [kinds, List.cons_append], .inr (.inr rfl)⟩

/-- The tokens of an item are some of those of all items. -/
theorem length_kinds_le_kindsAll {items : List Outline} {o : Outline} (h : o ∈ items) :
    o.kinds.length < (kindsAll items).length := by
  induction items with
  | nil => simp at h
  | cons o' items ih =>
    rw [kindsAll, List.length_append, List.length_cons]
    rcases List.mem_cons.1 h with rfl | h
    · omega
    · have hrest := ih h
      omega

/-- The tokens of a member are some of those of all members. -/
theorem length_kinds_le_kindsMembers {members : List (String × Outline)} {m : String × Outline}
    (h : m ∈ members) : m.2.kinds.length + 2 < (kindsMembers members).length := by
  induction members with
  | nil => simp at h
  | cons m' members ih =>
    obtain ⟨k, o⟩ := m'
    simp only [kindsMembers, List.length_append, List.length_cons]
    rcases List.mem_cons.1 h with rfl | h
    · show o.kinds.length + 2 < _
      omega
    · have hrest := ih h
      omega

end Outline

namespace Composer

/-- The tokens of an outline are those of a node, in a block and in front of anything. -/
def Composes (node : Composer → Composed Node) (o : Outline) : Prop :=
  ∀ (s : Composer) (ts rest : List Token), s.tokens = ts ++ rest → ts.map Token.kind = o.kinds →
    ∃ n, node s = (n, some (s.withTokens rest)) ∧ o.Shows n

/-- The last tokens are those that count. -/
@[simp] theorem withTokens_withTokens (s : Composer) (ts ts' : List Token) :
    (s.withTokens ts).withTokens ts' = s.withTokens ts' := rfl

variable {node : Composer → Composed Node} {o : Outline}

/-- A node is read where it does not start with a token that would end the place. -/
theorem Composes.nodeUnless (h : Composes node o) (stops : List TokenKind)
    (hstops : ∀ kind ∈ stops,
      (∀ content, kind ≠ .scalar content .plain) ∧ kind ≠ .blockSequenceStart ∧
      kind ≠ .blockMappingStart) (mark : Option Mark) {s : Composer} {ts rest : List Token}
    (hs : s.tokens = ts ++ rest) (hts : ts.map Token.kind = o.kinds) :
    ∃ n, nodeUnless node stops mark s = (n, some (s.withTokens rest)) ∧ o.Shows n := by
  obtain ⟨kind, tail, hkinds, hkind⟩ := o.exists_kinds_cons
  obtain ⟨t, ts, rfl, rfl, -⟩ := List.map_eq_cons_iff.1 (hts.trans hkinds)
  have hnot : stops.contains t.kind = false := by
    rw [Bool.eq_false_iff, ne_eq, List.contains_iff_mem]
    intro hmem
    obtain ⟨htext, hlist, htable⟩ := hstops _ hmem
    rcases hkind with ⟨content, h⟩ | h | h
    · exact htext content h
    · exact hlist h
    · exact htable h
  obtain ⟨n, hn, hshows⟩ := h s _ rest hs hts
  refine ⟨n, ?_, hshows⟩
  rw [Composer.nodeUnless, hs]
  simp only [List.cons_append, hnot]
  exact hn

/-- The tokens of a collection that is not empty start with the mark of its first part.  For what is
    behind that part there are steps left. -/
theorem exists_entry {ts : List Token} {mark : TokenKind} {kinds kinds' : List TokenKind}
    {fuel : Nat} (h : ts.map Token.kind = mark :: kinds ++ kinds') (hfuel : ts.length < fuel + 1) :
    ∃ entry first more fuel', fuel = fuel' + 1 ∧ ts = entry :: (first ++ more) ∧
      entry.kind = mark ∧ first.map Token.kind = kinds ∧ more.map Token.kind = kinds' ∧
      more.length < fuel' + 1 := by
  rw [List.cons_append] at h
  obtain ⟨entry, ts, rfl, hentry, h⟩ := List.map_eq_cons_iff.1 h
  obtain ⟨first, more, rfl, hfirst, hmore⟩ := List.map_eq_append_iff.1 h
  have hlength : more.length < fuel := by
    rw [List.length_cons, List.length_append] at hfuel
    omega
  obtain ⟨fuel', rfl⟩ := Nat.exists_eq_add_one_of_ne_zero (Nat.ne_zero_of_lt hlength)
  exact ⟨entry, first, more, fuel', rfl, rfl, hentry, hfirst, hmore, hlength⟩

/-- Items are read one by one. -/
theorem exists_blockItems {items : List Outline} (h : ∀ o ∈ items, Composes node o) {s : Composer}
    {ts rest : List Token} {t : Token} (hs : s.tokens = ts ++ t :: rest)
    (hts : ts.map Token.kind = Outline.kindsAll items) (ht : t.kind = .blockEnd) {fuel : Nat}
    (hfuel : ts.length < fuel) :
    ∃ nodes, blockItems node fuel s = (nodes, some (s.withTokens rest)) ∧
      Outline.ShowsAll items nodes := by
  obtain ⟨fuel, rfl⟩ := Nat.exists_eq_add_one_of_ne_zero (Nat.ne_zero_of_lt hfuel)
  induction items generalizing s ts fuel with
  | nil =>
    obtain rfl : ts = [] := by simpa [Outline.kindsAll] using hts
    refine ⟨[], ?_, rfl⟩
    simp [blockItems, hs, ht]
  | cons o items ih =>
    rw [Outline.kindsAll] at hts
    obtain ⟨entry, first, more, fuel, rfl, rfl, hentry, hfirst, hmore, hlength⟩ :=
      exists_entry hts hfuel
    obtain ⟨n, hnode, hshows⟩ := (h o (by simp)).nodeUnless [.blockEntry, .blockEnd]
      (by simp) (some entry.stop) (s := s.withTokens (first ++ (more ++ t :: rest))) rfl hfirst
    obtain ⟨nodes, hnodes, hall⟩ := ih (fun o ho => h o (by simp [ho]))
      (s := s.withTokens (more ++ t :: rest)) rfl hmore fuel hlength
    have htokens : s.tokens = entry :: (first ++ (more ++ t :: rest)) := by simp [hs]
    refine ⟨n :: nodes, ?_, n, nodes, rfl, hshows, hall⟩
    rw [blockItems, htokens]
    dsimp only
    rw [if_pos hentry, hnode]
    simp only [consed]
    rw [withTokens_withTokens, hnodes]
    rfl

/-- A key and its value are read. -/
theorem exists_member {key : String} (hkey : Composes node (.text key)) (h : Composes node o)
    {s : Composer} {ts rest : List Token} (stop : Mark) (hs : s.tokens = ts ++ rest)
    (hts : ts.map Token.kind = .scalar key .plain :: .value :: o.kinds) :
    ∃ mark n, member (nodeUnless node [.key, .value, .blockEnd] (some stop) s)
        (memberValue node true [.key, .value, .blockEnd]) =
          ((.scalar { mark } key .plain, n), some (s.withTokens rest)) ∧ o.Shows n := by
  obtain ⟨k, ts, rfl, hk, hts⟩ := List.map_eq_cons_iff.1 hts
  obtain ⟨colon, ts, rfl, hcolon, hts⟩ := List.map_eq_cons_iff.1 hts
  obtain ⟨_, hnode, mark, rfl⟩ := hkey.nodeUnless [.key, .value, .blockEnd]
    (by simp) (some stop) (show s.tokens = [k] ++ _ from hs) (by simp [hk, Outline.kinds])
  obtain ⟨n, hvalue, hshows⟩ := h.nodeUnless [.key, .value, .blockEnd]
    (by simp) (some colon.stop) (s := s.withTokens (ts ++ rest)) rfl hts
  refine ⟨mark, n, ?_, hshows⟩
  have hmember : memberValue node true [.key, .value, .blockEnd]
      (s.withTokens (colon :: (ts ++ rest))) = (n, some (s.withTokens rest)) :=
    (if_pos hcolon).trans hvalue
  rw [hnode]
  exact congrArg
    (fun value : Composed Node => ((Node.scalar { mark } key .plain, value.1), value.2))
    hmember

/-- Members are read one by one. -/
theorem exists_blockMembers {members : List (String × Outline)}
    (h : ∀ m ∈ members, Composes node (.text m.1) ∧ Composes node m.2) {s : Composer}
    {ts rest : List Token} {t : Token} (hs : s.tokens = ts ++ t :: rest)
    (hts : ts.map Token.kind = Outline.kindsMembers members) (ht : t.kind = .blockEnd) {fuel : Nat}
    (hfuel : ts.length < fuel) :
    ∃ nodes, blockMembers node fuel s = (nodes, some (s.withTokens rest)) ∧
      Outline.ShowsMembers members nodes := by
  obtain ⟨fuel, rfl⟩ := Nat.exists_eq_add_one_of_ne_zero (Nat.ne_zero_of_lt hfuel)
  induction members generalizing s ts fuel with
  | nil =>
    obtain rfl : ts = [] := by simpa [Outline.kindsMembers] using hts
    refine ⟨[], ?_, rfl⟩
    simp [blockMembers, hs, ht]
  | cons o members ih =>
    obtain ⟨k, o⟩ := o
    rw [Outline.kindsMembers] at hts
    obtain ⟨entry, first, more, fuel, rfl, rfl, hentry, hfirst, hmore, hlength⟩ :=
      exists_entry hts hfuel
    obtain ⟨hkey, hvalue⟩ := h (k, o) (by simp)
    obtain ⟨mark, n, hmember, hshows⟩ := exists_member hkey hvalue entry.stop
      (s := s.withTokens (first ++ (more ++ t :: rest))) rfl hfirst
    obtain ⟨nodes, hnodes, hall⟩ := ih (fun o ho => h o (by simp [ho]))
      (s := s.withTokens (more ++ t :: rest)) rfl hmore fuel hlength
    have htokens : s.tokens = entry :: (first ++ (more ++ t :: rest)) := by simp [hs]
    refine ⟨(.scalar { mark } k .plain, n) :: nodes, ?_, mark, n, nodes, rfl, hshows, hall⟩
    rw [blockMembers, htokens]
    dsimp only
    rw [if_pos hentry, hmember]
    simp only [consed]
    rw [withTokens_withTokens, hnodes]
    rfl

/-! ### Nodes -/

/-- A node without anchor and tag starts with its contents. -/
theorem nodeFrom_succ {fuel : Nat} {place : NodePlace} {s : Composer} {t : Token}
    {rest : List Token} (hs : s.tokens = t :: rest)
    (ht : (∃ content, t.kind = .scalar content .plain) ∨ t.kind = .blockSequenceStart ∨
      t.kind = .blockMappingStart) :
    nodeFrom (fuel + 1) place s = contents (nodeFrom fuel) place { mark := t.start } s := by
  obtain ⟨kind, start, stop⟩ := t
  obtain ⟨tokens, handles, anchors⟩ := s
  obtain rfl : tokens = _ := hs
  rcases ht with ⟨content, rfl⟩ | rfl | rfl
  all_goals rfl

variable {nodes : NodePlace → Composer → Composed Node} {place : NodePlace} {mark : Mark}
  {s : Composer} {t : Token} {rest : List Token}

/-- A scalar is one token. -/
theorem contents_scalar (hs : s.tokens = t :: rest) {content : String}
    (ht : t.kind = .scalar content .plain) :
    contents nodes place { mark } s =
      (.scalar { mark } content .plain, some (s.withTokens rest)) := by
  simp [contents, hs, ht]

/-- A sequence in a block has its items after its start. -/
theorem contents_blockSequence (hplace : place ≠ .inFlow) (hs : s.tokens = t :: rest)
    (ht : t.kind = .blockSequenceStart) :
    contents nodes place { mark } s =
      (blockItems (nodes .inBlock) (rest.length + 2) (s.withTokens rest)).map
        (.sequence { mark }) id := by
  simp [contents, hs, ht, hplace]

/-- A mapping in a block has its members after its start. -/
theorem contents_blockMapping (hplace : place ≠ .inFlow) (hs : s.tokens = t :: rest)
    (ht : t.kind = .blockMappingStart) :
    contents nodes place { mark } s =
      (blockMembers (nodes .inMember) (rest.length + 2) (s.withTokens rest)).map
        (.mapping { mark }) id := by
  simp [contents, hs, ht, hplace]

/-- The tokens of a collection are those of its parts between two others, and there are steps enough
    for the parts. -/
theorem exists_between {s : Composer} {ts rest : List Token} (hs : s.tokens = ts ++ rest)
    {start stop : TokenKind} {kinds : List TokenKind}
    (h : ts.map Token.kind = start :: kinds ++ [stop]) :
    ∃ t inner last, s.tokens = t :: (inner ++ last :: rest) ∧ t.kind = start ∧
      inner.map Token.kind = kinds ∧ last.kind = stop ∧
      inner.length < (inner ++ last :: rest).length + 2 := by
  rw [List.cons_append] at h
  obtain ⟨t, ts, rfl, ht, h⟩ := List.map_eq_cons_iff.1 h
  obtain ⟨inner, lasts, rfl, hinner, hlasts⟩ := List.map_eq_append_iff.1 h
  obtain ⟨last, rfl, hlast⟩ := List.map_eq_singleton_iff.1 hlasts
  refine ⟨t, inner, last, by simp [hs], ht, hinner, hlast, ?_⟩
  rw [List.length_append]
  omega

/-- The tokens of an outline are read as a node of it, outside flow collections. -/
theorem composes_nodeFrom (o : Outline) {fuel : Nat} (hfuel : o.kinds.length < fuel)
    {place : NodePlace} (hplace : place ≠ .inFlow) : Composes (nodeFrom fuel place) o := by
  induction fuel generalizing o place with
  | zero => exact absurd hfuel (Nat.not_lt_zero _)
  | succ fuel ih =>
    intro s ts rest hs hts
    cases o with
    | text content =>
      rw [Outline.kinds] at hts
      obtain ⟨t, ts, rfl, ht, hts⟩ := List.map_eq_cons_iff.1 hts
      obtain rfl : ts = [] := by simpa using hts
      refine ⟨.scalar { mark := t.start } content .plain, ?_, t.start, rfl⟩
      rw [nodeFrom_succ hs (.inl ⟨content, ht⟩), contents_scalar hs ht]
      rfl
    | list items =>
      rw [Outline.kinds] at hts
      obtain ⟨t, inner, last, hs, ht, hinner, hlast, hfuel'⟩ := exists_between hs hts
      -- an item has fewer tokens than the list, so that the fuel lasts
      have hitems : ∀ o ∈ items, Composes (nodeFrom fuel .inBlock) o := fun o ho => by
        have hlength := Outline.length_kinds_le_kindsAll ho
        rw [Outline.kinds, List.length_append, List.length_cons] at hfuel
        exact ih o (by omega) (by decide)
      obtain ⟨nodes, hnodes, hshows⟩ := exists_blockItems hitems
        (s := s.withTokens (inner ++ last :: rest)) rfl hinner hlast hfuel'
      refine ⟨.sequence { mark := t.start } nodes, ?_, t.start, nodes, rfl, hshows⟩
      rw [nodeFrom_succ hs (.inr (.inl ht)), contents_blockSequence hplace hs ht, hnodes]
      rfl
    | table members =>
      rw [Outline.kinds] at hts
      obtain ⟨t, inner, last, hs, ht, hinner, hlast, hfuel'⟩ := exists_between hs hts
      -- so have the key and the value of a member
      have hmembers : ∀ m ∈ members, Composes (nodeFrom fuel .inMember) (.text m.1) ∧
          Composes (nodeFrom fuel .inMember) m.2 := fun m hm => by
        have hlength := Outline.length_kinds_le_kindsMembers hm
        rw [Outline.kinds, List.length_append, List.length_cons] at hfuel
        have hkey : (Outline.text m.1).kinds.length < fuel := by
          rw [Outline.kinds, List.length_singleton]
          omega
        exact ⟨ih _ hkey (by decide), ih _ (by omega) (by decide)⟩
      obtain ⟨nodes, hnodes, hshows⟩ := exists_blockMembers hmembers
        (s := s.withTokens (inner ++ last :: rest)) rfl hinner hlast hfuel'
      refine ⟨.mapping { mark := t.start } nodes, ?_, t.start, nodes, rfl, hshows⟩
      rw [nodeFrom_succ hs (.inr (.inr ht)), contents_blockMapping hplace hs ht, hnodes]
      rfl

end Composer

/-! ### Documents -/

/-- The tokens of an outline up to the end of the text are a document with nothing else in it. -/
theorem Document.exists_ofTokens {o : Outline} {ts : List Token}
    (h : ts.map Token.kind = o.kinds ++ [.streamEnd]) :
    ∃ n, Document.ofTokens ts = ⟨n, true⟩ ∧ o.Shows n := by
  obtain ⟨inner, lasts, rfl, hinner, hlasts⟩ := List.map_eq_append_iff.1 h
  obtain ⟨last, rfl, hlast⟩ := List.map_eq_singleton_iff.1 hlasts
  let s : Composer := ⟨inner ++ [last], Composer.standardHandles, []⟩
  have hfuel : o.kinds.length < s.tokens.length + 1 := by
    rw [← hinner, List.length_map]
    simp only [s, List.length_append, List.length_singleton]
    omega
  obtain ⟨n, hnode, hshows⟩ :=
    Composer.composes_nodeFrom o hfuel (show NodePlace.inBlock ≠ .inFlow by decide) s inner [last]
      rfl hinner
  -- the document does not start with its mark, so its root is the first node
  have hroot : Composer.root (inner ++ [last]) = (n, some (s.withTokens [last])) := by
    obtain ⟨kind, tail, hkinds, hkind⟩ := o.exists_kinds_cons
    obtain ⟨t, inner, rfl, rfl, -⟩ := List.map_eq_cons_iff.1 (hinner.trans hkinds)
    have hstart : t.kind ≠ .streamEnd ∧ Composer.startsExplicitly t.kind = false := by
      rcases hkind with ⟨content, h⟩ | h | h
      all_goals
        rw [h]
        exact ⟨by simp, rfl⟩
    rw [List.cons_append, Composer.root]
    simp only [if_neg hstart.1, hstart.2]
    exact hnode
  have hfinished : (s.withTokens [last]).isFinished = true := by
    simp [Composer.isFinished, Composer.withTokens, hlast]
  refine ⟨n, ?_, hshows⟩
  simp [Document.ofTokens, hroot, hfinished]

end SovdConfig.Yaml
