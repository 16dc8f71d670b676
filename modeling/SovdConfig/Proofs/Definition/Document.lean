import SovdConfig.Proofs.Definition.Lines
import SovdConfig.Proofs.Yaml.Nesting

namespace SovdConfig.Definition

/-!
# Generated definitions are read back

Main statements:

* `exists_leads_entry`, `finishes_following`, `finishes_documentLines` — the tokens of an entry, of
  those after it, and of a document;
* `listOfYaml_documentLines` — a document is read as its active entries.
-/

open Yaml

/-! ### Lines -/

/-- The text of an entry. -/
def text (e : Definition) : List Char := (unlines (lines "" e)).toList

/-- The text of the size of a value. -/
def layoutText : ValueLayout → List Char
  | .length bytes => memberText 4 ("length", decimalText bytes.toNat)
  | .scaled c =>
    List.replicate 4 ' ' ++ ("scaling".toList ++ ':' :: '\n' :: c.members.flatMap (memberText 6))

/-- The text of an entry is a hyphen and its members. -/
theorem text_eq (e : Definition) : text e = List.replicate 2 ' ' ++ '-' ::
      (memberText 1 ("did", hexText 4 e.did.toNat) ++
        (e.textMembers.tail.flatMap (memberText 4) ++ layoutText e.layout)) := by
  have hlayout : (unlines ((layoutLines e.layout).map (entryLine ""))).toList =
      layoutText e.layout := by
    cases e.layout with
    | length n => simp [toList_unlines, layoutLines, layoutText, entryLine, memberText]
    | scaled c =>
      simp [toList_unlines, layoutLines, layoutText, entryLine, memberText, Scaling.members]
  rw [← hlayout]
  simp [text, toList_unlines, lines, entryLine, textMembers, memberText]

/-! ### Tokens -/

/-- The keys of a document. -/
def keys : List String :=
  ["dids", "did", "name", "description", "access", "data_type", "length", "scaling", "factor",
   "offset", "unit"]

/-- The lexer reads each key as it is. -/
theorem isKey_of_mem : ∀ k ∈ keys, IsKey k.toList := by decide

/-- The members of a readable entry are read as they are. -/
theorem isMember_textMembers {e : Definition} (h : e.IsReadable) :
    ∀ m ∈ e.textMembers, IsMember m := by
  have haccess : IsPlain e.access.name.toList := by
    cases e.access <;> exact .ofAlphanum (by decide) (by decide)
  have htype : IsPlain e.dataType.name.toList := by
    cases e.dataType <;> exact .ofAlphanum (by decide) (by decide)
  have hdid : IsPlain (hexText 4 e.did.toNat).toList :=
    .ofAlphanum (by simp [hexText]) fun _ => isAlphanum_of_mem_hexText
  simp only [textMembers, List.forall_mem_cons]
  exact ⟨⟨isKey_of_mem _ (by simp [keys]), hdid⟩, ⟨isKey_of_mem _ (by simp [keys]), h.name.isPlain⟩,
    ⟨isKey_of_mem _ (by simp [keys]), h.description.isPlain⟩,
    ⟨isKey_of_mem _ (by simp [keys]), haccess⟩, ⟨isKey_of_mem _ (by simp [keys]), htype⟩, by simp⟩

/-- So are those of a readable conversion. -/
theorem isMember_scaling {c : Scaling} (h : c.IsReadable) : ∀ m ∈ c.members, IsMember m := by
  simp only [Scaling.members, List.forall_mem_cons]
  exact ⟨⟨isKey_of_mem _ (by simp [keys]), h.factor.isPlain_text⟩,
    ⟨isKey_of_mem _ (by simp [keys]), h.offset.isPlain_text⟩,
    ⟨isKey_of_mem _ (by simp [keys]), h.unit.isPlain⟩, by simp⟩

/-- The size of a value is read.  At its end, the entry is open, and the conversion if there is
    one. -/
theorem exists_leads_layout {layout : ValueLayout} (h : layout.IsReadable) {more : List Char}
    (hmore : IsIndented more 4) (outer : List Int) :
    ∃ kinds indent outer' k,
      Outline.kindsMembers [layout.member] = kinds ++ List.replicate k .blockEnd ∧
      k ≤ 1 ∧ Scan.Closes 4 indent outer' k 4 outer ∧ IsIndented (layoutText layout ++ more) 4 ∧
      Place.Leads ⟨4, outer, layoutText layout ++ more, 0⟩ kinds ⟨indent, outer', more, 0⟩ := by
  cases layout with
  | length bytes =>
    have hmember : ∀ m ∈ [("length", decimalText bytes.toNat)], IsMember m := by
      simp only [List.forall_mem_singleton]
      exact ⟨isKey_of_mem _ (by simp [keys]),
        .ofAlphanum (by simp [decimalText, Nat.toDigits_ne_nil])
          fun _ => isAlphanum_of_mem_decimalText⟩
    refine ⟨_, 4, outer, 0, (List.append_nil _).symm, by decide, .stay (by decide), ?_, ?_⟩
    · simpa [layoutText] using isIndented_members hmember hmore
    · simpa [layoutText, ValueLayout.member] using Place.leads_members hmember hmore outer
  | scaled c =>
    have hmembers := isMember_scaling h
    have hkey : IsKey "scaling".toList := isKey_of_mem _ (by simp [keys])
    have hheader := Place.leads_header hkey (Int.le_refl (4 : Nat)) (Nat.zero_add 4)
      (c.members.flatMap (memberText 6) ++ more) outer
    have htable := Place.leads_table (by simp [Scaling.members]) hmembers
      (show (4 : Int) < (6 : Nat) by decide) (hmore.mono (by decide)) outer
    refine ⟨_, 6, 4 :: outer, 1, ?_, by decide, .close (by decide) (.stay (by decide)), ?_,
      by simpa [layoutText, Scan.opening, Scan.around] using hheader.trans htable⟩
    · simp [ValueLayout.member, Outline.kindsMembers, Outline.kinds]
    · simpa [layoutText] using IsIndented.spaces (hkey.startsScalar _).isSolid 4

/-- A readable entry is read from its hyphen on.  Collections of the entry before it may end first,
    and the list may start with it. -/
theorem exists_leads_entry {e : Definition} (h : e.IsReadable) {more : List Char}
    (hmore : IsIndented more 2) {indent indent' : Int} {outer outer' : List Int} {k : Nat}
    (hcloses : Scan.Closes 2 indent outer k indent' outer') (hk : k ≤ 2) :
    ∃ kinds indent'' outer'' k',
      e.outline.kinds = kinds ++ List.replicate k' .blockEnd ∧ k' ≤ 2 ∧
      Scan.Closes 2 indent'' outer'' k' 2 (Scan.around indent' outer' 2) ∧
      Place.Leads ⟨indent, outer, text e ++ more, 0⟩
        (List.replicate k .blockEnd ++
          (Scan.opening indent' 2 .blockSequenceStart ++ [.blockEntry]) ++ kinds)
        ⟨indent'', outer'', more, 0⟩ := by
  obtain ⟨kinds, indent'', outer'', k', hkinds, hk', hcloses', hindented, hlayout⟩ :=
    exists_leads_layout h.layout (hmore.mono (by decide)) (2 :: Scan.around indent' outer' 2)
  have hmembers := isMember_textMembers h
  have htail : ∀ m ∈ e.textMembers.tail, IsMember m := fun m hm =>
    hmembers m (List.mem_of_mem_tail hm)
  have hhyphen := Place.leads_hyphen (n := 2) hcloses hk
    (memberText 0 ("did", hexText 4 e.did.toNat) ++
      (e.textMembers.tail.flatMap (memberText 4) ++ (layoutText e.layout ++ more)))
  have hfirst := Place.leads_member
    (hmembers ("did", hexText 4 e.did.toNat) (by simp [textMembers]))
    (show (2 : Int) ≤ (4 : Nat) by decide) (show 3 + 1 = 4 by rfl)
    (isIndented_members htail hindented) (Scan.around indent' outer' 2)
  have hrest := Place.leads_members htail hindented (2 :: Scan.around indent' outer' 2)
  refine ⟨.blockMappingStart ::
    Outline.kindsMembers (e.textMembers.map fun m => (m.1, .text m.2)) ++ kinds,
    indent'', outer'', k' + 1, ?_, Nat.succ_le_succ hk',
    hcloses'.trans (.close (by decide) (.stay (Int.le_refl 2))) (by decide), ?_⟩
  · rw [outline, Outline.kinds, Outline.kindsMembers_append, hkinds, List.replicate_succ']
    simp only [List.cons_append, List.append_assoc]
  -- a hyphen, the first member in its line, the other members, and the layout at the end
  · have htext : text e ++ more = List.replicate 2 ' ' ++ '-' :: ' ' ::
        (memberText 0 ("did", hexText 4 e.did.toNat) ++
          (e.textMembers.tail.flatMap (memberText 4) ++ (layoutText e.layout ++ more))) := by
      simp [text_eq, memberText]
    rw [htext]
    exact hhyphen.trans (hfirst.trans (hrest.trans hlayout))

/-- The text after an entry: further ones, each after an empty line, and the end of the document. -/
def following (entries : List Definition) (tail : List Char) : List Char :=
  entries.flatMap (fun e => '\n' :: text e) ++ tail

/-- An entry is indented by two. -/
theorem isIndented_text (e : Definition) (more : List Char) : IsIndented (text e ++ more) 2 := by
  rw [text_eq, List.append_assoc]
  exact .spaces (isSolid_hyphen _) 2

/-- So is what comes after an entry, at most. -/
theorem isIndented_following (entries : List Definition) {tail : List Char}
    (htail : IsIndented tail 2) : IsIndented (following entries tail) 2 := by
  cases entries with
  | nil => exact htail
  | cons e entries =>
    rw [following, List.flatMap_cons, List.append_assoc]
    exact .of_blanks (.newline .here) (isIndented_text e _)

/-- Further entries are read up to the end of the document. -/
theorem finishes_following {entries : List Definition} (h : ∀ e ∈ entries, e.IsReadable)
    {tail : List Char} {b : Bool} (htail : Blanks b tail 0 [] 0) {indent : Int} {outer : List Int}
    {k : Nat} (hcloses : Scan.Closes 2 indent outer k 2 [0, -1]) (hk : k ≤ 2) :
    Place.Finishes ⟨indent, outer, following entries tail, 0⟩
      (List.replicate k .blockEnd ++ Outline.kindsAll (entries.map outline) ++
        [.blockEnd, .blockEnd, .streamEnd]) := by
  induction entries generalizing indent outer k with
  | nil =>
    have hend := Place.finishes htail (hcloses.trans
      (.close (by decide) (.close (by decide) (.stay (Int.le_refl _)))) (by decide)) (by omega)
    simpa [following, Outline.kindsAll, List.replicate_add] using hend
  | cons e entries ih =>
    have htailIndented : IsIndented tail 2 := ⟨b, [], 0, htail, by rintro d ⟨⟩, by decide⟩
    obtain ⟨kinds, indent', outer', k', hkinds, hk', hcloses', hentry⟩ :=
      exists_leads_entry (h e (by simp)) (isIndented_following entries htailIndented) hcloses hk
    have hrest := ih (fun e he => h e (by simp [he])) hcloses' hk'
    have hgap : Blanks true ('\n' :: (text e ++ following entries tail)) 0
        (text e ++ following entries tail) 0 := .newline .here
    have hall := (Place.leads_of_blanks hgap indent outer).finishes (hentry.finishes hrest)
    simpa [following, Outline.kindsAll, hkinds, Scan.opening] using hall

/-! ### Documents -/

/-- The text of a document from its first entry on. -/
theorem toList_entries (e : Definition) (entries : List Definition) (remarks : List String) :
    (unlines ([""].intercalate ((e :: entries).map (lines "")) ++ remarks)).toList =
      text e ++ following entries (unlines remarks).toList := by
  induction entries generalizing e with
  | nil => simp [following, text, toList_unlines]
  | cons e' entries ih =>
    have ih := ih e'
    simp only [following, text, toList_unlines, List.map_cons, List.intercalate_cons_cons,
      List.map_append, List.flatMap_append, List.flatMap_cons] at ih ⊢
    simp [ih]

/-- The tokens of a document. -/
theorem finishes_documentLines {e : Definition} {entries : List Definition}
    (h : ∀ d ∈ e :: entries, d.IsReadable) {commented : Option (List Definition)}
    (hcommented : ∀ entries ∈ commented, ∀ e ∈ entries, e.IsPrintable) :
    Place.Finishes ⟨-1, [], (unlines (documentLines (e :: entries) commented)).toList, 0⟩
      ((Outline.table [("dids", .list ((e :: entries).map outline))]).kinds ++ [.streamEnd]) := by
  obtain ⟨b, htail⟩ := exists_blanks_of_isRemark (isRemark_tailLines hcommented) []
  rw [List.append_nil] at htail
  let more := text e ++ following entries (unlines (tailLines commented)).toList
  have hintro : ∀ line ∈ introLines.take 3, IsRemark line := by decide
  have hsection : ∀ line ∈ introLines.drop 4, IsRemark line := by decide
  obtain ⟨b', hintro⟩ := exists_blanks_of_isRemark hintro
    ("dids".toList ++ ':' :: '\n' :: ((unlines (introLines.drop 4)).toList ++ more))
  obtain ⟨b'', hsection⟩ := exists_blanks_of_isRemark hsection more
  have hheader := Place.leads_header (isKey_of_mem "dids" (by simp [keys]))
    (show (-1 : Int) ≤ (0 : Nat) by decide) (Nat.zero_add 0)
    ((unlines (introLines.drop 4)).toList ++ more) []
  have hmore : IsIndented (following entries (unlines (tailLines commented)).toList) 2 :=
    isIndented_following entries ⟨b, [], 0, htail, by rintro d ⟨⟩, by decide⟩
  obtain ⟨kinds, indent, outer, k, hkinds, hk, hcloses, hentry⟩ :=
    exists_leads_entry (h e (by simp)) hmore
      (show Scan.Closes 2 0 [-1] 0 0 [-1] from .stay (by decide)) (by decide)
  have hrest := finishes_following (fun d hd => h d (List.mem_cons_of_mem e hd)) htail hcloses hk
  -- remarks, the key of the list, remarks again, the first entry, and all others
  have hall := (Place.leads_of_blanks hintro (-1) []).finishes (hheader.finishes
    ((Place.leads_of_blanks hsection 0 [-1]).finishes (hentry.finishes hrest)))
  have htext : (unlines (documentLines (e :: entries) commented)).toList =
      (unlines (introLines.take 3)).toList ++
        ("dids".toList ++ ':' :: '\n' :: ((unlines (introLines.drop 4)).toList ++ more)) := by
    have hlines : documentLines (e :: entries) commented =
        introLines.take 3 ++ "dids:" :: (introLines.drop 4 ++
          ([""].intercalate ((e :: entries).map (lines "")) ++ tailLines commented)) :=
      List.append_assoc introLines _ _
    have hkey : ∀ lines, (unlines ("dids:" :: lines)).toList =
        "dids".toList ++ ':' :: '\n' :: (unlines lines).toList := by simp [toList_unlines]
    rw [hlines, unlines_append, String.toList_append, hkey, unlines_append, String.toList_append,
      toList_entries]
  rw [htext]
  simpa [Outline.kinds, Outline.kindsMembers, Outline.kindsAll, hkinds, Scan.opening] using hall

/-- A document is read as its active entries. -/
theorem listOfYaml_unlines {active : List Definition} (hne : active ≠ [])
    (h : ∀ e ∈ active, e.IsReadable) {commented : Option (List Definition)}
    (hcommented : ∀ entries ∈ commented, ∀ e ∈ entries, e.IsPrintable) :
    listOfYaml (unlines (documentLines active commented)) = .ok active := by
  obtain ⟨e, entries, rfl⟩ := List.exists_cons_of_ne_nil hne
  have hprintable := all_isPrintable_unlines
    (isPrintable_documentLines (fun e he => (h e he).isPrintable) hcommented)
  obtain ⟨root, hroot, hshows⟩ := Document.exists_ofTokens
    (Place.map_kind_tokens (finishes_documentLines h hcommented))
  have hread :
      Document.ofText (unlines (documentLines (e :: entries) commented)) = ⟨root, true⟩ := by
    simp only [Document.ofText, hprintable, if_true, hroot]
  have hsection : Spot.Adds addSection 127 ("dids", .list ((e :: entries).map outline)) none
      (some (e :: entries)) := by
    intro key value hk hv hdepth
    have hitems : (value.items ofSpot).Gives ((e :: entries).map id) :=
      Spot.items_gives (fun e he s hs hd => ofSpot_gives (h e he) hs hd) hv hdepth
    rw [List.map_id] at hitems
    exact (Spot.text_gives hk _).bind (hitems.map some)
  rw [listOfYaml, hread]
  exact Document.read_of_gives (Spot.members_gives (.cons hsection .nil) hshows rfl _ (.pure _))

/-- A generated document is read as its active entries, whether or not further ones are shown as
    comments. -/
theorem listOfYaml_documentLines {active : List Definition} (hne : active ≠ [])
    (h : ∀ e ∈ active, e.IsReadable) {commented : List Definition}
    (hcommented : ∀ e ∈ commented, e.IsPrintable) :
    listOfYaml (unlines (documentLines active none)) = .ok active ∧
      listOfYaml (unlines (documentLines active (some commented))) = .ok active :=
  ⟨listOfYaml_unlines hne h (by simp), listOfYaml_unlines hne h (by simpa using hcommented)⟩

/-- A length and a conversion are read back, with another conversion as a comment. -/
theorem listOfYaml_documentLines_speed :
    let active := [identification 0xF190 "vin" "Vehicle Identification Number" 17,
      measurement 0x1001 "vehicle_speed" "Vehicle Speed" (.ofDecimal false 1 (-2)) "km/h"]
    let commented := [measurement 0x1000 "#engine" "'RPM': \x7b" (.ofDecimal true 25 (-2)) "1/min"]
    (active ≠ [] ∧ (∀ e ∈ active, e.IsReadable) ∧ ∀ e ∈ commented, e.IsPrintable) ∧
      listOfYaml (unlines (documentLines active none)) = .ok active ∧
      listOfYaml (unlines (documentLines active (some commented))) = .ok active := by
  intro active commented
  have hactive : ∀ e ∈ active, e.IsReadable := by decide +kernel
  have hcommented : ∀ e ∈ commented, e.IsPrintable := by decide
  exact ⟨⟨by decide, hactive, hcommented⟩,
    listOfYaml_documentLines (by decide) hactive hcommented⟩

end SovdConfig.Definition
