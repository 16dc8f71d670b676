import Mathlib.Data.List.DropRight
import SovdConfig.Proofs.Path.Collision
import SovdConfig.Proofs.Text.Mended

namespace SovdConfig

/-!
# Definitions beside their configuration

A path is read as text before the path of the definitions is made from it.  Main definitions:

* `Path.upToName` — the bytes up to and including the last slash;
* `Path.stem` — a file name without the ending of configurations;
* `Path.mended` — a path after it has been read as text.

Main statements:

* `Path.definitions_bytes` — the path of definitions, part by part;
* `Path.parent?_mended` — what a path that has been read as text lies in;
* `Path.definitions_beside` — when definitions lie where their configuration lies.
-/

namespace Path

/-! ### Directory and name -/

/-- The bytes up to and including the last slash. -/
def upToName (bytes : Bytes) : Bytes := bytes.rdropWhile (· ≠ slash)

/-- Without a slash there are none. -/
theorem upToName_of_not_mem {bytes : Bytes} (h : slash ∉ bytes) : upToName bytes = [] := by
  rw [upToName, List.rdropWhile_eq_nil_iff]
  intro b hb
  simpa using fun heq : b = slash => h (heq ▸ hb)

/-- A slash and what stands before it, when no other slash follows. -/
theorem upToName_append_slash (a : Bytes) {b : Bytes} (h : slash ∉ b) :
    upToName (a ++ slash :: b) = a ++ [slash] := by
  induction b using List.reverseRecOn with
  | nil => exact List.rdropWhile_concat_neg _ _ _ (by simp)
  | append_singleton b x ih =>
    obtain ⟨hb, hx⟩ : slash ∉ b ∧ slash ≠ x := by simpa using h
    rw [← List.cons_append, ← List.append_assoc, upToName,
      List.rdropWhile_concat_pos _ _ _ (by simpa using hx.symm)]
    exact ih hb

/-- There is no directory, or it ends in a slash. -/
theorem upToName_cases (bytes : Bytes) :
    upToName bytes = [] ∧ endOf bytes = bytes ∨
      ∃ before, upToName bytes = before ++ [slash] ∧ bytes = before ++ slash :: endOf bytes := by
  rcases endOf_cases bytes with h | ⟨hend, before, h⟩
  · exact .inl ⟨upToName_of_not_mem h, endOf_of_not_mem h⟩
  · exact .inr ⟨before, (congrArg upToName h).trans (upToName_append_slash before hend), h⟩

/-- A path is its directory and its name. -/
theorem upToName_append_endOf (bytes : Bytes) : upToName bytes ++ endOf bytes = bytes := by
  rcases upToName_cases bytes with ⟨hdir, hname⟩ | ⟨before, hdir, h⟩
  · rw [hdir, hname, List.nil_append]
  · rw [hdir, List.append_assoc, List.singleton_append, ← h]

/-- The name has no slash. -/
theorem slash_notMem_endOf (bytes : Bytes) : slash ∉ endOf bytes := by
  rcases endOf_cases bytes with h | ⟨hend, -⟩
  · rwa [endOf_of_not_mem h]
  · exact hend

/-- A file name without the ending of configurations, if it has it. -/
def stem (name : Bytes) : Bytes :=
  if Text.encodeUtf8 configurationEnding <:+ name then
    name.rdrop (Text.encodeUtf8 configurationEnding).length
  else name

/-! ### Paths that have been read as text -/

/-- The path that a path's text names. -/
def mended (p : Path) : Path := ⟨Text.mended p.bytes⟩

/-- Segments are mended on their own. -/
theorem mended_append_slash (a b : Bytes) :
    Text.mended (a ++ slash :: b) = Text.mended a ++ slash :: Text.mended b :=
  Text.mended_append_ascii (c := '/') (by decide) a b

/-- No slash comes to bytes that have none. -/
theorem slash_notMem_mended {bytes : Bytes} (h : slash ∉ bytes) : slash ∉ Text.mended bytes :=
  fun hmem => h (Text.mem_of_mem_mended (c := '/') (by decide) (by decide) hmem)

/-- Nor does the directory change with what follows it. -/
theorem mended_upToName_append (bytes more : Bytes) :
    Text.mended (upToName bytes ++ more) = Text.mended (upToName bytes) ++ Text.mended more := by
  rcases upToName_cases bytes with ⟨hdir, -⟩ | ⟨before, hdir, -⟩
  · simp [hdir]
  · rw [hdir, List.append_assoc, List.singleton_append, mended_append_slash, mended_append_slash,
      List.append_assoc]
    rfl

/-- Its own directory and name are found again behind it. -/
theorem upToName_mended_append (bytes : Bytes) {name : Bytes} (h : slash ∉ name) :
    upToName (Text.mended (upToName bytes) ++ name) = Text.mended (upToName bytes) ∧
      endOf (Text.mended (upToName bytes) ++ name) = name := by
  rcases upToName_cases bytes with ⟨hdir, -⟩ | ⟨before, hdir, -⟩
  · rw [hdir, Text.mended_nil, List.nil_append]
    exact ⟨upToName_of_not_mem h, endOf_of_not_mem h⟩
  · rw [hdir, mended_append_slash, Text.mended_nil, List.append_assoc, List.singleton_append]
    exact ⟨upToName_append_slash _ h, endOf_append_slash _ h⟩

/-- Bytes stay what they are if directory and name do. -/
theorem mended_parts_iff (bytes : Bytes) : Text.mended bytes = bytes ↔
    Text.mended (upToName bytes) = upToName bytes ∧ Text.mended (endOf bytes) = endOf bytes := by
  have hparts : Text.mended bytes = Text.mended (upToName bytes) ++ Text.mended (endOf bytes) := by
    rw [← mended_upToName_append, upToName_append_endOf]
  constructor
  · intro h
    obtain ⟨hdir, hname⟩ :=
      upToName_mended_append bytes (slash_notMem_mended (slash_notMem_endOf bytes))
    rw [← hparts, h] at hdir hname
    exact ⟨hdir.symm, hname.symm⟩
  · rintro ⟨hdir, hname⟩
    rw [hparts, hdir, hname, upToName_append_endOf]

/-- The path that a text names stays what it is. -/
theorem ofText_mended (text : String) : (ofText text).mended = ofText text :=
  congrArg mk (Text.mended_encodeUtf8 text)

/-- Only a path that is text stays what it is. -/
theorem mended_eq_iff (p : Path) : p.mended = p ↔ p.text?.isSome := by
  rw [text?, ← Text.mended_eq_iff]
  exact ⟨congrArg bytes, fun h => congrArg mk h⟩

/-! ### The path of definitions -/

/-- The ending of configurations has no slash. -/
theorem slash_notMem_configurationEnding : slash ∉ Text.encodeUtf8 configurationEnding := by decide

/-- The text of bytes ends like a configuration only if their name does. -/
theorem suffix_endOf_of_decodeLossy {bytes : Bytes}
    (h : configurationEnding.toList <:+ (Text.decodeLossy bytes).toList) :
    Text.encodeUtf8 configurationEnding <:+ endOf bytes := by
  have hchars : ∀ d ∈ '.' :: "toml".toList, 0 < d.toNat ∧ d.toNat < 0x80 := by decide
  have hending : configurationEnding = String.ofList ('.' :: "toml".toList) := by decide
  rw [hending, String.toList_ofList] at h
  obtain ⟨before, rfl⟩ := Text.suffix_of_decodeLossy hchars h
  rw [← hending, endOf_append before slash_notMem_configurationEnding]
  exact List.suffix_append _ _

/-- The stem of a name with the ending. -/
theorem stem_append (before : Bytes) :
    stem (before ++ Text.encodeUtf8 configurationEnding) = before := by
  rw [stem, if_pos (List.suffix_append _ _), List.rdrop, List.length_append, Nat.add_sub_cancel,
    List.take_left]

/-- A name stays what it is if its stem does. -/
theorem mended_stem_iff (name : Bytes) :
    Text.mended (stem name) = stem name ↔ Text.mended name = name := by
  by_cases hends : Text.encodeUtf8 configurationEnding <:+ name
  · obtain ⟨before, rfl⟩ := hends
    have hending : Text.mended (before ++ Text.encodeUtf8 configurationEnding) =
        Text.mended before ++ Text.encodeUtf8 configurationEnding := by
      rw [Text.mended, decodeLossy_append_configurationEnding, Text.encodeUtf8_append, Text.mended]
    rw [stem_append, hending, List.append_left_inj]
  · rw [stem, if_neg hends]

/-- What is taken off the text of a path is taken off its name. -/
theorem dropEnding_display (p : Path) : dropEnding configurationEnding.toList p.display.toList =
    (Text.decodeLossy (upToName p.bytes ++ stem (endOf p.bytes))).toList := by
  have hparts := upToName_append_endOf p.bytes
  by_cases hends : Text.encodeUtf8 configurationEnding <:+ endOf p.bytes
  · obtain ⟨before, hname⟩ := hends
    have hdisplay : p.display =
        Text.decodeLossy (upToName p.bytes ++ before) ++ configurationEnding := by
      rw [← decodeLossy_append_configurationEnding, List.append_assoc, hname, hparts, display]
    rw [hdisplay, ← hname, stem_append, String.toList_append, dropEnding_append]
  · have htext : ¬ configurationEnding.toList <:+ p.display.toList :=
      fun h => hends (suffix_endOf_of_decodeLossy h)
    rw [dropEnding_of_not_suffix htext, stem, if_neg hends, hparts, display]

/-- The name of definitions has no slash. -/
theorem slash_notMem_definitionsName (name : Bytes) (h : slash ∉ name) :
    slash ∉ Text.mended (stem name) ++ endingBytes := by
  have hstem : slash ∉ stem name := by
    unfold stem
    split
    · exact fun hmem => h (List.mem_of_mem_take hmem)
    · exact h
  rw [List.mem_append, not_or]
  exact ⟨slash_notMem_mended hstem, slash_notMem_endingBytes⟩

/-- The path of definitions, part by part: directory and name are read as text. -/
theorem definitions_bytes (p : Path) : p.definitions.bytes =
    Text.mended (upToName p.bytes) ++ (Text.mended (stem (endOf p.bytes)) ++ endingBytes) := by
  rw [definitions, ofText, dropEnding_display, String.ofList_append, String.ofList_toList,
    String.ofList_toList, Text.encodeUtf8_append, ← List.append_assoc, ← mended_upToName_append]
  rfl

/-- So its directory is that of the configuration, read as text, and its name is that of the
    configuration, without the ending and read as text, with the ending of definitions. -/
theorem definitions_parts (p : Path) :
    upToName p.definitions.bytes = Text.mended (upToName p.bytes) ∧
      endOf p.definitions.bytes = Text.mended (stem (endOf p.bytes)) ++ endingBytes := by
  rw [definitions_bytes]
  exact upToName_mended_append p.bytes
    (slash_notMem_definitionsName _ (slash_notMem_endOf p.bytes))

/-! ### The directory a path lies in -/

/-- Mended bytes have the segments of the bytes, mended. -/
theorem split_mended (bytes : Bytes) :
    split (Text.mended bytes) = (split bytes).map Text.mended := by
  induction hlength : bytes.length using Nat.strongRecOn generalizing bytes with
  | _ n ih =>
    rcases endOf_cases bytes with h | ⟨hend, before, h⟩
    · simp [split_of_not_mem h, split_of_not_mem (slash_notMem_mended h)]
    · have hshorter : before.length < n := by
        rw [← hlength, h, List.length_append, List.length_cons]
        omega
      rw [h, mended_append_slash, split_append_slash, split_append_slash,
        ih before.length hshorter before rfl, split_of_not_mem hend,
        split_of_not_mem (slash_notMem_mended hend), List.map_append, List.map_singleton]

/-- A segment is empty, or a dot, before it is mended and behind. -/
theorem mended_eq_nil_iff (seg : Bytes) : Text.mended seg = [] ↔ seg = [] :=
  Text.mended_eq_encodeUtf8_iff [] (by simp) seg

@[inherit_doc mended_eq_nil_iff]
theorem mended_eq_dot_iff (seg : Bytes) : Text.mended seg = [dot] ↔ seg = [dot] :=
  Text.mended_eq_encodeUtf8_iff ['.'] (by simp) seg

/-- So as many segments count. -/
theorem lastCounting?_map_mended (segs : List Bytes) :
    lastCounting? (segs.map Text.mended) = lastCounting? segs := by
  have hidle : isIdle ∘ Text.mended = isIdle := by
    funext seg
    simp [isIdle, mended_eq_nil_iff, mended_eq_dot_iff]
  have hdot : startsAtDot (segs.map Text.mended) = startsAtDot segs := by
    cases segs with
    | nil => rfl
    | cons seg segs =>
      rw [Bool.eq_iff_iff]
      simp [startsAtDot, mended_eq_dot_iff]
  simp only [lastCounting?, List.length_map, ← List.map_reverse, List.takeWhile_map, hidle, hdot]

/-- Segments that are mended make a path that is. -/
theorem ofSegments_map_mended (segs : List Bytes) :
    ofSegments (segs.map Text.mended) = (ofSegments segs).mended := by
  match segs with
  | [] => rfl
  | [seg] => simp [ofSegments, mended]
  | seg :: next :: rest =>
    have ih := congrArg bytes (ofSegments_map_mended (next :: rest))
    simp only [ofSegments, mended, List.map_cons] at ih ⊢
    rw [List.intercalate_cons_cons, List.intercalate_cons_cons, List.append_assoc,
      List.append_assoc, List.singleton_append, List.singleton_append, mended_append_slash, ih]

/-- A path starts at the root before it is mended and behind. -/
theorem isAbsolute_mended (p : Path) : p.mended.isAbsolute = p.isAbsolute := by
  have hhead : (Text.mended p.bytes).head? = some slash ↔ p.bytes.head? = some slash := by
    rw [List.head?_eq_some_iff, List.head?_eq_some_iff]
    constructor
    · rintro ⟨rest, hrest⟩
      have htext : (Text.decodeLossy p.bytes).toList =
          [] ++ '/' :: (Text.decodeLossy rest).toList := by
        have hread := Text.decodeLossy_append_ascii (n := 0x2F) (by decide) [] rest
        have hsame : Text.decodeLossy p.bytes = Text.decodeLossy (slash :: rest) := by
          rw [← hrest, Text.mended, Text.decodeLossy_encodeUtf8]
        rw [hsame]
        exact (congrArg String.toList hread).trans (by simp [show Text.decodeLossy [] = "" from
          Text.decodeLossy_encodeUtf8 ""])
      obtain ⟨a, b, hbytes, ha, -⟩ :=
        Text.exists_of_decodeLossy_eq (by decide) (by decide) htext
      obtain rfl := Text.eq_encodeUtf8_of_decodeLossy (by simp) ha
      exact ⟨b, hbytes⟩
    · rintro ⟨rest, hrest⟩
      exact ⟨Text.mended rest, by rw [hrest]; exact mended_append_slash [] rest⟩
  rw [Bool.eq_iff_iff]
  simp [isAbsolute, mended, hhead]

/-- So the same segments of it are kept. -/
theorem keep_mended (p : Path) (count : Nat) : p.mended.keep count = (p.keep count).mended := by
  have hsegs : p.mended.segments = p.segments.map Text.mended := split_mended p.bytes
  simp only [keep, hsegs, ← List.map_take, lastCounting?_map_mended, isAbsolute_mended]
  cases lastCounting? (p.segments.take count) with
  | some kept => exact ofSegments_map_mended _
  | none =>
    cases p.isAbsolute with
    | false => rfl
    | true => exact congrArg mk (mended_append_slash [] []).symm

/-- What a path lies in after it has been read as text. -/
theorem parent?_mended (p : Path) : p.mended.parent? = p.parent?.map mended := by
  have hsegs : p.mended.segments = p.segments.map Text.mended := split_mended p.bytes
  rw [parent?, hsegs, lastCounting?_map_mended, parent?, Option.map_map]
  exact congrArg (Option.map · _) (funext fun count => keep_mended p (count - 1))

/-- If the last segment names something, all segments count. -/
theorem lastCounting?_concat (segs : List Bytes) {name : Bytes} (h : isIdle name = false) :
    lastCounting? (segs ++ [name]) = some (segs.length + 1) := by
  simp [lastCounting?, h]

/-- What a path lies in does not depend on its name, if that names something. -/
theorem parent?_upToName_append (bytes : Bytes) {name : Bytes} (hname : slash ∉ name)
    (hidle : isIdle name = false) : parent? ⟨upToName bytes ++ name⟩ =
      some (keep ⟨upToName bytes⟩ ((split (upToName bytes)).length - 1)) := by
  rcases upToName_cases bytes with ⟨hdir, -⟩ | ⟨before, hdir, -⟩
  · -- the path is its name
    have hsegs : segments ⟨name⟩ = [] ++ [name] := split_of_not_mem hname
    have habsolute : isAbsolute ⟨name⟩ = isAbsolute ⟨[]⟩ := by
      cases name with
      | nil => rfl
      | cons b name => simpa [isAbsolute] using fun hb : b = slash => hname (by simp [hb])
    rw [hdir, List.nil_append, parent?, hsegs, lastCounting?_concat [] hidle]
    simp [keep, lastCounting?, startsAtDot, habsolute, split]
  · have hsegs : segments ⟨before ++ slash :: name⟩ = split before ++ [name] := by
      rw [segments, split_append_slash, split_of_not_mem hname]
    have habsolute : isAbsolute ⟨before ++ slash :: name⟩ = isAbsolute ⟨before ++ slash :: []⟩ := by
      simp [isAbsolute, List.head?_append]
    rw [hdir, List.append_assoc, List.singleton_append, parent?, hsegs,
      lastCounting?_concat _ hidle, Option.map_some]
    simp [keep, habsolute, split_append_slash, segments, split]

/-- Definitions lie in what their configuration lies in, if that has a name, after it has been read
    as text. -/
theorem parent?_definitions {p : Path} (hidle : isIdle (endOf p.bytes) = false) :
    p.definitions.parent? = p.parent?.map mended := by
  have hname := slash_notMem_definitionsName _ (slash_notMem_endOf p.bytes)
  -- the ending alone is longer than any idle name
  have hnamed : isIdle (Text.mended (stem (endOf p.bytes)) ++ endingBytes) = false := by
    have hlength : 1 < (Text.mended (stem (endOf p.bytes)) ++ endingBytes).length := by
      have : 1 < endingBytes.length := by decide
      rw [List.length_append]
      omega
    generalize Text.mended (stem (endOf p.bytes)) ++ endingBytes = name at hlength
    match name with
    | [] | [_] => simp at hlength
    | _ :: _ :: _ => simp [isIdle]
  have hconfiguration := parent?_upToName_append p.bytes (slash_notMem_endOf p.bytes) hidle
  rw [upToName_append_endOf] at hconfiguration
  have hdefinitions := parent?_upToName_append p.definitions.bytes hname hnamed
  rw [(definitions_parts p).1, ← definitions_bytes] at hdefinitions
  rw [hdefinitions, hconfiguration, Option.map_some, ← keep_mended, split_mended, List.length_map]
  rfl

end Path

/-- So they are staged in the directory of their configuration, after it has been read as text. -/
theorem OutputFile.directory_mended {f g : OutputFile}
    (h : g.path.parent? = f.path.parent?.map Path.mended) : g.directory = f.directory.mended := by
  unfold directory
  rw [h]
  cases f.path.parent? with
  | none => rfl
  | some parent =>
    have hempty : parent.mended.isEmpty = parent.isEmpty := by
      rw [Bool.eq_iff_iff]
      simp [Path.isEmpty, Path.mended, Path.mended_eq_nil_iff]
    simp only [Option.map_some, hempty]
    cases parent.isEmpty with
    | false => rfl
    | true => exact (Path.ofText_mended ".").symm

/-- Where a text is written to, the directory is text. -/
theorem OutputFile.directory_text {f : OutputFile} (h : f.path.text?.isSome) :
    f.directory.text?.isSome := by
  have hparent := Path.parent?_mended f.path
  rw [(Path.mended_eq_iff f.path).2 h] at hparent
  exact (Path.mended_eq_iff _).1 (directory_mended hparent).symm

namespace Path

/-- Definitions are written into the directory of their configuration, and named as it without the
    ending of configurations, with that of definitions behind, exactly if the path of the
    configuration is text.  Of any other path both are first read as text, so each stretch of bytes
    that is no text is replaced.  The same holds of the directories in which the two files are
    staged, if the last segment of the path names something. -/
theorem definitions_beside (p : Path) :
    (upToName p.definitions.bytes = Text.mended (upToName p.bytes) ∧
      endOf p.definitions.bytes = Text.mended (stem (endOf p.bytes)) ++ endingBytes) ∧
    (upToName p.definitions.bytes = upToName p.bytes ∧
        endOf p.definitions.bytes = stem (endOf p.bytes) ++ endingBytes ↔ p.text?.isSome) ∧
    (isIdle (endOf p.bytes) = false → ∀ d : Documents, d.definitions.isSome →
      ∃ directory : Path, (d.files p).map OutputFile.directory = [directory, directory.mended] ∧
        (directory.mended = directory ↔ directory.text?.isSome) ∧
        (p.text?.isSome → directory.text?.isSome)) := by
  obtain ⟨hdir, hname⟩ := definitions_parts p
  refine ⟨⟨hdir, hname⟩, ?_, fun hidle d hd => ?_⟩
  · rw [hdir, hname, List.append_left_inj, mended_stem_iff, ← mended_parts_iff, text?,
      Text.mended_eq_iff]
  · obtain ⟨definitions, hdefinitions⟩ := Option.isSome_iff_exists.1 hd
    let configuration : OutputFile := ⟨"Config", "config", p, d.configuration⟩
    refine ⟨configuration.directory, ?_, mended_eq_iff _,
      fun htext => OutputFile.directory_text (f := configuration) htext⟩
    have hstaged := OutputFile.directory_mended (f := configuration)
      (g := ⟨"DIDs", "DIDs", p.definitions, definitions⟩) (parent?_definitions hidle)
    rw [Documents.files_of_some hdefinitions, ← hstaged]
    rfl

/-- For one, the definitions of a path that is text, with the ending of configurations twice. -/
theorem definitions_beside_twice :
    let p := ofText "käse/a.toml.toml"
    let d : Documents := ⟨"", some ""⟩
    (isIdle (endOf p.bytes) = false ∧ d.definitions.isSome ∧ p.text?.isSome) ∧
      p.definitions = ofText "käse/a.toml-dids.yaml" ∧
      upToName p.definitions.bytes = upToName p.bytes ∧
      (d.files p).map OutputFile.directory = [ofText "käse", ofText "käse"] := by
  intro p d
  have htext : p.text?.isSome := by
    rw [text?, show p.bytes = Text.encodeUtf8 "käse/a.toml.toml" from rfl,
      Text.decodeUtf8?_encodeUtf8]
    rfl
  have hidle : isIdle (endOf p.bytes) = false := by decide +kernel
  obtain ⟨-, hparts, hstaging⟩ := definitions_beside p
  obtain ⟨directory, hdirectories, hsame, hkept⟩ := hstaging hidle d rfl
  have hdirectory : directory = ofText "käse" := by
    have hfirst := congrArg List.head? hdirectories
    exact (Option.some.inj hfirst).symm.trans (by decide +kernel)
  refine ⟨⟨hidle, rfl, htext⟩, by decide +kernel, (hparts.2 htext).1, ?_⟩
  rw [hdirectories, hsame.2 (hkept htext), hdirectory]

/-- With a byte that is no text in the name of the directory, the definitions are not beside their
    configuration: they are staged in another directory. -/
theorem definitions_elsewhere :
    let p : Path := ⟨0xFF :: Text.encodeUtf8 "/a.toml"⟩
    let d : Documents := ⟨"", some ""⟩
    p.bytes.getLast? ≠ some slash ∧
      upToName p.definitions.bytes ≠ upToName p.bytes ∧
      endOf p.definitions.bytes = stem (endOf p.bytes) ++ endingBytes ∧
      (d.files p).map OutputFile.directory = [⟨[0xFF]⟩, ofText "\uFFFD"] ∧
      ofText "\uFFFD" ≠ ⟨[0xFF]⟩ := by
  decide +kernel

end Path

end SovdConfig
