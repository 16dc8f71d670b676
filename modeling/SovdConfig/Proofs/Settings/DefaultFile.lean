import SovdConfig.Proofs.Disk.Current
import SovdConfig.Proofs.Ecu.Denotation
import SovdConfig.Proofs.Settings.Layers
import SovdConfig.Settings.File

namespace SovdConfig

/-!
# The file with the default settings

The file that is written for a user to start from says what holds without it.  Main definitions:

* `Settings.defaultMembers`, `Settings.defaultLayer` — what is in the file.

Main statements:

* `Settings.read?_defaultFile` — what the file holds;
* `Settings.loadFrom_writeDefault` — what is loaded once the file has been written;
* `Settings.loadFrom_writeDefault_broken` — a path for which nothing can be loaded.

The path of the file stands in a comment of the file as it is.  So a line break in the path ends the
comment, and what follows it is no comment; no other control character but the tab may stand in one.
-/

namespace Settings

open Toml

/-! ### The document -/

/-- What the file with the default settings holds. -/
def defaultMembers : List (String × Toml) :=
  [("logging", .table [("level", .string "warn")]),
   ("generator", .table
    [("server_host", .string "0.0.0.0"),
     ("server_port", .integer 18080),
     ("interface", .string "vcan0"),
     ("isotp_padding", .integer 204),
     ("doip_port", .integer 13400),
     ("doip_source_address", .integer 3712),
     ("did_store_path", .string "config/dids.yaml")])]

/-- What that says of the settings. -/
def defaultLayer : SettingsLayer where
  level := some .warn
  serverHost := some "0.0.0.0"
  serverPort := some 18080
  interface := some "vcan0"
  isotpPadding := some 204
  doipPort := some 13400
  doipSourceAddress := some 3712
  didStorePath := some "config/dids.yaml"

/-- The file has its two sections and nothing else. -/
theorem plainFile_defaultMembers : PlainFile defaultMembers where
  sections := by
    simp only [defaultMembers, List.mem_cons, Prod.mk.injEq, List.not_mem_nil, or_false]
    rintro sec - v (⟨-, rfl⟩ | ⟨-, rfl⟩)
    · exact ⟨_, rfl⟩
    · exact ⟨_, rfl⟩
  others := by simp [defaultMembers, sectionNames]

/-- The settings in the file have their values. -/
theorem says_defaultMembers : Says (fileSetting? defaultMembers) .ofFile defaultLayer := by
  decide +kernel

/-- The lines with the settings say what they are. -/
theorem plainDocument_defaultLines :
    PlainDocument (unlines defaultLines)
      [.header false ["logging"], .assign ["level"] (.string "warn"),
        .header false ["generator"],
        .assign ["server_host"] (.string "0.0.0.0"), .assign ["server_port"] (.integer 18080),
        .assign ["interface"] (.string "vcan0"), .assign ["isotp_padding"] (.integer 204),
        .assign ["doip_port"] (.integer 13400), .assign ["doip_source_address"] (.integer 3712),
        .assign ["did_store_path"] (.string "config/dids.yaml")] := by
  have htext : ∀ {key value : String}, IsBareKey key → IsUnescapedText value →
      PlainLine (settingLine key ("\"" ++ value ++ "\"")).toList
        (some (.assign [key] (.string value))) := plainLine_inQuotes
  have hnumber : ∀ {key : String} {n : Nat}, IsBareKey key → n < 65536 →
      PlainLine (settingLine key (decimalText n)).toList (some (.assign [key] (.integer n))) :=
    fun hkey hn => plainLine_integer hkey (integerLiteral_decimalText _) (fitsSigned_of_lt hn)
  refine plainDocument_cons (plainLine_headerLine ["logging"] (by simp) (by decide)) ?_
  refine plainDocument_cons (htext (by decide) (by decide)) ?_
  refine plainDocument_cons plainLine_blank ?_
  refine plainDocument_cons (plainLine_headerLine ["generator"] (by simp) (by decide)) ?_
  refine plainDocument_cons (htext (by decide) (by decide)) ?_
  refine plainDocument_cons (hnumber (by decide) (by decide)) ?_
  refine plainDocument_cons (htext (by decide) (by decide)) ?_
  refine plainDocument_cons (hnumber (by decide) (by decide)) ?_
  refine plainDocument_cons (hnumber (by decide) (by decide)) ?_
  refine plainDocument_cons (hnumber (by decide) (by decide)) ?_
  exact plainDocument_cons (htext (by decide) (by decide)) plainDocument_nil

/-- The lines in front of them say nothing, if the path can stand in a comment. -/
theorem plainDocument_fileHeader {path : String} (h : ∀ c ∈ path.toList, isPlain c) :
    PlainDocument (unlines (fileHeader path)) [] := by
  have hfile : PlainLine ("# File: " ++ path).toList none := by
    refine plainLine_comment (by simp) fun c hc => ?_
    have hword : ∀ c ∈ "# File: ".toList, isPlain c := by decide
    rw [String.toList_append, List.mem_append] at hc
    exact hc.elim (hword c) (h c)
  refine plainDocument_cons (plainLine_comment (by decide) (by decide)) ?_
  refine plainDocument_cons hfile ?_
  exact plainDocument_cons plainLine_blank plainDocument_nil

/-- The file holds the default settings, if its path can stand in a comment. -/
theorem read?_defaultFile {path : String} (h : ∀ c ∈ path.toList, isPlain c) :
    Toml.read? (defaultFile path) = some defaultMembers := by
  have hdocument := plainDocument_append (plainDocument_fileHeader h) plainDocument_defaultLines
  rw [show defaultFile path = unlines (fileHeader path ++ defaultLines) from rfl,
    read?_plainDocument hdocument]
  rfl

/-- The bytes of the file are its text, which starts with no mark of an encoding. -/
theorem fileText_defaultBytes (path : Path) :
    fileText (defaultBytes path) = defaultFile path.display := by
  have hmark : byteOrderMark.isPrefixOf (defaultBytes path) = false := by
    rw [defaultBytes, defaultFile, fileHeader, List.cons_append, List.map_cons, String.join_cons,
      Text.encodeUtf8_append]
    rfl
  rw [fileText, if_neg (by simp [hmark]), defaultBytes, Text.decodeLossy_encodeUtf8]

/-! ### Writing -/

/-- The file itself is written, or nothing is. -/
theorem run_writeBytes {path : Path} {t t' : FileTree} {r : Except WriteFault Unit}
    (h : ((do return (← Disk.write path (defaultBytes path)).mapError (WriteFault.file path)) :
      StateM FileTree (Except WriteFault Unit)).run t = (r, t')) :
    (∃ e, r = .error e ∧ t' = t) ∨ r = .ok () ∧ t.write path (defaultBytes path) = .ok t' := by
  rcases hwrite : t.write path (defaultBytes path) with e | t''
  · have hrun : (Disk.write path (defaultBytes path) : StateM FileTree _).run t = (.error e, t) :=
      FileTree.run_attempt_error hwrite
    rw [run_bind_of_eq hrun] at h
    cases h
    exact .inl ⟨_, rfl, rfl⟩
  · have hrun : (Disk.write path (defaultBytes path) : StateM FileTree _).run t = (.ok (), t'') :=
      FileTree.run_attempt_ok hwrite
    rw [run_bind_of_eq hrun] at h
    cases h
    exact .inr ⟨rfl, rfl⟩

/-- What is left when the file has been written, or could not be: directories on the way to it may
    have come, and then the file, if all went well. -/
theorem run_writeDefault {path : Path} {t t' : FileTree} {r : Except WriteFault Unit}
    (h : (writeDefault path : StateM FileTree (Except WriteFault Unit)).run t = (r, t')) :
    ∃ t₁, FileTree.Grows t t₁ ∧
      (∀ l, t₁.node? l ≠ t.node? l → ∃ parent q, path.parent? = some parent ∧
        q.AtOrAbove parent ∧ t₁.entryOf? q = some l) ∧
      ((∃ e, r = .error e ∧ t' = t₁) ∨
        r = .ok () ∧ t₁.write path (defaultBytes path) = .ok t') := by
  rw [writeDefault] at h
  rcases hparent : path.parent? with - | parent
  · rw [hparent] at h
    exact ⟨t, .refl t, fun l hl => absurd rfl hl, run_writeBytes h⟩
  · rw [hparent] at h
    have hnew : ∀ l, (t.createDirectories parent).1.node? l ≠ t.node? l → ∃ parent' q,
        some parent = some parent' ∧ q.AtOrAbove parent' ∧
          (t.createDirectories parent).1.entryOf? q = some l := by
      intro l hl
      obtain ⟨q, hq, hentry⟩ := FileTree.new_of_createDirectories hl
      exact ⟨parent, q, rfl, hq, hentry⟩
    have hrun : (Disk.createDirectories parent : StateM FileTree _).run t =
        ((t.createDirectories parent).2, (t.createDirectories parent).1) := rfl
    dsimp only at h
    rw [run_bind_of_eq hrun] at h
    refine ⟨_, t.grows_createDirectories parent, hnew, ?_⟩
    rcases hmade : (t.createDirectories parent).2 with e | ⟨⟩
    · rw [hmade] at h
      cases h
      exact .inl ⟨_, rfl, rfl⟩
    · rw [hmade] at h
      exact run_writeBytes h

/-! ### Loading -/

/-- What is in the file gives the default settings. -/
theorem loadFrom_of_holds {env : Environment} {t : FileTree} {path : Path}
    {members : List (String × Toml)} {lower : SettingsLayer} (henv : env.toolVariables = [])
    (hfile : t.Holds path members) (hplain : PlainFile members)
    (hlower : Says (fileSetting? members) .ofFile lower) (hnone : lower.file = none) :
    (loadFrom env path : StateM FileTree (Except LoadFault Settings)).run t =
      (.ok (({} : SettingsLayer).over lower), t) := by
  have htexts : TextVariables env := by simp [TextVariables, henv]
  have hupper : Says (variableSetting? env) .ofVariable {} := by
    have hvariable : variableSetting? env = fun _ _ => none := by
      funext sec key
      simp [variableSetting?, henv]
    rw [hvariable]
    decide
  obtain ⟨origin, hiff⟩ := loadFrom_iff (plainVariables_of_nil henv) htexts hfile hplain
    hlower.ne_table
  refine (hiff _).2 ⟨_, hupper.settingsAre_over hlower origin, ?_⟩
  simp [expandLogFile, SettingsLayer.over, hnone]

/-- The file that is read for a path is the one that has been written there, or there is none. -/
theorem settingsContent?_of_resolve {t : FileTree} {path : Path} {l : Location} {content : Bytes}
    (hcurrent : t.HasCurrent) (hresolve : t.resolve path = .ok (.taken l (.file content)))
    (hslash : FileTree.namesDirectory path = false) :
    t.settingsContent? path = some content ∨ t.settingsContent? path = none := by
  unfold FileTree.settingsContent? FileTree.settingsFile?
  rcases FileTree.isFile_join hcurrent hresolve hslash with ⟨hfile, hread⟩ | ⟨hnone, hextended⟩
  · left
    rw [if_pos hfile, Option.bind_some, hread]
    rfl
  · right
    rw [if_neg (by simp [hnone])]
    rcases hname : ((FileTree.pathOf t.current).join path).extendName? (Text.encodeUtf8 ".toml")
      with - | extended
    · rfl
    · rw [Option.filter_some, hextended _ extended hname]
      rfl

/-- A file that has been written loads as the defaults where no variable of the tool is set, if its
    path has no control character but the tab. -/
theorem loadFrom_writeDefault {env : Environment} {path : Path} {t t' : FileTree}
    (hcurrent : t.HasCurrent) (henv : env.toolVariables = [])
    (hpath : ∀ c ∈ path.display.toList, Toml.isPlain c)
    (hwrite : (writeDefault path : StateM FileTree (Except WriteFault Unit)).run t =
      (.ok (), t')) :
    (loadFrom env path : StateM FileTree (Except LoadFault Settings)).run t' = (.ok {}, t') := by
  obtain ⟨t₁, hgrows, -, ⟨e, he, -⟩ | ⟨-, hfile⟩⟩ := run_writeDefault hwrite
  · cases he
  · obtain ⟨l, old, hopen, rfl⟩ := FileTree.exists_put_of_write hfile
    obtain ⟨-, hfree, hslash⟩ := FileTree.openForWriting_ok hopen
    have hcurrent' := (hcurrent.grows hgrows).put hfree (defaultBytes path)
    have hresolve := FileTree.resolve_put hopen (defaultBytes path)
    rcases settingsContent?_of_resolve hcurrent' hresolve hslash with hcontent | hnone
    · -- what is read is what has been written
      have hholds : (t₁.put l (.file (defaultBytes path))).Holds path defaultMembers :=
        FileTree.holds_of_content hcontent (fileText_defaultBytes path) (read?_defaultFile hpath)
      exact loadFrom_of_holds henv hholds plainFile_defaultMembers says_defaultMembers rfl
    · -- together with the current directory the path is too long, and nothing is read
      have hholds : (t₁.put l (.file (defaultBytes path))).Holds path [] := by
        rw [FileTree.Holds, hnone]
      exact loadFrom_of_holds henv hholds ⟨by simp, by simp⟩ (by decide : Says _ _ {}) rfl

/-- For one, a file in a directory that is made for it. -/
theorem loadFrom_writeDefault_nested :
    let t : FileTree := ⟨[[0x68]], [([[0x68]], .directory)]⟩
    let path : Path := .ofText "conf/e.toml"
    t.HasCurrent ∧ Environment.toolVariables {} = [] ∧
      (∀ c ∈ path.display.toList, Toml.isPlain c) ∧
      ∃ t', (writeDefault path : StateM FileTree (Except WriteFault Unit)).run t = (.ok (), t') ∧
        (loadFrom {} path : StateM FileTree (Except LoadFault Settings)).run t' = (.ok {}, t') := by
  intro t path
  have hcurrent : t.HasCurrent := rfl
  have hpath : ∀ c ∈ path.display.toList, Toml.isPlain c := by decide +kernel
  have hok : ((writeDefault path : StateM FileTree (Except WriteFault Unit)).run t).1.toOption =
      some () := by decide +kernel
  obtain ⟨t', hrun, -⟩ := exists_run_eq (P := fun _ => True) (toOption_eq_some_iff.1 hok) trivial
  exact ⟨hcurrent, rfl, hpath, t', hrun, loadFrom_writeDefault hcurrent rfl hpath hrun⟩

/-- A line break in the path is in the way of all settings: what follows it is not read as a part of
    the comment. -/
theorem loadFrom_writeDefault_broken :
    FileTree.HasCurrent ⟨[], []⟩ ∧ ∃ t',
      (writeDefault (.ofText "a\nb") : StateM FileTree (Except WriteFault Unit)).run ⟨[], []⟩ =
          (.ok (), t') ∧
        (loadFrom {} (.ofText "a\nb") : StateM FileTree (Except LoadFault Settings)).run t' =
          (.error .malformed, t') := by
  have hok : ((writeDefault (.ofText "a\nb") : StateM FileTree (Except WriteFault Unit)).run
      ⟨[], []⟩).1.toOption = some () := by decide +kernel
  have hend : ((writeDefault (.ofText "a\nb") : StateM FileTree (Except WriteFault Unit)).run
      ⟨[], []⟩).2.settingsContent? (.ofText "a\nb") = some (defaultBytes (.ofText "a\nb")) := by
    rfl
  obtain ⟨t', hrun, hcontent⟩ := exists_run_eq (toOption_eq_some_iff.1 hok)
    (P := fun t' => t'.settingsContent? (.ofText "a\nb") = some (defaultBytes (.ofText "a\nb")))
    hend
  have htext : (defaultFile "a\nb").toList = _ := toList_unlines (fileHeader "a\nb" ++ defaultLines)
  have hread : (Toml.read? (defaultFile "a\nb")).isNone = true := by
    rw [Toml.read?]
    simp only [htext]
    decide +kernel
  obtain ⟨origin, hload⟩ := run_loadFrom {} t' (.ofText "a\nb")
  have hsource : fileSource origin (defaultBytes (.ofText "a\nb")) = .error .malformed := by
    rw [fileSource, fileText_defaultBytes, Path.display_ofText,
      Option.isNone_iff_eq_none.1 hread]
  rw [hcontent] at hload
  dsimp only at hload
  rw [hsource] at hload
  exact ⟨rfl, t', hrun, hload⟩

end Settings

end SovdConfig
