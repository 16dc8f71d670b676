import SovdConfig.Proofs.Discovery.Parameters
import SovdConfig.Proofs.Ecu.Key
import SovdConfig.Proofs.Settings.Texts

namespace SovdConfig

/-!
# What options ask for

Main definitions:

* `IsGiven` — whether an option has a text that counts;
* `GenerateOptions.HasScan`, `GenerateOptions.HasParameters` — whether the options name the result
  of a scan, or the parameters of a unit;
* `GenerateOptions.Identifies` — the identity that the parameters give;
* `GenerateOptions.DropsEmpty` — options without some of the empty ones.

Main statements:

* `GenerateOptions.mode_eq_discovery_iff`, `GenerateOptions.mode_eq_direct_iff`,
  `GenerateOptions.mode_eq_usage_iff` — what the options ask for;
* `Setup.generate_congr` — a run depends on that, on the definitions and on the output only;
* `Setup.generate_by_precedence` — which options make no difference to a run, and which do.

The empty interface is an exception: it is shown, and not the interface of the settings.
-/

/-! ### Options with a value -/

/-- Whether an option has the text, and this counts because it is not empty. -/
def IsGiven (value : Option String) (text : String) : Prop := value = some text ∧ text ≠ ""

/-- The text that counts is the one that is given. -/
theorem nonEmptyText_eq_some_iff {value : Option String} {text : String} :
    nonEmptyText value = some text ↔ IsGiven value text := by
  simp [nonEmptyText, IsGiven, Option.filter_eq_some_iff]

/-- There is none if none is given. -/
theorem nonEmptyText_eq_none_iff {value : Option String} :
    nonEmptyText value = none ↔ ∀ text, ¬ IsGiven value text := by
  simp only [← nonEmptyText_eq_some_iff, Option.eq_none_iff_forall_ne_some, ne_eq]

/-- Whether a value is that of another option, or was dropped because it is the empty one. -/
def Dropped {α : Type} (empty : α) (value other : Option α) : Prop :=
  other = value ∨ value = some empty ∧ other = none

/-- What counts stays when an empty text is dropped. -/
theorem nonEmptyText_of_dropped {value other : Option String} (h : Dropped "" value other) :
    nonEmptyText other = nonEmptyText value := by
  obtain rfl | ⟨rfl, rfl⟩ := h
  · rfl
  · simp [nonEmptyText, Option.filter]

namespace GenerateOptions

variable {g g' : GenerateOptions} {identity : Identity} {interface : Option String}
  {kind : TransportKind} {path : Path}

/-- Whether the options name the result of a scan. -/
def HasScan (g : GenerateOptions) (path : Path) : Prop :=
  g.fromDiscovery = some path ∧ path ≠ ⟨[]⟩

/-- Whether they have a name and both addresses of a unit. -/
def HasParameters (g : GenerateOptions) : Prop :=
  (∃ name, IsGiven g.name name) ∧ (∃ txId, IsGiven g.txId txId) ∧ ∃ rxId, IsGiven g.rxId rxId

/-- Whether an identity has the name, the addresses and the section key that are given; without
    one, it has the section key of its name. -/
structure Identifies (g : GenerateOptions) (identity : Identity) : Prop where
  name : IsGiven g.name identity.name
  txId : IsGiven g.txId identity.txId
  rxId : IsGiven g.rxId identity.rxId
  id : IsGiven g.id identity.id ∨
    (∀ id, ¬ IsGiven g.id id) ∧ identity.id = Identity.deriveId identity.name

/-- Whether options are what is left of others when some empty values are dropped; the interface
    is none of them. -/
structure DropsEmpty (g g' : GenerateOptions) : Prop where
  name : Dropped "" g.name g'.name
  id : Dropped "" g.id g'.id
  txId : Dropped "" g.txId g'.txId
  rxId : Dropped "" g.rxId g'.rxId
  fromDiscovery : Dropped ⟨[]⟩ g.fromDiscovery g'.fromDiscovery
  rest : g' = { g with
    name := g'.name, id := g'.id, txId := g'.txId, rxId := g'.rxId
    fromDiscovery := g'.fromDiscovery }

/-! ### The identity -/

/-- The identity has what is given. -/
theorem identity?_eq_some_iff : g.identity? = some identity ↔ g.Identifies identity := by
  constructor
  · intro h
    simp only [identity?, Option.bind_eq_bind, Option.bind_eq_some_iff] at h
    obtain ⟨name, hname, txId, htx, rxId, hrx, hidentity⟩ := h
    rw [nonEmptyText_eq_some_iff] at hname htx hrx
    cases hid : nonEmptyText g.id with
    | some id =>
      rw [hid] at hidentity
      obtain rfl := Option.some.inj hidentity
      exact ⟨hname, htx, hrx, .inl (nonEmptyText_eq_some_iff.1 hid)⟩
    | none =>
      rw [hid] at hidentity
      obtain rfl := Option.some.inj hidentity
      exact ⟨hname, htx, hrx, .inr ⟨nonEmptyText_eq_none_iff.1 hid, rfl⟩⟩
  · rintro ⟨hname, htx, hrx, hid⟩
    rw [identity?, nonEmptyText_eq_some_iff.2 hname, nonEmptyText_eq_some_iff.2 htx,
      nonEmptyText_eq_some_iff.2 hrx]
    obtain hid | ⟨hnone, hid⟩ := hid
    · rw [nonEmptyText_eq_some_iff.2 hid]
      rfl
    · rw [nonEmptyText_eq_none_iff.2 hnone]
      obtain ⟨id, name, txId, rxId⟩ := identity
      obtain rfl : id = Identity.deriveId name := hid
      rfl

/-- There is one if name and addresses are given. -/
theorem exists_identifies_iff : (∃ identity, g.Identifies identity) ↔ g.HasParameters := by
  constructor
  · rintro ⟨identity, h⟩
    exact ⟨⟨_, h.name⟩, ⟨_, h.txId⟩, _, h.rxId⟩
  · rintro ⟨⟨name, hname⟩, ⟨txId, htx⟩, rxId, hrx⟩
    by_cases hid : ∃ id, IsGiven g.id id
    · obtain ⟨id, hid⟩ := hid
      exact ⟨⟨id, name, txId, rxId⟩, hname, htx, hrx, .inl hid⟩
    · exact ⟨.ofName name txId rxId, hname, htx, hrx, .inr ⟨not_exists.1 hid, rfl⟩⟩

/-! ### The mode -/

/-- The path of a scan that counts is the one that is given. -/
theorem filter_fromDiscovery_eq_some_iff :
    (g.fromDiscovery.filter fun p => !p.isEmpty) = some path ↔ g.HasScan path := by
  have hempty : path.bytes = [] ↔ path = ⟨[]⟩ := by rw [Path.mk.injEq]
  simp [HasScan, Option.filter_eq_some_iff, Path.isEmpty, hempty]

/-- There is none if none is given. -/
theorem filter_fromDiscovery_eq_none_iff :
    (g.fromDiscovery.filter fun p => !p.isEmpty) = none ↔ ∀ path, ¬ g.HasScan path := by
  simp only [← filter_fromDiscovery_eq_some_iff, Option.eq_none_iff_forall_ne_some, ne_eq]

/-- The result of a scan counts before all else. -/
theorem mode_of_hasScan (h : g.HasScan path) : g.mode = .discovery path := by
  rw [mode, filter_fromDiscovery_eq_some_iff.2 h]

/-- Without one, the parameters count. -/
theorem mode_of_not_hasScan (h : ∀ path, ¬ g.HasScan path) :
    g.mode = (g.identity?.map fun identity => .direct identity g.interface g.transport).getD
      .usage := by
  rw [mode, filter_fromDiscovery_eq_none_iff.2 h]
  cases g.identity? <;> rfl

/-- A configuration is generated from the result of a scan if one is given. -/
theorem mode_eq_discovery_iff : g.mode = .discovery path ↔ g.HasScan path := by
  refine ⟨fun h => ?_, mode_of_hasScan⟩
  by_cases hscan : ∃ other, g.HasScan other
  · obtain ⟨other, hother⟩ := hscan
    obtain rfl : other = path := by simpa [mode_of_hasScan hother] using h
    exact hother
  · rw [mode_of_not_hasScan (not_exists.1 hscan)] at h
    cases hidentity : g.identity? <;> simp [hidentity] at h

/-- It is generated from parameters if they are given and no scan is. -/
theorem mode_eq_direct_iff : g.mode = .direct identity interface kind ↔
    (∀ path, ¬ g.HasScan path) ∧ g.Identifies identity ∧ interface = g.interface ∧
      kind = g.transport := by
  rw [← identity?_eq_some_iff]
  constructor
  · intro h
    have hscan : ∀ path, ¬ g.HasScan path := fun path hpath => by
      simp [mode_of_hasScan hpath] at h
    rw [mode_of_not_hasScan hscan] at h
    cases hidentity : g.identity? with
    | none => simp [hidentity] at h
    | some found =>
      obtain ⟨rfl, rfl, rfl⟩ : found = identity ∧ g.interface = interface ∧ g.transport = kind := by
        simpa [hidentity] using h
      exact ⟨hscan, rfl, rfl, rfl⟩
  · rintro ⟨hscan, hidentity, rfl, rfl⟩
    rw [mode_of_not_hasScan hscan, hidentity]
    rfl

/-- Otherwise there is nothing to generate. -/
theorem mode_eq_usage_iff :
    g.mode = .usage ↔ (∀ path, ¬ g.HasScan path) ∧ ¬ g.HasParameters := by
  rw [← exists_identifies_iff, not_exists]
  simp only [← mode_eq_discovery_iff]
  constructor
  · intro h
    refine ⟨fun path => by simp [h], fun identity hidentity => ?_⟩
    have hscan : ∀ path, ¬ g.HasScan path := fun path hpath => by
      simp [mode_of_hasScan hpath] at h
    simp [mode_eq_direct_iff.2 ⟨hscan, hidentity, rfl, rfl⟩] at h
  · rintro ⟨hscan, hidentity⟩
    cases hmode : g.mode with
    | discovery path => exact absurd hmode (hscan path)
    | direct identity interface kind =>
      exact absurd (mode_eq_direct_iff.1 hmode).2.1 (hidentity identity)
    | usage => rfl

/-- Empty options ask for nothing, but for an empty interface. -/
theorem mode_of_dropsEmpty (h : g.DropsEmpty g') : g'.mode = g.mode := by
  have hscan : (g'.fromDiscovery.filter fun p => !p.isEmpty) =
      g.fromDiscovery.filter fun p => !p.isEmpty := by
    obtain heq | ⟨hempty, hnone⟩ := h.fromDiscovery
    · rw [heq]
    · rw [hempty, hnone]
      rfl
  have hidentity : g'.identity? = g.identity? := by
    simp only [identity?, nonEmptyText_of_dropped h.name, nonEmptyText_of_dropped h.id,
      nonEmptyText_of_dropped h.txId, nonEmptyText_of_dropped h.rxId]
  have hinterface : g'.interface = g.interface := by rw [h.rest]
  have htransport : g'.transport = g.transport := by rw [h.rest]
  rw [mode, mode, hscan, hidentity, hinterface, htransport]

/-- A section key that is given and is that of the name makes no difference. -/
theorem mode_with_deriveId (h : g.mode = .direct identity interface kind)
    (hid : ∀ id, ¬ IsGiven g.id id) :
    { g with id := some (Identity.deriveId identity.name) }.mode = g.mode := by
  obtain ⟨hscan, hidentity, rfl, rfl⟩ := mode_eq_direct_iff.1 h
  have hkey : identity.id = Identity.deriveId identity.name :=
    (hidentity.id.resolve_left (hid _)).2
  have hne : identity.id ≠ "" := by
    rw [hkey, ne_eq, Identity.deriveId_eq_empty_iff]
    exact hidentity.name.2
  rw [h]
  exact mode_eq_direct_iff.2 ⟨hscan, ⟨hidentity.name, hidentity.txId, hidentity.rxId,
    .inl ⟨congrArg some hkey.symm, hne⟩⟩, rfl, rfl⟩

end GenerateOptions

/-! ### Runs -/

namespace Setup

open GenerateOptions

/-- A run depends on what is asked for, on the definitions and on the output only. -/
theorem generate_congr {m : Type → Type} [Monad m] [Disk m] [Console m] (s : Setup)
    (o : CommonOptions) {g g' : GenerateOptions} (hmode : g'.mode = g.mode)
    (hdids : g'.dids = g.dids) (hexamples : g'.noDidExamples = g.noDidExamples)
    (houtput : g'.output = g.output) : (s.generate o g' : m _) = s.generate o g := by
  have hdefinitions : g'.definitions = g.definitions := by
    rw [definitions, definitions, hdids, hexamples]
  rw [generate, generate, hmode, hdefinitions, houtput]

/-- Which options make a difference to a run.

    First, empty ones do not: they can be dropped, all but an empty interface.  Second, what is
    asked for: the result of a scan if one is given, the parameters of a unit if no scan is given
    but its name and addresses are, and nothing otherwise.  Third, with parameters the interface is
    shown as it is, also if it is empty, and the one of the settings only if there is none.  Fourth,
    with a scan the parameters make no difference.  Fifth, a section key that is not given is that
    of the name. -/
theorem generate_by_precedence (s : Setup) (o : CommonOptions) (g : GenerateOptions) :
    (∀ g', g.DropsEmpty g' →
        g'.mode = g.mode ∧ (s.generate o g' : StateM World _) = s.generate o g) ∧
      ((∀ path, g.mode = .discovery path ↔ g.HasScan path) ∧
        ((∃ identity interface kind, g.mode = .direct identity interface kind) ↔
          (∀ path, ¬ g.HasScan path) ∧ g.HasParameters) ∧
        (g.mode = .usage ↔ (∀ path, ¬ g.HasScan path) ∧ ¬ g.HasParameters)) ∧
      (∀ identity interface kind, g.mode = .direct identity interface kind →
        g.Identifies identity ∧ interface = g.interface ∧ kind = g.transport ∧
        ∀ shown, (interface = some shown ∨
            interface = none ∧ shown = s.settings.generator.interface) → ∀ w : World,
          let lines := (Ecu.ofKind identity shown (some kind) s.settings.generator).documentLines
            s.settings.generator (w.clock 0)
          [headerLine ("ecu." ++ identity.id ++ ".transport." ++ kind.name),
              assignLine kind.interfaceKey (inQuotes shown)] <:+: lines ∧
            ∃ disk errors, (s.generate o g : StateM World _).run w =
              (s.deliver o ⟨unlines lines, g.definitions⟩ g.output : StateM World _).run
                { w with disk, errors }) ∧
      (∀ path g', g.HasScan path → g'.fromDiscovery = g.fromDiscovery → g'.dids = g.dids →
        g'.noDidExamples = g.noDidExamples → g'.output = g.output →
          (s.generate o g' : StateM World _) = s.generate o g) ∧
      (∀ identity interface kind, g.mode = .direct identity interface kind →
        (∀ id, ¬ IsGiven g.id id) →
          (s.generate o { g with id := some (Identity.deriveId identity.name) } :
            StateM World _) = s.generate o g) := by
  refine ⟨fun g' h => ?_, ⟨fun path => mode_eq_discovery_iff, ?_, mode_eq_usage_iff⟩,
    fun identity interface kind h => ?_, fun path g' hscan hsame hdids hexamples houtput => ?_,
    fun identity interface kind h hid => generate_congr s o (mode_with_deriveId h hid) rfl rfl rfl⟩
  · -- empty options: all that a run depends on is the same
    have hmode := mode_of_dropsEmpty h
    exact ⟨hmode, generate_congr s o hmode (by rw [h.rest]) (by rw [h.rest]) (by rw [h.rest])⟩
  · constructor
    · rintro ⟨identity, interface, kind, h⟩
      obtain ⟨hscan, hidentity, -, -⟩ := mode_eq_direct_iff.1 h
      exact ⟨hscan, exists_identifies_iff.1 ⟨identity, hidentity⟩⟩
    · rintro ⟨hscan, hparameters⟩
      obtain ⟨identity, hidentity⟩ := exists_identifies_iff.2 hparameters
      exact ⟨identity, g.interface, g.transport,
        mode_eq_direct_iff.2 ⟨hscan, hidentity, rfl, rfl⟩⟩
  · -- parameters: the interface that is delivered is the one that is given, empty or not
    obtain ⟨-, hidentity, hinterface, hkind⟩ := mode_eq_direct_iff.1 h
    refine ⟨hidentity, hinterface, hkind, fun shown hshown w => ?_⟩
    have hgetD : interface.getD s.settings.generator.interface = shown := by
      obtain rfl | ⟨rfl, rfl⟩ := hshown <;> rfl
    have hrun := run_generate_of_direct (s := s) (o := o) h w
    rw [hgetD] at hrun
    exact ⟨Ecu.interfaceLine_below_header identity shown kind _ _, hrun⟩
  · -- a scan: both ask for it, whatever else they have
    have hmode : g'.mode = g.mode := by
      rw [mode_of_hasScan hscan, mode_of_hasScan ⟨hsame.trans hscan.1, hscan.2⟩]
    exact generate_congr s o hmode hdids hexamples houtput

/-- For one, a unit with a name and addresses, an empty interface, and other options that are
    empty.  It is the same unit without these, and with the section key of its name; with a scan
    beside them, only that counts. -/
theorem generate_by_precedence_engine :
    let s : Setup := ⟨.ofText "", {}, none⟩
    let g : GenerateOptions :=
      { name := some "Engine ECU", txId := some "0x7E0", rxId := some "0x7E8", id := some ""
        interface := some "", fromDiscovery := some ⟨[]⟩ }
    let scan : Option Path := some (.ofText "scan.json")
    let w : World := { disk := ⟨[], []⟩ }
    (s.generate {} { g with id := none, fromDiscovery := none } : StateM World _) =
        s.generate {} g ∧
      (s.generate {} { g with id := some "engine_ecu" } : StateM World _) = s.generate {} g ∧
      (s.generate {} { g with fromDiscovery := scan } : StateM World _) =
        s.generate {} { fromDiscovery := scan } ∧
      ∃ lines disk errors,
        ["[ecu.engine_ecu.transport.isotp]", "interface = \"\""] <:+: lines ∧
          (s.generate {} g : StateM World _).run w =
            (.ok .success, { w with disk, errors, output := unlines lines ++ "\n" }) := by
  intro s g scan w
  have hname : Identity.deriveId "Engine ECU" = "engine_ecu" := by decide +kernel
  have hmode : g.mode =
      .direct ⟨"engine_ecu", "Engine ECU", "0x7E0", "0x7E8"⟩ (some "") .isotp := by decide +kernel
  have hid : ∀ id, ¬ IsGiven g.id id := by
    rintro id ⟨hsome, hne⟩
    exact hne (Option.some.inj hsome).symm
  obtain ⟨hempty, -, hshown, -, hkey⟩ := generate_by_precedence s {} g
  obtain ⟨-, -, -, hscan, -⟩ := generate_by_precedence s {} { fromDiscovery := scan }
  obtain ⟨-, -, -, hlines⟩ := hshown _ _ _ hmode
  obtain ⟨hbelow, disk, errors, hrun⟩ := hlines "" (.inl rfl) w
  have htexts : [headerLine ("ecu." ++ "engine_ecu" ++ ".transport." ++ TransportKind.isotp.name),
      assignLine TransportKind.isotp.interfaceKey (inQuotes "")] =
        ["[ecu.engine_ecu.transport.isotp]", "interface = \"\""] := by decide +kernel
  have hdropped : g.DropsEmpty { g with id := none, fromDiscovery := none } :=
    ⟨.inl rfl, .inr ⟨rfl, rfl⟩, .inl rfl, .inl rfl, .inr ⟨rfl, rfl⟩, rfl⟩
  have hsame := (hempty _ hdropped).2
  have hderived := hkey _ _ _ hmode hid
  have hscanned := hscan (.ofText "scan.json") { g with fromDiscovery := scan } ⟨rfl, by decide⟩
    rfl rfl rfl rfl
  rw [htexts] at hbelow
  dsimp only at hderived
  rw [hname] at hderived
  have hprinted : ∀ text, w.output ++ (⟨text, none⟩ : Documents).text = text ++ "\n" := by
    simp [w, Documents.text]
  refine ⟨hsame, hderived, hscanned, _, disk, errors, hbelow, hrun.trans ?_⟩
  rw [← hprinted]
  rfl

end Setup

end SovdConfig
