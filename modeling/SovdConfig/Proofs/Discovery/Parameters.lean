import SovdConfig.Command.Run
import SovdConfig.Proofs.Attempt
import SovdConfig.Proofs.Discovery.Pieces

namespace SovdConfig

/-!
# Scans and single runs

Each configuration of a scan is what one run generates that is given the unit's parameters.  Main
definitions:

* `DiscoveredUnit.NonEmpty` — a unit whose texts, where it has any, are not empty;
* `GenerateOptions.describing` — options with the parameters of a discovered unit;
* `Setup.deliver` — what becomes of documents that have been generated.

Main statements:

* `DiscoveredUnit.mode_describing` — what such options ask for;
* `Setup.run_generate_of_direct` — a run that is given the parameters of one unit;
* `Discovery.document_from_parameters` — a scan is made of such runs.

An option with an empty value counts as not given.  So an empty text of a unit, which a scan keeps,
cannot be handed to a single run.
-/

/-! ### Parameters of a unit -/

/-- Whether no text of a discovered unit is empty. -/
structure DiscoveredUnit.NonEmpty (u : DiscoveredUnit) : Prop where
  vin : u.vin ≠ some ""
  txCanId : u.txCanId ≠ some (.text "")
  rxCanId : u.rxCanId ≠ some (.text "")

/-- A number has a text. -/
theorem JsonNumber.text_ne_empty (n : JsonNumber) : n.text ≠ "" := by
  cases n with
  | integer n => exact integerText_ne_empty n
  | double x => exact Binary64.text_ne_empty .exchange x

/-- An address has a text if it is not empty, and so has the default for one that is missing. -/
theorem BusAddress.getD_toText_ne_empty {address : Option BusAddress} {default : String}
    (h : address ≠ some (.text "")) (hdefault : default ≠ "") :
    (address.map BusAddress.toText).getD default ≠ "" := by
  rcases address with - | s | n
  · exact hdefault
  · simpa [toText] using h
  · exact n.text_ne_empty

/-- A unit whose number is not empty has a name. -/
theorem DiscoveredUnit.displayName_ne_empty {u : DiscoveredUnit} (h : u.vin ≠ some "")
    (index : Nat) : u.displayName index ≠ "" := by
  unfold displayName
  split
  · next vin hvin =>
    have hne : vin ≠ "" := by
      rintro rfl
      exact h hvin
    have hlist : vin.toList ≠ [] := by simpa using hne
    rw [ne_eq, String.ext_iff, String.toList_ofList]
    simpa [maxNameLength] using hne
  · simp [String.ext_iff]

/-- Options with the parameters of the unit at a place of a scan; what is not about the unit stays
    as it is. -/
def GenerateOptions.describing (g : GenerateOptions) (u : DiscoveredUnit) (index : Nat) :
    GenerateOptions :=
  { g with
    id := some (DiscoveredUnit.sectionId index)
    name := some (u.displayName index)
    txId := some ((u.txCanId.map BusAddress.toText).getD defaultTxId)
    rxId := some ((u.rxCanId.map BusAddress.toText).getD defaultRxId)
    interface := none
    transport := .isotp
    fromDiscovery := none }

/-- Such options ask for the unit as the scan identifies it. -/
theorem DiscoveredUnit.mode_describing {u : DiscoveredUnit} (h : u.NonEmpty)
    (g : GenerateOptions) (index : Nat) :
    (g.describing u index).mode = .direct (u.identity index) none .isotp := by
  -- each of the four options counts as given because its value is not empty
  have hgiven : ∀ {s : String}, s ≠ "" → nonEmptyText (some s) = some s := by
    intro s hs
    simp [nonEmptyText, hs]
  have hid : sectionId index ≠ "" := by simp [sectionId, String.ext_iff]
  have hname := u.displayName_ne_empty h.vin index
  have htx : (u.txCanId.map BusAddress.toText).getD defaultTxId ≠ "" :=
    BusAddress.getD_toText_ne_empty h.txCanId (by decide)
  have hrx : (u.rxCanId.map BusAddress.toText).getD defaultRxId ≠ "" :=
    BusAddress.getD_toText_ne_empty h.rxCanId (by decide)
  have hidentity : (g.describing u index).identity? = some (u.identity index) := by
    simp [GenerateOptions.identity?, GenerateOptions.describing, hgiven hid, hgiven hname,
      hgiven htx, hgiven hrx, identity]
  rw [GenerateOptions.mode, hidentity]
  rfl

/-! ### Single runs -/

/-- A log line reaches the disk or the error stream, and nothing else. -/
theorem Logger.run_writeLine (sink : LogSink) (line : String) (w : World) :
    ∃ disk errors, (writeLine sink line : StateM World Unit).run w =
      ((), { w with disk, errors }) := by
  cases sink with
  | errors colored => exact ⟨w.disk, w.errors ++ line, rfl⟩
  | file path => exact ⟨_, w.errors, rfl⟩

/-- So does a log record. -/
theorem Logger.run_log (logger : Option Logger) (r : LogRecord) (w : World) :
    ∃ disk errors, (Logger.log logger r : StateM World Unit).run w =
      ((), { w with disk, errors }) := by
  cases logger with
  | none => exact ⟨w.disk, w.errors, rfl⟩
  | some l =>
    unfold log
    dsimp only
    split
    · exact run_writeLine l.sink (r.line (l.sink == .errors true) w.now) w
    · exact ⟨w.disk, w.errors, rfl⟩

namespace Setup

variable {m : Type → Type} [Monad m] [Disk m] [Console m]

/-- Documents go to a file if there is one for them, and to the output stream otherwise. -/
def deliver (s : Setup) (o : CommonOptions) (d : Documents) :
    Option Path → m (Except Failure ExitCode)
  | none => do
    d.print
    return .ok .success
  | some path => return (← s.writeDocuments o d path).map fun () => .success

/-- Once there is a configuration it is delivered. -/
theorem run_generate_of_configuration {s : Setup} {o : CommonOptions} {g : GenerateOptions}
    {w w' : World} {configuration : String}
    (h : (g.mode.configuration s.logger s.settings.generator : StateM World _).run w =
      (.ok (some configuration), w')) :
    (s.generate o g : StateM World _).run w =
      (s.deliver o ⟨configuration, g.definitions⟩ g.output : StateM World _).run w' := by
  rw [generate, run_bind_of_eq h]
  dsimp only
  cases g.output <;> rfl

/-- A run that is given the parameters of a unit generates its configuration at the first reading of
    the clock; until it delivers it, only log records are written. -/
theorem run_generate_of_direct {s : Setup} {o : CommonOptions} {g : GenerateOptions}
    {identity : Identity} {interface : Option String} {kind : TransportKind}
    (h : g.mode = .direct identity interface kind) (w : World) :
    ∃ disk errors, (s.generate o g : StateM World _).run w =
      (s.deliver o
        ⟨(Ecu.ofKind identity (interface.getD s.settings.generator.interface) (some kind)
            s.settings.generator).document s.settings.generator (w.clock 0), g.definitions⟩
        g.output : StateM World _).run { w with disk, errors } := by
  obtain ⟨disk, errors, hlog⟩ := Logger.run_log s.logger
    (GenerateMode.directRecord identity (interface.getD s.settings.generator.interface) kind) w
  refine ⟨disk, errors, run_generate_of_configuration ?_⟩
  rw [h]
  show ((GenerateMode.ofParameters s.logger s.settings.generator identity interface kind >>=
    fun r => pure (r.map some) : StateM World _)).run w = _
  rw [GenerateMode.ofParameters, bind_assoc, run_bind_of_eq hlog]
  rfl

end Setup

/-! ### Scans -/

namespace Discovery

/-- The configurations of a scan are those of single runs: each is what a run delivers that is given
    the parameters of the unit, with the same settings and at the same reading of the clock. -/
theorem document_from_parameters (d : Discovery) (settings : GeneratorSettings)
    (clock : Nat → Timestamp) (h : ∀ u ∈ d.selected, u.NonEmpty) :
    ∃ texts : List String, texts.length = d.selected.length ∧
      d.document settings clock = documentSeparator.intercalate texts ∧
      ∀ (i : Nat) (u : DiscoveredUnit) (text : String),
        d.selected[i]? = some u → texts[i]? = some text →
        ∀ (s : Setup) (o : CommonOptions) (g : GenerateOptions) (w : World),
          s.settings.generator = settings → w.clock 0 = clock i →
          ∃ disk errors, (s.generate o (g.describing u i) : StateM World _).run w =
            (s.deliver o ⟨text, g.definitions⟩ g.output : StateM World _).run
              { w with disk, errors } := by
  refine ⟨d.fragments settings clock, by simp [fragments_eq, blocks], rfl, ?_⟩
  intro i u text hunit htext s o g w hsettings hclock
  have hmode := DiscoveredUnit.mode_describing (h u (List.mem_of_getElem? hunit)) g i
  have hfragment : text = (u.toEcu i settings).document settings (clock i) := by
    rw [getElem?_fragments, hunit] at htext
    exact (Option.some.inj htext).symm
  rw [hfragment, ← hclock, ← hsettings]
  exact Setup.run_generate_of_direct hmode w

/-- For one, the second of two units is printed by a run that is given its name and addresses. -/
theorem document_from_parameters_two :
    let units : List DiscoveredUnit :=
      [{ vin := some "WVWZZZ1JZXW000001" }, { rxCanId := some (.number (.integer 2024)) }]
    let d : Discovery := { units := some units }
    let s : Setup := ⟨.ofText "", {}, none⟩
    let g : GenerateOptions :=
      { id := some "ecu_1", name := some "ECU 1", txId := some "0x7E0", rxId := some "2024" }
    let w : World := { disk := ⟨[], []⟩ }
    ∃ first second disk errors,
      d.document {} w.clock = documentSeparator.intercalate [first, second] ∧
        (s.generate {} g : StateM World _).run w =
          (.ok .success, { w with disk, errors, output := second ++ "\n" }) := by
  intro units d s g w
  have hunits : ∀ u ∈ units, u.NonEmpty := by
    simp only [units, List.forall_mem_cons]
    exact ⟨⟨by decide, by decide, by decide⟩, ⟨by decide, by decide, by decide⟩, by simp⟩
  obtain ⟨texts, hlength, hdocument, hruns⟩ :=
    document_from_parameters d {} w.clock hunits
  obtain ⟨first, second, rfl⟩ := List.length_eq_two.1 hlength
  have hg : ({} : GenerateOptions).describing units[1] 1 = g := by decide
  obtain ⟨disk, errors, hrun⟩ := hruns 1 units[1] second rfl rfl s {} {} w rfl rfl
  have hprinted : w.output ++ (⟨second, none⟩ : Documents).text = second ++ "\n" := by
    simp [w, Documents.text]
  rw [hg] at hrun
  refine ⟨first, second, disk, errors, hdocument, hrun.trans ?_⟩
  rw [← hprinted]
  rfl

end Discovery

end SovdConfig
