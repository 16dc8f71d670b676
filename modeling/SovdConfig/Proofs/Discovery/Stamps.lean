import SovdConfig.Proofs.Discovery.Pieces

namespace SovdConfig

/-!
# Stamps

The clock shows in the lines that carry the time of writing and nowhere else, whatever stands in the
values of a unit.  Main definitions:

* `isStamp` — whether a line carries a time of writing;
* `Restamped` — lines that differ only in so many of these lines;
* `SameButStamps` — what can be told of such lines.

Main statements:

* `Ecu.restamped_document` — a configuration that is written at two times;
* `Discovery.restamped_document` — the configurations of a scan, each of them written at two times;
* `Discovery.document_stamps` — what follows for the lines of both.

A value may hold a line break, and what it puts on a line of its own may look like a stamp.  Then it
does so at both times.
-/

open Text

/-- Whether a line carries a time of writing. -/
def isStamp (line : String) : Bool := stampIntro.toList.isPrefixOf line.toList

/-- The line with the time of writing carries it. -/
theorem isStamp_stampLine (written : Timestamp) : isStamp (stampLine written) = true := by
  simp [isStamp, stampLine]

/-! ### Lines at two times -/

/-- Lines of which so many carry a time of writing that may differ, the others being the same. -/
inductive Restamped : Nat → List String → List String → Prop
  | nil : Restamped 0 [] []
  | keep {n : Nat} {lines others : List String} (line : String) :
    Restamped n lines others → Restamped n (line :: lines) (line :: others)
  | stamp {n : Nat} {lines others : List String} {line other : String} :
    isStamp line = true → isStamp other = true → Restamped n lines others →
      Restamped (n + 1) (line :: lines) (other :: others)

/-- What can be told of lines of which at most so many differ in the time of writing. -/
structure SameButStamps (most : Nat) (lines others : List String) : Prop where
  length_eq : lines.length = others.length
  rest_eq : (lines.filter fun line => !isStamp line) = others.filter fun line => !isStamp line
  /-- Lines at one place that differ carry times of writing. -/
  isStamp_of_ne : ∀ p ∈ lines.zip others, p.1 ≠ p.2 → isStamp p.1 = true ∧ isStamp p.2 = true
  few : ((lines.zip others).countP fun p => p.1 ≠ p.2) ≤ most

namespace Restamped

variable {m n : Nat} {lines others more others' : List String}

/-- The same lines. -/
theorem refl (lines : List String) : Restamped 0 lines lines := by
  induction lines with
  | nil => exact .nil
  | cons line lines ih => exact .keep line ih

/-- Lines after others. -/
theorem append (h : Restamped m lines others) (hmore : Restamped n more others') :
    Restamped (m + n) (lines ++ more) (others ++ others') := by
  induction h with
  | nil => simpa using hmore
  | keep line _ ih => exact .keep line ih
  | stamp hline hother _ ih =>
    rw [Nat.add_right_comm]
    exact .stamp hline hother ih

/-- Lines in front that are the same. -/
theorem append_left (h : Restamped n lines others) (front : List String) :
    Restamped n (front ++ lines) (front ++ others) := by
  simpa using (refl front).append h

/-- Lines behind that are the same. -/
theorem append_right (h : Restamped n lines others) (back : List String) :
    Restamped n (lines ++ back) (others ++ back) :=
  h.append (refl back)

/-- Lines that differ only in some stamps differ in no more than these. -/
theorem sameButStamps (h : Restamped n lines others) : SameButStamps n lines others := by
  induction h with
  | nil => exact ⟨rfl, rfl, by simp, by simp⟩
  | keep line _ ih =>
    refine ⟨congrArg Nat.succ ih.length_eq, ?_, ?_, ?_⟩
    · rw [List.filter_cons, List.filter_cons, ih.rest_eq]
    · rw [List.zip_cons_cons, List.forall_mem_cons]
      exact ⟨fun hne => absurd rfl hne, ih.isStamp_of_ne⟩
    · rw [List.zip_cons_cons, List.countP_cons_of_neg (by simp)]
      exact ih.few
  | stamp hline hother _ ih =>
    refine ⟨congrArg Nat.succ ih.length_eq, ?_, ?_, ?_⟩
    · rw [List.filter_cons_of_neg (by simp [hline]), List.filter_cons_of_neg (by simp [hother]),
        ih.rest_eq]
    · rw [List.zip_cons_cons, List.forall_mem_cons]
      exact ⟨fun _ => ⟨hline, hother⟩, ih.isStamp_of_ne⟩
    · rw [List.zip_cons_cons, List.countP_cons]
      have hfew := ih.few
      split <;> omega

end Restamped

/-! ### One configuration -/

/-- The lines of a configuration at two times, with what line breaks its values may have. -/
theorem Ecu.restamped_documentLines (ecu : Ecu) (settings : GeneratorSettings)
    (written written' : Timestamp) :
    Restamped 1 ((ecu.documentLines settings written).flatMap linesOf)
      ((ecu.documentLines settings written').flatMap linesOf) := by
  have hstamp : ∀ t, linesOf (stampLine t) = [stampLine t] :=
    fun t => linesOf_of_isOneLine (isOneLine_stampLine t)
  have hlines : ∀ t, (ecu.documentLines settings t).flatMap linesOf =
      linesOf "# SOVD ECU Configuration" ++
        (stampLine t :: (ecu.bodyLines settings).flatMap linesOf) := by
    intro t
    simp [documentLines, hstamp]
  rw [hlines, hlines]
  exact .append_left
    (.stamp (isStamp_stampLine written) (isStamp_stampLine written') (.refl _)) _

/-- A configuration that is written at two times differs in one stamp. -/
theorem Ecu.restamped_document (ecu : Ecu) (settings : GeneratorSettings)
    (written written' : Timestamp) :
    Restamped 1 (linesOf (ecu.document settings written))
      (linesOf (ecu.document settings written')) := by
  rw [document, document, linesOf_unlines_eq, linesOf_unlines_eq]
  exact (ecu.restamped_documentLines settings written written').append_right [""]

/-- A line with another third character carries no time of writing. -/
theorem isStamp_eq_false {line : String} (h : line.toList[2]? ≠ some 'G') :
    isStamp line = false := by
  -- a line that carries one starts with `# G`
  refine Bool.eq_false_iff.2 fun hstamp => h ?_
  obtain ⟨rest, hrest⟩ := List.isPrefixOf_iff_prefix.1 hstamp
  rw [← hrest]
  rfl

/-- No line of a transport carries a time of writing. -/
theorem Ecu.isStamp_transportLines (ecu : Ecu) :
    ∀ line ∈ ecu.transportLines, isStamp line = false := by
  intro line hline
  refine isStamp_eq_false ?_
  revert line
  unfold transportLines
  rcases ecu.transport with - | ⟨interface, txId, rxId, padding⟩ | ⟨host, port, address, source⟩ <;>
    simp [Transport.valueLines, assignLine, headerLine]

/-- No line after the stamp carries a time of writing. -/
theorem Ecu.isStamp_bodyLines (ecu : Ecu) (settings : GeneratorSettings) :
    ∀ line ∈ ecu.bodyLines settings, isStamp line = false := by
  have hrest : ∀ line ∈ "" :: serverLines settings ++ ecu.identityLines ++ ecu.hintLines ++
      storeLines settings, isStamp line = false := by
    intro line hline
    refine isStamp_eq_false ?_
    revert line
    simp [serverLines, identityLines, hintLines, storeLines, assignLine, headerLine]
  have htransport := ecu.isStamp_transportLines
  simp only [bodyLines, List.mem_append, List.mem_cons, List.not_mem_nil] at hrest ⊢
  grind

/-- A configuration carries one time of writing. -/
theorem Ecu.countP_documentLines (ecu : Ecu) (settings : GeneratorSettings)
    (written : Timestamp) : (ecu.documentLines settings written).countP isStamp = 1 := by
  have hbody : (ecu.bodyLines settings).countP isStamp = 0 :=
    List.countP_eq_zero.2 fun line hline => by simp [ecu.isStamp_bodyLines settings line hline]
  have htitle : isStamp "# SOVD ECU Configuration" = false := by decide
  simp [documentLines, htitle, isStamp_stampLine, hbody]

/-- If no value has a line break, one line of a configuration carries a time of writing. -/
theorem Ecu.countP_linesOf_document {ecu : Ecu} {settings : GeneratorSettings}
    (h : ecu.OneLine settings) (written : Timestamp) :
    (linesOf (ecu.document settings written)).countP isStamp = 1 := by
  have hblank : isStamp "" = false := by decide
  rw [document, linesOf_unlines (Ecu.opens_documentLines h written).oneLine, List.countP_append,
    ecu.countP_documentLines]
  simp [hblank]

/-! ### The configurations of a scan -/

namespace Discovery

/-- Blocks of lines at two times, with the mark between them. -/
theorem restamped_intercalate (settings : GeneratorSettings) (clock clock' : Nat → Timestamp)
    (units : List (DiscoveredUnit × Nat)) :
    Restamped units.length
      ((["", mark].intercalate (units.map (block settings clock))).flatMap linesOf)
      ((["", mark].intercalate (units.map (block settings clock'))).flatMap linesOf) := by
  induction units with
  | nil => exact .nil
  | cons p units ih =>
    have hblock := (p.1.toEcu p.2 settings).restamped_documentLines settings (clock p.2)
      (clock' p.2)
    -- the mark stands between two blocks, so there is none after the last one
    rcases units with - | ⟨q, units⟩
    · simpa [block] using hblock
    · simp only [List.map_cons, List.intercalate_cons_cons, List.flatMap_append] at ih ⊢
      have hmore := (hblock.append_right (["", mark].flatMap linesOf)).append ih
      rwa [Nat.add_comm] at hmore

/-- The configurations of a scan at two sequences of times differ in one stamp for each unit. -/
theorem restamped_document (d : Discovery) (settings : GeneratorSettings)
    (clock clock' : Nat → Timestamp) :
    Restamped d.selected.length (linesOf (d.document settings clock))
      (linesOf (d.document settings clock')) := by
  have hblocks := restamped_intercalate settings clock clock' d.selected.zipIdx
  rw [List.length_zipIdx] at hblocks
  rw [document_eq_unlines, document_eq_unlines, linesOf_unlines_eq, linesOf_unlines_eq]
  exact hblocks.append_right [""]

/-- Blocks with the mark between them carry one time of writing each. -/
theorem countP_intercalate (settings : GeneratorSettings) (clock : Nat → Timestamp)
    (units : List (DiscoveredUnit × Nat)) :
    (["", mark].intercalate (units.map (block settings clock))).countP isStamp =
      units.length := by
  have hmark : ["", mark].countP isStamp = 0 := by decide
  induction units with
  | nil => rfl
  | cons p units ih =>
    have hblock : (block settings clock p).countP isStamp = 1 :=
      (p.1.toEcu p.2 settings).countP_documentLines settings (clock p.2)
    rcases units with - | ⟨q, units⟩
    · simpa using hblock
    · simp only [List.map_cons, List.intercalate_cons_cons, List.countP_append] at ih ⊢
      rw [ih, hblock, hmark, List.length_cons (a := p)]
      omega

/-- If no value has a line break, one line for each unit carries a time of writing. -/
theorem countP_linesOf_document {d : Discovery} {settings : GeneratorSettings}
    (hunits : ∀ u ∈ d.selected, u.OneLine) (hsettings : settings.OneLine)
    (clock : Nat → Timestamp) :
    (linesOf (d.document settings clock)).countP isStamp = d.selected.length := by
  have hblank : [""].countP isStamp = 0 := by decide
  rw [document_eq_unlines, linesOf_unlines (isOneLine_intercalate hunits hsettings clock),
    List.countP_append, hblank, blocks, countP_intercalate, List.length_zipIdx]
  rfl

/-- Two sequences of clock readings give texts with as many lines, which are the same but for those
    that carry a time of writing, at most one for each unit; and if no value has a line break, one
    line for each unit does.  So it is with one configuration at two times, whatever its
    transport. -/
theorem document_stamps (d : Discovery) (settings : GeneratorSettings)
    (clock clock' : Nat → Timestamp) :
    (SameButStamps d.selected.length (linesOf (d.document settings clock))
        (linesOf (d.document settings clock')) ∧
      ((∀ u ∈ d.selected, u.OneLine) → settings.OneLine →
        (linesOf (d.document settings clock)).countP isStamp = d.selected.length)) ∧
    ∀ (ecu : Ecu) (written written' : Timestamp),
      SameButStamps 1 (linesOf (ecu.document settings written))
          (linesOf (ecu.document settings written')) ∧
        (ecu.OneLine settings →
          (linesOf (ecu.document settings written)).countP isStamp = 1) := by
  refine ⟨⟨(d.restamped_document settings clock clock').sameButStamps,
    fun hunits hsettings => countP_linesOf_document hunits hsettings clock⟩, ?_⟩
  intro ecu written written'
  exact ⟨(ecu.restamped_document settings written written').sameButStamps,
    fun h => Ecu.countP_linesOf_document h written⟩

/-- For one, a scan that has found two units, at the start of the year 2000 and in a leap second of
    the year 10000. -/
theorem document_stamps_two :
    let units : List DiscoveredUnit :=
      [{ vin := some "WVWZZZ1JZXW000001" }, { txCanId := some (.text "0x7E0") }]
    let d : Discovery := { units := some units }
    let late : Timestamp := ⟨10000, 12, 31, 23, 59, 59, 1999999999, by decide⟩
    SameButStamps 2 (linesOf (d.document {} fun _ => .year2000))
        (linesOf (d.document {} fun _ => late)) ∧
      (linesOf (d.document {} fun _ => late)).countP isStamp = 2 := by
  intro units d late
  have hunits : ∀ u ∈ units, u.OneLine := by
    have hvin : IsOneLine "WVWZZZ1JZXW000001" := by decide
    have haddress : IsOneLine "0x7E0" := by decide
    simp only [units, List.forall_mem_cons]
    exact ⟨⟨by simpa using hvin, by simp, by simp⟩,
      ⟨by simp, by simpa [BusAddress.OneLine] using haddress, by simp⟩, by simp⟩
  have hsettings : ({} : GeneratorSettings).OneLine := ⟨by decide, by decide, by decide⟩
  exact ⟨(document_stamps d {} (fun _ => .year2000) fun _ => late).1.1,
    (document_stamps d {} (fun _ => late) fun _ => late).1.2 hunits hsettings⟩

end Discovery

end SovdConfig
