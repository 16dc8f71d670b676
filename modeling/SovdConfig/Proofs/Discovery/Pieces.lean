import SovdConfig.Discovery
import SovdConfig.Proofs.Ecu.Lines

namespace SovdConfig

/-!
# The pieces of a discovery

The configurations of all units of a scan can be told apart again.  Main statements:

* `Discovery.linesOf_document` — the lines of the whole are those of the units, with a mark
  between two of them;
* `DiscoveredUnit.header_mem_iff` — a unit's configuration opens no other unit's table;
* `Discovery.document_splits` — the whole splits into one configuration for each unit, in order.
-/

open Text

/-! ### Values on one line -/

/-- Whether an address, if it is a text, has no line break. -/
def BusAddress.OneLine : BusAddress → Prop
  | .text s => IsOneLine s
  | .number _ => True

/-- Whether no text of a discovered unit has a line break. -/
structure DiscoveredUnit.OneLine (u : DiscoveredUnit) : Prop where
  vin : ∀ vin, u.vin = some vin → IsOneLine vin
  txCanId : ∀ address, u.txCanId = some address → address.OneLine
  rxCanId : ∀ address, u.rxCanId = some address → address.OneLine

/-- Whether no text of the settings has a line break. -/
structure GeneratorSettings.OneLine (settings : GeneratorSettings) : Prop where
  serverHost : IsOneLine settings.serverHost
  interface : IsOneLine settings.interface
  didStorePath : IsOneLine settings.didStorePath

/-- Numbers are written on one line. -/
theorem JsonNumber.isOneLine_text (n : JsonNumber) : IsOneLine n.text := by
  cases n with
  | integer n =>
    have hminus : IsOneLine "-" := by decide
    change IsOneLine (integerText n)
    unfold integerText
    split <;> simp [hminus, isOneLine_decimalText]
  | double x =>
    intro h
    have hmem := Binary64.mem_text h
    revert hmem; decide

/-- So are addresses. -/
theorem BusAddress.isOneLine_toText {address : BusAddress} (h : address.OneLine) :
    IsOneLine address.toText := by
  cases address with
  | text s => exact h
  | number n => exact n.isOneLine_text

/-- An address that is missing is replaced by one on one line. -/
theorem isOneLine_getD {address : Option BusAddress} {default : String}
    (h : ∀ a, address = some a → a.OneLine) (hdefault : IsOneLine default) :
    IsOneLine ((address.map BusAddress.toText).getD default) := by
  cases address with
  | none => exact hdefault
  | some a => exact BusAddress.isOneLine_toText (h a rfl)

/-- The name of a unit is on one line. -/
theorem DiscoveredUnit.isOneLine_displayName {u : DiscoveredUnit} (h : u.OneLine) (index : Nat) :
    IsOneLine (u.displayName index) := by
  unfold DiscoveredUnit.displayName
  split
  · next vin hvin =>
    intro hbreak
    rw [String.toList_ofList] at hbreak
    exact h.vin vin hvin (List.mem_of_mem_take hbreak)
  · have hword : IsOneLine "ECU " := by decide
    simp [hword, isOneLine_decimalText]

/-- The unit that a discovered unit becomes has no line break in any of its values. -/
theorem DiscoveredUnit.oneLine_toEcu {u : DiscoveredUnit} {settings : GeneratorSettings}
    (h : u.OneLine) (hsettings : settings.OneLine) (index : Nat) :
    (u.toEcu index settings).OneLine settings where
  id := by
    have hword : IsOneLine "ecu_" := by decide
    simp [DiscoveredUnit.toEcu, Ecu.ofKind, DiscoveredUnit.identity, DiscoveredUnit.sectionId,
      hword, isOneLine_decimalText]
  name := u.isOneLine_displayName h index
  transport := by
    rintro transport ⟨rfl⟩
    exact ⟨hsettings.interface, isOneLine_getD h.txCanId (by decide),
      isOneLine_getD h.rxCanId (by decide)⟩
  serverHost := hsettings.serverHost
  didStorePath := hsettings.didStorePath

/-! ### Headers -/

/-- The section keys of different places differ. -/
theorem DiscoveredUnit.sectionId_inj {i j : Nat} : sectionId i = sectionId j ↔ i = j := by
  simp [sectionId, decimalText_inj]

/-- No section key is another one with more behind it, if there is a dot in what is behind. -/
theorem DiscoveredUnit.sectionId_ne_append (i j : Nat) {rest : String} (hrest : '.' ∈ rest.toList) :
    sectionId i ≠ sectionId j ++ rest := by
  intro h
  have hdot : '.' ∈ (sectionId i).toList := by simp [h, hrest]
  have hdigit : '.' ∈ (decimalText i).toList := by simpa [sectionId] using hdot
  simpa using isDigit_of_mem_decimalText hdigit

/-- The configuration of the unit at one place opens the table of that place and of no other. -/
theorem DiscoveredUnit.header_mem_iff {u : DiscoveredUnit} {settings : GeneratorSettings}
    (h : u.OneLine) (hsettings : settings.OneLine) (i j : Nat) (written : Timestamp) :
    headerLine ("ecu." ++ sectionId j) ∈
      linesOf ((u.toEcu i settings).document settings written) ↔ j = i := by
  have hopens := Ecu.opens_documentLines (u.oneLine_toEcu h hsettings i) written
  have htables : (u.toEcu i settings).tables = ["server", "ecu." ++ sectionId i,
      "ecu." ++ sectionId i ++ ".transport." ++ "isotp", "dids"] := rfl
  -- a header is found among the headers, which are those of the tables
  have hheader : ∀ lines : List String, headerLine ("ecu." ++ sectionId j) ∈ lines ++ [""] ↔
      headerLine ("ecu." ++ sectionId j) ∈ lines.filter isHeader := by
    intro lines
    simp [isHeader, headerLine, String.ext_iff]
  have hother : "ecu." ++ sectionId j ≠ "server" ∧ "ecu." ++ sectionId j ≠ "dids" := by
    constructor <;> intro heq <;> simpa using congrArg (·.toList.head?) heq
  -- the header of a transport's table has a dot more than that of a unit's
  have htransport : sectionId j ≠ sectionId i ++ ".transport.isotp" :=
    sectionId_ne_append j i (by decide)
  rw [Ecu.document, linesOf_unlines hopens.oneLine, hheader, hopens.headers, htables,
    List.mem_map_of_injective headerLine_injective]
  simp only [List.mem_cons, List.not_mem_nil, hother, String.append_assoc, String.append_right_inj,
    sectionId_inj]
  simp [htransport]

/-! ### Blocks of lines -/

namespace Discovery

/-- The mark between two configurations. -/
def mark : String := "---"

/-- The lines of a unit's configuration. -/
def block (settings : GeneratorSettings) (clock : Nat → Timestamp) (p : DiscoveredUnit × Nat) :
    List String :=
  (p.1.toEcu p.2 settings).documentLines settings (clock p.2)

/-- The lines of the configurations of all selected units. -/
def blocks (d : Discovery) (settings : GeneratorSettings) (clock : Nat → Timestamp) :
    List (List String) :=
  d.selected.zipIdx.map (block settings clock)

/-- Each configuration is its block of lines. -/
theorem fragmentsFrom_eq (settings : GeneratorSettings) (clock : Nat → Timestamp) (index : Nat)
    (us : List DiscoveredUnit) :
    fragmentsFrom settings clock index us =
      (us.zipIdx index).map fun p => unlines (block settings clock p) := by
  induction us generalizing index with
  | nil => rfl
  | cons u us ih => simp only [fragmentsFrom, ih, List.zipIdx_cons, List.map_cons]; rfl

/-- The configurations are the blocks. -/
theorem fragments_eq (d : Discovery) (settings : GeneratorSettings) (clock : Nat → Timestamp) :
    d.fragments settings clock = (d.blocks settings clock).map unlines := by
  simp [fragments, fragmentsFrom_eq, blocks, Function.comp_def]

/-- The configuration of the unit at a place depends on that unit, its place and the settings. -/
theorem getElem?_fragments (d : Discovery) (settings : GeneratorSettings)
    (clock : Nat → Timestamp) (i : Nat) :
    (d.fragments settings clock)[i]? =
      d.selected[i]?.map fun u => (u.toEcu i settings).document settings (clock i) := by
  simp [fragments_eq, blocks, block, Ecu.document, Function.comp_def]

variable {d : Discovery} {settings : GeneratorSettings}

/-- No block has a broken line or the mark. -/
theorem mem_blocks (hunits : ∀ u ∈ d.selected, u.OneLine) (hsettings : settings.OneLine)
    (clock : Nat → Timestamp) :
    ∀ lines ∈ d.blocks settings clock, ∀ line ∈ lines, IsOneLine line ∧ line ≠ mark := by
  intro lines hlines line hline
  obtain ⟨⟨u, i⟩, hmem, rfl⟩ := List.mem_map.1 hlines
  have hu := hunits u (List.fst_mem_of_mem_zipIdx hmem)
  have hopens := Ecu.opens_documentLines (u.oneLine_toEcu hu hsettings i) (clock i)
  refine ⟨hopens.oneLine line hline, ?_⟩
  rintro rfl
  exact hopens.noHyphen _ hline (by decide)

/-- A unit leaves one block. -/
theorem blocks_ne_nil (h : d.selected ≠ []) (clock : Nat → Timestamp) :
    d.blocks settings clock ≠ [] := by
  intro hnil
  exact h (by simpa [blocks] using hnil)

/-! ### Splitting -/

/-- The separator is the mark on a line of its own, with the line breaks around it. -/
theorem toList_documentSeparator :
    documentSeparator.toList = '\n' :: (mark.toList ++ ['\n']) := by decide

/-- The whole splits into the configurations of the units. -/
theorem piecesOf_document (hne : d.selected ≠ []) (hunits : ∀ u ∈ d.selected, u.OneLine)
    (hsettings : settings.OneLine) (clock : Nat → Timestamp) :
    piecesOf documentSeparator (d.document settings clock) = d.fragments settings clock := by
  -- both sides are blocks of lines, of which none is the mark
  have htext : (d.fragments settings clock).map String.toList =
      ((d.blocks settings clock).map (·.map String.toList)).map (·.flatMap (· ++ ['\n'])) := by
    simp [fragments_eq, toList_unlines]
  have hlines : ∀ lines ∈ (d.blocks settings clock).map (·.map String.toList), ∀ line ∈ lines,
      '\n' ∉ line ∧ line ≠ mark.toList := by
    intro lines hmem line hline
    obtain ⟨block, hblock, rfl⟩ := List.mem_map.1 hmem
    obtain ⟨text, htext, rfl⟩ := List.mem_map.1 hline
    obtain ⟨hone, hmark⟩ := mem_blocks hunits hsettings clock block hblock text htext
    exact ⟨hone, fun heq => hmark (String.toList_injective heq)⟩
  rw [piecesOf, document, String.toList_intercalate, htext, toList_documentSeparator,
    pieces_intercalate (by decide) (by decide) (by simpa using blocks_ne_nil hne clock) hlines,
    ← htext]
  simp

/-- The lines of the whole are those of the units, with the mark and an empty line in front of it
    between two units. -/
theorem document_eq_unlines (d : Discovery) (settings : GeneratorSettings)
    (clock : Nat → Timestamp) :
    d.document settings clock = unlines (["", mark].intercalate (d.blocks settings clock)) := by
  rw [document, fragments_eq]
  induction d.blocks settings clock with
  | nil => rfl
  | cons lines blocks ih =>
    rcases blocks with - | ⟨next, blocks⟩
    · simp
    · have hseparator : documentSeparator = unlines ["", mark] := by decide
      simp only [List.map_cons, String.intercalate_cons_cons] at ih ⊢
      rw [ih, List.intercalate_cons_cons, unlines_append, unlines_append, hseparator]

/-- Between blocks that do not hold it, the mark stands once less than there are blocks. -/
theorem count_intercalate {blocks : List (List String)}
    (h : ∀ lines ∈ blocks, mark ∉ lines) :
    (["", mark].intercalate blocks).count mark = blocks.length - 1 := by
  induction blocks with
  | nil => rfl
  | cons lines blocks ih =>
    have hlines := List.count_eq_zero.2 (h lines (by simp))
    rcases blocks with - | ⟨next, blocks⟩
    · simpa using hlines
    · have ih := ih fun b hb => h b (by simp [hb])
      have hmark : ["", mark].count mark = 1 := by decide
      rw [List.intercalate_cons_cons, List.count_append, List.count_append, ih, hlines, hmark]
      simp [Nat.add_comm]

/-- The whole is made of lines. -/
theorem isOneLine_intercalate (hunits : ∀ u ∈ d.selected, u.OneLine)
    (hsettings : settings.OneLine) (clock : Nat → Timestamp) :
    ∀ line ∈ ["", mark].intercalate (d.blocks settings clock), IsOneLine line := by
  intro line hline
  have hseparator : ∀ line ∈ ["", mark], IsOneLine line := by decide
  rcases mem_intercalate hline with h | ⟨lines, hlines, h⟩
  · exact hseparator line h
  · exact (mem_blocks hunits hsettings clock lines hlines line h).1

/-- The mark stands on one line less than there are units. -/
theorem count_linesOf_document (hunits : ∀ u ∈ d.selected, u.OneLine)
    (hsettings : settings.OneLine) (clock : Nat → Timestamp) :
    (linesOf (d.document settings clock)).count mark = d.selected.length - 1 := by
  have hmark : ∀ lines ∈ d.blocks settings clock, mark ∉ lines :=
    fun lines hlines h => (mem_blocks hunits hsettings clock lines hlines mark h).2 rfl
  rw [document_eq_unlines, linesOf_unlines (isOneLine_intercalate hunits hsettings clock),
    List.count_append, count_intercalate hmark]
  simp [blocks, mark]

/-- One more unit adds its configuration at the end. -/
theorem fragments_of_selected_append {d' : Discovery} {u : DiscoveredUnit}
    (h : d'.selected = d.selected ++ [u]) (clock : Nat → Timestamp) :
    d'.fragments settings clock = d.fragments settings clock ++
      [(u.toEcu d.selected.length settings).document settings (clock d.selected.length)] := by
  simp [fragments_eq, blocks, block, h, List.zipIdx_append, Ecu.document]

/-- The whole is empty only for no units, splits at every separator into one configuration for each
    unit, and grows at its end only. -/
theorem document_splits (hunits : ∀ u ∈ d.selected, u.OneLine) (hsettings : settings.OneLine)
    (clock : Nat → Timestamp) :
    (d.selected = [] → d.document settings clock = "") ∧
    (d.selected ≠ [] →
      (piecesOf documentSeparator (d.document settings clock)).length = d.selected.length ∧
      (∀ i u, d.selected[i]? = some u → ∃ piece,
        (piecesOf documentSeparator (d.document settings clock))[i]? = some piece ∧
        piece = (u.toEcu i settings).document settings (clock i) ∧
        ∀ j, headerLine ("ecu." ++ DiscoveredUnit.sectionId j) ∈ linesOf piece ↔ j = i) ∧
      (linesOf (d.document settings clock)).count "---" = d.selected.length - 1 ∧
      ∀ (d' : Discovery) (u : DiscoveredUnit), d'.selected = d.selected ++ [u] →
        d'.document settings clock = d.document settings clock ++ documentSeparator ++
          (u.toEcu d.selected.length settings).document settings (clock d.selected.length)) := by
  refine ⟨fun hnil => ?_, fun hne => ⟨?_, ?_, count_linesOf_document hunits hsettings clock, ?_⟩⟩
  · rw [document, fragments, hnil]
    rfl
  · rw [piecesOf_document hne hunits hsettings]
    simp [fragments_eq, blocks]
  · intro i u hu
    refine ⟨(u.toEcu i settings).document settings (clock i), ?_, rfl, fun j => ?_⟩
    · rw [piecesOf_document hne hunits hsettings, getElem?_fragments, hu, Option.map_some]
    · exact u.header_mem_iff (hunits u (List.mem_of_getElem? hu)) hsettings i j (clock i)
  · intro d' u h
    have hfragments : d.fragments settings clock ≠ [] := by
      rw [fragments_eq]
      simpa using blocks_ne_nil hne clock
    rw [document, document, fragments_of_selected_append h,
      String.intercalate_append_of_ne_nil hfragments (by simp), String.intercalate_singleton]

/-- For one, a scan that has found two units, of which one is known by its number. -/
theorem document_splits_two :
    let d : Discovery :=
      ⟨some [⟨some "WVWZZZ1JZXW000001", none, none⟩, ⟨none, some (.number (.integer 2016)), none⟩],
        none⟩
    (piecesOf documentSeparator (d.document {} fun _ => .year2000)).length = 2 ∧
      (linesOf (d.document {} fun _ => .year2000)).count "---" = 1 := by
  intro d
  have hunits : ∀ u ∈ d.selected, u.OneLine := by
    have hvin : IsOneLine "WVWZZZ1JZXW000001" := by decide
    intro u hu
    rcases (by simpa [d, selected] using hu : u = ⟨some "WVWZZZ1JZXW000001", none, none⟩ ∨
      u = ⟨none, some (.number (.integer 2016)), none⟩) with rfl | rfl
    · exact ⟨by simpa using hvin, by simp, by simp⟩
    · exact ⟨by simp, by simp [BusAddress.OneLine], by simp⟩
  have hsettings : ({} : GeneratorSettings).OneLine := ⟨by decide, by decide, by decide⟩
  have hsplits := (document_splits hunits hsettings fun _ => .year2000).2 (by simp [d, selected])
  exact ⟨hsplits.1, hsplits.2.2.1⟩

end Discovery

end SovdConfig
