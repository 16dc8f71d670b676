import SovdConfig.Proofs.Text.Lines
import SovdConfig.Proofs.Toml.Integer
import SovdConfig.Proofs.Toml.Literal

namespace SovdConfig

/-!
# The lines of a configuration

What can be told of the lines of a unit's configuration whatever its values are, as long as none
of them has a line break.  Main definition: `Opens`, lines of which some open tables, the others do
not, and none is a row of hyphens.  Main statement: `Ecu.opens_documentLines`, the lines of a
configuration open the tables of one unit.
-/

open Text

/-- Whether a line opens a table. -/
def isHeader (line : String) : Bool := line.toList.head? = some '['

/-- Headers of different tables differ. -/
theorem headerLine_injective : Function.Injective headerLine := by
  intro s t h
  simpa [headerLine] using h

/-- Lines that open the given tables, in this order.  None of them starts with a hyphen. -/
structure Opens (lines tables : List String) : Prop where
  oneLine : ∀ line ∈ lines, IsOneLine line
  noHyphen : ∀ line ∈ lines, line.toList.head? ≠ some '-'
  headers : lines.filter isHeader = tables.map headerLine

namespace Opens

variable {lines tables : List String}

/-- No line opens no table. -/
theorem nil : Opens [] [] := ⟨by simp, by simp, rfl⟩

/-- A line in front that is no header. -/
theorem cons {line : String} (hline : IsOneLine line)
    (hhead : line.toList.head? ≠ some '-' ∧ line.toList.head? ≠ some '[') (h : Opens lines tables) :
    Opens (line :: lines) tables where
  oneLine := List.forall_mem_cons.2 ⟨hline, h.oneLine⟩
  noHyphen := List.forall_mem_cons.2 ⟨hhead.1, h.noHyphen⟩
  headers := by
    rw [List.filter_cons_of_neg (by simpa [isHeader] using hhead.2), h.headers]

/-- An empty line in front. -/
theorem blank (h : Opens lines tables) : Opens ("" :: lines) tables :=
  h.cons (by decide) (by decide)

/-- An assignment in front. -/
theorem assign {key value : String} (hkey : IsOneLine key)
    (hhead : ∃ c, key.toList.head? = some c ∧ c ≠ '-' ∧ c ≠ '[') (hvalue : IsOneLine value)
    (h : Opens lines tables) : Opens (assignLine key value :: lines) tables := by
  obtain ⟨c, hc, hne⟩ := hhead
  have hequals : IsOneLine " = " := by decide
  refine h.cons (by simp [assignLine, hkey, hvalue, hequals]) ?_
  simpa [assignLine, hc] using hne

/-- A header in front. -/
theorem header {table : String} (htable : IsOneLine table) (h : Opens lines tables) :
    Opens (headerLine table :: lines) (table :: tables) where
  oneLine := by
    have hbrackets : IsOneLine "[" ∧ IsOneLine "]" := by decide
    exact List.forall_mem_cons.2 ⟨by simp [headerLine, htable, hbrackets], h.oneLine⟩
  noHyphen := List.forall_mem_cons.2 ⟨by simp [headerLine], h.noHyphen⟩
  headers := by
    rw [List.filter_cons_of_pos (by simp [isHeader, headerLine]), h.headers, List.map_cons]

/-- Lines after others. -/
theorem append {more others : List String} (h : Opens lines tables) (hmore : Opens more others) :
    Opens (lines ++ more) (tables ++ others) where
  oneLine := List.forall_mem_append.2 ⟨h.oneLine, hmore.oneLine⟩
  noHyphen := List.forall_mem_append.2 ⟨h.noHyphen, hmore.noHyphen⟩
  headers := by rw [List.filter_append, h.headers, hmore.headers, List.map_append]

end Opens

/-! ### Values -/

/-- Quotes around a text do not break it. -/
theorem isOneLine_inQuotes {value : String} (h : IsOneLine value) : IsOneLine (inQuotes value) := by
  have hquote : IsOneLine "\"" := by decide
  simp [inQuotes, h, hquote]

/-- Literals of integers have no line break. -/
theorem isOneLine_of_integerLiteral {text : String} {n : Int}
    (h : Toml.IntegerLiteral text.toList n) : IsOneLine text := by
  intro hbreak
  have hword := (h.chars.1 _ hbreak).1
  revert hword; decide

/-- Decimal numbers have no line break. -/
theorem isOneLine_decimalText (n : Nat) : IsOneLine (decimalText n) :=
  isOneLine_of_integerLiteral (Toml.integerLiteral_decimalText n)

/-- Hexadecimal numbers have no line break. -/
theorem isOneLine_hexText (width n : Nat) : IsOneLine (hexText width n) :=
  isOneLine_of_integerLiteral (Toml.integerLiteral_hexText width n)

/-- The line that carries the time of writing has no line break. -/
theorem isOneLine_stampLine (written : Timestamp) : IsOneLine (stampLine written) := by
  have hintro : IsOneLine stampIntro := by decide
  have htext : IsOneLine written.text := by
    intro hbreak
    rcases Timestamp.mem_text hbreak with h | h <;> simp at h
  simp [stampLine, hintro, htext]

/-! ### The lines -/

/-- Whether no value of a transport has a line break. -/
def Transport.OneLine : Transport → Prop
  | .isotp interface txId rxId _ => IsOneLine interface ∧ IsOneLine txId ∧ IsOneLine rxId
  | .doip host _ logicalAddress _ => IsOneLine host ∧ IsOneLine logicalAddress

/-- Whether no value of a unit or of the settings that goes into its configuration has a line
    break. -/
structure Ecu.OneLine (ecu : Ecu) (settings : GeneratorSettings) : Prop where
  id : IsOneLine ecu.identity.id
  name : IsOneLine ecu.identity.name
  transport : ∀ transport, ecu.transport = some transport → transport.OneLine
  serverHost : IsOneLine settings.serverHost
  didStorePath : IsOneLine settings.didStorePath

/-- The table of a unit's transport, if it has one. -/
def Ecu.transportTables (ecu : Ecu) : List String :=
  match ecu.transport with
  | some transport => ["ecu." ++ ecu.identity.id ++ ".transport." ++ transport.kind.name]
  | none => []

/-- The tables that a configuration opens. -/
def Ecu.tables (ecu : Ecu) : List String :=
  ["server", "ecu." ++ ecu.identity.id] ++ ecu.transportTables ++ ["dids"]

variable {ecu : Ecu} {settings : GeneratorSettings}

/-- The lines of a transport's values open no table. -/
theorem Transport.opens_valueLines {transport : Transport} (h : transport.OneLine) :
    Opens transport.valueLines [] := by
  cases transport with
  | isotp interface txId rxId padding =>
    obtain ⟨hinterface, htx, hrx⟩ := h
    exact .assign (by decide) (by simp) (isOneLine_inQuotes hinterface)
      (.assign (by decide) (by simp) (isOneLine_inQuotes htx)
      (.assign (by decide) (by simp) (isOneLine_inQuotes hrx)
      (.assign (by decide) (by simp) (isOneLine_hexText _ _) .nil)))
  | doip host port logicalAddress sourceAddress =>
    obtain ⟨hhost, haddress⟩ := h
    exact .assign (by decide) (by simp) (isOneLine_inQuotes hhost)
      (.assign (by decide) (by simp) (isOneLine_decimalText _)
      (.assign (by decide) (by simp) haddress
      (.assign (by decide) (by simp) (isOneLine_hexText _ _) .nil)))

/-- The lines of a transport open its table. -/
theorem Ecu.opens_transportLines (h : ecu.OneLine settings) :
    Opens ecu.transportLines ecu.transportTables := by
  unfold Ecu.transportLines Ecu.transportTables
  cases htransport : ecu.transport with
  | none => exact .nil
  | some transport =>
    have hkind : IsOneLine transport.kind.name := by cases transport.kind <;> decide
    have hwords : IsOneLine "ecu." ∧ IsOneLine ".transport." := by decide
    exact (Transport.opens_valueLines (h.transport transport htransport)).header
      (by simp [h.id, hkind, hwords])

/-- The lines of the server open its table. -/
theorem opens_serverLines (h : ecu.OneLine settings) : Opens (serverLines settings) ["server"] :=
  .header (by decide)
    (.assign (by decide) (by simp) (isOneLine_inQuotes h.serverHost)
    (.assign (by decide) (by simp) (isOneLine_decimalText _) .nil))

/-- The lines of a unit open its table. -/
theorem Ecu.opens_identityLines (h : ecu.OneLine settings) :
    Opens ecu.identityLines ["ecu." ++ ecu.identity.id] := by
  have hwords : IsOneLine "ecu." ∧ IsOneLine "Auto-generated configuration for " := by decide
  exact .header (by simp [h.id, hwords])
    (.assign (by decide) (by simp) (isOneLine_inQuotes h.name)
    (.assign (by decide) (by simp) (by decide)
    (.assign (by decide) (by simp) (isOneLine_inQuotes (by simp [h.name, hwords])) .nil)))

/-- A header as a comment opens no table. -/
theorem Ecu.opens_hint (h : ecu.OneLine settings) (table : String) (htable : IsOneLine table)
    {lines tables : List String} (hlines : Opens lines tables) :
    Opens (("# " ++ headerLine ("ecu." ++ ecu.identity.id ++ table)) :: lines) tables := by
  have hwords : IsOneLine "# " ∧ IsOneLine "[" ∧ IsOneLine "ecu." ∧ IsOneLine "]" := by decide
  exact hlines.cons (by simp [headerLine, h.id, htable, hwords]) (by simp)

/-- The hints open no table. -/
theorem Ecu.opens_hintLines (h : ecu.OneLine settings) : Opens ecu.hintLines [] :=
  .cons (by decide) (by decide) (Ecu.opens_hint h ".timing" (by decide)
    (.cons (by decide) (by decide) (.cons (by decide) (by decide)
    (.blank (.cons (by decide) (by decide)
    (Ecu.opens_hint h ".security" (by decide)
    (.cons (by decide) (by decide) (.cons (by decide) (by decide) .nil))))))))

/-- The lines that name the definitions open their table. -/
theorem opens_storeLines (h : ecu.OneLine settings) : Opens (storeLines settings) ["dids"] :=
  .cons (by decide) (by decide) (.header (by decide)
    (.assign (by decide) (by simp) (isOneLine_inQuotes h.didStorePath) .nil))

/-- The lines of a configuration open the tables of one unit. -/
theorem Ecu.opens_documentLines (h : ecu.OneLine settings) (written : Timestamp) :
    Opens (ecu.documentLines settings written) ecu.tables := by
  have hblank : Opens [""] [] := .blank .nil
  have htitle : Opens ["# SOVD ECU Configuration", stampLine written] [] :=
    .cons (by decide) (by decide) (.cons (isOneLine_stampLine written)
      (by simp [stampLine, stampIntro]) .nil)
  have hbody := (((((((((hblank.append (opens_serverLines h)).append hblank).append
    (Ecu.opens_identityLines h)).append hblank).append (Ecu.opens_transportLines h)).append
    hblank).append (Ecu.opens_hintLines h)).append hblank).append (opens_storeLines h))
  simpa [Ecu.documentLines, Ecu.bodyLines, Ecu.tables] using htitle.append hbody

end SovdConfig
