import SovdConfig.Ecu
import SovdConfig.Log.Record
import SovdConfig.Timestamp

namespace SovdConfig

/-!
# Configuration documents

The configuration of one unit as text.  Main definitions:

* `Ecu.documentLines` — its lines;
* `Ecu.document` — the text, each line closed by a line break.

Values are interpolated as they are: a quote or a line break in a name is not escaped.  Only the
second line depends on the time of writing.
-/

/-- The start of the line that carries the time of writing. -/
def stampIntro : String := "# Generated: "

/-- Lines as a text; each is closed by a line break. -/
def unlines (lines : List String) : String :=
  String.join (lines.map (· ++ "\n"))

/-- The lines of two texts that follow one another. -/
theorem unlines_append (lines more : List String) :
    unlines (lines ++ more) = unlines lines ++ unlines more := by
  simp [unlines]

/-- The characters of a text are those of its lines, each with its line break. -/
theorem toList_unlines (lines : List String) :
    (unlines lines).toList = (lines.map String.toList).flatMap (· ++ ['\n']) := by
  simp [unlines, List.flatMap_map]

/-- A value between quotes. -/
def inQuotes (value : String) : String := "\"" ++ value ++ "\""

/-- A line that gives a key its value. -/
def assignLine (key value : String) : String := key ++ " = " ++ value

/-- A line that opens a table. -/
def headerLine (table : String) : String := "[" ++ table ++ "]"

/-- The line that carries the time of writing. -/
def stampLine (written : Timestamp) : String := stampIntro ++ written.text

/-- The lines of a transport's values. -/
def Transport.valueLines : Transport → List String
  | .isotp interface txId rxId padding =>
    [assignLine "interface" (inQuotes interface),
     assignLine "tx_id" (inQuotes txId),
     assignLine "rx_id" (inQuotes rxId),
     assignLine "padding" (hexText 2 padding.toNat)]
  | .doip host port logicalAddress sourceAddress =>
    [assignLine "host" (inQuotes host),
     assignLine "port" (decimalText port.toNat),
     assignLine "logical_address" logicalAddress,
     assignLine "source_address" (hexText 4 sourceAddress.toNat)]

/-- The lines of a transport's table; none if there is no transport. -/
def Ecu.transportLines (ecu : Ecu) : List String :=
  match ecu.transport with
  | some transport =>
    headerLine ("ecu." ++ ecu.identity.id ++ ".transport." ++ transport.kind.name) ::
      transport.valueLines
  | none => []

/-- The lines of the server's table. -/
def serverLines (settings : GeneratorSettings) : List String :=
  [headerLine "server",
   assignLine "host" (inQuotes settings.serverHost),
   assignLine "port" (decimalText settings.serverPort.toNat)]

/-- The lines of the unit's own table. -/
def Ecu.identityLines (ecu : Ecu) : List String :=
  [headerLine ("ecu." ++ ecu.identity.id),
   assignLine "name" (inQuotes ecu.identity.name),
   assignLine "entity_type" (inQuotes "ecu"),
   assignLine "description"
     (inQuotes ("Auto-generated configuration for " ++ ecu.identity.name))]

/-- The lines that show, as comments, what else a unit can be given. -/
def Ecu.hintLines (ecu : Ecu) : List String :=
  ["# Session timing (optional overrides)",
   "# " ++ headerLine ("ecu." ++ ecu.identity.id ++ ".timing"),
   "# p2_timeout_ms = 50",
   "# p2_star_timeout_ms = 5000",
   "",
   "# Security configuration (optional)",
   "# " ++ headerLine ("ecu." ++ ecu.identity.id ++ ".security"),
   "# algorithm = \"xor\"",
   "# secret = [0x12, 0x34, 0x56, 0x78]"]

/-- The lines of the table that names the definitions. -/
def storeLines (settings : GeneratorSettings) : List String :=
  ["# DID store path",
   headerLine "dids",
   assignLine "store_path" (inQuotes settings.didStorePath)]

/-- The lines after the stamp. -/
def Ecu.bodyLines (ecu : Ecu) (settings : GeneratorSettings) : List String :=
  [""] ++ serverLines settings ++ [""] ++ ecu.identityLines ++ [""] ++ ecu.transportLines ++
    [""] ++ ecu.hintLines ++ [""] ++ storeLines settings

/-- All lines of a unit's configuration. -/
def Ecu.documentLines (ecu : Ecu) (settings : GeneratorSettings) (written : Timestamp) :
    List String :=
  ["# SOVD ECU Configuration", stampLine written] ++ ecu.bodyLines settings

/-- The configuration of a unit, written at the given time. -/
def Ecu.document (ecu : Ecu) (settings : GeneratorSettings) (written : Timestamp) : String :=
  unlines (ecu.documentLines settings written)

/-- What is logged when a unit is written: that its transport is missing. -/
def Ecu.documentLog (ecu : Ecu) : List LogRecord :=
  match ecu.transport with
  | some _ => []
  | none =>
    [⟨.debug, "ecucfg_core::render",
      "unit " ++ ecu.identity.id ++ " has no supported transport, omitting transport block"⟩]

end SovdConfig
