import SovdConfig.Ecu.Document
import SovdConfig.Json.Decoder

namespace SovdConfig

/-!
# Discovery results

What a scan of a bus has found, and the configurations that follow from it.  Main definitions:

* `BusAddress`, `DiscoveredUnit`, `Discovery` — the result of a scan;
* `Discovery.ofJson` — the result that a JSON text holds;
* `Discovery.selected` — the units of the result, in scan order;
* `DiscoveredUnit.toEcu` — the unit that a discovered unit becomes;
* `Discovery.document` — the configurations of all selected units.

Every discovered unit is reached by segmented messages; whatever else the scan says of its
transport is not consulted.
-/

/-- The address of a unit as a scan reports it. -/
inductive BusAddress
  | text (s : String)
  | number (n : JsonNumber)
deriving DecidableEq, Repr

/-- The address as it is written down: text as it is, numbers as JSON writes them. -/
def BusAddress.toText : BusAddress → String
  | text s => s
  | number n => n.text

/-- One unit that answered. -/
structure DiscoveredUnit where
  vin : Option String := none
  txCanId : Option BusAddress := none
  rxCanId : Option BusAddress := none
deriving DecidableEq, Repr

/-- The result of a scan: the units, under either of two names. -/
structure Discovery where
  ecus : Option (List DiscoveredUnit) := none
  units : Option (List DiscoveredUnit) := none
deriving DecidableEq, Repr

/-! ### Reading -/

open Json (Decoder)
open Json.Decoder (field)

/-- The address that a value is: a text or a number. -/
def BusAddress.ofValue : Json → Except Mismatch BusAddress
  | .string s => .ok (.text s)
  | .number n => .ok (.number n)
  | _ => .error (.noAlternative "BusAddress")

/-- An address.  The whole value is read before it is judged. -/
def BusAddress.decoder : Decoder BusAddress where
  read depth cs := do
    let (v, rest) ← Json.readValue depth cs
    match ofValue v with
    | .ok a => .ok (a, rest)
    | .error m => .error (.unplaced m rest)
  ofValue := ofValue

/-- A discovered unit. -/
def DiscoveredUnit.decoder : Decoder DiscoveredUnit :=
  Decoder.record "DiscoveredUnit"
    [field "vin" (.optional .string) fun vin u => { u with vin },
     field "tx_can_id" (.optional BusAddress.decoder) fun txCanId u => { u with txCanId },
     field "rx_can_id" (.optional BusAddress.decoder) fun rxCanId u => { u with rxCanId }]
    {}

/-- The result of a scan. -/
def Discovery.decoder : Decoder Discovery :=
  Decoder.record "DiscoveryDocument"
    [field "ecus" (.optional (.list DiscoveredUnit.decoder)) fun ecus d => { d with ecus },
     field "units" (.optional (.list DiscoveredUnit.decoder)) fun units d => { d with units }]
    {}

/-- The result that a JSON text holds. -/
def Discovery.ofJson (text : String) : Except Json.TextError Discovery := decoder.ofText text

/-- The discovered unit that a JSON text holds. -/
def DiscoveredUnit.ofJson (text : String) : Except Json.TextError DiscoveredUnit :=
  decoder.ofText text

/-! ### Configurations -/

/-- How many characters of an identification number make a name. -/
def maxNameLength : Nat := 20

/-- What stands between two configurations. -/
def documentSeparator : String := "\n---\n"

/-- The units of the result in scan order: the first of the two lists that is there. -/
def Discovery.selected (d : Discovery) : List DiscoveredUnit :=
  (d.ecus <|> d.units).getD []

namespace DiscoveredUnit

/-- The name of the unit at a place: the start of its identification number, if it has one. -/
def displayName (u : DiscoveredUnit) (index : Nat) : String :=
  match u.vin with
  | some vin => String.ofList (vin.toList.take maxNameLength)
  | none => "ECU " ++ decimalText index

/-- The section key of the unit at a place. -/
def sectionId (index : Nat) : String := "ecu_" ++ decimalText index

/-- The identity of the unit at a place. -/
def identity (u : DiscoveredUnit) (index : Nat) : Identity where
  id := sectionId index
  name := u.displayName index
  txId := (u.txCanId.map BusAddress.toText).getD defaultTxId
  rxId := (u.rxCanId.map BusAddress.toText).getD defaultRxId

/-- The unit at a place of the scan. -/
def toEcu (u : DiscoveredUnit) (index : Nat) (settings : GeneratorSettings) : Ecu :=
  .ofKind (u.identity index) settings.interface (some .isotp) settings

end DiscoveredUnit

namespace Discovery

/-- The configurations of units, the first of them at the given place; each is written at its own
    clock reading. -/
def fragmentsFrom (settings : GeneratorSettings) (clock : Nat → Timestamp) (index : Nat) :
    List DiscoveredUnit → List String
  | [] => []
  | u :: us =>
    (u.toEcu index settings).document settings (clock index) ::
      fragmentsFrom settings clock (index + 1) us

/-- The configurations of the selected units, in scan order. -/
def fragments (d : Discovery) (settings : GeneratorSettings) (clock : Nat → Timestamp) :
    List String :=
  fragmentsFrom settings clock 0 d.selected

/-- The configurations of all selected units as one text; empty if there are none. -/
def document (d : Discovery) (settings : GeneratorSettings) (clock : Nat → Timestamp) : String :=
  documentSeparator.intercalate (d.fragments settings clock)

end Discovery

end SovdConfig
