import SovdConfig.Settings.Basic
import SovdConfig.Text.Lowercase

namespace SovdConfig

/-!
# Control units

What is known of one control unit before it is written down.  Main definitions:

* `Identity` — the names and addresses of a unit;
* `Identity.deriveId` — the section key that a display name gives;
* `TransportKind`, `Transport` — how the unit is reached;
* `Ecu` — an identity and, if it is supported, a transport.

Addresses, interfaces and names are kept as they are given; nothing here judges them.
-/

/-- The request address of a unit that names none. -/
def defaultTxId : String := "0x7E0"

/-- The response address of a unit that names none. -/
def defaultRxId : String := "0x7E8"

/-- The section key, the display name and the addresses of a unit. -/
structure Identity where
  id : String
  name : String
  txId : String
  rxId : String
deriving DecidableEq, Repr

/-- Blanks and hyphens become underscores. -/
def Identity.joinWords (c : Char) : Char := if c = ' ' ∨ c = '-' then '_' else c

/-- The section key of a display name: lower-case, with underscores for blanks and hyphens. -/
def Identity.deriveId (name : String) : String :=
  (Text.lowercase name).map joinWords

/-- An identity whose section key is derived from the name. -/
def Identity.ofName (name txId rxId : String) : Identity :=
  ⟨deriveId name, name, txId, rxId⟩

/-- The supported ways to reach a unit. -/
inductive TransportKind
  | isotp
  | doip
deriving DecidableEq, Repr

instance : Inhabited TransportKind := ⟨.isotp⟩

namespace TransportKind

/-- All kinds. -/
def all : List TransportKind := [.isotp, .doip]

/-- The key of a kind's table. -/
def name : TransportKind → String
  | isotp => "isotp"
  | doip => "doip"

/-- The kind of a name, if there is one. -/
def ofName? (text : String) : Option TransportKind := all.find? (·.name = text)

/-- A kind is found by its name. -/
theorem ofName?_name (kind : TransportKind) : ofName? kind.name = some kind := by
  cases kind <;> decide

end TransportKind

/-- The transport parameters of a unit. -/
inductive Transport
  /-- Segmented messages on a CAN bus. -/
  | isotp (interface txId rxId : String) (padding : UInt8)
  /-- Diagnostics over IP, through a gateway. -/
  | doip (host : String) (port : UInt16) (logicalAddress : String) (sourceAddress : UInt16)
deriving DecidableEq, Repr

namespace Transport

/-- The kind of a transport. -/
def kind : Transport → TransportKind
  | isotp .. => .isotp
  | doip .. => .doip

/-- The transport of a kind for a unit: fixed values come from the settings; over IP the interface
    names the gateway and the request address is the logical address. -/
def ofKind (identity : Identity) (interface : String) (settings : GeneratorSettings) :
    TransportKind → Transport
  | .isotp => .isotp interface identity.txId identity.rxId settings.isotpPadding
  | .doip => .doip interface settings.doipPort identity.txId settings.doipSourceAddress

/-- The transport of a kind is of that kind. -/
theorem kind_ofKind (identity : Identity) (interface : String) (settings : GeneratorSettings)
    (k : TransportKind) : (ofKind identity interface settings k).kind = k := by
  cases k <;> rfl

end Transport

/-- All that is written down for one unit; the transport is missing if its kind is not
    supported. -/
structure Ecu where
  identity : Identity
  transport : Option Transport
deriving DecidableEq, Repr

/-- The unit that is reached by the transport of the given kind. -/
def Ecu.ofKind (identity : Identity) (interface : String) (kind : Option TransportKind)
    (settings : GeneratorSettings) : Ecu :=
  ⟨identity, kind.map (Transport.ofKind identity interface settings)⟩

end SovdConfig
