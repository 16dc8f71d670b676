import SovdConfig.Ecu
import SovdConfig.Proofs.Toml.Section

namespace SovdConfig

/-!
# The table of a configuration

What the configuration of a unit is meant to say.  Main definitions:

* `Ecu.table` — the table of a unit, in which every value is a field of the unit or of the settings;
* `Ecu.statements` — the same as one header or assignment after the other.

Main statement: `Ecu.foldlM_statements`, the statements build the table.
-/

open Toml

/-! ### The table -/

/-- The fields of a transport.  A logical address is the integer that its text spells. -/
def Transport.members (address : Int) : Transport → List (String × Toml)
  | .isotp interface txId rxId padding =>
    [("interface", .string interface), ("tx_id", .string txId), ("rx_id", .string rxId),
     ("padding", .integer padding.toNat)]
  | .doip host port _ sourceAddress =>
    [("host", .string host), ("port", .integer port.toNat), ("logical_address", .integer address),
     ("source_address", .integer sourceAddress.toNat)]

/-- The fields of the server. -/
def serverMembers (settings : GeneratorSettings) : List (String × Toml) :=
  [("host", .string settings.serverHost), ("port", .integer settings.serverPort.toNat)]

/-- The fields of a unit apart from its transport. -/
def Ecu.identityMembers (ecu : Ecu) : List (String × Toml) :=
  [("name", .string ecu.identity.name), ("entity_type", .string "ecu"),
   ("description", .string ("Auto-generated configuration for " ++ ecu.identity.name))]

/-- The fields of the table that names the definitions. -/
def storeMembers (settings : GeneratorSettings) : List (String × Toml) :=
  [("store_path", .string settings.didStorePath)]

/-- The transport of a unit as a member of its table; none if there is no transport. -/
def Ecu.transportMembers (ecu : Ecu) (address : Int) : List (String × Toml) :=
  match ecu.transport with
  | some transport =>
    [("transport", .table [(transport.kind.name, .table (transport.members address))])]
  | none => []

/-- The table that the configuration of a unit is meant to be. -/
def Ecu.table (ecu : Ecu) (settings : GeneratorSettings) (address : Int) : List (String × Toml) :=
  [("server", .table (serverMembers settings)),
   ("ecu", .table
     [(ecu.identity.id, .table (ecu.identityMembers ++ ecu.transportMembers address))]),
   ("dids", .table (storeMembers settings))]

/-! ### Its statements -/

/-- What the lines of a transport's table say. -/
def Ecu.transportStatements (ecu : Ecu) (address : Int) : List Statement :=
  match ecu.transport with
  | some transport =>
    sectionOf ["ecu", ecu.identity.id, "transport", transport.kind.name]
      (transport.members address)
  | none => []

/-- What a configuration says, line by line. -/
def Ecu.statements (ecu : Ecu) (settings : GeneratorSettings) (address : Int) : List Statement :=
  sectionOf ["server"] (serverMembers settings) ++
    (sectionOf ["ecu", ecu.identity.id] ecu.identityMembers ++
      (ecu.transportStatements address ++ sectionOf ["dids"] (storeMembers settings)))

/-- The way to the server's table. -/
def serverFrames : List Frame := [⟨[], "server", .opened⟩]

/-- The tables once the server's is there. -/
def serverItems (settings : GeneratorSettings) : Items :=
  plug serverFrames (fields (serverMembers settings))

/-- The way to the table of a unit, below one that only its header names. -/
def Ecu.frames (ecu : Ecu) (settings : GeneratorSettings) : List Frame :=
  [⟨serverItems settings, "ecu", .implied⟩, ⟨[], ecu.identity.id, .opened⟩]

/-- The way to the table of a unit's transport. -/
def Ecu.transportFrames (ecu : Ecu) (settings : GeneratorSettings) (kind : TransportKind) :
    List Frame :=
  ecu.frames settings ++
    [⟨fields ecu.identityMembers, "transport", .implied⟩, ⟨[], kind.name, .opened⟩]

/-- The tables once a unit's is there, with its transport if it has one. -/
def Ecu.items (ecu : Ecu) (settings : GeneratorSettings) (address : Int) : Items :=
  match ecu.transport with
  | some transport =>
    plug (ecu.transportFrames settings transport.kind) (fields (transport.members address))
  | none => plug (ecu.frames settings) (fields ecu.identityMembers)

/-- The server's table is the first. -/
theorem foldlM_serverSection (settings : GeneratorSettings) :
    (sectionOf ["server"] (serverMembers settings)).foldlM Statement.extend? ⟨[], []⟩ =
      some ⟨["server"], serverItems settings⟩ := by
  refine foldlM_sectionOf serverFrames ?_ ?_ ?_
  · rfl
  · simp [serverFrames]
  · simp [serverMembers]

/-- The unit's own table follows it. -/
theorem Ecu.foldlM_identitySection (ecu : Ecu) (settings : GeneratorSettings)
    (header : List String) :
    (sectionOf ["ecu", ecu.identity.id] ecu.identityMembers).foldlM Statement.extend?
      ⟨header, serverItems settings⟩ =
        some ⟨["ecu", ecu.identity.id],
          plug (ecu.frames settings) (fields ecu.identityMembers)⟩ := by
  refine foldlM_sectionOf (ecu.frames settings) ?_ ?_ ?_
  · simp [Ecu.frames, serverItems, serverFrames, keysOf, plug, open?, opened?, setMember,
      List.lookup_cons]
  · simp [Ecu.frames, serverItems, serverFrames, plug]
  · simp [Ecu.identityMembers]

/-- The transport's table comes below the unit's, and nothing comes if there is no transport. -/
theorem Ecu.foldlM_transportStatements (ecu : Ecu) (settings : GeneratorSettings) (address : Int)
    (header : List String) :
    ∃ header', (ecu.transportStatements address).foldlM Statement.extend?
      ⟨header, plug (ecu.frames settings) (fields ecu.identityMembers)⟩ =
        some ⟨header', ecu.items settings address⟩ := by
  unfold Ecu.transportStatements Ecu.items
  -- the header that is left depends on whether there is a transport, and is replaced by the next
  cases ecu.transport with
  | none => exact ⟨header, rfl⟩
  | some transport =>
    refine ⟨_, foldlM_sectionOf (ecu.transportFrames settings transport.kind) ?_ ?_ ?_⟩
    · simp [Ecu.transportFrames, Ecu.frames, serverItems, serverFrames, keysOf, plug, open?,
        opened?, fields, Ecu.identityMembers, setMember, List.lookup_cons]
    · have hown : (fields ecu.identityMembers).lookup "transport" = none :=
        lookup_fields_eq_none (by simp [Ecu.identityMembers])
      simp [Ecu.transportFrames, Ecu.frames, serverItems, serverFrames, plug, hown,
        List.lookup_cons, -List.lookup_eq_none_iff]
    · cases transport <;> simp [Transport.members]

/-- The table that names the definitions is the last. -/
theorem Ecu.foldlM_storeSection (ecu : Ecu) (settings : GeneratorSettings) (address : Int)
    (header : List String) :
    (sectionOf ["dids"] (storeMembers settings)).foldlM Statement.extend?
      ⟨header, ecu.items settings address⟩ =
        some ⟨["dids"], ecu.items settings address ++
          [("dids", .table .opened (fields (storeMembers settings)))]⟩ := by
  have hnew : (ecu.items settings address).lookup "dids" = none := by
    unfold Ecu.items
    cases ecu.transport <;>
      simp [Ecu.transportFrames, Ecu.frames, serverItems, serverFrames, plug, List.lookup_cons]
  refine foldlM_sectionOf [⟨ecu.items settings address, "dids", .opened⟩] ?_ ?_ ?_
  · simp [keysOf, plug, open?, opened?, hnew, setMember_of_lookup_eq_none hnew]
  · simpa using hnew
  · simp [storeMembers]

/-- The finished tables are those of the configuration. -/
theorem Ecu.membersToToml_items (ecu : Ecu) (settings : GeneratorSettings) (address : Int) :
    membersToToml (ecu.items settings address ++
      [("dids", .table .opened (fields (storeMembers settings)))]) =
        ecu.table settings address := by
  unfold Ecu.items Ecu.table Ecu.transportMembers
  cases ecu.transport <;>
    simp [Ecu.transportFrames, Ecu.frames, serverItems, serverFrames, plug, membersToToml,
      Item.toToml]

/-- Applied one after the other, the statements build the table. -/
theorem Ecu.foldlM_statements (ecu : Ecu) (settings : GeneratorSettings) (address : Int) :
    ((ecu.statements settings address).foldlM Statement.extend? ⟨[], []⟩).map
      (fun draft => membersToToml draft.items) = some (ecu.table settings address) := by
  obtain ⟨header, htransport⟩ :=
    ecu.foldlM_transportStatements settings address ["ecu", ecu.identity.id]
  simp only [Ecu.statements, List.foldlM_append, foldlM_serverSection, Option.bind_eq_bind,
    Option.bind_some, Ecu.foldlM_identitySection, htransport, Ecu.foldlM_storeSection,
    Option.map_some, Ecu.membersToToml_items]

end SovdConfig
