import SovdConfig.Discovery
import SovdConfig.Proofs.Attempt
import SovdConfig.Proofs.Json.Decoding

namespace SovdConfig

/-!
# The shape of discovery results

Which JSON values are results of a scan, and what is made of them.  Main definitions:

* `PartsShape`, `part` — the parts of a record, by name or by place, a missing part being `null`;
* `TextShape`, `AddressShape`, `UnitShape`, `UnitsShape`, `DiscoveryShape` — the values that are
  accepted, and what each of them stands for;
* `SelectedShape` — the values of the units that are selected.

Main statements:

* `Discovery.ofJson_eq_ok_iff` — a text is accepted exactly if its value has the shape, as the
  result that the value stands for;
* `Discovery.ofJson_faithful` — and its selected units become the units that the value says.
-/

open Json (Tree TextDenotes nestingLimit)
open Json.Decoder (Reads Matches)

/-! ### Values that are accepted -/

/-- The parts of a record with the given names: the members of an object, none of the names
    occurring twice, or the items of a list that is not too long, in the order of the names. -/
inductive PartsShape (names : List String) : Tree → List (String × Tree) → Prop
  | object {members : List (String × Tree)} :
    (∀ name ∈ names, (members.map Prod.fst).count name ≤ 1) →
      PartsShape names (.object members) members
  | array {items : List Tree} :
    items.length ≤ names.length → PartsShape names (.array items) (names.zip items)

/-- The part under a name; a missing part is `null`. -/
def part (parts : List (String × Tree)) (name : String) : Tree := (parts.lookup name).getD .null

/-- A text, or nothing. -/
inductive TextShape : Tree → Option String → Prop
  | null : TextShape .null none
  | text (s : String) : TextShape (.string s) (some s)

/-- An address: a text, a number that has a finite value, or nothing. -/
inductive AddressShape : Tree → Option BusAddress → Prop
  | null : AddressShape .null none
  | text (s : String) : AddressShape (.string s) (some (.text s))
  | number {l : Json.Literal} {n : JsonNumber} :
    l.number? = some n → AddressShape (.number l) (some (.number n))

/-- A discovered unit. -/
inductive UnitShape (v : Tree) (u : DiscoveredUnit) : Prop
  | parts {parts : List (String × Tree)} :
    PartsShape ["vin", "tx_can_id", "rx_can_id"] v parts → TextShape (part parts "vin") u.vin →
      AddressShape (part parts "tx_can_id") u.txCanId →
        AddressShape (part parts "rx_can_id") u.rxCanId → UnitShape v u

/-- A list of discovered units, or nothing. -/
inductive UnitsShape : Tree → Option (List DiscoveredUnit) → Prop
  | null : UnitsShape .null none
  | array {items : List Tree} {us : List DiscoveredUnit} :
    List.Forall₂ UnitShape items us → UnitsShape (.array items) (some us)

/-- The result of a scan.  Both lists must be valid, though only one is used. -/
inductive DiscoveryShape (v : Tree) (d : Discovery) : Prop
  | parts {parts : List (String × Tree)} :
    PartsShape ["ecus", "units"] v parts → UnitsShape (part parts "ecus") d.ecus →
      UnitsShape (part parts "units") d.units → DiscoveryShape v d

/-- The values of the units that are selected: those of the first list if it is there, otherwise
    those of the second, otherwise none. -/
inductive SelectedShape (v : Tree) (items : List Tree) : Prop
  | ecus {parts : List (String × Tree)} :
    PartsShape ["ecus", "units"] v parts → part parts "ecus" = .array items → SelectedShape v items
  | units {parts : List (String × Tree)} :
    PartsShape ["ecus", "units"] v parts → part parts "ecus" = .null →
      part parts "units" = .array items → SelectedShape v items
  | none {parts : List (String × Tree)} :
    PartsShape ["ecus", "units"] v parts → part parts "ecus" = .null →
      part parts "units" = .null → items = [] → SelectedShape v items

/-! ### Parts -/

section

variable {names : List String} {v : Tree} {parts : List (String × Tree)}

/-- The parts of a value are those that a record is filled with. -/
theorem partsShape_iff : PartsShape names v parts ↔ v.parts? names = some parts := by
  constructor
  · rintro (h | h)
    · simpa [Tree.parts?] using h
    · simp [Tree.parts?, h]
  · intro h
    cases v with
    | object members =>
      simp only [Tree.parts?, Option.ite_none_right_eq_some, Option.some.injEq] at h
      obtain ⟨honce, rfl⟩ := h
      exact .object honce
    | array items =>
      simp only [Tree.parts?, Option.ite_none_right_eq_some, Option.some.injEq] at h
      obtain ⟨hlength, rfl⟩ := h
      exact .array hlength
    | _ => simp [Tree.parts?] at h

/-- Items in the order of names have names in that order. -/
theorem map_fst_zip_sublist {α β : Type} (as : List α) (bs : List β) :
    ((as.zip bs).map Prod.fst).Sublist as := by
  induction as generalizing bs with
  | nil => simp
  | cons a as ih =>
    cases bs with
    | nil => simp
    | cons b bs => simpa using ih bs

/-- No name occurs twice among the parts of a record. -/
theorem PartsShape.count_le (h : PartsShape names v parts) (hnodup : names.Nodup) {name : String}
    (hname : name ∈ names) : (parts.map Prod.fst).count name ≤ 1 := by
  cases h with
  | object h => exact h name hname
  | @array items h =>
    exact List.nodup_iff_count_le_one.1 (hnodup.sublist (map_fst_zip_sublist names items)) name

/-- What a part that may be missing gives, a missing part being `null`. -/
theorem gives_asOptional?_iff {α : Type} {sem : Tree → Option α} {name : String} {a : Option α} :
    Gives (parts.lookup name) (Tree.asOptional? sem) none a ↔
      Tree.asOptional? sem (part parts name) = some a := by
  unfold Gives part
  cases parts.lookup name with
  | none => simp [Tree.asOptional?, eq_comm]
  | some d => rfl

end

/-! ### Discovered units -/

/-- The address that a value is. -/
def Json.Tree.asAddress? : Tree → Option BusAddress
  | .string s => some (.text s)
  | .number l => l.number?.map .number
  | _ => none

/-- An address is read, and nothing else. -/
theorem BusAddress.decoder_reads : decoder.Reads Tree.asAddress? := by
  intro cs v depth hcs hdepth blank rest hblank hrest
  have hread := Json.readValue_append hcs depth hdepth blank rest hblank hrest
  simp only [decoder, toOption_bind, hread]
  cases v with
  | number l =>
    simp only [Tree.toJson?, Tree.asAddress?]
    cases l.number? <;> rfl
  | array items =>
    simp only [Tree.toJson?, Tree.asAddress?]
    cases Tree.toJsonAll? items <;> rfl
  | object members =>
    simp only [Tree.toJson?, Tree.asAddress?]
    cases Tree.toJsonMembers? members <;> rfl
  | _ => rfl

/-- What is read into the fields of a unit. -/
def unitSlots : List (Slot Tree DiscoveredUnit) :=
  [.ofField "vin" (Tree.asOptional? Tree.asString?) fun vin u => { u with vin },
   .ofField "tx_can_id" (Tree.asOptional? Tree.asAddress?) fun txCanId u => { u with txCanId },
   .ofField "rx_can_id" (Tree.asOptional? Tree.asAddress?) fun rxCanId u => { u with rxCanId }]

/-- A unit is read from its fields. -/
theorem DiscoveredUnit.decoder_reads : decoder.Reads (Tree.asRecord? unitSlots {}) := by
  have hvin := Json.Decoder.optional_reads Json.Decoder.string_reads
  have haddress := Json.Decoder.optional_reads BusAddress.decoder_reads
  have hfields : Matches _ unitSlots :=
    .cons (Json.Decoder.field_matches hvin _ _) <|
      .cons (Json.Decoder.field_matches haddress _ _) <|
        .cons (Json.Decoder.field_matches haddress _ _) .nil
  exact Json.Decoder.record_reads hfields (by simp [unitSlots]) (by decide) _ _

/-- A text may be missing. -/
theorem textShape_iff {v : Tree} {s : Option String} :
    Tree.asOptional? Tree.asString? v = some s ↔ TextShape v s := by
  constructor
  · intro h
    cases v with
    | null => cases h; exact .null
    | string t => cases h; exact .text t
    | _ => simp [Tree.asOptional?, Tree.asString?] at h
  · rintro (_ | _) <;> rfl

/-- An address may be missing. -/
theorem addressShape_iff {v : Tree} {a : Option BusAddress} :
    Tree.asOptional? Tree.asAddress? v = some a ↔ AddressShape v a := by
  constructor
  · intro h
    cases v with
    | null => cases h; exact .null
    | string t => cases h; exact .text t
    | number l =>
      obtain ⟨b, hb, rfl⟩ := Option.map_eq_some_iff.1 h
      obtain ⟨n, hn, rfl⟩ := Option.map_eq_some_iff.1 hb
      exact .number hn
    | _ => simp [Tree.asOptional?, Tree.asAddress?] at h
  · rintro (_ | _ | h)
    · rfl
    · rfl
    · simp [Tree.asOptional?, Tree.asAddress?, h]

/-- Whether the fields of a unit are given by its parts. -/
structure UnitGiven (parts : List (String × Tree)) (u : DiscoveredUnit) : Prop where
  vin : Gives (parts.lookup "vin") (Tree.asOptional? Tree.asString?) none u.vin
  txCanId : Gives (parts.lookup "tx_can_id") (Tree.asOptional? Tree.asAddress?) none u.txCanId
  rxCanId : Gives (parts.lookup "rx_can_id") (Tree.asOptional? Tree.asAddress?) none u.rxCanId

/-- A unit is filled with what its parts give. -/
theorem fill_unitSlots_iff {parts : List (String × Tree)} {u : DiscoveredUnit}
    (hcount : ∀ name ∈ ["vin", "tx_can_id", "rx_can_id"], (parts.map Prod.fst).count name ≤ 1) :
    fill unitSlots parts {} = some u ↔ UnitGiven parts u := by
  simp only [List.forall_mem_cons] at hcount
  obtain ⟨hvin, htx, hrx, -⟩ := hcount
  refine fill_eq_some_iff (fun t ht => ⟨?_, ?_, ?_⟩) (fun t u ht hu => ?_) fun hu => ?_
  · exact fill_given DiscoveredUnit.vin rfl (fun _ _ => rfl) (by simp [unitSlots]) hvin ht
  · exact fill_given DiscoveredUnit.txCanId rfl (fun _ _ => rfl) (by simp [unitSlots]) htx ht
  · exact fill_given DiscoveredUnit.rxCanId rfl (fun _ _ => rfl) (by simp [unitSlots]) hrx ht
  · cases t
    cases u
    simpa using ⟨ht.vin.unique hu.vin, ht.txCanId.unique hu.txCanId, ht.rxCanId.unique hu.rxCanId⟩
  · simp only [unitSlots, List.forall_mem_cons]
    exact ⟨hu.vin.isSome_read hvin _, hu.txCanId.isSome_read htx _, hu.rxCanId.isSome_read hrx _,
      by simp⟩

/-- A value is read as a unit exactly if it has the shape of that unit. -/
theorem unitShape_iff {v : Tree} {u : DiscoveredUnit} :
    Tree.asRecord? unitSlots {} v = some u ↔ UnitShape v u := by
  rw [Tree.asRecord?, Option.bind_eq_some_iff]
  simp only [show unitSlots.map Slot.key = ["vin", "tx_can_id", "rx_can_id"] from rfl,
    ← partsShape_iff]
  constructor
  · rintro ⟨parts, hparts, hfill⟩
    obtain ⟨hvin, htx, hrx⟩ :=
      (fill_unitSlots_iff fun name hname => hparts.count_le (by decide) hname).1 hfill
    simp only [gives_asOptional?_iff, textShape_iff, addressShape_iff] at hvin htx hrx
    exact .parts hparts hvin htx hrx
  · rintro ⟨hparts, hvin, htx, hrx⟩
    simp only [← textShape_iff, ← addressShape_iff, ← gives_asOptional?_iff] at hvin htx hrx
    exact ⟨_, hparts, (fill_unitSlots_iff fun name hname =>
      hparts.count_le (by decide) hname).2 ⟨hvin, htx, hrx⟩⟩

/-! ### Results of scans -/

/-- What is read into the fields of a result. -/
def discoverySlots : List (Slot Tree Discovery) :=
  let units := Tree.asOptional? (Tree.asList? (Tree.asRecord? unitSlots {}))
  [.ofField "ecus" units fun ecus d => { d with ecus },
   .ofField "units" units fun units d => { d with units }]

/-- A result is read from its fields. -/
theorem Discovery.decoder_reads : decoder.Reads (Tree.asRecord? discoverySlots {}) := by
  have hunits := Json.Decoder.optional_reads
    (Json.Decoder.list_reads DiscoveredUnit.decoder_reads)
  have hfields : Matches _ discoverySlots :=
    .cons (Json.Decoder.field_matches hunits _ _) <|
      .cons (Json.Decoder.field_matches hunits _ _) .nil
  exact Json.Decoder.record_reads hfields (by simp [discoverySlots]) (by decide) _ _

/-- A list of units may be missing. -/
theorem unitsShape_iff {v : Tree} {us : Option (List DiscoveredUnit)} :
    Tree.asOptional? (Tree.asList? (Tree.asRecord? unitSlots {})) v = some us ↔
      UnitsShape v us := by
  constructor
  · intro h
    cases v with
    | null => cases h; exact .null
    | array items =>
      obtain ⟨us, hus, rfl⟩ := Option.map_eq_some_iff.1 h
      exact .array ((mapM_eq_some_iff fun _ _ => unitShape_iff).1 hus)
    | _ => simp [Tree.asOptional?, Tree.asList?] at h
  · rintro (_ | h)
    · rfl
    · have hus := (mapM_eq_some_iff fun _ _ => unitShape_iff).2 h
      simp [Tree.asOptional?, Tree.asList?, hus]

/-- Whether the lists of a result are given by its parts. -/
structure DiscoveryGiven (parts : List (String × Tree)) (d : Discovery) : Prop where
  ecus : Gives (parts.lookup "ecus")
    (Tree.asOptional? (Tree.asList? (Tree.asRecord? unitSlots {}))) none d.ecus
  units : Gives (parts.lookup "units")
    (Tree.asOptional? (Tree.asList? (Tree.asRecord? unitSlots {}))) none d.units

/-- A result is filled with what its parts give. -/
theorem fill_discoverySlots_iff {parts : List (String × Tree)} {d : Discovery}
    (hcount : ∀ name ∈ ["ecus", "units"], (parts.map Prod.fst).count name ≤ 1) :
    fill discoverySlots parts {} = some d ↔ DiscoveryGiven parts d := by
  simp only [List.forall_mem_cons] at hcount
  obtain ⟨hecus, hunits, -⟩ := hcount
  refine fill_eq_some_iff (fun t ht => ⟨?_, ?_⟩) (fun t u ht hu => ?_) fun hu => ?_
  · exact fill_given Discovery.ecus rfl (fun _ _ => rfl) (by simp [discoverySlots]) hecus ht
  · exact fill_given Discovery.units rfl (fun _ _ => rfl) (by simp [discoverySlots]) hunits ht
  · cases t
    cases u
    simpa using ⟨ht.ecus.unique hu.ecus, ht.units.unique hu.units⟩
  · simp only [discoverySlots, List.forall_mem_cons]
    exact ⟨hu.ecus.isSome_read hecus _, hu.units.isSome_read hunits _, by simp⟩

/-- A value is read as a result exactly if it has the shape of that result. -/
theorem discoveryShape_iff {v : Tree} {d : Discovery} :
    Tree.asRecord? discoverySlots {} v = some d ↔ DiscoveryShape v d := by
  rw [Tree.asRecord?, Option.bind_eq_some_iff]
  simp only [show discoverySlots.map Slot.key = ["ecus", "units"] from rfl, ← partsShape_iff]
  constructor
  · rintro ⟨parts, hparts, hfill⟩
    obtain ⟨hecus, hunits⟩ :=
      (fill_discoverySlots_iff fun name hname => hparts.count_le (by decide) hname).1 hfill
    simp only [gives_asOptional?_iff, unitsShape_iff] at hecus hunits
    exact .parts hparts hecus hunits
  · rintro ⟨hparts, hecus, hunits⟩
    simp only [← unitsShape_iff, ← gives_asOptional?_iff] at hecus hunits
    exact ⟨_, hparts, (fill_discoverySlots_iff fun name hname =>
      hparts.count_le (by decide) hname).2 ⟨hecus, hunits⟩⟩

/-- A text is accepted as a result exactly if its value has the shape of that result. -/
theorem Discovery.ofJson_eq_ok_iff {text : String} {v : Tree} (htext : TextDenotes text v)
    (hdepth : v.depth < nestingLimit) (d : Discovery) :
    ofJson text = .ok d ↔ DiscoveryShape v d := by
  rw [← discoveryShape_iff, ← Json.Decoder.toOption_ofText decoder_reads htext hdepth,
    toOption_eq_some_iff]
  rfl

/-! ### Selected units -/

/-- The values of the selected units are found among the parts of a result. -/
theorem DiscoveryShape.selected {v : Tree} {d : Discovery} (h : DiscoveryShape v d) :
    ∃ items, SelectedShape v items ∧ List.Forall₂ UnitShape items d.selected := by
  obtain ⟨hparts, hecus, hunits⟩ := h
  rw [Discovery.selected]
  revert hecus hunits
  generalize d.ecus = ecus, d.units = units
  intro hecus hunits
  generalize hfirst : part _ "ecus" = first at hecus
  generalize hsecond : part _ "units" = second at hunits
  -- the second list counts only where there is no first one
  cases hecus with
  | @array items us hus => exact ⟨items, .ecus hparts hfirst, hus⟩
  | null =>
    cases hunits with
    | @array items us hus => exact ⟨items, .units hparts hfirst hsecond, hus⟩
    | null => exact ⟨[], .none hparts hfirst hsecond rfl, .nil⟩

/-- The text of an address, or the default of a unit that names none. -/
theorem BusAddress.getD_toText (a : Option BusAddress) (default : String) :
    (a.map BusAddress.toText).getD default =
      match a with
      | some (.text s) => s
      | some (.number n) => n.text
      | none => default := by
  rcases a with - | (s | n) <;> rfl

/-- Discovery results are read faithfully.  A text is accepted exactly if its value has the shape of
    a result; the selected units are those of the first list that is there, in their order; and each
    of them becomes a unit with the section key of its place, the start of its identification number
    as its name, its addresses as text, and segmented messages on the bus of the settings. -/
theorem Discovery.ofJson_faithful {text : String} {v : Tree} (htext : TextDenotes text v)
    (hdepth : v.depth < nestingLimit) :
    (∀ d, ofJson text = .ok d ↔ DiscoveryShape v d) ∧
      ∀ d, ofJson text = .ok d →
        (∃ items, SelectedShape v items ∧ List.Forall₂ UnitShape items d.selected) ∧
        ∀ (i : Nat) (u : DiscoveredUnit) (settings : GeneratorSettings), d.selected[i]? = some u →
          let address (a : Option BusAddress) (default : String) : String :=
            match a with
            | some (.text s) => s
            | some (.number n) => n.text
            | none => default
          u.toEcu i settings =
            { identity :=
                { id := "ecu_" ++ decimalText i
                  name := match u.vin with
                    | some vin => String.ofList (vin.toList.take 20)
                    | none => "ECU " ++ decimalText i
                  txId := address u.txCanId "0x7E0"
                  rxId := address u.rxCanId "0x7E8" }
              transport := some (.isotp settings.interface (address u.txCanId "0x7E0")
                (address u.rxCanId "0x7E8") settings.isotpPadding) } := by
  refine ⟨ofJson_eq_ok_iff htext hdepth, fun d hd => ⟨?_, fun i u settings _ => ?_⟩⟩
  · exact ((ofJson_eq_ok_iff htext hdepth d).1 hd).selected
  · simp only [DiscoveredUnit.toEcu, Ecu.ofKind, DiscoveredUnit.identity, Option.map_some,
      Transport.ofKind, BusAddress.getD_toText, defaultTxId, defaultRxId]
    rfl

/-- The result of a scan with one unit, written as lists in a list. -/
theorem Discovery.ofJson_faithful_list :
    ofJson "\x7b\"units\":[[\"A\",2016]]\x7d" =
      .ok { units := some [{ vin := some "A", txCanId := some (.number (.integer 2016)) }] } := by
  have hblank : Json.IsBlankText [] := by simp [Json.IsBlankText]
  have hvin : Json.Denotes ['"', 'A', '"'] (.string "A") :=
    @Json.Denotes.string ['A'] ['A'] (.plain (by decide))
  have hnumber :
      Json.Denotes ['2', '0', '1', '6'] (.number ⟨false, ['2', '0', '1', '6'], [], none⟩) :=
    .number (@Json.NumberText.mk false ['2', '0', '1', '6'] [] [] [] none
      ⟨by simp, by simp⟩ (by simp) .none .none)
  have hunit := Json.Denotes.array
    (.some hblank hvin (.more hblank hblank hnumber (.done hblank)))
  have hunits := Json.Denotes.array (.some hblank hunit (.done hblank))
  have hname : Json.StringText ['u', 'n', 'i', 't', 's'] ['u', 'n', 'i', 't', 's'] :=
    .plain (by decide)
  have hvalue := Json.Denotes.object
    (.some hblank (.mk hname hblank hblank hunits) (.done hblank))
  refine ((ofJson_faithful ⟨[], _, [], rfl, hblank, hblank, hvalue⟩ (by decide)).1 _).2 ?_
  exact .parts (.object (by decide)) .null
    (.array (.cons (.parts (.array (by decide)) (.text "A") (.number rfl) .null) .nil))

end SovdConfig
