import SovdConfig.Proofs.Ecu.Lines
import SovdConfig.Proofs.Timestamp

namespace SovdConfig

/-!
# Different units have different configurations

Values are interpolated as they are, and still a configuration says all that went into it: no value
without a line break, whatever quotes, brackets or marks are in it, can pass for another value or
for a line of its own.  Main statements:

* `Transport.eq_of_valueLines` — the values of a transport are found in their lines;
* `Ecu.documentLines_eq_iff` — so is everything in the lines of a configuration;
* `Ecu.document_eq_iff` — and in its text.
-/

open Text

/-! ### Values -/

/-- Quotes do not hide what is between them. -/
theorem inQuotes_inj {value value' : String} :
    inQuotes value = inQuotes value' ↔ value = value' := by
  simp [inQuotes]

/-- Of two assignments to a key, the values are compared. -/
theorem assignLine_inj {key value value' : String} :
    assignLine key value = assignLine key value' ↔ value = value' := by
  simp [assignLine]

/-- A literal denotes one integer of 64 bits at most. -/
theorem Toml.IntegerLiteral.unique {cs : List Char} {m n : Int} (hm : IntegerLiteral cs m)
    (hn : IntegerLiteral cs n) (hfits : fitsSigned 64 m) (hfits' : fitsSigned 64 n) : m = n := by
  have hread := scalar?_of_integerLiteral hm hfits
  rw [scalar?_of_integerLiteral hn hfits'] at hread
  exact (Toml.integer.inj (Option.some.inj hread)).symm

/-- Different numbers of less than 64 bits differ in hexadecimal. -/
theorem hexText_inj {width m n : Nat} (hm : fitsSigned 64 m) (hn : fitsSigned 64 n) :
    hexText width m = hexText width n ↔ m = n := by
  refine ⟨fun h => ?_, fun h => by rw [h]⟩
  have hliteral := Toml.integerLiteral_hexText width m
  rw [h] at hliteral
  exact Int.ofNat_inj.1 (hliteral.unique (Toml.integerLiteral_hexText width n) hm hn)

/-- Times that agree down to the microsecond have one line. -/
theorem stampLine_inj {written written' : Timestamp} :
    stampLine written = stampLine written' ↔
      written.year = written'.year ∧ written.numbers = written'.numbers := by
  rw [← Timestamp.text_eq_iff]
  simp [stampLine]

/-! ### Transports -/

/-- The values of a transport of a known kind are found in their lines. -/
theorem Transport.eq_of_valueLines {transport transport' : Transport}
    (hkind : transport.kind = transport'.kind)
    (h : transport.valueLines = transport'.valueLines) : transport = transport' := by
  have hbyte (b : UInt8) : fitsSigned 64 b.toNat :=
    fitsSigned_of_lt (Nat.lt_trans b.toNat_lt (by decide))
  have hword (w : UInt16) : fitsSigned 64 w.toNat := fitsSigned_of_lt w.toNat_lt
  cases transport with
  | isotp interface txId rxId padding =>
    cases transport' with
    | doip => cases hkind
    | isotp interface' txId' rxId' padding' =>
      simp only [valueLines, List.cons.injEq, assignLine_inj, inQuotes_inj,
        hexText_inj (hbyte _) (hbyte _), UInt8.toNat_inj, and_true] at h
      obtain ⟨rfl, rfl, rfl, rfl⟩ := h
      rfl
  | doip host port address source =>
    cases transport' with
    | isotp => cases hkind
    | doip host' port' address' source' =>
      simp only [valueLines, List.cons.injEq, assignLine_inj, inQuotes_inj, decimalText_inj,
        hexText_inj (hword _) (hword _), UInt16.toNat_inj, and_true] at h
      obtain ⟨rfl, rfl, rfl, rfl⟩ := h
      rfl

/-- Kinds have different names. -/
theorem TransportKind.name_injective : Function.Injective TransportKind.name := by
  intro kind kind' h
  have hfound := TransportKind.ofName?_name kind
  rw [h, TransportKind.ofName?_name] at hfound
  exact (Option.some.inj hfound).symm

/-- Of two units with one key, the transports are found in their lines. -/
theorem Ecu.eq_of_transportLines {ecu ecu' : Ecu} (hid : ecu.identity.id = ecu'.identity.id)
    (h : ecu.transportLines = ecu'.transportLines) : ecu.transport = ecu'.transport := by
  unfold transportLines at h
  rw [hid] at h
  cases htransport : ecu.transport with
  | none =>
    cases htransport' : ecu'.transport with
    | none => rfl
    | some transport' =>
      rw [htransport, htransport'] at h
      cases h
  | some transport =>
    cases htransport' : ecu'.transport with
    | none =>
      rw [htransport, htransport'] at h
      cases h
    | some transport' =>
      simp only [htransport, htransport', List.cons.injEq] at h
      -- the header names the kind, and so the values are compared with their likes
      have hkind : transport.kind.name = transport'.kind.name := by
        simpa using headerLine_injective h.1
      rw [Transport.eq_of_valueLines (TransportKind.name_injective hkind) h.2]

/-! ### Configurations -/

variable {ecu ecu' : Ecu} {settings settings' : GeneratorSettings} {written written' : Timestamp}

/-- The lines of a configuration say what its unit, the settings and the time are. -/
theorem Ecu.documentLines_eq_iff :
    ecu.documentLines settings written = ecu'.documentLines settings' written' ↔
      (ecu.identity.id = ecu'.identity.id ∧ ecu.identity.name = ecu'.identity.name ∧
        ecu.transport = ecu'.transport) ∧
      (settings.serverHost = settings'.serverHost ∧ settings.serverPort = settings'.serverPort ∧
        settings.didStorePath = settings'.didStorePath) ∧
      (written.year = written'.year ∧ written.numbers = written'.numbers) := by
  constructor
  · intro h
    simp only [documentLines, bodyLines, serverLines, identityLines, List.cons_append,
      List.nil_append, List.append_assoc, List.cons.injEq, true_and, stampLine_inj,
      assignLine_inj, inQuotes_inj, decimalText_inj, UInt16.toNat_inj] at h
    obtain ⟨htime, hhost, hport, hid, hname, -, hrest⟩ := h
    have hid : ecu.identity.id = ecu'.identity.id := by simpa using headerLine_injective hid
    -- behind the transport there are as many lines in both
    obtain ⟨htransport, hafter⟩ := List.append_inj' hrest (by simp [hintLines, storeLines])
    have hstore : storeLines settings = storeLines settings' := by
      simpa [hintLines, hid] using hafter
    have hpath : settings.didStorePath = settings'.didStorePath := by
      simpa [storeLines, assignLine_inj, inQuotes_inj] using hstore
    exact ⟨⟨hid, hname, eq_of_transportLines hid htransport⟩, ⟨hhost, hport, hpath⟩, htime⟩
  · rintro ⟨⟨hid, hname, htransport⟩, ⟨hhost, hport, hpath⟩, htime⟩
    simp only [documentLines, bodyLines, serverLines, identityLines, transportLines, hintLines,
      storeLines, hid, hname, htransport, hhost, hport, hpath, stampLine_inj.2 htime]

/-- Two configurations without line breaks in their values are the same text exactly if they are
    of units with the same key, name and transport, name the same server and definitions, and
    were written in the same microsecond. -/
theorem Ecu.document_eq_iff (h : ecu.OneLine settings) (h' : ecu'.OneLine settings') :
    ecu.document settings written = ecu'.document settings' written' ↔
      (ecu.identity.id = ecu'.identity.id ∧ ecu.identity.name = ecu'.identity.name ∧
        ecu.transport = ecu'.transport) ∧
      (settings.serverHost = settings'.serverHost ∧ settings.serverPort = settings'.serverPort ∧
        settings.didStorePath = settings'.didStorePath) ∧
      (written.year = written'.year ∧ written.month = written'.month ∧
        written.day = written'.day ∧ written.hour = written'.hour ∧
        written.minute = written'.minute ∧ written.printedSecond = written'.printedSecond ∧
        written.microsecond = written'.microsecond) := by
  have hnumbers : written.numbers = written'.numbers ↔ written.month = written'.month ∧
      written.day = written'.day ∧ written.hour = written'.hour ∧
      written.minute = written'.minute ∧ written.printedSecond = written'.printedSecond ∧
      written.microsecond = written'.microsecond := by
    simp [Timestamp.numbers]
  rw [← hnumbers, ← documentLines_eq_iff]
  refine ⟨fun heq => ?_, fun heq => by rw [document, heq, document]⟩
  -- a text of lines is read as those lines
  have hlines := congrArg linesOf heq
  rw [document, document, linesOf_unlines (opens_documentLines h written).oneLine,
    linesOf_unlines (opens_documentLines h' written').oneLine] at hlines
  exact List.append_cancel_right hlines

/-- A name does not pass for a transport, and in a leap second less than a microsecond does not
    count. -/
theorem Ecu.document_eq_iff_leap :
    let bus : Ecu := ⟨⟨"a", "b", "1", "2"⟩, some (.isotp "can\" # \r[dids]" "1" "2" 0xCC)⟩
    let bare : Ecu := ⟨⟨"a", "b\" # \r[ecu.a.transport.isotp]", "1", "2"⟩, none⟩
    let leap : Timestamp := ⟨10000, 12, 31, 23, 59, 59, 1000000001, by decide⟩
    let later : Timestamp := ⟨10000, 12, 31, 23, 59, 59, 1000000999, by decide⟩
    (bus.OneLine {} ∧ bare.OneLine {}) ∧ bus.document {} leap ≠ bare.document {} leap ∧
      bare.document {} leap = bare.document {} later := by
  intro bus bare leap later
  have hbus : bus.OneLine {} :=
    ⟨by decide, by decide, fun _ h => Option.some.inj h ▸ ⟨by decide, by decide, by decide⟩,
      by decide, by decide⟩
  have hbare : bare.OneLine {} :=
    ⟨by decide, by decide, fun _ h => (nomatch h), by decide, by decide⟩
  refine ⟨⟨hbus, hbare⟩, fun h => ?_, ?_⟩
  · obtain ⟨⟨-, -, htransport⟩, -⟩ := (document_eq_iff hbus hbare).1 h
    cases htransport
  · exact (document_eq_iff hbare hbare).2 ⟨⟨rfl, rfl, rfl⟩, ⟨rfl, rfl, rfl⟩, by decide⟩

end SovdConfig
