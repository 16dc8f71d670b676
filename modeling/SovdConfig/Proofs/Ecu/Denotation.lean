import Mathlib.Data.List.Forall2
import SovdConfig.Ecu.Document
import SovdConfig.Proofs.Ecu.Table
import SovdConfig.Proofs.Number.Numeral
import SovdConfig.Proofs.Toml.Literal
import SovdConfig.Proofs.Toml.Reading

namespace SovdConfig

/-!
# What a configuration says

The text of a unit's configuration as a TOML document.  Main statements:

* `Ecu.plainDocument_document` — each line is a plain line and says what is meant;
* `Ecu.document_denotes_table` — the text denotes the table of the unit, and nothing else.

Both ask of the unit what the writer does not check, that its values stand for themselves where
they are interpolated (`Ecu.Plain`).
-/

open Toml

/-! ### Plain lines -/

/-- No line says nothing. -/
theorem plainDocument_nil : PlainDocument (unlines []) [] :=
  ⟨[], [], .nil, rfl, rfl⟩

/-- A line in front of others says what it says before they do. -/
theorem plainDocument_cons {line : String} {said : Option Statement} {lines : List String}
    {statements : List Statement} (h : PlainLine line.toList said)
    (hlines : PlainDocument (unlines lines) statements) :
    PlainDocument (unlines (line :: lines)) (said.toList ++ statements) := by
  obtain ⟨texts, saids, htexts, hchars, rfl⟩ := hlines
  refine ⟨line.toList :: texts, said :: saids, .cons h htexts, ?_, ?_⟩
  · rw [toList_unlines] at hchars ⊢
    rw [List.map_cons, List.flatMap_cons, List.flatMap_cons, hchars]
  · cases said <;> simp

/-- Lines after others say what they say after them. -/
theorem plainDocument_append {lines more : List String} {statements others : List Statement}
    (h : PlainDocument (unlines lines) statements) (hmore : PlainDocument (unlines more) others) :
    PlainDocument (unlines (lines ++ more)) (statements ++ others) := by
  obtain ⟨texts, saids, htexts, hchars, rfl⟩ := h
  obtain ⟨texts', saids', htexts', hchars', rfl⟩ := hmore
  refine ⟨texts ++ texts', saids ++ saids', List.rel_append htexts htexts', ?_, ?_⟩
  · rw [unlines_append, String.toList_append, hchars, hchars', List.flatMap_append]
  · rw [List.reduceOption_append]

/-- An empty line says nothing. -/
theorem plainLine_blank : PlainLine "".toList none := .blank

/-- A table is opened by the keys that lead to it. -/
theorem plainLine_headerLine (keys : List String) (hne : keys ≠ [])
    (h : ∀ key ∈ keys, IsBareKey key) :
    PlainLine (headerLine (".".intercalate keys)).toList (some (.header false keys)) := by
  simpa [headerLine] using PlainLine.header hne h

/-- A text between quotes is given to a key as a string. -/
theorem plainLine_inQuotes {key value : String} (hkey : IsBareKey key)
    (h : IsUnescapedText value) :
    PlainLine (assignLine key (inQuotes value)).toList (some (.assign [key] (.string value))) := by
  simpa [assignLine, inQuotes] using PlainLine.assign hkey (.string h)

/-- The text of an integer is given to a key as that integer. -/
theorem plainLine_integer {key text : String} {n : Int} (hkey : IsBareKey key)
    (h : IntegerLiteral text.toList n) (hn : fitsSigned 64 n) :
    PlainLine (assignLine key text).toList (some (.assign [key] (.integer n))) := by
  simpa [assignLine] using PlainLine.assign hkey (.integer h hn)

/-- A line that starts with the mark of comments says nothing. -/
theorem plainLine_comment {line : String} (hmark : line.toList.head? = some '#')
    (h : ∀ c ∈ line.toList, isPlain c) : PlainLine line.toList none := by
  obtain ⟨cs, hcs⟩ := List.head?_eq_some_iff.1 hmark
  rw [hcs] at h ⊢
  exact .comment fun c hc => h c (by simp [hc])

/-- Letters and digits may stand in comments. -/
theorem isPlain_of_isAlphanum {c : Char} (h : c.isAlphanum) : isPlain c := by
  have hcode := code_of_isAlphanum h
  simp only [isPlain, Bool.or_eq_true, Bool.and_eq_true, decide_eq_true_eq]
  exact .inr ⟨by omega, by omega⟩

/-- The characters of bare keys may stand in comments. -/
theorem isPlain_of_isBareKeyChar {c : Char} (h : isBareKeyChar c) : isPlain c := by
  rcases (by simpa [isBareKeyChar, or_assoc] using h : c.isAlphanum ∨ c = '_' ∨ c = '-')
    with h | rfl | rfl
  · exact isPlain_of_isAlphanum h
  · decide
  · decide

/-! ### The lines of a configuration -/

/-- What a transport must be given so that its fields are what is read: texts that stand for
    themselves, and a logical address that spells an integer of 64 bits. -/
def Transport.Plain (address : Int) : Transport → Prop
  | .isotp interface txId rxId _ =>
    IsUnescapedText interface ∧ IsUnescapedText txId ∧ IsUnescapedText rxId
  | .doip host _ logicalAddress _ =>
    IsUnescapedText host ∧ IntegerLiteral logicalAddress.toList address ∧ fitsSigned 64 address

/-- What a unit and the settings must be given so that their fields are what is read. -/
structure Ecu.Plain (ecu : Ecu) (settings : GeneratorSettings) (address : Int) : Prop where
  id : IsBareKey ecu.identity.id
  name : IsUnescapedText ecu.identity.name
  transport : ∀ transport, ecu.transport = some transport → transport.Plain address
  serverHost : IsUnescapedText settings.serverHost
  didStorePath : IsUnescapedText settings.didStorePath

variable {ecu : Ecu} {settings : GeneratorSettings} {address : Int}

/-- The lines of the server's table. -/
theorem plainDocument_serverLines (h : IsUnescapedText settings.serverHost) :
    PlainDocument (unlines (serverLines settings))
      (sectionOf ["server"] (serverMembers settings)) := by
  have hport := settings.serverPort.toNat_lt
  refine plainDocument_cons (plainLine_headerLine ["server"] (by simp) (by decide)) ?_
  refine plainDocument_cons (plainLine_inQuotes (by decide) h) ?_
  exact plainDocument_cons (plainLine_integer (by decide) (integerLiteral_decimalText _)
    (fitsSigned_of_lt hport)) plainDocument_nil

/-- The lines of a unit's own table. -/
theorem Ecu.plainDocument_identityLines (hid : IsBareKey ecu.identity.id)
    (hname : IsUnescapedText ecu.identity.name) :
    PlainDocument (unlines ecu.identityLines)
      (sectionOf ["ecu", ecu.identity.id] ecu.identityMembers) := by
  have hkeys : "ecu." ++ ecu.identity.id = ".".intercalate ["ecu", ecu.identity.id] := by
    simp
  have hheader := plainLine_headerLine ["ecu", ecu.identity.id] (by simp)
    (by simpa using ⟨by decide, hid⟩)
  -- the name stands behind words of the writer's own
  have htitle : IsUnescapedText ("Auto-generated configuration for " ++ ecu.identity.name) := by
    intro c hc
    have hintro : IsUnescapedText "Auto-generated configuration for " := by decide
    rcases List.mem_append.1 (by simpa only [String.toList_append] using hc) with h | h
    · exact hintro c h
    · exact hname c h
  rw [← hkeys] at hheader
  refine plainDocument_cons hheader ?_
  refine plainDocument_cons (plainLine_inQuotes (by decide) hname) ?_
  refine plainDocument_cons (plainLine_inQuotes (by decide) (by decide)) ?_
  exact plainDocument_cons (plainLine_inQuotes (by decide) htitle) plainDocument_nil

/-- The lines of a transport's values. -/
theorem Transport.plainDocument_valueLines {transport : Transport}
    (h : transport.Plain address) :
    PlainDocument (unlines transport.valueLines) (assigns (transport.members address)) := by
  cases transport with
  | isotp interface txId rxId padding =>
    obtain ⟨hinterface, htx, hrx⟩ := h
    have hpadding : padding.toNat < 65536 := by have := padding.toNat_lt; omega
    refine plainDocument_cons (plainLine_inQuotes (by decide) hinterface) ?_
    refine plainDocument_cons (plainLine_inQuotes (by decide) htx) ?_
    refine plainDocument_cons (plainLine_inQuotes (by decide) hrx) ?_
    exact plainDocument_cons (plainLine_integer (by decide) (integerLiteral_hexText _ _)
      (fitsSigned_of_lt hpadding)) plainDocument_nil
  | doip host port logicalAddress sourceAddress =>
    obtain ⟨hhost, haddress, hfits⟩ := h
    refine plainDocument_cons (plainLine_inQuotes (by decide) hhost) ?_
    refine plainDocument_cons (plainLine_integer (by decide) (integerLiteral_decimalText _)
      (fitsSigned_of_lt port.toNat_lt)) ?_
    refine plainDocument_cons (plainLine_integer (by decide) haddress hfits) ?_
    exact plainDocument_cons (plainLine_integer (by decide) (integerLiteral_hexText _ _)
      (fitsSigned_of_lt sourceAddress.toNat_lt)) plainDocument_nil

/-- The lines of a transport's table. -/
theorem Ecu.plainDocument_transportLines (hid : IsBareKey ecu.identity.id)
    (h : ∀ transport, ecu.transport = some transport → transport.Plain address) :
    PlainDocument (unlines ecu.transportLines) (ecu.transportStatements address) := by
  unfold Ecu.transportLines Ecu.transportStatements
  cases htransport : ecu.transport with
  | none => exact plainDocument_nil
  | some transport =>
    let keys := ["ecu", ecu.identity.id, "transport", transport.kind.name]
    have hkeys : "ecu." ++ ecu.identity.id ++ ".transport." ++ transport.kind.name =
        ".".intercalate keys := by
      simp [keys, String.ext_iff]
    have hkind : IsBareKey transport.kind.name := by cases transport.kind <;> decide
    have hheader := plainLine_headerLine keys (by simp [keys])
      (by simpa [keys] using ⟨by decide, hid, by decide, hkind⟩)
    rw [← hkeys] at hheader
    exact plainDocument_cons hheader (Transport.plainDocument_valueLines (h transport htransport))

/-- A header of a unit's table, as a comment. -/
theorem Ecu.plainLine_hint (hid : IsBareKey ecu.identity.id) (table : String)
    (htable : ∀ c ∈ table.toList, isPlain c) :
    PlainLine ("# " ++ headerLine ("ecu." ++ ecu.identity.id ++ table)).toList none := by
  refine plainLine_comment (by simp) fun c hc => ?_
  simp only [headerLine, String.toList_append, List.mem_append] at hc
  rcases hc with h | (h | (h | h) | h) | h
  · revert c; decide
  · revert c; decide
  · revert c; decide
  · exact isPlain_of_isBareKeyChar (hid.2 c h)
  · exact htable c h
  · revert c; decide

/-- The lines that show what else a unit can be given are comments, whatever key they name. -/
theorem Ecu.plainDocument_hintLines (hid : IsBareKey ecu.identity.id) :
    PlainDocument (unlines ecu.hintLines) [] := by
  refine plainDocument_cons (plainLine_comment (by decide) (by decide)) ?_
  refine plainDocument_cons (Ecu.plainLine_hint hid ".timing" (by decide)) ?_
  refine plainDocument_cons (plainLine_comment (by decide) (by decide)) ?_
  refine plainDocument_cons (plainLine_comment (by decide) (by decide)) ?_
  refine plainDocument_cons plainLine_blank ?_
  refine plainDocument_cons (plainLine_comment (by decide) (by decide)) ?_
  refine plainDocument_cons (Ecu.plainLine_hint hid ".security" (by decide)) ?_
  refine plainDocument_cons (plainLine_comment (by decide) (by decide)) ?_
  exact plainDocument_cons (plainLine_comment (by decide) (by decide)) plainDocument_nil

/-- The lines of the table that names the definitions. -/
theorem plainDocument_storeLines (h : IsUnescapedText settings.didStorePath) :
    PlainDocument (unlines (storeLines settings)) (sectionOf ["dids"] (storeMembers settings)) := by
  refine plainDocument_cons (plainLine_comment (by decide) (by decide)) ?_
  refine plainDocument_cons (plainLine_headerLine ["dids"] (by simp) (by decide)) ?_
  exact plainDocument_cons (plainLine_inQuotes (by decide) h) plainDocument_nil

/-- The line that carries the time of writing says nothing. -/
theorem plainLine_stampLine (written : Timestamp) : PlainLine (stampLine written).toList none := by
  refine plainLine_comment (by simp [stampLine, stampIntro]) fun c hc => ?_
  have hintro : ∀ c ∈ stampIntro.toList, isPlain c := by decide
  have hmarks : ∀ c ∈ ['+', '-', '.', ':', 'T'], isPlain c := by decide
  rcases List.mem_append.1 (by simpa only [stampLine, String.toList_append] using hc) with h | h
  · exact hintro c h
  · rcases Timestamp.mem_text h with h | h
    · exact isPlain_of_isAlphanum (by simp [Char.isAlphanum, h])
    · exact hmarks c h

/-! ### The document -/

/-- The configuration of a unit is well formed, and its lines say what is meant. -/
theorem Ecu.plainDocument_document (h : ecu.Plain settings address) (written : Timestamp) :
    PlainDocument (ecu.document settings written) (ecu.statements settings address) := by
  have hblank := plainDocument_cons plainLine_blank plainDocument_nil
  have htitle : PlainDocument (unlines ["# SOVD ECU Configuration", stampLine written]) [] :=
    plainDocument_cons (plainLine_comment (by decide) (by decide))
      (plainDocument_cons (plainLine_stampLine written) plainDocument_nil)
  have hserver := plainDocument_serverLines h.serverHost
  have hidentity := Ecu.plainDocument_identityLines h.id h.name
  have htransport := Ecu.plainDocument_transportLines h.id h.transport
  have hhint := Ecu.plainDocument_hintLines h.id
  have hstore := plainDocument_storeLines h.didStorePath
  -- the parts in the order of the text; empty lines and comments say nothing
  have hall := plainDocument_append htitle (plainDocument_append (plainDocument_append
    (plainDocument_append (plainDocument_append (plainDocument_append (plainDocument_append
    (plainDocument_append (plainDocument_append (plainDocument_append hblank hserver) hblank)
    hidentity) hblank) htransport) hblank) hhint) hblank) hstore)
  simpa [Ecu.document, Ecu.documentLines, Ecu.bodyLines, Ecu.statements] using hall

/-- The configuration of a unit is well formed, and a reader of TOML finds the table of the unit in
    it: every value is the field that it was written from, and no other key or table is there. -/
theorem Ecu.document_denotes_table (h : ecu.Plain settings address) (written : Timestamp) :
    PlainDocument (ecu.document settings written) (ecu.statements settings address) ∧
      Toml.read? (ecu.document settings written) = some (ecu.table settings address) := by
  have hdocument := Ecu.plainDocument_document h written
  refine ⟨hdocument, ?_⟩
  rw [read?_plainDocument hdocument, Ecu.foldlM_statements]

/-- For one, a gateway whose logical address is written in hexadecimal. -/
theorem Ecu.document_denotes_table_gateway :
    let gateway : Ecu := ⟨⟨"gateway_1", "Gateway 1", "0x0E80", "0x7E8"⟩,
      some (.doip "192.168.0.10" 13400 "0x0E80" 0x0E00)⟩
    gateway.Plain {} 0x0E80 ∧
      PlainDocument (gateway.document {} .year2000) (gateway.statements {} 0x0E80) ∧
      Toml.read? (gateway.document {} .year2000) = some (gateway.table {} 0x0E80) := by
  intro gateway
  have hplain : gateway.Plain {} 0x0E80 := by
    refine ⟨by decide, by decide, ?_, by decide, by decide⟩
    rintro transport ⟨rfl⟩
    exact ⟨by decide, integerLiteral_hexText 4 0x0E80, by decide⟩
  exact ⟨hplain, Ecu.document_denotes_table hplain .year2000⟩

end SovdConfig
