namespace SovdConfig.Text

/-!
# UTF-8

File names, environment values and file contents are byte strings that are usually, but not
always, UTF-8.  Main definitions:

* `encodeUtf8` — the bytes of a text;
* `decodeUtf8?` — the text of well-formed bytes;
* `decodeLossy` — the text of any bytes, with U+FFFD for every ill-formed stretch.

An ill-formed stretch is as long as it could still have been the start of a character, so a cut-off
sequence counts once while each stray byte counts by itself.  The decoder is a machine that reads
one byte at a time: `Partial` says what has been seen of the character under way.

Main statement: `decodeLossy_encodeUtf8`, the lossy reading of a text's own bytes is that text.
-/

/-- The bytes of a text. -/
def encodeUtf8 (text : String) : List UInt8 :=
  text.toList.flatMap String.utf8EncodeChar

/-- The text of well-formed bytes. -/
def decodeUtf8? (bytes : List UInt8) : Option String :=
  String.fromUTF8? bytes.toByteArray

/-- What has been seen of a character of several bytes: its leading bits so far, the bounds of the
    next byte, and how many bytes follow that one. -/
structure Partial where
  seen : List UInt8
  code : Nat
  least : UInt8
  greatest : UInt8
  more : Nat

/-- What one more byte does to the decoder. -/
inductive Step
  | char (c : Char)
  | waiting (p : Partial)
  | malformed

/-- A byte that begins a character. -/
def beginChar (b : UInt8) : Step :=
  let v := b.toNat
  if v < 0x80 then .char (Char.ofNat v)
  else if v < 0xC2 then .malformed
  else if v < 0xE0 then .waiting ⟨[b], v % 0x20, 0x80, 0xBF, 0⟩
  else if v = 0xE0 then .waiting ⟨[b], 0, 0xA0, 0xBF, 1⟩
  else if v = 0xED then .waiting ⟨[b], 0xD, 0x80, 0x9F, 1⟩
  else if v < 0xF0 then .waiting ⟨[b], v % 0x10, 0x80, 0xBF, 1⟩
  else if v = 0xF0 then .waiting ⟨[b], 0, 0x90, 0xBF, 2⟩
  else if v < 0xF4 then .waiting ⟨[b], v % 0x08, 0x80, 0xBF, 2⟩
  else if v = 0xF4 then .waiting ⟨[b], 4, 0x80, 0x8F, 2⟩
  else .malformed

/-- A byte inside a character. -/
def Partial.feed (p : Partial) (b : UInt8) : Step :=
  if p.least ≤ b ∧ b ≤ p.greatest then
    let code := p.code * 0x40 + b.toNat % 0x40
    match p.more with
    | 0 => .char (Char.ofNat code)
    | more + 1 => .waiting ⟨p.seen ++ [b], code, 0x80, 0xBF, more⟩
  else .malformed

/-- A stretch of decoded bytes: a character, or bytes that are no character. -/
inductive Chunk
  | char (c : Char)
  | stray (bytes : List UInt8)
deriving DecidableEq

/-- What a byte at the start of a character contributes, and what it leaves under way. -/
def startChunk (b : UInt8) : List Chunk × Option Partial :=
  match beginChar b with
  | .char c => ([.char c], none)
  | .waiting p => ([], some p)
  | .malformed => ([.stray [b]], none)

/-- One byte of the machine: a byte that cannot continue the character under way ends a stray
    stretch and is then read as a start. -/
def chunkStep (state : Option Partial) (b : UInt8) : List Chunk × Option Partial :=
  match state with
  | none => startChunk b
  | some p =>
    match p.feed b with
    | .char c => ([.char c], none)
    | .waiting q => ([], some q)
    | .malformed => let (out, next) := startChunk b; (.stray p.seen :: out, next)

/-- The chunks of the bytes, given what is under way. -/
def chunksFrom (state : Option Partial) : List UInt8 → List Chunk
  | [] => match state with
    | none => []
    | some p => [.stray p.seen]
  | b :: rest => let (out, next) := chunkStep state b; out ++ chunksFrom next rest

/-- The characters and the stray stretches of the bytes, in order. -/
def chunks (bytes : List UInt8) : List Chunk :=
  chunksFrom none bytes

/-- The replacement character stands for a stray stretch. -/
def Chunk.lossy : Chunk → Char
  | .char c => c
  | .stray _ => '\uFFFD'

/-- The text of any bytes; each stray stretch becomes U+FFFD. -/
def decodeLossy (bytes : List UInt8) : String :=
  match decodeUtf8? bytes with
  | some text => text
  | none => String.ofList ((chunks bytes).map Chunk.lossy)

/-- A text's bytes are its UTF-8 encoding. -/
theorem toByteArray_encodeUtf8 (text : String) :
    (encodeUtf8 text).toByteArray = text.toByteArray := by
  have h : text.toList.utf8Encode = text.toByteArray := String.utf8Encode_toList
  simpa [encodeUtf8, List.utf8Encode] using h

/-- Reading back a text's bytes gives the text. -/
theorem decodeUtf8?_encodeUtf8 (text : String) : decodeUtf8? (encodeUtf8 text) = some text := by
  unfold decodeUtf8?
  rw [toByteArray_encodeUtf8]
  simp only [String.fromUTF8?]
  rw [dif_pos text.isValidUTF8]
  rfl

/-- The lossy reading loses nothing of well-formed bytes. -/
theorem decodeLossy_encodeUtf8 (text : String) : decodeLossy (encodeUtf8 text) = text := by
  simp [decodeLossy, decodeUtf8?_encodeUtf8]

/-- The bytes of two texts in a row. -/
theorem encodeUtf8_append (a b : String) : encodeUtf8 (a ++ b) = encodeUtf8 a ++ encodeUtf8 b := by
  simp [encodeUtf8]

end SovdConfig.Text
