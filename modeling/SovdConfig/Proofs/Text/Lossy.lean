import SovdConfig.Text.Utf8

namespace SovdConfig.Text

/-!
# Reading any bytes as text

The machine that reads bytes as text reads every character back from its encoding, and starts
afresh at every ASCII character.  Main statements:

* `chunks_encodeUtf8` — the machine reads back the characters of a text;
* `decodeLossy_eq` — the text of any bytes is what the machine reads, well formed or not;
* `decodeLossy_append_ascii` — bytes around an ASCII character are read on their own.
-/

/-! ### One character -/

/-- A number below 256 is that of its byte. -/
theorem toNat_ofNat_byte {n : Nat} (h : n < 256) : (UInt8.ofNat n).toNat = n := by
  simpa using h

/-- The last byte of a character gives the character. -/
theorem feed_last {p : Partial} {n : Nat} (hn : n < 256) (hleast : p.least.toNat ≤ n)
    (hgreatest : n ≤ p.greatest.toNat) (hmore : p.more = 0) :
    p.feed (UInt8.ofNat n) = .char (Char.ofNat (p.code * 0x40 + n % 0x40)) := by
  have hbounds : p.least ≤ UInt8.ofNat n ∧ UInt8.ofNat n ≤ p.greatest := by
    rw [UInt8.le_iff_toNat_le, UInt8.le_iff_toNat_le, toNat_ofNat_byte hn]
    exact ⟨hleast, hgreatest⟩
  rw [Partial.feed, if_pos hbounds, hmore, toNat_ofNat_byte hn]

/-- A byte inside a character leaves it under way. -/
theorem feed_inner {p : Partial} {n more : Nat} (hn : n < 256) (hleast : p.least.toNat ≤ n)
    (hgreatest : n ≤ p.greatest.toNat) (hmore : p.more = more + 1) :
    p.feed (UInt8.ofNat n) =
      .waiting ⟨p.seen ++ [UInt8.ofNat n], p.code * 0x40 + n % 0x40, 0x80, 0xBF, more⟩ := by
  have hbounds : p.least ≤ UInt8.ofNat n ∧ UInt8.ofNat n ≤ p.greatest := by
    rw [UInt8.le_iff_toNat_le, UInt8.le_iff_toNat_le, toNat_ofNat_byte hn]
    exact ⟨hleast, hgreatest⟩
  rw [Partial.feed, if_pos hbounds, hmore, toNat_ofNat_byte hn]

/-- The first byte of a character of two bytes. -/
theorem beginChar_two {k : Nat} (h : 2 ≤ k) (h' : k < 0x20) :
    beginChar (UInt8.ofNat (k + 0xC0)) =
      .waiting ⟨[UInt8.ofNat (k + 0xC0)], k, 0x80, 0xBF, 0⟩ := by
  have hcode : (k + 0xC0) % 0x20 = k := by omega
  simp only [beginChar, toNat_ofNat_byte (show k + 0xC0 < 256 by omega), hcode]
  rw [if_neg (by omega), if_neg (by omega), if_pos (by omega)]

/-- The first byte of a character of three bytes: after the least of them a small second byte would
    make a longer spelling, and after one of them a great second byte would make a surrogate. -/
theorem beginChar_three {k : Nat} (h : k < 0x10) :
    beginChar (UInt8.ofNat (k + 0xE0)) =
      .waiting ⟨[UInt8.ofNat (k + 0xE0)], k, if k = 0 then 0xA0 else 0x80,
        if k = 0xD then 0x9F else 0xBF, 1⟩ := by
  have hcode : (k + 0xE0) % 0x10 = k := by omega
  simp only [beginChar, toNat_ofNat_byte (show k + 0xE0 < 256 by omega), hcode]
  rw [if_neg (by omega), if_neg (by omega), if_neg (by omega)]
  by_cases hzero : k = 0
  · simp [hzero]
  · by_cases hsurrogate : k = 0xD
    · simp [hsurrogate]
    · rw [if_neg (by omega), if_neg (by omega), if_pos (by omega), if_neg hzero,
        if_neg hsurrogate]

/-- The first byte of a character of four bytes: after the last of them a great second byte would
    lead beyond the last code point. -/
theorem beginChar_four {k : Nat} (h : k < 5) :
    beginChar (UInt8.ofNat (k + 0xF0)) =
      .waiting ⟨[UInt8.ofNat (k + 0xF0)], k, if k = 0 then 0x90 else 0x80,
        if k = 4 then 0x8F else 0xBF, 2⟩ := by
  have hcode : (k + 0xF0) % 0x08 = k := by omega
  simp only [beginChar, toNat_ofNat_byte (show k + 0xF0 < 256 by omega), hcode]
  rw [if_neg (by omega), if_neg (by omega), if_neg (by omega), if_neg (by omega),
    if_neg (by omega), if_neg (by omega)]
  by_cases hzero : k = 0
  · simp [hzero]
  · by_cases hlast : k = 4
    · simp [hlast]
    · rw [if_neg (by omega), if_pos (by omega), if_neg hzero, if_neg hlast]

/-- A byte that is a character. -/
theorem chunksFrom_begin_char {b : UInt8} {c : Char} (h : beginChar b = .char c)
    (rest : List UInt8) : chunksFrom none (b :: rest) = .char c :: chunksFrom none rest := by
  simp [chunksFrom, chunkStep, startChunk, h]

/-- A byte that begins a character. -/
theorem chunksFrom_begin_waiting {b : UInt8} {p : Partial} (h : beginChar b = .waiting p)
    (rest : List UInt8) : chunksFrom none (b :: rest) = chunksFrom (some p) rest := by
  simp [chunksFrom, chunkStep, startChunk, h]

/-- A byte that ends a character. -/
theorem chunksFrom_feed_char {p : Partial} {b : UInt8} {c : Char} (h : p.feed b = .char c)
    (rest : List UInt8) : chunksFrom (some p) (b :: rest) = .char c :: chunksFrom none rest := by
  simp [chunksFrom, chunkStep, h]

/-- A byte inside a character. -/
theorem chunksFrom_feed_waiting {p q : Partial} {b : UInt8} (h : p.feed b = .waiting q)
    (rest : List UInt8) : chunksFrom (some p) (b :: rest) = chunksFrom (some q) rest := by
  simp [chunksFrom, chunkStep, h]

/-- A character of one byte. -/
theorem chunksFrom_one {v : Nat} (h : v ≤ 0x7F) (rest : List UInt8) :
    chunksFrom none (UInt8.ofNat v :: rest) = .char (Char.ofNat v) :: chunksFrom none rest := by
  refine chunksFrom_begin_char ?_ rest
  simp only [beginChar, toNat_ofNat_byte (show v < 256 by omega)]
  rw [if_pos (by omega)]

/-- A character of two bytes. -/
theorem chunksFrom_two {v : Nat} (h : 0x7F < v) (h' : v ≤ 0x7FF) (rest : List UInt8) :
    chunksFrom none (UInt8.ofNat (v / 64 % 0x20 + 0xC0) :: UInt8.ofNat (v % 0x40 + 0x80) :: rest) =
      .char (Char.ofNat v) :: chunksFrom none rest := by
  rw [chunksFrom_begin_waiting (beginChar_two (by omega) (by omega))]
  have hcode : v / 64 % 0x20 * 0x40 + (v % 0x40 + 0x80) % 0x40 = v := by omega
  refine chunksFrom_feed_char ?_ rest
  rw [feed_last (by omega) (by simp) (by simp; omega) rfl, hcode]

/-- A character of three bytes. -/
theorem chunksFrom_three {v : Nat} (h : 0x7FF < v) (h' : v ≤ 0xFFFF)
    (hvalid : v < 0xD800 ∨ 0xDFFF < v) (rest : List UInt8) :
    chunksFrom none (UInt8.ofNat (v / 4096 % 0x10 + 0xE0) :: UInt8.ofNat (v / 64 % 0x40 + 0x80) ::
      UInt8.ofNat (v % 0x40 + 0x80) :: rest) = .char (Char.ofNat v) :: chunksFrom none rest := by
  rw [chunksFrom_begin_waiting (beginChar_three (by omega))]
  -- a small second byte after the least first byte would make a shorter character, a great one
  -- after 0xED a surrogate
  have hleast : (if v / 4096 % 0x10 = 0 then (0xA0 : UInt8) else 0x80).toNat ≤
      v / 64 % 0x40 + 0x80 := by
    split
    · simp; omega
    · simp
  have hgreatest : v / 64 % 0x40 + 0x80 ≤
      (if v / 4096 % 0x10 = 0xD then (0x9F : UInt8) else 0xBF).toNat := by
    split
    · simp; omega
    · simp; omega
  rw [chunksFrom_feed_waiting (feed_inner (by omega) hleast hgreatest rfl)]
  have hcode : (v / 4096 % 0x10 * 0x40 + (v / 64 % 0x40 + 0x80) % 0x40) * 0x40 +
      (v % 0x40 + 0x80) % 0x40 = v := by omega
  refine chunksFrom_feed_char ?_ rest
  rw [feed_last (by omega) (by simp) (by simp; omega) rfl, hcode]

/-- A character of four bytes. -/
theorem chunksFrom_four {v : Nat} (h : 0xFFFF < v) (h' : v < 0x110000) (rest : List UInt8) :
    chunksFrom none (UInt8.ofNat (v / 262144 % 0x08 + 0xF0) ::
      UInt8.ofNat (v / 4096 % 0x40 + 0x80) :: UInt8.ofNat (v / 64 % 0x40 + 0x80) ::
      UInt8.ofNat (v % 0x40 + 0x80) :: rest) = .char (Char.ofNat v) :: chunksFrom none rest := by
  rw [chunksFrom_begin_waiting (beginChar_four (by omega))]
  have hleast : (if v / 262144 % 0x08 = 0 then (0x90 : UInt8) else 0x80).toNat ≤
      v / 4096 % 0x40 + 0x80 := by
    split
    · simp; omega
    · simp
  have hgreatest : v / 4096 % 0x40 + 0x80 ≤
      (if v / 262144 % 0x08 = 4 then (0x8F : UInt8) else 0xBF).toNat := by
    split
    · simp; omega
    · simp; omega
  rw [chunksFrom_feed_waiting (feed_inner (by omega) hleast hgreatest rfl),
    chunksFrom_feed_waiting (feed_inner (by omega) (by simp) (by simp; omega) rfl)]
  have hcode : ((v / 262144 % 0x08 * 0x40 + (v / 4096 % 0x40 + 0x80) % 0x40) * 0x40 +
      (v / 64 % 0x40 + 0x80) % 0x40) * 0x40 + (v % 0x40 + 0x80) % 0x40 = v := by omega
  refine chunksFrom_feed_char ?_ rest
  rw [feed_last (by omega) (by simp) (by simp; omega) rfl, hcode]

/-- The machine reads a character back from its bytes. -/
theorem chunksFrom_utf8EncodeChar (c : Char) (rest : List UInt8) :
    chunksFrom none (String.utf8EncodeChar c ++ rest) = .char c :: chunksFrom none rest := by
  obtain ⟨v, hv⟩ : ∃ v, v = c.val.toNat := ⟨_, rfl⟩
  have hc : Char.ofNat v = c := by rw [hv]; exact Char.ofNat_toNat c
  have hvalid : v < 0xD800 ∨ 0xDFFF < v ∧ v < 0x110000 := by rw [hv]; exact c.valid
  unfold String.utf8EncodeChar
  simp only [← hv]
  split
  · next h => exact hc ▸ chunksFrom_one h rest
  · split
    · next h h' => exact hc ▸ chunksFrom_two (by omega) h' rest
    · split
      · next h h' => exact hc ▸ chunksFrom_three (by omega) h' (by omega) rest
      · exact hc ▸ chunksFrom_four (by omega) (by omega) rest

/-! ### Texts -/

/-- The machine reads back the characters of a text. -/
theorem chunksFrom_encodeUtf8 (text : String) (rest : List UInt8) :
    chunksFrom none (encodeUtf8 text ++ rest) =
      text.toList.map Chunk.char ++ chunksFrom none rest := by
  unfold encodeUtf8
  induction text.toList with
  | nil => rfl
  | cons c cs ih =>
    rw [List.flatMap_cons, List.append_assoc, chunksFrom_utf8EncodeChar, ih, List.map_cons,
      List.cons_append]

/-- Well-formed bytes are those of a text. -/
theorem encodeUtf8_of_decodeUtf8? {bytes : List UInt8} {text : String}
    (h : decodeUtf8? bytes = some text) : encodeUtf8 text = bytes := by
  unfold decodeUtf8? String.fromUTF8? at h
  split at h
  · have htext : text.toByteArray = bytes.toByteArray := by
      rw [← Option.some.inj h]
      rfl
    exact List.toByteArray_inj.1 ((toByteArray_encodeUtf8 text).trans htext)
  · cases h

/-- The text of any bytes is what the machine reads, well formed or not. -/
theorem decodeLossy_eq (bytes : List UInt8) :
    decodeLossy bytes = String.ofList ((chunks bytes).map Chunk.lossy) := by
  unfold decodeLossy
  split
  · next text h =>
    have hread := chunksFrom_encodeUtf8 text []
    rw [List.append_nil, encodeUtf8_of_decodeUtf8? h] at hread
    rw [chunks, hread]
    simp [chunksFrom, Chunk.lossy, Function.comp_def]
  · rfl

/-! ### ASCII characters -/

/-- Whether the character under way, if there is one, cannot go on with an ASCII character. -/
def NeedsTail (state : Option Partial) : Prop := ∀ p, state = some p → 0x80 ≤ p.least.toNat

/-- A byte at the start of a character leaves nothing or something that needs a tail. -/
theorem needsTail_beginChar {b : UInt8} {p : Partial} (h : beginChar b = .waiting p) :
    0x80 ≤ p.least.toNat := by
  unfold beginChar at h
  dsimp only at h
  repeat' split at h
  all_goals cases h
  all_goals simp

/-- The same of a byte that is read as a start. -/
theorem needsTail_startChunk (b : UInt8) : NeedsTail (startChunk b).2 := by
  intro p hp
  unfold startChunk at hp
  split at hp
  · cases hp
  · next q hq =>
    obtain rfl : q = p := Option.some.inj hp
    exact needsTail_beginChar hq
  · cases hp

/-- What is under way after any byte needs a tail. -/
theorem needsTail_chunkStep (state : Option Partial) (b : UInt8) :
    NeedsTail (chunkStep state b).2 := by
  cases state with
  | none => exact needsTail_startChunk b
  | some p =>
    simp only [chunkStep]
    split
    · exact fun _ h => nomatch h
    · next q hq =>
      intro r hr
      obtain rfl : q = r := Option.some.inj hr
      unfold Partial.feed at hq
      dsimp only at hq
      repeat' split at hq
      all_goals cases hq
      simp
    · exact needsTail_startChunk b

/-- An ASCII character ends what is under way, and the machine starts afresh behind it. -/
theorem chunksFrom_append_ascii {state : Option Partial} (hstate : NeedsTail state)
    {n : Nat} (hn : n < 0x80) (a b : List UInt8) :
    chunksFrom state (a ++ UInt8.ofNat n :: b) =
      chunksFrom state a ++ .char (Char.ofNat n) :: chunksFrom none b := by
  have hbegin : beginChar (UInt8.ofNat n) = .char (Char.ofNat n) := by
    simp only [beginChar, toNat_ofNat_byte (show n < 256 by omega)]
    rw [if_pos (by omega)]
  induction a generalizing state with
  | nil =>
    cases state with
    | none => exact chunksFrom_begin_char hbegin b
    | some p =>
      -- an ASCII byte is no tail
      have hfeed : p.feed (UInt8.ofNat n) = .malformed := by
        have hleast := hstate p rfl
        rw [Partial.feed, if_neg]
        rw [UInt8.le_iff_toNat_le, toNat_ofNat_byte (by omega)]
        omega
      simp [chunksFrom, chunkStep, hfeed, startChunk, hbegin]
  | cons x a ih =>
    -- whatever is under way before a byte, what is under way behind it needs a tail
    have hnext := ih (needsTail_chunkStep state x)
    simp only [List.cons_append, chunksFrom, hnext, List.append_assoc]

/-- Bytes before and behind an ASCII character are read on their own. -/
theorem decodeLossy_append_ascii {n : Nat} (hn : n < 0x80) (a b : List UInt8) :
    decodeLossy (a ++ UInt8.ofNat n :: b) =
      decodeLossy a ++ String.ofList (Char.ofNat n :: (decodeLossy b).toList) := by
  have hstart : NeedsTail none := fun _ h => nomatch h
  simp only [decodeLossy_eq, chunks, chunksFrom_append_ascii hstart hn, List.map_append,
    List.map_cons, Chunk.lossy, String.ofList_append, String.toList_ofList]

/-- An ASCII character is one byte. -/
theorem encodeUtf8_cons_ascii {c : Char} (hc : c.toNat < 0x80) (cs : List Char) :
    encodeUtf8 (String.ofList (c :: cs)) =
      UInt8.ofNat c.toNat :: encodeUtf8 (String.ofList cs) := by
  have hchar : String.utf8EncodeChar c = [UInt8.ofNat c.toNat] := by
    have hone : c.val.toNat ≤ 0x7F := Nat.le_of_lt_succ hc
    rw [String.utf8EncodeChar, if_pos hone]
    rfl
  simp [encodeUtf8, hchar]

/-- A text that starts with an ASCII character is read back behind any bytes. -/
theorem decodeLossy_append_encodeUtf8 {c : Char} (hc : c.toNat < 0x80) (a : List UInt8)
    (cs : List Char) : decodeLossy (a ++ encodeUtf8 (String.ofList (c :: cs))) =
      decodeLossy a ++ String.ofList (c :: cs) := by
  rw [encodeUtf8_cons_ascii hc, decodeLossy_append_ascii hc, decodeLossy_encodeUtf8,
    Char.ofNat_toNat, String.toList_ofList]

end SovdConfig.Text
