import SovdConfig.Proofs.Text.Lossy

namespace SovdConfig.Text

/-!
# Bytes after they have been read as text

Main definition: `mended`, the bytes of the text that any bytes are read as.  Main statements:

* `mended_eq_iff` — only well-formed bytes stay what they are;
* `mended_append_ascii` — bytes around an ASCII character are mended on their own;
* `exists_of_decodeLossy_eq` — an ASCII character of the text is one of the bytes, and the text
  before and behind it is that of the bytes before and behind it.
-/

/-! ### Where an ASCII character comes from -/

/-- What is under way leads to a character beyond ASCII, whatever bytes it goes on with: before the
    last byte the code has a bit above the six that are to come, and before that it has any bit or
    gets one with the next byte. -/
structure Partial.Beyond (p : Partial) : Prop where
  last : p.more = 0 → 2 ≤ p.code
  inner : 0 < p.code ∨ 0x90 ≤ p.least.toNat ∧ p.greatest.toNat ≤ 0xBF

/-- The same of the machine at any place. -/
def Beyond (state : Option Partial) : Prop := ∀ p, state = some p → p.Beyond

/-- It is so at the start of a character. -/
theorem beyond_beginChar {b : UInt8} {p : Partial} (h : beginChar b = .waiting p) : p.Beyond := by
  unfold beginChar at h
  dsimp only at h
  repeat' split at h
  all_goals cases h
  all_goals constructor
  all_goals simp
  all_goals omega

/-- A byte that is taken leaves a code that counts. -/
theorem Partial.Beyond.code {p : Partial} (hp : p.Beyond) {b : UInt8}
    (hleast : p.least ≤ b) (hgreatest : b ≤ p.greatest) :
    2 ≤ p.code * 0x40 + b.toNat % 0x40 ∧ (p.more = 0 → 0x80 ≤ p.code * 0x40 + b.toNat % 0x40) := by
  rw [UInt8.le_iff_toNat_le] at hleast hgreatest
  have hlast := hp.last
  rcases hp.inner with h | h <;> omega

/-- And it stays so as long as the character is under way. -/
theorem Partial.Beyond.feed {p q : Partial} (hp : p.Beyond) {b : UInt8}
    (h : p.feed b = .waiting q) : q.Beyond := by
  unfold Partial.feed at h
  dsimp only at h
  split at h
  · next hb =>
    obtain ⟨hcode, -⟩ := hp.code hb.1 hb.2
    split at h
    · cases h
    · cases h
      exact ⟨fun _ => hcode, .inl (by simp only; omega)⟩
  · cases h

/-- The code of a character is that character's. -/
theorem toNat_ofNat_of_isValidChar {n : Nat} (h : n.isValidChar) : (Char.ofNat n).toNat = n := by
  rw [Char.ofNat, dif_pos h]
  rfl

/-- A code beyond ASCII gives no ASCII character; NUL stands for those that are no character. -/
theorem ofNat_ne_ascii {c : Char} (hc : 0 < c.toNat) (hc' : c.toNat < 0x80) {n : Nat}
    (hn : 0x80 ≤ n) : Char.ofNat n ≠ c := by
  rintro rfl
  by_cases hvalid : n.isValidChar
  · have hcode := toNat_ofNat_of_isValidChar hvalid
    omega
  · have hnul : (Char.ofNat n).toNat = 0 := by
      rw [Char.ofNat, dif_neg hvalid]
      rfl
    omega

/-- An ASCII character at the start of a character is its own byte. -/
theorem beginChar_eq_char {b : UInt8} {c : Char} (h : beginChar b = .char c) :
    b = UInt8.ofNat c.toNat := by
  unfold beginChar at h
  dsimp only at h
  repeat' split at h
  all_goals cases h
  next hascii =>
    have hvalid : b.toNat.isValidChar := .inl (by omega)
    rw [toNat_ofNat_of_isValidChar hvalid, UInt8.ofNat_toNat]

/-- No ASCII character ends what is under way. -/
theorem Partial.Beyond.feed_ne {p : Partial} (hp : p.Beyond) {c : Char} (hc : 0 < c.toNat)
    (hc' : c.toNat < 0x80) (b : UInt8) : p.feed b ≠ .char c := by
  intro h
  unfold Partial.feed at h
  dsimp only at h
  split at h
  · next hb =>
    split at h
    · next hmore =>
      exact ofNat_ne_ascii hc hc' ((hp.code hb.1 hb.2).2 hmore) (Step.char.inj h)
    · cases h
  · cases h

/-- What is under way behind any byte. -/
theorem beyond_chunkStep {state : Option Partial} (hstate : Beyond state) (b : UInt8) :
    Beyond (chunkStep state b).2 := by
  have hstart : Beyond (startChunk b).2 := by
    intro p hp
    unfold startChunk at hp
    split at hp
    · cases hp
    · next q hq => exact Option.some.inj hp ▸ beyond_beginChar hq
    · cases hp
  cases state with
  | none => exact hstart
  | some p =>
    simp only [chunkStep]
    split
    · intro q hq
      cases hq
    · next q hq => exact fun r hr => Option.some.inj hr ▸ (hstate p rfl).feed hq
    · exact hstart

/-- A byte that is read as a start gives an ASCII character by itself, and nothing else. -/
theorem startChunk_of_eq {b : UInt8} {c : Char} {xs more : List Chunk}
    (h : (startChunk b).1 = xs ++ .char c :: more) :
    b = UInt8.ofNat c.toNat ∧ xs = [] ∧ more = [] ∧ (startChunk b).2 = none := by
  unfold startChunk at h ⊢
  cases hbegin : beginChar b with
  | char d =>
    rw [hbegin] at h
    obtain ⟨rfl, rfl, rfl⟩ : xs = [] ∧ c = d ∧ more = [] := by
      simpa [List.cons_eq_append_iff] using h
    exact ⟨beginChar_eq_char hbegin, rfl, rfl, rfl⟩
  | waiting p => simp [hbegin] at h
  | malformed => simp [hbegin, List.cons_eq_append_iff] at h

/-- A step that gives an ASCII character reads its byte, and gives nothing else but what was under
    way. -/
theorem chunkStep_of_eq {state : Option Partial} (hstate : Beyond state) {c : Char}
    (hc : 0 < c.toNat) (hc' : c.toNat < 0x80) {b : UInt8} {xs more : List Chunk}
    (h : (chunkStep state b).1 = xs ++ .char c :: more) :
    b = UInt8.ofNat c.toNat ∧ chunksFrom state [] = xs ∧ more = [] ∧
      (chunkStep state b).2 = none := by
  cases state with
  | none =>
    obtain ⟨hbyte, rfl, hmore, hnone⟩ := startChunk_of_eq h
    exact ⟨hbyte, rfl, hmore, hnone⟩
  | some p =>
    simp only [chunkStep] at h ⊢
    cases hfeed : p.feed b with
    | char d =>
      rw [hfeed] at h
      obtain ⟨-, rfl, -⟩ : xs = [] ∧ c = d ∧ more = [] := by
        simpa [List.cons_eq_append_iff] using h
      exact absurd hfeed ((hstate p rfl).feed_ne hc hc' b)
    | waiting q => simp [hfeed] at h
    | malformed =>
      -- what was under way is given up, and the byte is read as a start
      simp only [hfeed] at h
      obtain ⟨-, hstray⟩ | ⟨ys, rfl, hout⟩ := List.cons_eq_append_iff.1 h
      · cases hstray
      · obtain ⟨hbyte, rfl, hmore, hnone⟩ := startChunk_of_eq hout
        exact ⟨hbyte, rfl, hmore, hnone⟩

/-- Where the machine finds an ASCII character, the bytes have it, and those around it are read on
    their own. -/
theorem exists_of_chunksFrom_eq {state : Option Partial} (hstate : Beyond state) {c : Char}
    (hc : 0 < c.toNat) (hc' : c.toNat < 0x80) {bytes : List UInt8} {xs ys : List Chunk}
    (h : chunksFrom state bytes = xs ++ .char c :: ys) :
    ∃ a b, bytes = a ++ UInt8.ofNat c.toNat :: b ∧ chunksFrom state a = xs ∧
      chunksFrom none b = ys := by
  induction bytes generalizing state xs with
  | nil => cases state <;> simp [chunksFrom, List.cons_eq_append_iff] at h
  | cons y bytes ih =>
    have hcons : ∀ a, chunksFrom state (y :: a) =
        (chunkStep state y).1 ++ chunksFrom (chunkStep state y).2 a := fun _ => rfl
    rw [hcons] at h
    have hnext := beyond_chunkStep hstate y
    rcases List.append_eq_append_iff.1 h with ⟨more, hxs, hrest⟩ | ⟨more, hout, hys⟩
    · -- behind what the first byte gives
      obtain ⟨a, b, rfl, ha, hb⟩ := ih hnext hrest
      exact ⟨y :: a, b, rfl, by rw [hcons, ha, hxs], hb⟩
    · cases more with
      | nil =>
        -- right behind what it gives
        have hrest : chunksFrom (chunkStep state y).2 bytes = [] ++ .char c :: ys := hys.symm
        obtain ⟨a, b, rfl, ha, hb⟩ := ih hnext hrest
        exact ⟨y :: a, b, rfl, by rw [hcons, ha, hout, List.append_nil, List.append_nil], hb⟩
      | cons d more =>
        obtain ⟨rfl, hrest⟩ := List.cons.inj hys
        obtain ⟨rfl, hxs, rfl, hnone⟩ := chunkStep_of_eq hstate hc hc' hout
        exact ⟨[], bytes, rfl, hxs, by rw [hrest, hnone]; rfl⟩

/-- An ASCII character of the text is one of the bytes, and the text before and behind it is that
    of the bytes before and behind it. -/
theorem exists_of_decodeLossy_eq {c : Char} (hc : 0 < c.toNat) (hc' : c.toNat < 0x80)
    {bytes : List UInt8} {xs ys : List Char} (h : (decodeLossy bytes).toList = xs ++ c :: ys) :
    ∃ a b, bytes = a ++ UInt8.ofNat c.toNat :: b ∧ (decodeLossy a).toList = xs ∧
      (decodeLossy b).toList = ys := by
  simp only [decodeLossy_eq, String.toList_ofList] at h ⊢
  obtain ⟨before, rest, hchunks, rfl, hrest⟩ := List.map_eq_append_iff.1 h
  obtain ⟨chunk, behind, rfl, hchunk, rfl⟩ := List.map_eq_cons_iff.1 hrest
  cases chunk with
  | stray bytes =>
    -- the replacement character is none of them
    obtain rfl : '\uFFFD' = c := hchunk
    simp at hc'
  | char d =>
    obtain rfl : d = c := hchunk
    have hstart : Beyond none := fun _ h => nomatch h
    obtain ⟨a, b, rfl, ha, hb⟩ := exists_of_chunksFrom_eq hstart hc hc' hchunks
    exact ⟨a, b, rfl, by rw [chunks, ha], by rw [chunks, hb]⟩

/-! ### The bytes of the text -/

/-- The bytes of the text that bytes are read as. -/
def mended (bytes : List UInt8) : List UInt8 := encodeUtf8 (decodeLossy bytes)

/-- Nothing is read as nothing. -/
@[simp] theorem mended_nil : mended [] = [] := rfl

/-- A text's own bytes stay what they are. -/
@[simp] theorem mended_encodeUtf8 (text : String) : mended (encodeUtf8 text) = encodeUtf8 text := by
  rw [mended, decodeLossy_encodeUtf8]

/-- Only well-formed bytes stay what they are. -/
theorem mended_eq_iff (bytes : List UInt8) : mended bytes = bytes ↔ (decodeUtf8? bytes).isSome := by
  constructor
  · intro h
    rw [← h, mended, decodeUtf8?_encodeUtf8]
    rfl
  · intro h
    obtain ⟨text, htext⟩ := Option.isSome_iff_exists.1 h
    rw [← encodeUtf8_of_decodeUtf8? htext, mended_encodeUtf8]

/-- Bytes before and behind an ASCII character are mended on their own. -/
theorem mended_append_ascii {c : Char} (hc : c.toNat < 0x80) (a b : List UInt8) :
    mended (a ++ UInt8.ofNat c.toNat :: b) = mended a ++ UInt8.ofNat c.toNat :: mended b := by
  rw [mended, decodeLossy_append_ascii hc, encodeUtf8_append, Char.ofNat_toNat,
    encodeUtf8_cons_ascii hc, String.ofList_toList]
  rfl

/-- The bytes of any other character have a bit that ASCII characters lack. -/
theorem le_of_mem_utf8EncodeChar {d : Char} (hd : 0x80 ≤ d.toNat) {b : UInt8}
    (hb : b ∈ String.utf8EncodeChar d) : 0x80 ≤ b.toNat := by
  have hone : ¬ d.val.toNat ≤ 0x7F := Nat.not_le.2 hd
  have hbyte : ∃ n, b = UInt8.ofNat n ∧ 0x80 ≤ n ∧ n < 0x100 := by
    simp only [String.utf8EncodeChar, if_neg hone] at hb
    split at hb
    · simp only [List.mem_cons, List.not_mem_nil, or_false] at hb
      rcases hb with rfl | rfl <;> exact ⟨_, rfl, by omega, by omega⟩
    · split at hb
      · simp only [List.mem_cons, List.not_mem_nil, or_false] at hb
        rcases hb with rfl | rfl | rfl <;> exact ⟨_, rfl, by omega, by omega⟩
      · simp only [List.mem_cons, List.not_mem_nil, or_false] at hb
        rcases hb with rfl | rfl | rfl | rfl <;> exact ⟨_, rfl, by omega, by omega⟩
  obtain ⟨n, rfl, hleast, hgreatest⟩ := hbyte
  rwa [toNat_ofNat_byte hgreatest]

/-- The bytes of a text have that of an ASCII character only if the text has the character. -/
theorem mem_of_mem_encodeUtf8 {c : Char} (hc : c.toNat < 0x80) {text : String}
    (h : UInt8.ofNat c.toNat ∈ encodeUtf8 text) : c ∈ text.toList := by
  obtain ⟨d, hd, hbyte⟩ := List.mem_flatMap.1 h
  have hcode : (UInt8.ofNat c.toNat).toNat = c.toNat := toNat_ofNat_byte (by omega)
  by_cases hascii : d.toNat < 0x80
  · -- both are one byte
    have hself : String.utf8EncodeChar d = [UInt8.ofNat d.toNat] := by
      have hone := encodeUtf8_cons_ascii hascii []
      simpa [encodeUtf8] using hone
    rw [hself, List.mem_singleton] at hbyte
    rw [hbyte, toNat_ofNat_byte (by omega)] at hcode
    rwa [← Char.ofNat_toNat c, ← hcode, Char.ofNat_toNat]
  · have hbit := le_of_mem_utf8EncodeChar (Nat.not_lt.1 hascii) hbyte
    omega

/-- No ASCII character but NUL comes to bytes that do not have it. -/
theorem mem_of_mem_mended {c : Char} (hc : 0 < c.toNat) (hc' : c.toNat < 0x80)
    {bytes : List UInt8} (h : UInt8.ofNat c.toNat ∈ mended bytes) :
    UInt8.ofNat c.toNat ∈ bytes := by
  obtain ⟨xs, ys, hsplit⟩ := List.append_of_mem (mem_of_mem_encodeUtf8 hc' h)
  obtain ⟨a, b, rfl, -, -⟩ := exists_of_decodeLossy_eq hc hc' hsplit
  simp

/-- Only no bytes are read as nothing. -/
theorem eq_nil_of_chunksFrom {state : Option Partial} {bytes : List UInt8}
    (h : chunksFrom state bytes = []) : state = none ∧ bytes = [] := by
  induction bytes generalizing state with
  | nil =>
    cases state with
    | none => exact ⟨rfl, rfl⟩
    | some p => cases h
  | cons b bytes ih =>
    obtain ⟨hout, hrest⟩ := List.append_eq_nil_iff.1 h
    obtain ⟨hnext, -⟩ := ih hrest
    -- a byte that gives nothing is under way
    have hstart : (startChunk b).1 = [] → (startChunk b).2 ≠ none := by
      unfold startChunk
      split <;> simp
    cases state with
    | none => exact absurd hnext (hstart hout)
    | some p =>
      cases hfeed : p.feed b <;> simp [hfeed] at hout hnext

/-- A text of ASCII characters other than NUL is read from its own bytes only. -/
theorem eq_encodeUtf8_of_decodeLossy {cs : List Char}
    (hcs : ∀ c ∈ cs, 0 < c.toNat ∧ c.toNat < 0x80) {bytes : List UInt8}
    (h : (decodeLossy bytes).toList = cs) : bytes = encodeUtf8 (String.ofList cs) := by
  induction cs generalizing bytes with
  | nil =>
    rw [decodeLossy_eq, String.toList_ofList, List.map_eq_nil_iff] at h
    exact (eq_nil_of_chunksFrom h).2
  | cons c cs ih =>
    obtain ⟨⟨hc, hc'⟩, hrest⟩ := List.forall_mem_cons.1 hcs
    have hfirst : (decodeLossy bytes).toList = [] ++ c :: cs := h
    obtain ⟨a, b, rfl, ha, hb⟩ := exists_of_decodeLossy_eq hc hc' hfirst
    -- nothing is read from the bytes before the first character
    rw [decodeLossy_eq, String.toList_ofList, List.map_eq_nil_iff] at ha
    obtain ⟨-, rfl⟩ := eq_nil_of_chunksFrom ha
    rw [encodeUtf8_cons_ascii hc', ← ih hrest hb, List.nil_append]

/-- Such a text's bytes are what no other bytes become. -/
theorem mended_eq_encodeUtf8_iff (cs : List Char) (hcs : ∀ c ∈ cs, 0 < c.toNat ∧ c.toNat < 0x80)
    (bytes : List UInt8) : mended bytes = encodeUtf8 (String.ofList cs) ↔
      bytes = encodeUtf8 (String.ofList cs) := by
  constructor
  · intro h
    have htext : decodeLossy bytes = String.ofList cs := by
      rw [← decodeLossy_encodeUtf8 (String.ofList cs), ← h, mended, decodeLossy_encodeUtf8]
    exact eq_encodeUtf8_of_decodeLossy hcs (by rw [htext, String.toList_ofList])
  · rintro rfl
    exact mended_encodeUtf8 _

/-- Such a text is found at the end of a text only if its bytes are at the end of the bytes. -/
theorem suffix_of_decodeLossy {c : Char} {cs : List Char}
    (hcs : ∀ d ∈ c :: cs, 0 < d.toNat ∧ d.toNat < 0x80) {bytes : List UInt8}
    (h : c :: cs <:+ (decodeLossy bytes).toList) :
    encodeUtf8 (String.ofList (c :: cs)) <:+ bytes := by
  obtain ⟨before, hbefore⟩ := h
  obtain ⟨⟨hc, hc'⟩, hrest⟩ := List.forall_mem_cons.1 hcs
  obtain ⟨a, b, rfl, -, hb⟩ := exists_of_decodeLossy_eq hc hc' hbefore.symm
  rw [eq_encodeUtf8_of_decodeLossy hrest hb, ← encodeUtf8_cons_ascii hc']
  exact List.suffix_append _ _

end SovdConfig.Text
