import SovdConfig.Proofs.Toml.Reading

namespace SovdConfig.Toml

/-!
# Keys that stand for themselves

A text that is put into a header as it is need not name a table of that name: it may have quotes
around it, or dots in it.  Main statements:

* `length_of_basicFrom`, `length_of_literalString?` — a string in quotes is shorter than its
  spelling;
* `isBareKey_of_keyFrom` — only a bare key is spelled by itself;
* `statement?_header_iff` — the texts that name, behind a bare key, the table of their own name.
-/

/-! ### Strings -/

/-- An escape has at least one character behind its backslash. -/
theorem length_of_escape? {cs rest : List Char} {c : Char} (h : escape? cs = some (c, rest)) :
    rest.length < cs.length := by
  have hhex : ∀ {count : Nat} {tail : List Char}, hexChar? count tail = some (c, rest) →
      rest.length ≤ tail.length := by
    intro count tail h
    simp only [hexChar?, Option.bind_eq_bind, Option.bind_eq_some_iff] at h
    obtain ⟨values, -, h⟩ := h
    split at h
    · cases h
      simp
    · cases h
  unfold escape? at h
  split at h
  · cases h
  · next d tail =>
    split at h
    case h_9 | h_10 | h_11 => exact Nat.lt_succ_of_le (hhex h)
    case h_12 => cases h
    all_goals
      obtain ⟨-, rfl⟩ := Prod.mk.inj (Option.some.inj h)
      simp

/-- A string with escapes is shorter than its spelling, even without the opening quote. -/
theorem length_of_basicFrom {fuel : Nat} {cs text rest : List Char}
    (h : basicFrom fuel cs = some (text, rest)) : text.length + rest.length < cs.length := by
  induction fuel generalizing cs text with
  | zero => cases h
  | succ fuel ih =>
    rcases cs with - | ⟨c, cs⟩
    · cases h
    rw [basicFrom] at h
    split at h
    · obtain ⟨rfl, rfl⟩ := Prod.mk.inj (Option.some.inj h)
      simp
    · split at h
      · -- one character for an escape, which takes at least one behind the backslash
        simp only [Option.bind_eq_bind, Option.bind_eq_some_iff, Prod.exists] at h
        obtain ⟨d, tail, hescape, text', rest', hread, h⟩ := h
        obtain ⟨rfl, rfl⟩ := Prod.mk.inj (Option.some.inj h)
        have := length_of_escape? hescape
        have := ih hread
        simp only [List.length_cons]
        omega
      · split at h
        · simp only [Option.bind_eq_bind, Option.bind_eq_some_iff, Prod.exists] at h
          obtain ⟨text', rest', hread, h⟩ := h
          obtain ⟨rfl, rfl⟩ := Prod.mk.inj (Option.some.inj h)
          have := ih hread
          simp only [List.length_cons]
          omega
        · cases h

/-- So is a string without escapes. -/
theorem length_of_literalString? {cs text rest : List Char}
    (h : literalString? cs = some (text, rest)) : text.length + rest.length < cs.length := by
  induction cs generalizing text with
  | nil => cases h
  | cons c cs ih =>
    rw [literalString?] at h
    split at h
    · obtain ⟨rfl, rfl⟩ := Prod.mk.inj (Option.some.inj h)
      simp
    · split at h
      · simp only [Option.map_eq_some_iff, Prod.exists] at h
        obtain ⟨text', rest', hread, h⟩ := h
        obtain ⟨rfl, rfl⟩ := Prod.mk.inj h
        have := ih hread
        simp only [List.length_cons]
        omega
      · cases h

/-! ### Keys -/

/-- A part of a key that is not bare is shorter than its spelling by its two quotes. -/
theorem isBareKey_or_length_of_keyPart? {cs rest : List Char} {key : String}
    (h : keyPart? cs = some (key, rest)) :
    IsBareKey key ∨ key.length + rest.length + 2 ≤ cs.length := by
  unfold keyPart? at h
  split at h
  · simp only [Option.map_eq_some_iff, Prod.exists] at h
    obtain ⟨text, rest', hread, h⟩ := h
    obtain ⟨rfl, rfl⟩ := Prod.mk.inj h
    have := length_of_basicFrom hread
    simp only [String.length_ofList, List.length_cons]
    omega
  · simp only [Option.map_eq_some_iff, Prod.exists] at h
    obtain ⟨text, rest', hread, h⟩ := h
    obtain ⟨rfl, rfl⟩ := Prod.mk.inj h
    have := length_of_literalString? hread
    simp only [String.length_ofList, List.length_cons]
    omega
  · dsimp only at h
    split at h
    · cases h
    · next hne =>
      obtain ⟨rfl, rfl⟩ := Prod.mk.inj (Option.some.inj h)
      refine .inl ⟨by simpa using hne, fun c hc => ?_⟩
      rw [String.toList_ofList] at hc
      exact List.mem_takeWhile_imp hc

/-- A key is its first part, behind which blanks are passed over, or that part and another key. -/
theorem keyFrom_cases {fuel : Nat} {cs rest : List Char} {keys : List String}
    (h : keyFrom fuel cs = some (keys, rest)) :
    ∃ part tail, keyPart? cs = some (part, tail) ∧
      ((keys = [part] ∧ rest = skipBlanks tail) ∨
        ∃ fuel' cs' parts, keyFrom fuel' cs' = some (parts, rest) ∧ keys = part :: parts) := by
  cases fuel with
  | zero => cases h
  | succ fuel =>
    simp only [keyFrom, Option.bind_eq_bind, Option.bind_eq_some_iff, Prod.exists] at h
    obtain ⟨part, tail, hpart, h⟩ := h
    refine ⟨part, tail, hpart, ?_⟩
    split at h
    · simp only [Option.bind_eq_some_iff, Prod.exists] at h
      obtain ⟨parts, rest', hmore, h⟩ := h
      obtain ⟨rfl, rfl⟩ := Prod.mk.inj (Option.some.inj h)
      exact .inr ⟨fuel, _, parts, hmore, rfl⟩
    · obtain ⟨rfl, rfl⟩ := Prod.mk.inj (Option.some.inj h)
      exact .inl ⟨rfl, rfl⟩

/-- What is left behind a key with a single part is left behind that part, but for blanks. -/
theorem exists_of_keyFrom_singleton {fuel : Nat} {cs rest : List Char} {key : String}
    (h : keyFrom fuel cs = some ([key], rest)) :
    ∃ tail, keyPart? cs = some (key, tail) ∧ rest = skipBlanks tail := by
  obtain ⟨part, tail, hpart, ⟨hkeys, hrest⟩ | ⟨_, _, parts, hmore, hkeys⟩⟩ := keyFrom_cases h
  · obtain ⟨rfl, -⟩ := List.cons.inj hkeys
    exact ⟨tail, hpart, hrest⟩
  · -- the parts behind the first one would be none, but a key has a part
    obtain ⟨-, rfl⟩ := List.cons.inj hkeys
    obtain ⟨_, _, -, ⟨hnone, -⟩ | ⟨_, _, _, -, hnone⟩⟩ := keyFrom_cases hmore
    · cases hnone
    · cases hnone

/-- Only a bare key names, between a dot and a closing bracket, what it spells. -/
theorem isBareKey_of_keyFrom {fuel : Nat} {key : String} {rest : List Char}
    (h : keyFrom fuel (skipBlanks (key.toList ++ [']', '\n'])) = some ([key], ']' :: rest)) :
    IsBareKey key := by
  obtain ⟨tail, hpart, htail⟩ := exists_of_keyFrom_singleton h
  obtain hbare | hlength := isBareKey_or_length_of_keyPart? hpart
  · exact hbare
  · -- the quotes around another key would leave no room for the bracket
    have hblanks := (List.dropWhile_sublist isBlank (l := key.toList ++ [']', '\n'])).length_le
    have hrest := (List.dropWhile_sublist isBlank (l := tail)).length_le
    simp only [skipBlanks] at hlength htail
    rw [← htail] at hrest
    simp only [List.length_append, List.length_cons, List.length_nil, String.length_toList] at *
    omega

/-! ### Headers -/

/-- A text names, behind a bare key and a dot in a header, the table of its own name only if it is a
    bare key itself. -/
theorem statement?_header_iff {front : String} (hfront : IsBareKey front) (key : String) :
    (∀ rest, statement? ('[' :: ((front ++ "." ++ key).toList ++ ']' :: '\n' :: rest)) =
      some (.header false [front, key], '\n' :: rest)) ↔ IsBareKey key := by
  have hkeys : front ++ "." ++ key = ".".intercalate [front, key] := by simp
  constructor
  · intro h
    obtain ⟨c, cs, hchars, hc⟩ := hfront.exists_cons
    have htext : (front ++ "." ++ key).toList ++ [']', '\n'] =
        c :: (cs ++ '.' :: (key.toList ++ [']', '\n'])) := by
      simp [hchars]
    have hpart : keyPart? (front.toList ++ '.' :: (key.toList ++ [']', '\n'])) =
        some (front, '.' :: (key.toList ++ [']', '\n'])) :=
      keyPart?_of_bareKey hfront (by decide)
    rw [hchars, List.cons_append] at hpart
    have hread := h []
    rw [htext] at hread
    have hheader : ∀ tail, statement? ('[' :: c :: tail) = header? false (c :: tail) := by
      simp [statement?, hc.notHeader]
    rw [hheader, header?, skipBlanks_cons hc.notBlank, key?, keyFrom, hpart] at hread
    -- behind the dot there is one more part, and then the bracket
    have hdot : isBlank '.' = false := by decide
    simp only [Option.bind_eq_bind, Option.bind_some, skipBlanks_cons hdot,
      Option.bind_eq_some_iff, Prod.exists] at hread
    obtain ⟨keys, tail, ⟨parts, rest, hparts, hkeys'⟩, hend⟩ := hread
    cases hkeys'
    split at hend
    · cases hend
    · cases hend
      exact isBareKey_of_keyFrom hparts
    · cases hend
  · intro h rest
    rw [hkeys]
    exact statement?_of_header (by simp) (by simpa using ⟨hfront, h⟩) rest

end SovdConfig.Toml
