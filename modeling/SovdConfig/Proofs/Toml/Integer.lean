import Mathlib.Data.List.TakeWhile
import SovdConfig.Proofs.Toml.Grammar

namespace SovdConfig.Toml

/-!
# Reading TOML integers

The reader understands integer literals as the grammar means them.  Main statements:

* `DigitRun.digitsOf` — the digits that the reader finds in a run have the value of the run;
* `moment?_eq_none` — what spells an integer is neither a date nor a time;
* `scalar?_of_integerLiteral` — a literal is read as the integer it denotes.
-/

/-! ### Digits -/

/-- What holds of the digits of base sixteen in either case holds of the digits of smaller bases. -/
theorem IsDigitOf.of_forall {P : Char → Nat → Prop} {base d : Nat} {c : Char} (hb : base ≤ 16)
    (hP : ∀ d < 16, P (Nat.digitChar d) d ∧ P (Nat.digitChar d).toUpper d)
    (h : IsDigitOf base c d) : P c d := by
  obtain ⟨hd, hc⟩ := h
  have table := hP d (by omega)
  rcases hc with rfl | rfl
  · exact table.1
  · exact table.2

/-- A digit is read as its value. -/
theorem IsDigitOf.baseDigit? {base d : Nat} {c : Char} (hb : base ≤ 16)
    (h : IsDigitOf base c d) : baseDigit? base c = some d := by
  have table : Toml.baseDigit? 16 c = some d :=
    h.of_forall (P := fun c d => Toml.baseDigit? 16 c = some d) hb (by decide)
  unfold Toml.baseDigit? at table ⊢
  rw [Option.filter_eq_some_iff] at table ⊢
  exact ⟨table.1, by simpa using h.1⟩

/-- A digit is no underscore, and may stand in a word. -/
theorem IsDigitOf.isAlphanum {base d : Nat} {c : Char} (hb : base ≤ 16)
    (h : IsDigitOf base c d) : c ≠ '_' ∧ c.isAlphanum :=
  h.of_forall (P := fun c _ => c ≠ '_' ∧ c.isAlphanum) hb (by decide)

/-- A decimal digit is what the classes of characters take for one. -/
theorem IsDigitOf.isDigit {c : Char} {d : Nat} (h : IsDigitOf 10 c d) :
    c.isDigit ∧ Numeral.digitValue c = d := by
  have table : ∀ d < 10, ∀ c, c = Nat.digitChar d ∨ c = (Nat.digitChar d).toUpper →
      c.isDigit ∧ Numeral.digitValue c = d := by
    simp only [forall_eq_or_imp, forall_eq]
    decide
  exact table d h.1 c h.2

/-- One more digit after digits in groups. -/
theorem groupedDigits?_concat {isDigit : Char → Bool} {cs ds : List Char} {c : Char}
    (h : groupedDigits? isDigit cs = some ds) (hc : isDigit c) (hu : c ≠ '_') :
    groupedDigits? isDigit (cs ++ [c]) = some (ds ++ [c]) ∧
      groupedDigits? isDigit (cs ++ ['_', c]) = some (ds ++ [c]) := by
  -- along the reader's own recursion; where it stops early there is nothing to show
  fun_induction groupedDigits? isDigit cs generalizing ds with
  | case1 => simp at h
  | case2 a ha =>
    obtain rfl : [a] = ds := by simpa using h
    simp [groupedDigits?, ha, hc, hu]
  | case3 a ha => simp at h
  | case4 a rest ha ih =>
    obtain ⟨tail, ht, rfl⟩ := Option.map_eq_some_iff.1 h
    simp [groupedDigits?, ha, ih ht]
  | case5 a rest ha => simp at h
  | case6 a rest hne hnu ha ih =>
    obtain ⟨tail, ht, rfl⟩ := Option.map_eq_some_iff.1 h
    obtain ⟨b, rest, rfl⟩ := List.exists_cons_of_ne_nil hne
    have hb : b ≠ '_' := fun e => hnu rest (by rw [e])
    simpa [groupedDigits?, ha, hb] using ih ht
  | case7 a rest hne hnu ha => simp at h

/-- The digits `ds` of a run `cs` without its underscores: the reader finds them, and they have the
    value of the run. -/
structure DigitsOf (base : Nat) (isDigit : Char → Bool) (cs ds : List Char) (n : Nat) : Prop where
  read : groupedDigits? isDigit cs = some ds
  head : ∃ c, ds.head? = some c ∧ cs.head? = some c
  digits : ∀ c ∈ ds, ∃ d, IsDigitOf base c d
  value : ds.foldl (fun n c => n * base + (baseDigit? base c).getD 0) 0 = n

/-- One more digit, after the others or after an underscore. -/
theorem DigitsOf.concat {base n d : Nat} {isDigit : Char → Bool} {cs ds gap : List Char} {c : Char}
    (hb : base ≤ 16) (h : DigitsOf base isDigit cs ds n) (hc : IsDigitOf base c d)
    (hd : isDigit c) (hgap : gap = [] ∨ gap = ['_']) :
    DigitsOf base isDigit (cs ++ (gap ++ [c])) (ds ++ [c]) (n * base + d) where
  read := by
    have both := groupedDigits?_concat h.read hd (hc.isAlphanum hb).1
    rcases hgap with rfl | rfl
    · exact both.1
    · exact both.2
  head := by
    obtain ⟨a, hds, hcs⟩ := h.head
    exact ⟨a, by simp [hds], by simp [hcs]⟩
  digits := by
    intro x hx
    rcases List.mem_append.1 hx with hx | hx
    · exact h.digits x hx
    · exact ⟨d, by rwa [List.mem_singleton.1 hx]⟩
  value := by simp [List.foldl_append, h.value, hc.baseDigit? hb]

/-- The reader finds the digits of a run. -/
theorem DigitRun.digitsOf {base n : Nat} {cs : List Char} (h : DigitRun base cs n)
    (isDigit : Char → Bool) (hb : base ≤ 16) (hd : ∀ c d, IsDigitOf base c d → isDigit c) :
    ∃ ds, DigitsOf base isDigit cs ds n := by
  induction h with
  | @one c d hc =>
    exact ⟨[c], by simp [groupedDigits?, hd c d hc], ⟨c, rfl, rfl⟩, by simpa using ⟨d, hc⟩,
      by simp [hc.baseDigit? hb]⟩
  | next _ hc ih =>
    obtain ⟨ds, hds⟩ := ih
    exact ⟨_, hds.concat hb hc (hd _ _ hc) (.inl rfl)⟩
  | group _ hc ih =>
    obtain ⟨ds, hds⟩ := ih
    exact ⟨_, hds.concat hb hc (hd _ _ hc) (.inr rfl)⟩

/-- The characters of a run may stand in words; they are digits and underscores. -/
theorem DigitRun.chars {base n : Nat} {cs : List Char} (h : DigitRun base cs n) :
    ∀ c ∈ cs, c = '_' ∨ ∃ d, IsDigitOf base c d := by
  induction h with
  | one hc => simpa using .inr ⟨_, hc⟩
  | next _ hc ih =>
    intro c hmem
    rcases List.mem_append.1 hmem with hmem | hmem
    · exact ih c hmem
    · exact .inr ⟨_, by rwa [List.mem_singleton.1 hmem]⟩
  | group _ hc ih =>
    intro c hmem
    rcases List.mem_append.1 hmem with hmem | hmem
    · exact ih c hmem
    · rcases List.mem_cons.1 hmem with rfl | hmem
      · exact .inl rfl
      · exact .inr ⟨_, by rwa [List.mem_singleton.1 hmem]⟩

/-! ### Integers -/

/-- A number of a base is that of its digits without the underscores. -/
theorem basedInteger?_eq_bind (base : Nat) (cs : List Char) :
    basedInteger? base cs =
      (groupedDigits? (fun c => (baseDigit? base c).isSome) cs).bind fun ds =>
        inRange? (ds.foldl (fun n c => n * base + (baseDigit? base c).getD 0) 0 : Nat) := rfl

/-- Digits of base sixteen, eight or two are read as the integer they spell. -/
theorem basedInteger?_of_digitRun {base n : Nat} {cs : List Char} (hb : base ≤ 16)
    (h : DigitRun base cs n) (hn : fitsSigned 64 n) :
    basedInteger? base cs = some (.integer n) := by
  obtain ⟨ds, hds⟩ := h.digitsOf (fun c => (baseDigit? base c).isSome) hb
    (fun c d hc => by simp [hc.baseDigit? hb])
  rw [basedInteger?_eq_bind, hds.read, Option.bind_some, hds.value, inRange?, if_pos hn]

/-- Decimal digits have the same value as numerals have everywhere. -/
theorem valueOf_eq_foldl {ds : List Char} (h : ∀ c ∈ ds, ∃ d, IsDigitOf 10 c d) :
    Numeral.valueOf ds = ds.foldl (fun n c => n * 10 + (baseDigit? 10 c).getD 0) 0 := by
  refine List.foldl_ext _ _ _ fun n c hc => ?_
  obtain ⟨d, hd⟩ := h c hc
  rw [hd.isDigit.2, hd.baseDigit? (by decide), Option.getD_some, Nat.mul_comm]

/-- Decimal digits without a zero in front are read as they are. -/
theorem wholeDigits?_of_decimalRun {n : Nat} {cs ds : List Char} (h : DecimalRun cs n)
    (hds : DigitsOf 10 Char.isDigit cs ds n) : wholeDigits? cs = some ds := by
  rw [wholeDigits?, hds.read]
  split
  · next c rest heq =>
    -- a zero in front is the only character, so no digit follows it
    obtain ⟨a, ha, hcs⟩ := hds.head
    obtain rfl : ds = '0' :: c :: rest := Option.some.inj heq
    obtain rfl : a = '0' := by simpa using ha.symm
    obtain rfl := h.2 hcs
    simpa [groupedDigits?] using hds.read
  · rfl

/-- Decimal digits without a zero in front are read as the integer they spell, with its sign. -/
theorem decimal?_of_decimalRun (negative : Bool) {n : Nat} {cs : List Char} (h : DecimalRun cs n)
    (hn : fitsSigned 64 (if negative then -(n : Int) else n)) :
    decimal? negative cs = some (.integer (if negative then -(n : Int) else n)) := by
  obtain ⟨ds, hds⟩ := h.1.digitsOf Char.isDigit (by decide)
    (fun c d hc => hc.isDigit.1)
  have hwhole : ∀ c ∈ cs, isWholePart c := by
    intro c hc
    rcases h.1.chars c hc with rfl | ⟨d, hd⟩
    · rfl
    · simp [isWholePart, hd.isDigit.1]
  rw [decimal?, List.takeWhile_eq_self_iff.2 hwhole, List.dropWhile_eq_nil_iff.2 hwhole,
    wholeDigits?_of_decimalRun h hds]
  show inRange? (if negative then -(Numeral.valueOf ds : Int) else Numeral.valueOf ds) = _
  rw [valueOf_eq_foldl hds.digits, hds.value, inRange?, if_pos hn]

/-- Without a hyphen after its first character a word is no date. -/
theorem date?_eq_none {cs : List Char} (h : ∀ c ∈ cs.drop 1, c ≠ '-') : date? cs = none := by
  -- a date has its first hyphen behind four digits
  have hyphen : expect? '-' (cs.drop 4) = none := by
    rcases hcs : cs.drop 4 with - | ⟨c, rest⟩
    · rfl
    · have hc : c ∈ cs.drop 1 := by
        have : c ∈ (cs.drop 1).drop 3 := by simp [hcs]
        exact List.mem_of_mem_drop this
      simp [expect?, h c hc]
  rw [date?]
  split
  · rfl
  · simp [hyphen]

/-- Without a colon a word is no time. -/
theorem time?_eq_none {cs : List Char} (h : ∀ c ∈ cs, c ≠ ':') : time? cs = none := by
  rcases hours : twoDigits? 23 cs with - | ⟨v, rest⟩
  · simp [time?, hours]
  -- a time has its first colon behind two digits
  · have colon : expect? ':' rest = none := by
      rcases cs with - | ⟨a, - | ⟨b, tail⟩⟩ <;> simp only [twoDigits?] at hours
      · cases hours
      · cases hours
      · split at hours
        · obtain rfl : tail = rest := by simpa using congrArg (·.map Prod.snd) hours
          rcases tail with - | ⟨c, tail⟩
          · rfl
          · simp [expect?, h c (by simp)]
        · cases hours
    simp [time?, hours, colon]

/-- Without either a word is neither a date nor a time. -/
theorem moment?_eq_none {cs : List Char} (hyphen : ∀ c ∈ cs.drop 1, c ≠ '-')
    (colon : ∀ c ∈ cs, c ≠ ':') : moment? cs = none := by
  simp [moment?, date?_eq_none hyphen, time?_eq_none colon]

/-- Decimal digits start with a digit, and a zero is all there is. -/
theorem DecimalRun.exists_cons {cs : List Char} {n : Nat} (h : DecimalRun cs n) :
    ∃ c rest, cs = c :: rest ∧ c.isDigit ∧ (c = '0' → rest = []) := by
  obtain ⟨ds, hds⟩ := h.1.digitsOf Char.isDigit (by decide)
    (fun c d hc => hc.isDigit.1)
  obtain ⟨c, hdc, hc⟩ := hds.head
  obtain ⟨rest, rfl⟩ := List.head?_eq_some_iff.1 hc
  obtain ⟨d, hd⟩ := hds.digits c (List.mem_of_mem_head? hdc)
  refine ⟨c, rest, rfl, hd.isDigit.1, ?_⟩
  rintro rfl
  simpa using h.2 rfl

/-- Decimal digits after an optional sign are read as the integer they spell. -/
theorem signed?_of_decimalRun {cs : List Char} {n : Nat} (h : DecimalRun cs n) :
    (fitsSigned 64 n → signed? cs = some (.integer n) ∧ signed? ('+' :: cs) = some (.integer n)) ∧
      (fitsSigned 64 (-n) → signed? ('-' :: cs) = some (.integer (-n))) := by
  obtain ⟨c, rest, rfl, hc, -⟩ := h.exists_cons
  have hsign : Numeral.splitSign (c :: rest) = (false, c :: rest) := by
    unfold Numeral.splitSign
    split
    · next heq => cases heq; simp at hc
    · next heq => cases heq; simp at hc
    · rfl
  have hword : c :: rest ≠ ['i', 'n', 'f'] ∧ c :: rest ≠ ['n', 'a', 'n'] := by
    constructor <;> rintro ⟨⟩ <;> simp at hc
  refine ⟨fun hn => ⟨?_, ?_⟩, fun hn => ?_⟩
  · simpa [signed?, hsign, hword] using decimal?_of_decimalRun false h hn
  · simpa [signed?, Numeral.splitSign, hword] using decimal?_of_decimalRun false h hn
  · simpa [signed?, Numeral.splitSign, hword] using decimal?_of_decimalRun true h hn

/-- No character of a literal is a colon, only its first one may be a sign, and all may stand in a
    word. -/
theorem IntegerLiteral.chars {cs : List Char} {n : Int} (h : IntegerLiteral cs n) :
    (∀ c ∈ cs, isWordChar c ∧ c ≠ ':') ∧ ∀ c ∈ cs.drop 1, c ≠ '-' := by
  -- all that is asked holds of digits and underscores; signs and prefixes are looked at apart
  have ofDigits : ∀ {base n : Nat} {cs : List Char}, base ≤ 16 → DigitRun base cs n →
      ∀ c ∈ cs, isWordChar c ∧ c ≠ ':' ∧ c ≠ '-' := by
    intro base n cs hb hrun c hc
    rcases hrun.chars c hc with rfl | ⟨d, hd⟩
    · decide
    · have hword := (hd.isAlphanum hb).2
      refine ⟨by simp [isWordChar, hword], ?_, ?_⟩ <;> rintro rfl <;> simp at hword
  cases h with
  | unsigned h =>
    have hall := ofDigits (by decide) h.1
    exact ⟨fun c hc => ⟨(hall c hc).1, (hall c hc).2.1⟩,
      fun c hc => (hall c (List.mem_of_mem_drop hc)).2.2⟩
  | plus h | minus h =>
    have hall := ofDigits (by decide) h.1
    simp only [List.mem_cons, forall_eq_or_imp, List.drop_succ_cons, List.drop_zero]
    exact ⟨⟨by decide, fun c hc => ⟨(hall c hc).1, (hall c hc).2.1⟩⟩, fun c hc => (hall c hc).2.2⟩
  | hex h =>
    have hall := ofDigits (by decide) h
    simp only [List.mem_cons, forall_eq_or_imp, List.drop_succ_cons, List.drop_zero]
    exact ⟨⟨by decide, by decide, fun c hc => ⟨(hall c hc).1, (hall c hc).2.1⟩⟩,
      by decide, fun c hc => (hall c hc).2.2⟩

/-- A literal has a character. -/
theorem IntegerLiteral.ne_nil {cs : List Char} {n : Int} (h : IntegerLiteral cs n) : cs ≠ [] := by
  cases h with
  | unsigned h =>
    obtain ⟨c, rest, rfl, -⟩ := h.exists_cons
    simp
  | plus h | minus h | hex h => simp

/-- A word that is no date, no time, no truth value and of base ten is read as a number. -/
theorem scalar?_of_decimalRun {cs : List Char} {n : Nat} (h : DecimalRun cs n)
    (hm : moment? cs = none) : scalar? cs = signed? cs := by
  obtain ⟨c, rest, rfl, hc, hzero⟩ := h.exists_cons
  simp only [scalar?, hm]
  split
  case h_6 => rfl
  case h_1 | h_2 => rename_i heq; cases heq; simp at hc
  all_goals
    rename_i heq
    cases heq
    simpa using hzero rfl

/-- An integer literal is read as the integer it denotes. -/
theorem scalar?_of_integerLiteral {cs : List Char} {n : Int} (h : IntegerLiteral cs n)
    (hn : fitsSigned 64 n) : scalar? cs = some (.integer n) := by
  have hm : moment? cs = none := moment?_eq_none h.chars.2 fun c hc => (h.chars.1 c hc).2
  cases h with
  | unsigned h => rw [scalar?_of_decimalRun h hm, ((signed?_of_decimalRun h).1 hn).1]
  | plus h => simp only [scalar?, hm, ((signed?_of_decimalRun h).1 hn).2]; rfl
  | minus h => simp only [scalar?, hm, (signed?_of_decimalRun h).2 hn]; rfl
  | hex h => simp only [scalar?, hm, basedInteger?_of_digitRun (by decide) h hn]

end SovdConfig.Toml
