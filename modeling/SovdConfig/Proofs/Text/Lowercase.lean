import Mathlib.Data.List.Forall2
import SovdConfig.Text.Lowercase

namespace SovdConfig.Text

/-!
# What lower-casing leaves alone

Main definitions:

* `IsLower` — characters that have no other lower-case;
* `Neutral` — lower-case characters of which the end of a word takes no notice;
* `Exchanged` — characters that are the same, or both among given ones.

Main statements:

* `lowerCode_lowerCode` — the table maps nothing twice;
* `forall_mem_lowerFrom_iff` — what all characters of a lower-case are like is known character by
  character, whatever stands around them;
* `lowercase_eq_self_iff` — the texts that are their own lower-case;
* `lowerFrom_exchanged` — neutral characters may be exchanged before lower-casing.
-/

/-! ### The table -/

namespace LowerRun

/-- The first code point that a run gives. -/
def least (q : LowerRun) : Nat := (q.first + q.shift).toNat

/-- The last code point that a run gives. -/
def greatest (q : LowerRun) : Nat := (q.last + q.shift).toNat

/-- Whether a run takes none of the code points that another one gives: they lie before it or behind
    it, or they are those that its steps leave out. -/
def misses (r q : LowerRun) : Bool :=
  q.greatest.blt r.first || r.last.blt q.least ||
    ((q.first == q.last || q.step % r.step == 0) && q.least % r.step != r.first % r.step)

/-- Whether what a run gives are code points of characters, other than U+0130. -/
def givesCharacters (q : LowerRun) : Bool :=
  decide (0 ≤ q.first + q.shift ∧ q.first ≤ q.last) &&
    decide (q.greatest < 0xD800 ∨ 0xDFFF < q.least ∧ q.greatest < 0x110000) &&
    misses ⟨0x130, 0x130, 1, 0⟩ q

end LowerRun

/-- No run takes what a run gives. -/
theorem misses_of_lowerRuns :
    (lowerRuns.all fun q => lowerRuns.all fun r => r.misses q) = true := by
  decide +kernel

/-- Runs give characters. -/
theorem givesCharacters_of_lowerRuns : lowerRuns.all LowerRun.givesCharacters = true := by
  decide +kernel

/-- Only two runs give ASCII characters: that of the capital letters, and that of U+212A alone. -/
theorem ascii_of_lowerRuns : (lowerRuns.all fun q =>
    decide (q.last < 0x80 ∨ q.first = 0x212A ∧ q.last = 0x212A ∨ 0x80 ≤ q.least)) = true := by
  decide +kernel

/-- A code point of a run is whole steps away from the first of them. -/
theorem LowerRun.exists_of_covers {q : LowerRun} {code : Nat} (h : q.covers code = true) :
    ∃ distance, q.step ∣ distance ∧ code = q.first + distance ∧ code ≤ q.last := by
  obtain ⟨hfirst, hlast, hstep⟩ :
      q.first ≤ code ∧ code ≤ q.last ∧ (code - q.first) % q.step = 0 := by
    simpa [covers] using h
  exact ⟨code - q.first, Nat.dvd_of_mod_eq_zero hstep, by omega, hlast⟩

/-- What a run gives for it is as far away from the first that it gives. -/
theorem LowerRun.image_of_covers {q : LowerRun} {code : Nat} (hq : q.givesCharacters = true)
    (h : q.covers code = true) :
    ∃ distance, q.step ∣ distance ∧ (code + q.shift).toNat = q.least + distance ∧
      (code + q.shift).toNat ≤ q.greatest ∧ (q.first = q.last → distance = 0) := by
  obtain ⟨distance, hstep, hcode, hlast⟩ := exists_of_covers h
  have hleast : 0 ≤ (q.first : Int) + q.shift := by
    simp [givesCharacters] at hq
    omega
  refine ⟨distance, hstep, ?_, ?_, fun hsingle => by omega⟩
  · simp only [least]
    omega
  · simp only [greatest]
    omega

/-- A run that misses another one takes nothing of what that gives. -/
theorem LowerRun.covers_of_misses {r q : LowerRun} {code : Nat} (hq : q.givesCharacters = true)
    (hmiss : r.misses q = true) (h : q.covers code = true) :
    r.covers (code + q.shift).toNat = false := by
  obtain ⟨given, hgiven, himage, hgreatest, hsingle⟩ := image_of_covers hq h
  generalize (code + q.shift).toNat = image at himage hgreatest ⊢
  rw [Bool.eq_false_iff]
  intro hcovers
  obtain ⟨taken, htaken, hj, hlast⟩ := exists_of_covers hcovers
  simp only [misses, Bool.or_eq_true, Nat.blt_eq, Bool.and_eq_true, beq_iff_eq, bne_iff_ne] at hmiss
  obtain (hbefore | hbehind) | ⟨hsteps, hne⟩ := hmiss
  · omega
  · omega
  · -- counted in the steps of the run, what the other one gives keeps its distance
    have hdvd : r.step ∣ given := by
      rcases hsteps with hone | hstep
      · rw [hsingle hone]
        exact Nat.dvd_zero _
      · exact Nat.dvd_trans (Nat.dvd_of_mod_eq_zero hstep) hgiven
    have hleast : image % r.step = q.least % r.step := by
      rw [himage, Nat.add_mod, Nat.mod_eq_zero_of_dvd hdvd, Nat.add_zero, Nat.mod_mod]
    have hfirst : image % r.step = r.first % r.step := by
      rw [hj, Nat.add_mod, Nat.mod_eq_zero_of_dvd htaken, Nat.add_zero, Nat.mod_mod]
    exact hne (hleast.symm.trans hfirst)

/-- A code point is in no run and stays, or is in one and is moved by it. -/
theorem lowerCode_cases (code : Nat) :
    (∀ q ∈ lowerRuns, q.covers code = false) ∧ lowerCode code = code ∨
      ∃ q ∈ lowerRuns, q.covers code = true ∧ lowerCode code = (code + q.shift).toNat := by
  unfold lowerCode
  split
  · next q hfind =>
    have hcovers : q.covers code = true := by simpa using List.find?_some hfind
    exact .inr ⟨q, List.mem_of_find?_eq_some hfind, hcovers, rfl⟩
  · next hnone => exact .inl ⟨by simpa using hnone, rfl⟩

/-- The table maps nothing twice. -/
theorem lowerCode_lowerCode (code : Nat) : lowerCode (lowerCode code) = lowerCode code := by
  obtain ⟨-, hstays⟩ | ⟨q, hq, hcovers, hmoved⟩ := lowerCode_cases code
  · rw [hstays, hstays]
  · have hchars := List.all_eq_true.1 givesCharacters_of_lowerRuns q hq
    have hmisses := List.all_eq_true.1 misses_of_lowerRuns q hq
    obtain ⟨-, hstays⟩ | ⟨r, hr, hagain, -⟩ := lowerCode_cases (lowerCode code)
    · exact hstays
    · have hnot := LowerRun.covers_of_misses hchars (List.all_eq_true.1 hmisses r hr) hcovers
      rw [← hmoved, hagain] at hnot
      cases hnot

/-- The table maps characters to characters. -/
theorem isValidChar_lowerCode {code : Nat} (h : code.isValidChar) :
    (lowerCode code).isValidChar := by
  obtain ⟨-, hstays⟩ | ⟨q, hq, hcovers, hmoved⟩ := lowerCode_cases code
  · rwa [hstays]
  · have hchars := List.all_eq_true.1 givesCharacters_of_lowerRuns q hq
    obtain ⟨distance, -, himage, hgreatest, -⟩ := LowerRun.image_of_covers hchars hcovers
    simp only [LowerRun.givesCharacters, Bool.and_eq_true, decide_eq_true_eq] at hchars
    rw [hmoved]
    unfold Nat.isValidChar
    omega

/-- It maps nothing to U+0130. -/
theorem lowerCode_ne_dotted {code : Nat} (h : code ≠ 0x130) : lowerCode code ≠ 0x130 := by
  obtain ⟨-, hstays⟩ | ⟨q, hq, hcovers, hmoved⟩ := lowerCode_cases code
  · rwa [hstays]
  · have hchars := List.all_eq_true.1 givesCharacters_of_lowerRuns q hq
    have hmiss : LowerRun.misses ⟨0x130, 0x130, 1, 0⟩ q = true := by
      simp only [LowerRun.givesCharacters, Bool.and_eq_true] at hchars
      exact hchars.2
    have hnot := LowerRun.covers_of_misses hchars hmiss hcovers
    rw [← hmoved] at hnot
    intro heq
    rw [heq] at hnot
    revert hnot; decide

/-- It maps only ASCII characters and U+212A to ASCII characters. -/
theorem ascii_of_lowerCode {code : Nat} (h : lowerCode code < 0x80) :
    code < 0x80 ∨ code = 0x212A := by
  obtain ⟨-, hstays⟩ | ⟨q, hq, hcovers, hmoved⟩ := lowerCode_cases code
  · exact .inl (hstays ▸ h)
  · have hchars := List.all_eq_true.1 givesCharacters_of_lowerRuns q hq
    obtain ⟨distance, -, himage, -⟩ := LowerRun.image_of_covers hchars hcovers
    obtain ⟨_, -, hcode, hlast⟩ := LowerRun.exists_of_covers hcovers
    have hascii := of_decide_eq_true (List.all_eq_true.1 ascii_of_lowerRuns q hq)
    omega

/-! ### Characters -/

/-- Whether a character has no other lower-case. -/
def IsLower (c : Char) : Prop := lowerChar c = [c]

instance (c : Char) : Decidable (IsLower c) := by
  unfold IsLower; infer_instance

/-- The lower-case of a character that is not U+0130 is the one that the table gives. -/
theorem exists_lowerChar {c : Char} (h : c ≠ '\u0130') :
    ∃ d, lowerChar c = [d] ∧ d.toNat = lowerCode c.toNat := by
  have hvalid : (lowerCode c.toNat).isValidChar := isValidChar_lowerCode c.valid
  refine ⟨Char.ofNat (lowerCode c.toNat), by simp [lowerChar, h], ?_⟩
  rw [Char.ofNat, dif_pos hvalid]
  rfl

/-- A character that the table leaves alone is in lower case, but for U+0130. -/
theorem isLower_of_lowerCode {c : Char} (h : c ≠ '\u0130') (hcode : lowerCode c.toNat = c.toNat) :
    IsLower c := by
  obtain ⟨d, hd, hcode'⟩ := exists_lowerChar h
  obtain rfl : d = c := Char.toNat_inj.1 (hcode'.trans hcode)
  exact hd

/-- Lower-casing gives characters in lower case. -/
theorem isLower_of_mem_lowerChar {c d : Char} (h : d ∈ lowerChar c) : IsLower d := by
  by_cases hc : c = '\u0130'
  · subst hc
    obtain rfl | rfl : d = 'i' ∨ d = '\u0307' := by simpa [lowerChar] using h
    · decide +kernel
    · decide +kernel
  · obtain ⟨e, he, hcode⟩ := exists_lowerChar hc
    obtain rfl : d = e := by simpa [he] using h
    have hdotted : c.toNat ≠ 0x130 := fun heq => hc (Char.toNat_inj.1 heq)
    refine isLower_of_lowerCode ?_ (by rw [hcode, lowerCode_lowerCode])
    rintro rfl
    exact lowerCode_ne_dotted hdotted hcode.symm

/-- In ASCII lower-casing is what it is for the ASCII letters. -/
theorem lowerChar_of_ascii {c : Char} (h : c.toNat < 0x80) : lowerChar c = [c.toLower] := by
  have hall : ∀ n < 0x80, lowerChar (Char.ofNat n) = [(Char.ofNat n).toLower] := by decide +kernel
  have hc := hall c.toNat h
  rwa [Char.ofNat_toNat] at hc

/-! ### Texts -/

/-- A property that does not tell the two forms of the sigma apart holds of all characters of a
    lower-case if it holds of the lower-case of each character by itself. -/
theorem forall_mem_lowerFrom_iff {P : Char → Prop} (hP : P 'σ' ↔ P 'ς') (before cs : List Char) :
    (∀ d ∈ lowerFrom before cs, P d) ↔ ∀ c ∈ cs, ∀ d ∈ lowerChar c, P d := by
  induction cs generalizing before with
  | nil => simp [lowerFrom]
  | cons c cs ih =>
    -- the characters around a sigma only choose between its two forms
    have hfirst : (∀ d ∈ (if c = 'Σ' then [lowerSigma before cs] else lowerChar c), P d) ↔
        ∀ d ∈ lowerChar c, P d := by
      split
      · next hsigma =>
        have hsmall : lowerChar 'Σ' = ['σ'] := by decide +kernel
        subst hsigma
        unfold lowerSigma
        split <;> simp [hsmall, hP]
      · exact .rfl
    simp only [lowerFrom, List.forall_mem_append, hfirst, ih, List.forall_mem_cons]

/-- All characters of a lower-case are in lower case. -/
theorem isLower_of_mem_lowerFrom {before cs : List Char} {d : Char} (h : d ∈ lowerFrom before cs) :
    IsLower d := by
  have hsigma : IsLower 'σ' ↔ IsLower 'ς' := by decide +kernel
  exact (forall_mem_lowerFrom_iff hsigma before cs).2 (fun _ _ _ => isLower_of_mem_lowerChar) d h

/-- Characters in lower case stay. -/
theorem lowerFrom_of_isLower (before : List Char) {cs : List Char} (h : ∀ c ∈ cs, IsLower c) :
    lowerFrom before cs = cs := by
  induction cs generalizing before with
  | nil => rfl
  | cons c cs ih =>
    obtain ⟨hc, hcs⟩ := List.forall_mem_cons.1 h
    have hsigma : c ≠ 'Σ' := by
      rintro rfl
      revert hc; decide +kernel
    rw [lowerFrom, if_neg hsigma, hc, ih _ hcs, List.singleton_append]

/-- The texts that are their own lower-case are those in lower case. -/
theorem lowercase_eq_self_iff (text : String) :
    lowercase text = text ↔ ∀ c ∈ text.toList, IsLower c := by
  constructor
  · intro h c hc
    rw [← h, lowercase, String.toList_ofList] at hc
    exact isLower_of_mem_lowerFrom hc
  · intro h
    rw [lowercase, lowerFrom_of_isLower [] h, String.ofList_toList]

/-- A lower-case is its own lower-case. -/
theorem lowercase_lowercase (text : String) : lowercase (lowercase text) = lowercase text := by
  rw [lowercase_eq_self_iff]
  intro c hc
  rw [lowercase, String.toList_ofList] at hc
  exact isLower_of_mem_lowerFrom hc

/-- A lower-case is as long as its text, but for each U+0130 it has one character more. -/
theorem length_lowerFrom (before cs : List Char) :
    (lowerFrom before cs).length = cs.length + cs.count '\u0130' := by
  induction cs generalizing before with
  | nil => rfl
  | cons c cs ih =>
    rw [lowerFrom, List.length_append, ih, List.length_cons]
    by_cases hdotted : c = '\u0130'
    · subst hdotted
      have hne : '\u0130' ≠ 'Σ' := by decide
      rw [if_neg hne, lowerChar, if_pos rfl, List.count_cons_self]
      simp only [List.length_cons, List.length_nil]
      omega
    · obtain ⟨d, hd, -⟩ := exists_lowerChar hdotted
      rw [List.count_cons_of_ne hdotted, hd]
      split <;> simp only [List.length_cons, List.length_nil] <;> omega

/-- Only no characters have none in lower case. -/
theorem lowerFrom_eq_nil_iff {before cs : List Char} : lowerFrom before cs = [] ↔ cs = [] := by
  rw [← List.length_eq_zero_iff, length_lowerFrom, ← List.length_eq_zero_iff]
  have := List.count_le_length (a := '\u0130') (l := cs)
  omega

/-! ### Characters that may be exchanged -/

/-- Whether a character is in lower case, has no case, and is not looked through. -/
structure Neutral (c : Char) : Prop where
  isLower : IsLower c
  notCased : isCased c = false
  notIgnorable : isCaseIgnorable c = false

/-- Whether two characters are the same, or both among the given ones. -/
def Exchanged (marks : List Char) (c d : Char) : Prop := c = d ∨ c ∈ marks ∧ d ∈ marks

variable {marks before before' cs cs' : List Char}

/-- Whether letters come next does not depend on which neutral characters come before them. -/
theorem meetsCased_exchanged (hmarks : ∀ c ∈ marks, Neutral c)
    (h : List.Forall₂ (Exchanged marks) cs cs') : meetsCased cs = meetsCased cs' := by
  induction h with
  | nil => rfl
  | @cons c d cs ds hcd _ ih =>
    obtain rfl | ⟨hc, hd⟩ := hcd
    · unfold meetsCased at ih ⊢
      by_cases hignorable : isCaseIgnorable c = true
      · rw [List.dropWhile_cons_of_pos hignorable, List.dropWhile_cons_of_pos hignorable, ih]
      · rw [List.dropWhile_cons_of_neg hignorable, List.dropWhile_cons_of_neg hignorable]
    · -- a neutral character ends the search
      have hstop : ∀ {c : Char} (cs : List Char), Neutral c → meetsCased (c :: cs) = false := by
        intro c cs hneutral
        rw [meetsCased, List.dropWhile_cons_of_neg (by simp [hneutral.notIgnorable])]
        exact hneutral.notCased
      rw [hstop cs (hmarks c hc), hstop ds (hmarks d hd)]

/-- Neutral characters that are exchanged before lower-casing are exchanged afterwards, and all
    else is the same. -/
theorem lowerFrom_exchanged (hmarks : ∀ c ∈ marks, Neutral c)
    (hbefore : List.Forall₂ (Exchanged marks) before before')
    (h : List.Forall₂ (Exchanged marks) cs cs') :
    List.Forall₂ (Exchanged marks) (lowerFrom before cs) (lowerFrom before' cs') := by
  induction h generalizing before before' with
  | nil => exact .nil
  | @cons c d cs ds hcd hcs ih =>
    have hself : ∀ l : List Char, List.Forall₂ (Exchanged marks) l l :=
      fun l => List.forall₂_same.2 fun _ _ => .inl rfl
    refine List.rel_append ?_ (ih (.cons hcd hbefore))
    obtain rfl | ⟨hc, hd⟩ := hcd
    · -- a sigma finds the same on both sides, and other characters do not look around
      have hsigma : lowerSigma before cs = lowerSigma before' ds := by
        rw [lowerSigma, lowerSigma, meetsCased_exchanged hmarks hbefore,
          meetsCased_exchanged hmarks hcs]
      rw [hsigma]
      exact hself _
    · -- exchanged characters stay as they are
      have hstays : ∀ {c : Char} (s : Char), Neutral c →
          (if c = 'Σ' then [s] else lowerChar c) = [c] := by
        intro c s hneutral
        rw [if_neg, hneutral.isLower]
        rintro rfl
        exact absurd hneutral.isLower (by decide +kernel)
      rw [hstays _ (hmarks c hc), hstays _ (hmarks d hd)]
      exact .cons (.inr ⟨hc, hd⟩) .nil

end SovdConfig.Text
