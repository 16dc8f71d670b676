import SovdConfig.Proofs.Json.Reading

namespace SovdConfig.Json

/-!
# A text denotes one value

The grammar of JSON is unambiguous.  Main definition: `Unambiguous`, whether a text that starts with
a text of something starts with no text of anything else, as far as a value may end there.  Main
statements:

* `NumberText.unique`, `StringText.unique` — numbers and strings;
* `ItemsText.unique` — the inside of a container, if its items are unambiguous;
* `Denotes.unique`, `TextDenotes.unique` — values and whole texts.
-/

open Numeral (spanDigits spanDigits_append ne_of_isDigit)

variable {α : Type} {cs cs' rest rest' : List Char}

/-! ### Numbers -/

/-- Digits are the same if what follows them is no digit. -/
theorem eq_of_digits {ds ds' : List Char} (h : IsDigitText ds) (h' : IsDigitText ds')
    (hrest : ∀ c ∈ rest.head?, c.isDigit = false) (hrest' : ∀ c ∈ rest'.head?, c.isDigit = false)
    (heq : ds ++ rest = ds' ++ rest') : ds = ds' ∧ rest = rest' := by
  have hspan := spanDigits_append h.2 hrest
  rw [heq, spanDigits_append h'.2 hrest'] at hspan
  exact ⟨(Prod.mk.inj hspan).1.symm, (Prod.mk.inj hspan).2.symm⟩

/-- A power of ten has one sign and one number. -/
theorem ExponentText.unique {exponent exponent' : Option (Bool × List Char)}
    (h : ExponentText cs exponent) (h' : ExponentText cs' exponent') (hrest : EndsValue rest)
    (hrest' : EndsValue rest') (heq : cs ++ rest = cs' ++ rest') :
    exponent = exponent' ∧ rest = rest' := by
  -- a value does not end at the letter of a power of ten
  have hletter {mark : Char} {after : List Char} (hmark : mark = 'e' ∨ mark = 'E') :
      ¬ EndsValue (mark :: after) := fun hends => by
    have hstop := hends.head?_ne.2.2
    rcases hmark with rfl | rfl <;> simp [startsExponent] at hstop
  cases h with
  | none =>
    cases h' with
    | none => exact ⟨rfl, heq⟩
    | some hmark _ _ =>
      rw [List.nil_append, List.cons_append] at heq
      exact absurd (heq ▸ hrest) (hletter hmark)
  | some hmark hsign hds =>
    rw [List.cons_append, List.append_assoc] at heq
    cases h' with
    | none =>
      rw [List.nil_append] at heq
      exact absurd (heq ▸ hrest') (hletter hmark)
    | some hmark' hsign' hds' =>
      rw [List.cons_append, List.append_assoc] at heq
      obtain ⟨c, ds, rfl, hc, -⟩ := hds.exists_cons
      obtain ⟨c', ds', rfl, hc', -⟩ := hds'.exists_cons
      have hafter := congrArg exponentSign (List.cons.inj heq).2
      rw [List.cons_append, List.cons_append, exponentSign_append hsign hc,
        exponentSign_append hsign' hc', Prod.mk.injEq] at hafter
      obtain ⟨rfl, hdigits⟩ := hafter
      obtain ⟨hdigits, hrests⟩ :=
        eq_of_digits hds hds' hrest.head?_ne.1 hrest'.head?_ne.1 hdigits
      exact ⟨by rw [hdigits], hrests⟩

/-- A fraction has the same digits. -/
theorem FractionText.unique {digits digits' : List Char} (h : FractionText cs digits)
    (h' : FractionText cs' digits')
    (hrest : (∀ c ∈ rest.head?, c.isDigit = false) ∧ rest.head? ≠ Option.some '.')
    (hrest' : (∀ c ∈ rest'.head?, c.isDigit = false) ∧ rest'.head? ≠ Option.some '.')
    (heq : cs ++ rest = cs' ++ rest') : digits = digits' ∧ rest = rest' := by
  cases h with
  | none =>
    cases h' with
    | none => exact ⟨rfl, heq⟩
    | some _ => exact absurd (congrArg List.head? heq) hrest.2
  | some hds =>
    cases h' with
    | none => exact absurd (congrArg List.head? heq).symm hrest'.2
    | some hds' => exact eq_of_digits hds hds' hrest.1 hrest'.1 (List.cons.inj heq).2

/-- A number has one literal. -/
theorem NumberText.unique {l l' : Literal} (h : NumberText cs l) (h' : NumberText cs' l')
    (hrest : EndsValue rest) (hrest' : EndsValue rest') (heq : cs ++ rest = cs' ++ rest') :
    l = l' ∧ rest = rest' := by
  obtain @⟨negative, whole, point, fraction, power, exponent, hwhole, -, hpoint, hpower⟩ := h
  obtain @⟨negative', whole', point', fraction', power', exponent', hwhole', -, hpoint', hpower'⟩ :=
    h'
  simp only [List.append_assoc] at heq
  have hsign : negative = negative' := by
    obtain ⟨c, ds, rfl, hc, -⟩ := hwhole.exists_cons
    obtain ⟨c', ds', rfl, hc', -⟩ := hwhole'.exists_cons
    have hhead := congrArg List.head? heq
    cases negative <;> cases negative' <;> simp at hhead ⊢
    · exact (ne_of_isDigit hc).2.1 hhead
    · exact (ne_of_isDigit hc').2.1 hhead.symm
  subst hsign
  obtain ⟨rfl, hafter⟩ := eq_of_digits hwhole hwhole'
    (isDigit_eq_false_of_mem_head? hpoint hpower hrest)
    (isDigit_eq_false_of_mem_head? hpoint' hpower' hrest') (List.append_cancel_left heq)
  obtain ⟨rfl, hafter⟩ := hpoint.unique hpoint' (head?_append_of_exponentText hpower hrest)
    (head?_append_of_exponentText hpower' hrest') hafter
  obtain ⟨rfl, hafter⟩ := hpower.unique hpower' hrest hrest' hafter
  exact ⟨rfl, hafter⟩

/-! ### Strings -/

/-- A string has the same characters up to its closing quote. -/
theorem StringText.unique {text text' : List Char} (h : StringText cs text)
    (h' : StringText cs' text') (heq : cs ++ '"' :: rest = cs' ++ '"' :: rest') :
    String.ofList text = String.ofList text' ∧ rest = rest' := by
  have hread := readString_append h rest
  rw [heq, readString_append h' rest', Except.ok.injEq, Prod.mk.injEq] at hread
  exact ⟨hread.1.symm, hread.2.symm⟩

/-! ### Containers -/

/-- Behind blank space, the same text follows. -/
theorem eq_of_blank {blank blank' : List Char} (hblank : IsBlankText blank)
    (hblank' : IsBlankText blank') {c c' : Char} (hc : isBlank c = false)
    (hc' : isBlank c' = false) (heq : blank ++ c :: rest = blank' ++ c' :: rest') :
    c = c' ∧ rest = rest' := by
  have hskip := skipBlank_append_cons hblank hc rest
  rw [heq, skipBlank_append_cons hblank' hc'] at hskip
  exact ⟨(List.cons.inj hskip).1.symm, (List.cons.inj hskip).2.symm⟩

/-- Whether a text that starts with a text of the thing, a value ending there, starts with no text
    of anything else. -/
def Unambiguous (item : List Char → α → Prop) (a : α) : Prop :=
  ∀ cs cs' a' rest rest', item cs a → item cs' a' → EndsValue rest → EndsValue rest' →
    cs ++ rest = cs' ++ rest' → a = a' ∧ rest = rest'

section

variable {item : List Char → α → Prop} {bracket : Char} {as as' : List α}

/-- A closing bracket is no blank and no comma. -/
theorem IsClosing.ne {c : Char} (h : IsClosing c) : isBlank c = false ∧ c ≠ ',' := by
  rcases h with rfl | rfl <;> decide

/-- An item behind blank space is found again. -/
theorem eq_of_item {blank blank' : List Char} (hblank : IsBlankText blank)
    (hblank' : IsBlankText blank') {a a' : α} (ha : item cs a) (ha' : item cs' a')
    (hstart : ∀ cs a, item cs a → StartsItem bracket cs) (hitem : Unambiguous item a)
    (hrest : EndsValue rest) (hrest' : EndsValue rest')
    (heq : blank ++ (cs ++ rest) = blank' ++ (cs' ++ rest')) : a = a' ∧ rest = rest' := by
  obtain ⟨c, tail, rfl, hc, -⟩ := hstart cs a ha
  obtain ⟨c', tail', rfl, hc', -⟩ := hstart cs' a' ha'
  rw [List.cons_append, List.cons_append] at heq
  obtain ⟨rfl, htail⟩ := eq_of_blank hblank hblank' hc hc' heq
  refine hitem _ _ a' rest rest' ha ha' hrest hrest' ?_
  rw [List.cons_append, htail, List.cons_append]

/-- Further items are found again up to the bracket. -/
theorem TailText.unique (hbracket : IsClosing bracket) (h : TailText item cs as)
    (h' : TailText item cs' as') (hstart : ∀ cs a, item cs a → StartsItem bracket cs)
    (hitem : ∀ a ∈ as, Unambiguous item a)
    (heq : cs ++ bracket :: rest = cs' ++ bracket :: rest') : as = as' ∧ rest = rest' := by
  obtain ⟨hsolid, hcomma⟩ := hbracket.ne
  induction h generalizing cs' as' with
  | done hblank =>
    cases h' with
    | done hblank' => exact ⟨rfl, (eq_of_blank hblank hblank' hsolid hsolid heq).2⟩
    | more hbefore' _ _ _ =>
      rw [List.append_assoc] at heq
      exact absurd (eq_of_blank hblank hbefore' hsolid rfl heq).1 hcomma
  | more hbefore hafter ha htail ih =>
    simp only [List.append_assoc, List.cons_append] at heq
    cases h' with
    | done hblank' =>
      exact absurd (eq_of_blank hbefore hblank' rfl hsolid heq).1.symm hcomma
    | more hbefore' hafter' ha' htail' =>
      simp only [List.append_assoc, List.cons_append] at heq
      have hinner := (eq_of_blank hbefore hbefore' rfl rfl heq).2
      obtain ⟨rfl, hrests⟩ := eq_of_item hafter hafter' ha ha' hstart (hitem _ (by simp))
        (htail.endsValue hbracket _) (htail'.endsValue hbracket _) hinner
      obtain ⟨rfl, hends⟩ := ih htail' (fun a ha => hitem a (by simp [ha])) hrests
      exact ⟨rfl, hends⟩

/-- The inside of a container is found again up to the bracket. -/
theorem ItemsText.unique (hbracket : IsClosing bracket) (h : ItemsText item cs as)
    (h' : ItemsText item cs' as') (hstart : ∀ cs a, item cs a → StartsItem bracket cs)
    (hitem : ∀ a ∈ as, Unambiguous item a)
    (heq : cs ++ bracket :: rest = cs' ++ bracket :: rest') : as = as' ∧ rest = rest' := by
  have hsolid := hbracket.ne.1
  cases h with
  | none hblank =>
    cases h' with
    | none hblank' => exact ⟨rfl, (eq_of_blank hblank hblank' hsolid hsolid heq).2⟩
    | some hblank' ha' _ =>
      obtain ⟨c, tail, rfl, hc, hne⟩ := hstart _ _ ha'
      rw [List.append_assoc, List.append_assoc] at heq
      exact absurd (eq_of_blank hblank hblank' hsolid hc heq).1.symm hne
  | some hblank ha htail =>
    rw [List.append_assoc, List.append_assoc] at heq
    cases h' with
    | none hblank' =>
      obtain ⟨c, tail, rfl, hc, hne⟩ := hstart _ _ ha
      exact absurd (eq_of_blank hblank hblank' hc hsolid heq).1 hne
    | some hblank' ha' htail' =>
      rw [List.append_assoc, List.append_assoc] at heq
      obtain ⟨rfl, hrests⟩ := eq_of_item hblank hblank' ha ha' hstart (hitem _ (by simp))
        (htail.endsValue hbracket _) (htail'.endsValue hbracket _) heq
      obtain ⟨rfl, hends⟩ :=
        htail.unique hbracket htail' hstart (fun a ha => hitem a (by simp [ha])) hrests
      exact ⟨rfl, hends⟩

/-- A member is found again if its value is. -/
theorem MemberText.unambiguous {value : List Char → α → Prop} {m : String × α}
    (hstart : ∀ cs a, value cs a → StartsItem ']' cs) (h : Unambiguous value m.2) :
    Unambiguous (MemberText value) m := by
  intro cs cs' m' rest rest' hm hm' hrest hrest' heq
  obtain @⟨name, text, before, after, cs, a, hname, hbefore, hafter, ha⟩ := hm
  obtain @⟨name', text', before', after', cs', a', hname', hbefore', hafter', ha'⟩ := hm'
  simp only [List.cons_append, List.append_assoc, List.cons.injEq, true_and] at heq
  obtain ⟨htext, hcolon⟩ := hname.unique hname' heq
  have hvalue := (eq_of_blank hbefore hbefore' rfl rfl hcolon).2
  obtain ⟨rfl, hrests⟩ := eq_of_item hafter hafter' ha ha' hstart h hrest hrest' hvalue
  exact ⟨by rw [htext], hrests⟩

end

/-! ### Values -/

/-- A number starts with its sign or with a digit. -/
theorem NumberText.not_cons {c : Char} (hc : c ≠ '-' ∧ c.isDigit = false) {tail : List Char}
    {l : Literal} : ¬ NumberText (c :: tail) l := by
  intro h
  obtain ⟨d, _, heq, -, hd⟩ := exists_cons_of_denotes (.number h)
  obtain ⟨rfl, -⟩ := List.cons.inj heq
  rcases hd with hd | hd
  · exact hc.1 hd
  · simp [hc.2] at hd

/-- Two values with one text start with the same character. -/
theorem Denotes.exists_cons {v : Tree} (h : Denotes cs' v) {c : Char}
    (heq : c :: (cs ++ rest) = cs' ++ rest') :
    ∃ tail, cs' = c :: tail ∧ cs ++ rest = tail ++ rest' := by
  obtain ⟨d, tail, rfl, -, -⟩ := exists_cons_of_denotes h
  rw [List.cons_append] at heq
  obtain ⟨rfl, htail⟩ := List.cons.inj heq
  exact ⟨tail, rfl, htail⟩

/-- A value is found again, wherever it ends. -/
theorem Denotes.unique (v : Tree) : Unambiguous Denotes v := by
  -- what is inside of a container is less deep
  induction hdepth : v.depth using Nat.strongRecOn generalizing v with
  | _ depth ih =>
    intro cs cs' v' rest rest' h h' hrest hrest' heq
    cases h with
    | null =>
      obtain ⟨tail, rfl, htail⟩ := h'.exists_cons heq
      cases h' with
      | null => exact ⟨rfl, List.append_cancel_left htail⟩
      | number h' => exact absurd h' (NumberText.not_cons (by decide))
    | true =>
      obtain ⟨tail, rfl, htail⟩ := h'.exists_cons heq
      cases h' with
      | true => exact ⟨rfl, List.append_cancel_left htail⟩
      | number h' => exact absurd h' (NumberText.not_cons (by decide))
    | false =>
      obtain ⟨tail, rfl, htail⟩ := h'.exists_cons heq
      cases h' with
      | false => exact ⟨rfl, List.append_cancel_left htail⟩
      | number h' => exact absurd h' (NumberText.not_cons (by decide))
    | number h =>
      obtain ⟨c, tail, rfl, -, hc⟩ := exists_cons_of_denotes (.number h)
      obtain ⟨tail', rfl, -⟩ := h'.exists_cons heq
      cases h' with
      | number h' =>
        obtain ⟨rfl, hrests⟩ := h.unique h' hrest hrest' heq
        exact ⟨rfl, hrests⟩
      | _ => simp [Tree.Leads] at hc
    | string h =>
      obtain ⟨tail, rfl, htail⟩ := h'.exists_cons heq
      cases h' with
      | string h' =>
        simp only [List.append_assoc, List.singleton_append] at htail
        obtain ⟨htext, hrests⟩ := h.unique h' htail
        exact ⟨by rw [htext], hrests⟩
      | number h' => exact absurd h' (NumberText.not_cons (by decide))
    | array h =>
      rw [Tree.depth] at hdepth
      obtain ⟨tail, rfl, htail⟩ := h'.exists_cons heq
      cases h' with
      | array h' =>
        simp only [List.append_assoc, List.singleton_append] at htail
        obtain ⟨rfl, hrests⟩ := h.unique (.inl rfl) h' (fun _ _ => startsItem_of_denotes)
          (fun a ha => ih a.depth (by have := Tree.depth_le_depthAll ha; omega) a rfl) htail
        exact ⟨rfl, hrests⟩
      | number h' => exact absurd h' (NumberText.not_cons (by decide))
    | object h =>
      rw [Tree.depth] at hdepth
      obtain ⟨tail, rfl, htail⟩ := h'.exists_cons heq
      cases h' with
      | object h' =>
        simp only [List.append_assoc, List.singleton_append] at htail
        have hstart : ∀ cs m, MemberText Denotes cs m → StartsItem '\x7d' cs := fun cs m hm => by
          obtain ⟨tail, rfl⟩ := hm.exists_cons
          exact ⟨_, _, rfl, by decide, by decide⟩
        obtain ⟨rfl, hrests⟩ := h.unique (.inr rfl) h' hstart
          (fun m hm => MemberText.unambiguous (fun _ _ => startsItem_of_denotes)
            (ih m.2.depth (by have := Tree.depth_le_depthMembers hm; omega) m.2 rfl)) htail
        exact ⟨rfl, hrests⟩
      | number h' => exact absurd h' (NumberText.not_cons (by decide))

/-- A text denotes at most one value. -/
theorem TextDenotes.unique {text : String} {v v' : Tree} (h : TextDenotes text v)
    (h' : TextDenotes text v') : v = v' := by
  obtain ⟨before, cs, after, heq, hbefore, hafter, hcs⟩ := h
  obtain ⟨before', cs', after', heq', hbefore', hafter', hcs'⟩ := h'
  exact (eq_of_item hbefore hbefore' hcs hcs' (fun _ _ => startsItem_of_denotes)
    (Denotes.unique v) (endsValue_of_isBlankText hafter) (endsValue_of_isBlankText hafter')
    (heq.symm.trans heq')).1

end SovdConfig.Json
