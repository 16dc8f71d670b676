import SovdConfig.Yaml.Token.Lexer

namespace SovdConfig.Yaml

/-!
# The tokens of a text

A token is taken as soon as it is certain, so the lexer is always somewhere between fetching and
taking.  Main definitions:

* `Lexer.Settles` — how tokens are fetched until the first of them is certain;
* `Scan` — what a lexer knows when no token is ready;
* `Scan.Yields`, `Scan.Ends` — which tokens are taken from one such place to another, or to the end
  of the text.

Main statements:

* `Scan.yields_of_settles`, `Scan.ends_of_settles` — it is enough to know what is fetched;
* `Scan.Yields.trans`, `Scan.Yields.ends` — one part of a text is read after the other;
* `Scan.map_kind_tokens` — all tokens of a text.
-/

namespace Lexer

/-! ### Fetching -/

/-- How tokens are fetched until the first one is certain, in so many steps. -/
inductive Settles : Nat → Lexer → Lexer → Prop
  | certain {l : Lexer} : l.queue ≠ [] → l.dropStale? = some l → l.mayBecomeKey = false →
    Settles 0 l l
  | empty {n : Nat} {l l₁ l' : Lexer} : l.queue = [] → l.fetch? = some l₁ → Settles n l₁ l' →
    Settles (n + 1) l l'
  | pending {n : Nat} {l l₁ l' : Lexer} : l.queue ≠ [] → l.dropStale? = some l →
    l.mayBecomeKey = true → l.fetch? = some l₁ → Settles n l₁ l' → Settles (n + 1) l l'

variable {n : Nat} {l l' : Lexer}

/-- What is fetched is enough. -/
theorem Settles.fetchMore? (h : Settles n l l') (fuel : Nat) (hfuel : n < fuel) :
    Lexer.fetchMore? fuel l = some l' := by
  induction h generalizing fuel with
  | certain hqueue hstale hkey =>
    obtain ⟨fuel, rfl⟩ := Nat.exists_eq_add_one_of_ne_zero (Nat.ne_zero_of_lt hfuel)
    simp [Lexer.fetchMore?, hqueue, hstale, hkey]
  | empty hqueue hfetch _ ih =>
    obtain ⟨fuel, rfl⟩ := Nat.exists_eq_add_one_of_ne_zero (Nat.ne_zero_of_lt hfuel)
    simp [Lexer.fetchMore?, hqueue, hfetch, ih fuel (by omega)]
  | pending hqueue hstale hkey hfetch _ ih =>
    obtain ⟨fuel, rfl⟩ := Nat.exists_eq_add_one_of_ne_zero (Nat.ne_zero_of_lt hfuel)
    simp [Lexer.fetchMore?, hqueue, hstale, hkey, hfetch, ih fuel (by omega)]

/-- What has settled stays as it is. -/
theorem Settles.self (h : Settles n l l') : Settles 0 l' l' := by
  induction h with
  | certain hqueue hstale hkey => exact .certain hqueue hstale hkey
  | empty _ _ _ ih | pending _ _ _ _ _ ih => exact ih

/-- The tokens are those after fetching, which takes at most two steps. -/
theorem Settles.tokensFrom (h : Settles n l l') (hn : n ≤ 2) (fuel : Nat) :
    Lexer.tokensFrom (fuel + 1) l = Lexer.tokensFrom (fuel + 1) l' := by
  rw [Lexer.tokensFrom, Lexer.tokensFrom, peek?, peek?, h.fetchMore? _ (by omega),
    h.self.fetchMore? _ (by omega)]

/-- The kinds of the tokens up to the end of the text. -/
def kindsFrom (fuel : Nat) (l : Lexer) : List TokenKind := (tokensFrom fuel l).map Token.kind

/-- A token that is certain is the next one. -/
theorem Settles.kindsFrom_cons (h : Settles 0 l l) {t : Token} {q : List Token}
    (hqueue : l.queue = t :: q) (fuel : Nat) :
    kindsFrom (fuel + 1) l =
      t.kind :: if t.kind = .streamEnd then [] else kindsFrom fuel l.next := by
  have hpeek : l.peek? = some (t, l) := by
    rw [peek?, h.fetchMore? _ (by omega)]
    simp [hqueue]
  rw [kindsFrom, Lexer.tokensFrom, hpeek]
  dsimp only
  split <;> rfl

end Lexer

open Lexer

/-! ### Places between tokens -/

/-- What comes before a place: characters, lines, and tokens that have been taken. -/
structure Past where
  index : Nat
  line : Nat
  taken : Nat

/-- What a lexer knows when no key may have started: the text from there on, the column, the
    indentation, and whether a key may start there. -/
structure Scan where
  rest : List Char
  column : Nat := 0
  indent : Int := -1
  outer : List Int := []
  keyAllowed : Bool := true

namespace Scan

/-- The lexer at a place, with some tokens that are ready. -/
def lexer (s : Scan) (p : Past) (queue : List Token) : Lexer where
  cursor := ⟨s.rest, ⟨p.index, p.line, s.column⟩⟩
  queue := queue
  taken := p.taken
  indent := s.indent
  outer := s.outer
  keyAllowed := s.keyAllowed
  started := true

variable {s s' s'' : Scan} {kinds kinds' : List TokenKind}

/-- A token that is ready is certain. -/
theorem settles_lexer (s : Scan) (p : Past) {q : List Token} (h : q ≠ []) :
    Settles 0 (s.lexer p q) (s.lexer p q) :=
  .certain h rfl rfl

/-- The tokens that are ready are taken one by one. -/
theorem kindsFrom_lexer (s : Scan) (p : Past) {ts : List Token}
    (hend : .streamEnd ∉ ts.map Token.kind) (q : List Token) (fuel : Nat) :
    kindsFrom (fuel + ts.length) (s.lexer p (ts ++ q)) =
      ts.map Token.kind ++
        kindsFrom fuel (s.lexer { p with taken := p.taken + ts.length } q) := by
  induction ts generalizing p with
  | nil => rfl
  | cons t ts ih =>
    obtain ⟨hne, hend⟩ : t.kind ≠ .streamEnd ∧ .streamEnd ∉ ts.map Token.kind := by
      simpa [eq_comm] using hend
    have hrest := ih { p with taken := p.taken + 1 } hend
    have htaken : p.taken + (ts.length + 1) = p.taken + 1 + ts.length := by omega
    have hcons :=
      (settles_lexer s p (List.cons_ne_nil t (ts ++ q))).kindsFrom_cons rfl (fuel + ts.length)
    rw [if_neg hne] at hcons
    rw [List.length_cons, ← Nat.add_assoc, List.cons_append, hcons, List.map_cons, List.cons_append,
      htaken, ← hrest]
    rfl

/-- Whether the tokens of these kinds are read from one place to another.  There are at most four
    for each character. -/
def Yields (s : Scan) (kinds : List TokenKind) (s' : Scan) : Prop :=
  kinds.length + 4 * s'.rest.length ≤ 4 * s.rest.length ∧
    ∀ p, ∃ p', ∀ fuel, kindsFrom (fuel + kinds.length) (s.lexer p []) =
      kinds ++ kindsFrom fuel (s'.lexer p' [])

/-- Whether the tokens of these kinds are read from a place to the end of the text.  There are at
    most seven more than four for each character. -/
def Ends (s : Scan) (kinds : List TokenKind) : Prop :=
  kinds.length ≤ 4 * s.rest.length + 7 ∧
    ∀ p fuel, kindsFrom (fuel + kinds.length) (s.lexer p []) = kinds

/-- Nothing is read on the spot. -/
theorem Yields.refl (s : Scan) : s.Yields [] s :=
  ⟨by simp, fun p => ⟨p, fun _ => rfl⟩⟩

/-- One part is read after the other. -/
theorem Yields.trans (h : s.Yields kinds s') (h' : s'.Yields kinds' s'') :
    s.Yields (kinds ++ kinds') s'' := by
  refine ⟨?_, fun p => ?_⟩
  · have hlength := h.1
    have hlength' := h'.1
    rw [List.length_append]
    omega
  · obtain ⟨p', hp⟩ := h.2 p
    obtain ⟨p'', hp'⟩ := h'.2 p'
    refine ⟨p'', fun fuel => ?_⟩
    have hfuel : fuel + (kinds ++ kinds').length = fuel + kinds'.length + kinds.length := by
      rw [List.length_append]
      omega
    rw [hfuel, hp, hp', List.append_assoc]

/-- The last part is read after the others. -/
theorem Yields.ends (h : s.Yields kinds s') (h' : s'.Ends kinds') : s.Ends (kinds ++ kinds') := by
  refine ⟨?_, fun p fuel => ?_⟩
  · have hlength := h.1
    have hlength' := h'.1
    rw [List.length_append]
    omega
  · obtain ⟨p', hp⟩ := h.2 p
    have hfuel : fuel + (kinds ++ kinds').length = fuel + kinds'.length + kinds.length := by
      rw [List.length_append]
      omega
    rw [hfuel, hp, h'.2]

/-- It is enough to know which tokens are fetched. -/
theorem yields_of_settles (hne : kinds ≠ []) (hend : .streamEnd ∉ kinds)
    (hlength : kinds.length + 4 * s'.rest.length ≤ 4 * s.rest.length)
    (h : ∀ p, ∃ n p' ts, n ≤ 2 ∧ ts.map Token.kind = kinds ∧
      Settles n (s.lexer p []) (s'.lexer p' ts)) : s.Yields kinds s' := by
  refine ⟨hlength, fun p => ?_⟩
  obtain ⟨n, p', ts, hn, rfl, hsettles⟩ := h p
  obtain ⟨t, ts, rfl⟩ := List.exists_cons_of_ne_nil (by simpa using hne : ts ≠ [])
  refine ⟨{ p' with taken := p'.taken + (t :: ts).length }, fun fuel => ?_⟩
  have hready := kindsFrom_lexer s' p' hend [] fuel
  rw [List.append_nil] at hready
  rw [← hready, List.length_map, List.length_cons, ← Nat.add_assoc, kindsFrom, kindsFrom,
    hsettles.tokensFrom hn]

/-- The end of the text is the last token, after those for the ends of collections. -/
theorem ends_of_settles (s' : Scan) (hend : .streamEnd ∉ kinds) (hlength : kinds.length ≤ 6)
    (h : ∀ p, ∃ n p' ts t, n ≤ 2 ∧ ts.map Token.kind = kinds ∧ t.kind = .streamEnd ∧
      Settles n (s.lexer p []) (s'.lexer p' (ts ++ [t]))) : s.Ends (kinds ++ [.streamEnd]) := by
  refine ⟨by rw [List.length_append, List.length_singleton]; omega, fun p fuel => ?_⟩
  obtain ⟨n, p', ts, t, hn, rfl, ht, hsettles⟩ := h p
  have hready := kindsFrom_lexer s' p' hend [t] (fuel + 1)
  have hlast := (settles_lexer s' { p' with taken := p'.taken + ts.length }
    (List.cons_ne_nil t [])).kindsFrom_cons rfl fuel
  rw [if_pos ht, ht] at hlast
  rw [hlast, Nat.add_right_comm] at hready
  rw [List.length_append, List.length_map, List.length_singleton, ← Nat.add_assoc, kindsFrom,
    hsettles.tokensFrom hn]
  exact hready

/-- All tokens of a text but the first, which is that of its start. -/
theorem map_kind_tokens {cs : List Char} (h : Ends { rest := cs } kinds) :
    ((Lexer.ofText cs).tokens.drop 1).map Token.kind = kinds := by
  obtain ⟨fuel, hfuel⟩ := Nat.exists_eq_add_of_le' h.1
  -- the token of the start is fetched first, whatever the text is
  let first : Lexer := Scan.lexer { rest := cs } ⟨0, 0, 0⟩ [⟨.streamStart, {}, {}⟩]
  have hfirst : Settles 0 first first := settles_lexer _ _ (by simp)
  have hfetch : Settles 1 (Lexer.ofText cs) first := .empty rfl rfl hfirst
  have hcons := hfirst.kindsFrom_cons rfl (4 * cs.length + 7)
  rw [if_neg (by decide)] at hcons
  have htokens : (Lexer.ofText cs).tokens.map Token.kind =
      .streamStart :: kindsFrom (4 * cs.length + 7) (Scan.lexer { rest := cs } ⟨0, 0, 1⟩ []) := by
    rw [Lexer.tokens, hfetch.tokensFrom (by omega)]
    exact hcons
  rw [List.map_drop, htokens, List.drop_succ_cons, List.drop_zero, hfuel]
  exact h.2 ⟨0, 0, 1⟩ fuel

end Scan

end SovdConfig.Yaml
