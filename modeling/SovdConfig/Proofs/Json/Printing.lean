import SovdConfig.Json.Printer
import SovdConfig.Proofs.Json.Literal
import SovdConfig.Proofs.Toml.Literal

namespace SovdConfig.Json

/-!
# Printed values

What is printed of a value is JSON again, and denotes that value.  Main definitions:

* `toTree?` — a value as it is written, unless one of its numbers is a double;
* `stack` — lines one below the other, each but the first behind a margin;
* `Lays` — whether lines are a text of some kind, whatever margin they stand behind.

Main statement: `textDenotes_print`, the text of a value denotes the value.
-/

variable {α : Type}

mutual

/-- A value as it is written, its numbers in decimal; there is none if one of them is a double. -/
def toTree? : Json → Option Tree
  | null => some .null
  | bool b => some (.bool b)
  | number (.integer n) => some (.number (.ofInt n))
  | number (.double _) => none
  | string s => some (.string s)
  | array items => (toTreeAll? items).map .array
  | object members => (toTreeMembers? members).map .object

/-- The items of a list as they are written. -/
def toTreeAll? : List Json → Option (List Tree)
  | [] => some []
  | v :: rest => do
    let t ← v.toTree?
    let ts ← toTreeAll? rest
    return t :: ts

/-- The members of an object as they are written. -/
def toTreeMembers? : List (String × Json) → Option (List (String × Tree))
  | [] => some []
  | (name, v) :: rest => do
    let t ← v.toTree?
    let ts ← toTreeMembers? rest
    return (name, t) :: ts

end

/-! ### Scalars -/

/-- The number of a control character is written with four digits. -/
theorem hexUnit_padLeft : ∀ n < 0x20, HexUnit (padLeft 4 (hexDigits false n)) n := by
  intro n hn
  have hdigits : ∀ n < 0x20, padLeft 4 (hexDigits false n) =
      [Nat.digitChar 0, Nat.digitChar 0, Nat.digitChar (n / 16), Nat.digitChar (n % 16)] := by
    decide
  exact ⟨_, _, _, _, 0, 0, n / 16, n % 16, hdigits n hn, ⟨by omega, .inl rfl⟩,
    ⟨by omega, .inl rfl⟩, ⟨by omega, .inl rfl⟩, ⟨by omega, .inl rfl⟩, by omega⟩

/-- A character is written as it is or as an escape of itself. -/
theorem charText_quoteChar (c : Char) : CharText (quoteChar c) c := by
  unfold quoteChar
  split_ifs with hquote hescape hback htab hline hfeed hreturn hcontrol
  · exact .short (by simp [hquote, shortEscapes])
  · exact .short (by simp [hescape, shortEscapes])
  · exact .short (by simp [hback, shortEscapes])
  · exact .short (by simp [htab, shortEscapes])
  · exact .short (by simp [hline, shortEscapes])
  · exact .short (by simp [hfeed, shortEscapes])
  · exact .short (by simp [hreturn, shortEscapes])
  · have hunit := CharText.unit (hexUnit_padLeft c.toNat hcontrol) (.inl (by omega))
    rwa [Char.ofNat_toNat] at hunit
  · exact .plain (Nat.le_of_not_lt hcontrol) hquote hescape

/-- A text is written between its quotes character by character. -/
theorem stringText_flatMap (text : List Char) : StringText (text.flatMap quoteChar) text := by
  induction text with
  | nil => exact .nil
  | cons c text ih => exact .cons (charText_quoteChar c) ih

/-- An integer is written as its literal. -/
theorem numberText_integerText (n : Int) : NumberText (integerText n).toList (.ofInt n) := by
  have hdigits : IsDigitText (Nat.toDigits 10 n.natAbs) := by
    refine ⟨Nat.toDigits_ne_nil, fun c hc => ?_⟩
    exact isDigit_of_mem_decimalText (by simpa [decimalText] using hc)
  have htext : (integerText n).toList =
      (if decide (n < 0) = true then ['-'] else []) ++
        (Nat.toDigits 10 n.natAbs ++ ([] ++ [])) := by
    unfold integerText
    split <;> simp_all [decimalText]
  rw [htext, Literal.ofInt]
  exact .mk hdigits Toml.toDigits_eq_zero_of_head? .none .none

/-! ### Lines -/

/-- Lines one below the other, each but the first behind a margin. -/
def stack (margin : List Char) (lines : List String) : List Char :=
  ('\n' :: margin).intercalate (lines.map String.toList)

section

variable {margin : List Char} {lines more : List String}

/-- One line stands alone. -/
@[simp] theorem stack_singleton (line : String) : stack margin [line] = line.toList := by
  simp [stack]

/-- The other lines stand below the first. -/
theorem stack_cons (line : String) (h : lines ≠ []) :
    stack margin (line :: lines) = line.toList ++ '\n' :: (margin ++ stack margin lines) := by
  simp [stack, List.intercalate_cons_of_ne_nil (mt List.map_eq_nil_iff.1 h)]

/-- Lines stand below other lines. -/
theorem stack_append (h : lines ≠ []) (h' : more ≠ []) :
    stack margin (lines ++ more) = stack margin lines ++ '\n' :: (margin ++ stack margin more) := by
  induction lines with
  | nil => exact absurd rfl h
  | cons line rest ih =>
    by_cases hrest : rest = []
    · simp [hrest, stack_cons line h']
    · rw [List.cons_append, stack_cons line (by simp [hrest]), ih hrest, stack_cons line hrest]
      simp

/-- Blanks in front of every line go to the margin of all but the first. -/
theorem stack_map_indent (h : lines ≠ []) :
    stack margin (lines.map ("  " ++ ·)) = ' ' :: ' ' :: stack (margin ++ [' ', ' ']) lines := by
  induction lines with
  | nil => exact absurd rfl h
  | cons line rest ih =>
    by_cases hrest : rest = []
    · simp [hrest]
    · rw [List.map_cons, stack_cons _ (by simpa using hrest), ih hrest, stack_cons line hrest]
      simp

/-- There are lines behind which a text is put. -/
theorem append_ne_nil (text : String) (lines : List String) : append text lines ≠ [] := by
  fun_cases append text lines <;> simp

/-- Text behind the last line ends the text. -/
theorem stack_append_text (text : String) (lines : List String) :
    stack margin (append text lines) = stack margin lines ++ text.toList := by
  fun_induction append text lines with
  | case1 => simp [stack]
  | case2 line => simp
  | case3 line rest hrest ih =>
    have hne : rest ≠ [] := by
      rintro rfl
      exact hrest rfl
    rw [stack_cons line (append_ne_nil text rest), ih, stack_cons line hne]
    simp

/-- Text in front of the first line starts the text. -/
theorem stack_prepend (text : String) (lines : List String) :
    stack margin (prepend text lines) = text.toList ++ stack margin lines := by
  fun_cases prepend text lines with
  | case1 => simp [stack]
  | case2 line rest =>
    by_cases hrest : rest = []
    · simp [hrest]
    · simp [stack_cons _ hrest]

end

/-- Whether lines are a text of some kind, whatever margin they stand behind. -/
structure Lays (item : List Char → α → Prop) (lines : List String) (a : α) : Prop where
  nonempty : lines ≠ []
  text {margin : List Char} : IsBlankText margin → item (stack margin lines) a

/-! ### Entries of containers -/

section

variable {item : List Char → α → Prop}

/-- Entries have lines if the first of them has. -/
theorem joinEntries_ne_nil {entry : List String} (h : entry ≠ []) (rest : List (List String)) :
    joinEntries (entry :: rest) ≠ [] := by
  cases rest with
  | nil => simpa [joinEntries] using h
  | cons next rest => simp [joinEntries, append_ne_nil]

/-- Blank space of a margin stays blank space behind a line break and before blanks. -/
theorem isBlankText_margin {margin : List Char} (h : IsBlankText margin) :
    IsBlankText ('\n' :: margin) ∧ IsBlankText (margin ++ [' ', ' ']) := by
  simp only [IsBlankText, List.forall_mem_cons, List.mem_append, or_imp, forall_and] at h ⊢
  simp_all

/-- After the first entry the others follow, each after a comma. -/
theorem tailText_joinEntries {entry : List String} {rest : List (List String)} {a : α}
    {as : List α} (h : Lays item entry a) (hrest : List.Forall₂ (Lays item) rest as)
    {margin : List Char} (hmargin : IsBlankText margin) :
    ∃ tail, stack margin (joinEntries (entry :: rest)) =
        ' ' :: ' ' :: (stack (margin ++ [' ', ' ']) entry ++ tail) ∧
      TailText item (tail ++ '\n' :: margin) as := by
  obtain ⟨hbreak, hdeeper⟩ := isBlankText_margin hmargin
  induction hrest generalizing entry a with
  | nil => exact ⟨[], by simp [joinEntries, stack_map_indent h.nonempty], .done hbreak⟩
  | @cons next b rest as hnext hrest ih =>
    obtain ⟨tail, htail, hmore⟩ := ih hnext
    -- the comma stands behind the last line of an entry, the line break after it is a gap
    have hgap : IsBlankText ('\n' :: (margin ++ [' ', ' '])) := (isBlankText_margin hdeeper).1
    have hjoin : joinEntries (entry :: next :: rest) =
        (append "," entry).map ("  " ++ ·) ++ joinEntries (next :: rest) := rfl
    have htext := TailText.more isBlankText_nil hgap (hnext.text hdeeper) hmore
    refine ⟨',' :: '\n' :: (margin ++ [' ', ' '] ++ (stack (margin ++ [' ', ' ']) next ++ tail)),
      ?_, by simpa using htext⟩
    rw [hjoin, stack_append (by simpa using append_ne_nil "," entry)
      (joinEntries_ne_nil hnext.nonempty rest), stack_map_indent (append_ne_nil "," entry),
      stack_append_text, htail]
    simp

/-- The entries of a container, each on lines of its own, stand between line breaks. -/
theorem itemsText_joinEntries {entries : List (List String)} {as : List α}
    (h : List.Forall₂ (Lays item) entries as) (hne : entries ≠ []) {margin : List Char}
    (hmargin : IsBlankText margin) :
    ItemsText item ('\n' :: (margin ++ (stack margin (joinEntries entries) ++ '\n' :: margin)))
      as := by
  cases h with
  | nil => exact absurd rfl hne
  | cons hentry hrest =>
    obtain ⟨hbreak, hdeeper⟩ := isBlankText_margin hmargin
    obtain ⟨tail, htail, hmore⟩ := tailText_joinEntries hentry hrest hmargin
    have htext := ItemsText.some (isBlankText_margin hdeeper).1 (hentry.text hdeeper) hmore
    rw [htail]
    simpa using htext

/-- A container is its entries between its brackets. -/
theorem stack_container (opening closing : String) {entries : List (List String)} {as : List α}
    (h : List.Forall₂ (Lays item) entries as) (hne : entries ≠ []) (margin : List Char) :
    stack margin ([opening] ++ joinEntries entries ++ [closing]) =
      opening.toList ++
        ('\n' :: (margin ++ (stack margin (joinEntries entries) ++ '\n' :: margin)) ++
          closing.toList) := by
  cases h with
  | nil => exact absurd rfl hne
  | @cons entry _ rest _ hentry hrest =>
    have hentries := joinEntries_ne_nil hentry.nonempty rest
    rw [stack_append (by simp) (by simp), stack_append (by simp) hentries, stack_singleton,
      stack_singleton]
    simp

end

/-! ### Values -/

/-- A value that is on one line is laid out as that line. -/
theorem lays_singleton {item : List Char → α → Prop} {line : String} {a : α}
    (h : item line.toList a) : Lays item [line] a :=
  ⟨by simp, fun _ => by rwa [stack_singleton]⟩

/-- A text is written between quotes. -/
theorem toList_quote (text : String) :
    (quote text).toList = '"' :: (text.toList.flatMap quoteChar ++ ['"']) := by
  simp [quote]

/-- A member is laid out as its name and its value. -/
theorem lays_member (name : String) {lines : List String} {t : Tree} (h : Lays Denotes lines t) :
    Lays (MemberText Denotes) (prepend (quote name ++ ": ") lines) (name, t) where
  nonempty := by fun_cases prepend (quote name ++ ": ") lines <;> simp
  text {margin} hmargin := by
    have hblank : IsBlankText [' '] := by simp [IsBlankText]
    have htext :=
      MemberText.mk (stringText_flatMap name.toList) isBlankText_nil hblank (h.text hmargin)
    rw [stack_prepend]
    simpa [toList_quote] using htext

mutual

/-- The lines of a value denote it. -/
theorem lays_printLines :
    ∀ (v : Json) {t : Tree}, v.toTree? = some t → Lays Denotes (printLines v) t
  | null, t, h => by
    obtain rfl := Option.some.inj h
    exact lays_singleton .null
  | bool b, t, h => by
    obtain rfl := Option.some.inj h
    cases b
    · exact lays_singleton .false
    · exact lays_singleton .true
  | number (.integer n), t, h => by
    obtain rfl := Option.some.inj h
    exact lays_singleton (.number (numberText_integerText n))
  | string s, t, h => by
    obtain rfl := Option.some.inj h
    have hstring := Denotes.string (stringText_flatMap s.toList)
    rw [String.ofList_toList, ← toList_quote] at hstring
    exact lays_singleton hstring
  | array [], t, h => by
    obtain rfl := Option.some.inj h
    have hempty := Denotes.array (.none isBlankText_nil)
    exact lays_singleton (by simpa [scalarText] using hempty)
  | array (item :: items), t, h => by
    obtain ⟨ts, hts, rfl⟩ := Option.map_eq_some_iff.1 h
    have hitems := lays_printItems (item :: items) hts
    refine ⟨by simp [printLines], fun hmargin => ?_⟩
    rw [printLines, stack_container _ _ hitems (by simp [printItems])]
    exact .array (itemsText_joinEntries hitems (by simp [printItems]) hmargin)
  | object [], t, h => by
    obtain rfl := Option.some.inj h
    have hempty := Denotes.object (.none isBlankText_nil)
    exact lays_singleton (by simpa [scalarText] using hempty)
  | object (m :: members), t, h => by
    obtain ⟨ts, hts, rfl⟩ := Option.map_eq_some_iff.1 h
    have hmembers := lays_printMembers (m :: members) hts
    refine ⟨by simp [printLines], fun hmargin => ?_⟩
    rw [printLines, stack_container _ _ hmembers (by simp [printMembers])]
    exact .object (itemsText_joinEntries hmembers (by simp [printMembers]) hmargin)

/-- The lines of each item of a list denote it. -/
theorem lays_printItems : ∀ (items : List Json) {ts : List Tree}, toTreeAll? items = some ts →
    List.Forall₂ (Lays Denotes) (printItems items) ts
  | [], ts, h => by
    obtain rfl := Option.some.inj h
    exact .nil
  | v :: rest, ts, h => by
    obtain ⟨t, ht, h⟩ := Option.bind_eq_some_iff.1 h
    obtain ⟨ts, hts, h⟩ := Option.bind_eq_some_iff.1 h
    obtain rfl := Option.some.inj h
    exact .cons (lays_printLines v ht) (lays_printItems rest hts)

/-- The lines of each member of an object denote it. -/
theorem lays_printMembers : ∀ (members : List (String × Json)) {ts : List (String × Tree)},
    toTreeMembers? members = some ts →
      List.Forall₂ (Lays (MemberText Denotes)) (printMembers members) ts
  | [], ts, h => by
    obtain rfl := Option.some.inj h
    exact .nil
  | (name, v) :: rest, ts, h => by
    obtain ⟨t, ht, h⟩ := Option.bind_eq_some_iff.1 h
    obtain ⟨ts, hts, h⟩ := Option.bind_eq_some_iff.1 h
    obtain rfl := Option.some.inj h
    exact .cons (lays_member name (lays_printLines v ht)) (lays_printMembers rest hts)

end

/-- The text of a value denotes that value. -/
theorem textDenotes_print {v : Json} {t : Tree} (h : v.toTree? = some t) :
    TextDenotes v.print t := by
  have hlines := (lays_printLines v h).text isBlankText_nil
  refine ⟨[], _, [], ?_, isBlankText_nil, isBlankText_nil, hlines⟩
  simp [print, stack, String.toList_intercalate]

end SovdConfig.Json
