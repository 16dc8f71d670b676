import SovdConfig.Command.Output
import SovdConfig.Proofs.Path.Definitions

namespace SovdConfig

/-!
# Paths that share their definitions

Main definition: `Path.ExtendedBy`, a path and the same path with the ending of configurations
behind it.  Main statements:

* `Path.dropEnding_eq_iff` — different texts become the same only if one of them is the other with
  the ending behind it;
* `Path.definitions_apart` — definitions are never at the path of their configuration, and which
  configurations share the path of their definitions.

Bytes that are no text are read as text first, so paths that are no text may share their definitions
in other ways.
-/

/-- Different texts have different bytes. -/
theorem Text.encodeUtf8_injective : Function.Injective encodeUtf8 :=
  Function.LeftInverse.injective decodeLossy_encodeUtf8

namespace Path

/-! ### Endings -/

/-- An ending that is there is taken off. -/
theorem dropEnding_append (ending cs : List Char) : dropEnding ending (cs ++ ending) = cs := by
  have hends : ending.isSuffixOf (cs ++ ending) = true := by simp
  rw [dropEnding, if_pos hends, List.length_append, Nat.add_sub_cancel, List.take_left]

/-- Without the ending characters stay as they are. -/
theorem dropEnding_of_not_suffix {ending cs : List Char} (h : ¬ ending <:+ cs) :
    dropEnding ending cs = cs := by
  rw [dropEnding, if_neg (by simpa using h)]

/-- Different texts become the same only if one of them is the other with the ending behind it,
    which is then taken off just once. -/
theorem dropEnding_eq_iff {ending a b : List Char} (hne : a ≠ b) :
    dropEnding ending a = dropEnding ending b ↔
      b = a ++ ending ∧ ¬ ending <:+ a ∨ a = b ++ ending ∧ ¬ ending <:+ b := by
  have hsuffix : ∀ cs, ending <:+ cs ++ ending := fun cs => List.suffix_append cs ending
  by_cases ha : ending <:+ a <;> by_cases hb : ending <:+ b
  · -- both lose the ending, and differ without it
    obtain ⟨a, rfl⟩ := ha
    obtain ⟨b, rfl⟩ := hb
    have hstems : a ≠ b := fun h => hne (h ▸ rfl)
    simp [dropEnding_append, hstems, hsuffix]
  · obtain ⟨a, rfl⟩ := ha
    simp [dropEnding_append, dropEnding_of_not_suffix hb, hb, hsuffix]
  · obtain ⟨b, rfl⟩ := hb
    simp [dropEnding_append, dropEnding_of_not_suffix ha, ha, hsuffix, eq_comm]
  · -- neither ends that way, so neither is the other with the ending
    have hleft : b ≠ a ++ ending := fun h => hb (h ▸ hsuffix a)
    have hright : a ≠ b ++ ending := fun h => ha (h ▸ hsuffix b)
    simp [dropEnding_of_not_suffix ha, dropEnding_of_not_suffix hb, hne, hleft, hright]

/-! ### Paths -/

/-- Whether a path, which does not have the ending of configurations, is followed by it in another
    one. -/
def ExtendedBy (p q : Path) : Prop :=
  q.bytes = p.bytes ++ Text.encodeUtf8 configurationEnding ∧
    ¬ Text.encodeUtf8 configurationEnding <:+ p.bytes

instance (p q : Path) : Decidable (p.ExtendedBy q) := by
  unfold ExtendedBy; infer_instance

/-- A path that is text is the path of that text. -/
theorem exists_ofText {p : Path} (h : p.text?.isSome) : ∃ text, p = ofText text := by
  obtain ⟨text, htext⟩ := Option.isSome_iff_exists.1 h
  refine ⟨text, ?_⟩
  rw [ofText, Text.encodeUtf8_of_decodeUtf8? htext]

/-- The ending of configurations is found again behind any bytes. -/
theorem decodeLossy_append_configurationEnding (bytes : Bytes) :
    Text.decodeLossy (bytes ++ Text.encodeUtf8 configurationEnding) =
      Text.decodeLossy bytes ++ configurationEnding := by
  have hread := Text.decodeLossy_append_encodeUtf8 (c := '.') (by decide) bytes "toml".toList
  have hending : String.ofList ('.' :: "toml".toList) = configurationEnding := by decide
  rwa [hending] at hread

/-- The bytes of a text end like a configuration if the text does. -/
theorem encodeUtf8_suffix_iff (text : String) :
    Text.encodeUtf8 configurationEnding <:+ Text.encodeUtf8 text ↔
      configurationEnding.toList <:+ text.toList := by
  constructor
  · rintro ⟨before, hbefore⟩
    have hread := decodeLossy_append_configurationEnding before
    rw [hbefore, Text.decodeLossy_encodeUtf8] at hread
    rw [hread, String.toList_append]
    exact List.suffix_append _ _
  · rintro ⟨before, hbefore⟩
    have htext : text = String.ofList before ++ configurationEnding := by
      rw [String.ext_iff, String.toList_append, String.toList_ofList, hbefore]
    rw [htext, Text.encodeUtf8_append]
    exact List.suffix_append _ _

/-- One path is the other with the ending behind it if that is so of their texts. -/
theorem extendedBy_ofText_iff (text more : String) : (ofText text).ExtendedBy (ofText more) ↔
    more.toList = text.toList ++ configurationEnding.toList ∧
      ¬ configurationEnding.toList <:+ text.toList := by
  have hbytes : Text.encodeUtf8 more = Text.encodeUtf8 (text ++ configurationEnding) ↔
      more = text ++ configurationEnding := Text.encodeUtf8_injective.eq_iff
  rw [ExtendedBy, ofText, ofText, encodeUtf8_suffix_iff, ← Text.encodeUtf8_append, hbytes,
    String.ext_iff, String.toList_append]

/-- Definitions share a path if their configurations are the same without the ending. -/
theorem definitions_ofText_eq_iff (text more : String) :
    (ofText text).definitions = (ofText more).definitions ↔
      dropEnding configurationEnding.toList text.toList =
        dropEnding configurationEnding.toList more.toList := by
  have hpath : ∀ s t : String, ofText s = ofText t ↔ s = t := fun s t => by
    rw [ofText, ofText, mk.injEq, Text.encodeUtf8_injective.eq_iff]
  rw [definitions, definitions, display_ofText, display_ofText, hpath, String.ofList_inj,
    List.append_left_inj]

/-- Different configurations whose paths are text share the path of their definitions only if one
    path is the other with the ending behind it. -/
theorem definitions_eq_iff {p q : Path} (hp : p.text?.isSome) (hq : q.text?.isSome) (hne : p ≠ q) :
    p.definitions = q.definitions ↔ p.ExtendedBy q ∨ q.ExtendedBy p := by
  obtain ⟨text, rfl⟩ := exists_ofText hp
  obtain ⟨more, rfl⟩ := exists_ofText hq
  have htexts : text.toList ≠ more.toList := fun h => hne (by rw [String.toList_inj.1 h])
  rw [definitions_ofText_eq_iff, dropEnding_eq_iff htexts, extendedBy_ofText_iff,
    extendedBy_ofText_iff]

/-- Definitions are not at the path of their configuration. -/
theorem definitions_ne (p : Path) : p.definitions ≠ p := fun h => endOf_definitions_ne p (by rw [h])

/-- The paths of files that are written with definitions. -/
theorem map_path_files {d : Documents} (h : d.definitions.isSome) (p : Path) :
    (d.files p).map OutputFile.path = [p, p.definitions] := by
  obtain ⟨definitions, hdefinitions⟩ := Option.isSome_iff_exists.1 h
  rw [Documents.files_of_some hdefinitions]
  rfl

/-- Definitions never go to the path of their configuration, whatever bytes it has.  Two different
    configurations whose paths are text share the path of their definitions exactly if one of the
    paths is the other with the ending of configurations behind it, and that does not have the
    ending itself.  Otherwise two runs that write both documents write to four different paths,
    unless the configuration of one of them goes to the very path of the definitions of the
    other. -/
theorem definitions_apart :
    (∀ p : Path, p.definitions ≠ p) ∧
      ∀ p q : Path, p.text?.isSome → q.text?.isSome → p ≠ q →
        (p.definitions = q.definitions ↔ p.ExtendedBy q ∨ q.ExtendedBy p) ∧
        (¬ p.ExtendedBy q → ¬ q.ExtendedBy p → ∀ d d' : Documents,
          d.definitions.isSome → d'.definitions.isSome →
            (((d.files p ++ d'.files q).map OutputFile.path).Nodup ↔
              p ≠ q.definitions ∧ q ≠ p.definitions)) := by
  refine ⟨definitions_ne, fun p q hp hq hne => ?_⟩
  have hiff := definitions_eq_iff hp hq hne
  refine ⟨hiff, fun hpq hqp d d' hd hd' => ?_⟩
  have hdefinitions : p.definitions ≠ q.definitions := fun h => by
    rcases hiff.1 h with h | h
    · exact hpq h
    · exact hqp h
  rw [List.map_append, map_path_files hd, map_path_files hd']
  simp [hne, hdefinitions, (definitions_ne p).symm, (definitions_ne q).symm, eq_comm]

/-- For one, the ending is taken off once: a path shares its definitions with the one that has the
    ending behind it, but not with the one that has it twice. -/
theorem definitions_apart_twice :
    let bare := ofText "a"
    let once := ofText "a.toml"
    let twice := ofText "a.toml.toml"
    let d : Documents := ⟨"", some ""⟩
    (bare.text?.isSome ∧ once.text?.isSome ∧ twice.text?.isSome) ∧
      bare.definitions = once.definitions ∧ once.definitions ≠ twice.definitions ∧
      ((d.files bare ++ d.files twice).map OutputFile.path).Nodup := by
  intro bare once twice d
  have htext : ∀ text, (ofText text).text?.isSome := fun text => by
    rw [text?, ofText, Text.decodeUtf8?_encodeUtf8]
    rfl
  obtain ⟨hsame, -⟩ := definitions_apart.2 bare once (htext _) (htext _) (by decide)
  obtain ⟨hother, -⟩ := definitions_apart.2 once twice (htext _) (htext _) (by decide)
  obtain ⟨-, hfour⟩ := definitions_apart.2 bare twice (htext _) (htext _) (by decide)
  refine ⟨⟨htext _, htext _, htext _⟩, hsame.2 (by decide), ?_, ?_⟩
  · exact fun h => absurd (hother.1 h) (by decide)
  · exact (hfour (by decide) (by decide) d d rfl rfl).2 ⟨by decide +kernel, by decide +kernel⟩

end Path

end SovdConfig
