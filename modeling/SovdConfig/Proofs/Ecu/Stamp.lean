import SovdConfig.Proofs.Discovery.Stamps
import SovdConfig.Proofs.Timestamp.Order

namespace SovdConfig

/-!
# The time in a configuration

The times of writing that configurations carry can be sorted as texts: in the years from 0 to 9999
this is the order in which they were written, to the microsecond.  Main definition: `stampOf?`, the
time that a text carries.  Main statement: `Ecu.document_stamp_ordered`, how the texts of two times
of writing compare.
-/

open Text

/-- The time of writing that a text carries: what follows the intro in the first line that starts
    with it. -/
def stampOf? (text : String) : Option String :=
  ((linesOf text).find? isStamp).map fun line =>
    String.ofList (line.toList.drop stampIntro.toList.length)

/-- The line with the time of writing gives it back. -/
theorem drop_stampLine (written : Timestamp) :
    String.ofList ((stampLine written).toList.drop stampIntro.toList.length) = written.text := by
  rw [stampLine, String.toList_append, List.drop_left, String.ofList_toList]

/-- A configuration carries the time when it was written, whatever its values are. -/
theorem Ecu.stampOf?_document (ecu : Ecu) (settings : GeneratorSettings) (written : Timestamp) :
    stampOf? (ecu.document settings written) = some written.text := by
  have htitle : linesOf "# SOVD ECU Configuration" = ["# SOVD ECU Configuration"] :=
    linesOf_of_isOneLine (by decide)
  have hstamp : linesOf (stampLine written) = [stampLine written] :=
    linesOf_of_isOneLine (isOneLine_stampLine written)
  -- the stamp stands in the second line, before any value
  have hlines : linesOf (ecu.document settings written) =
      "# SOVD ECU Configuration" :: stampLine written ::
        ((ecu.bodyLines settings).flatMap linesOf ++ [""]) := by
    rw [document, linesOf_unlines_eq, documentLines]
    simp [htitle, hstamp]
  have hfirst : isStamp "# SOVD ECU Configuration" = false := by decide
  rw [stampOf?, hlines, List.find?_cons_of_neg (by simp [hfirst]),
    List.find?_cons_of_pos (isStamp_stampLine written), Option.map_some, drop_stampLine]

/-- A configuration carries the time of writing as a text.  In the years from 0 to 9999 this text
    has 26 characters, that of a later time is no smaller in the order of bytes, and two are the
    same exactly if their times agree in whole microseconds.  In any other year the text starts
    with a sign and the digits of the year, at least four, and so it is that of no time in those
    years. -/
theorem Ecu.document_stamp_ordered (ecu : Ecu) (settings : GeneratorSettings)
    (t t' : Timestamp) :
    stampOf? (ecu.document settings t) = some t.text ∧
      (t.HasPlainYear → t.text.length = 26) ∧
      (t.HasPlainYear → t'.HasPlainYear →
        (t ≤ t' → encodeUtf8 t.text ≤ encodeUtf8 t'.text) ∧
          (t.text = t'.text ↔ t.wholeMicroseconds = t'.wholeMicroseconds)) ∧
      (¬ t.HasPlainYear →
        Timestamp.StartsSigned t.year t.text ∧ (t'.HasPlainYear → t.text ≠ t'.text)) := by
  refine ⟨ecu.stampOf?_document settings t, Timestamp.HasPlainYear.length_text, ?_, ?_⟩
  · intro hplain hplain'
    refine ⟨fun hle => ?_, ?_⟩
    · exact (Timestamp.text_le_iff hplain hplain').2 (Timestamp.wholeMicroseconds_le hle)
    · rw [Timestamp.text_eq_iff, Timestamp.wholeMicroseconds_eq_iff]
  · intro hsigned
    exact ⟨Timestamp.startsSigned_text hsigned, fun hplain => hplain.text_ne hsigned⟩

/-- For one, a leap second is before the year that follows it, and another year is out of line. -/
theorem Ecu.document_stamp_ordered_leap :
    let unit : Ecu := ⟨⟨"a", "b\n# Generated: ", "1", "2"⟩, none⟩
    let leap : Timestamp := ⟨2016, 12, 31, 23, 59, 59, 1999999999, by decide⟩
    let next : Timestamp := ⟨2017, 1, 1, 0, 0, 0, 999, by decide⟩
    let late : Timestamp := ⟨10000, 1, 1, 0, 0, 0, 0, by decide⟩
    (leap.HasPlainYear ∧ next.HasPlainYear ∧ leap ≤ next ∧ ¬ late.HasPlainYear) ∧
      (stampOf? (unit.document {} leap) = some leap.text ∧ leap.text.length = 26) ∧
      (encodeUtf8 leap.text ≤ encodeUtf8 next.text ∧ leap.text ≠ next.text) ∧
      Timestamp.StartsSigned 10000 late.text ∧ late.text ≠ next.text := by
  intro unit leap next late
  have hleap : leap.HasPlainYear := by decide
  have hnext : next.HasPlainYear := by decide
  have hle : leap ≤ next := by decide
  have hlate : ¬ late.HasPlainYear := by decide
  obtain ⟨hstamp, hlength, hordered, -⟩ := document_stamp_ordered unit {} leap next
  obtain ⟨-, -, -, hother⟩ := document_stamp_ordered unit {} late next
  obtain ⟨horder, hsame⟩ := hordered hleap hnext
  obtain ⟨hsigned, hne⟩ := hother hlate
  have hmicro : leap.wholeMicroseconds ≠ next.wholeMicroseconds := by decide
  exact ⟨⟨hleap, hnext, hle, hlate⟩, ⟨hstamp, hlength hleap⟩,
    ⟨horder hle, fun h => hmicro (hsame.1 h)⟩, hsigned, hne hnext⟩

end SovdConfig
