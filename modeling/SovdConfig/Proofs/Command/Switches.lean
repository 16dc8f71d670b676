import Mathlib.Data.List.TakeWhile
import SovdConfig.Command.Program
import SovdConfig.Proofs.Attempt

namespace SovdConfig

/-!
# Switches on the command line

A switch that stands among the words counts, or the command line is not understood.  Main
definitions:

* `CommandLine.switchWord` — the word for a switch;
* `Command.Knows` — commands that know a switch, also those below them, and take its word for
  nothing else;
* `CommandLine.Reader.Marks` — the invariant of readers that have read the word.

Main statement: `Invocation.dryRun_of_mem`, a command line with `--dry-run` asks for a dry run.
-/

namespace CommandLine

/-- The word for a switch of the given name. -/
def switchWord (name : String) : Bytes := hyphen :: hyphen :: Text.encodeUtf8 name

/-- The word for a switch is its name behind two hyphens. -/
theorem switchWord_eq (name : String) : switchWord name = Text.encodeUtf8 ("--" ++ name) := by
  rw [Text.encodeUtf8_append]
  rfl

/-- Whether a text can be the long name of an option: it is not empty, and no value follows it. -/
def IsLongName (name : String) : Prop :=
  Text.encodeUtf8 name ≠ [] ∧ equalsSign ∉ Text.encodeUtf8 name

end CommandLine

open CommandLine

/-- Whether a command has the switch of a name, and so have all below it but help; its word is no
    operand and no subcommand. -/
inductive Command.Knows (name : String) : Command → Prop
  | intro {c : Command} :
    (∃ a, c.longOption? name = some a ∧ a.operand = .nothing) →
    (∀ a, c.operand = some a →
      a.takesValue = true ∧ ∃ e, readValue a (switchWord name) = .error e) →
    c.subcommand? (switchWord name) = none →
    (∀ s ∈ c.subcommands, s.name ≠ helpName → Knows name s) → Knows name c

namespace CommandLine

namespace Reader

variable {name key : String} {path : List Command} {c : Command} {r r' : Reader} {a : Argument}

/-- Whether something was given under a key. -/
def Has (r : Reader) (key : String) : Prop := key ∈ r.given.map Prod.fst

/-- Whether a reader has read the word of a switch: it was given, or its word waits as an operand,
    where it will be refused. -/
def Marks (r : Reader) (name : String) (c : Command) : Prop :=
  r.Has name ∨
    r.optionsEnded = true ∧ ∃ a, c.operand = some a ∧ r.pending = some (a, some (switchWord name))

/-! ### Taking arguments -/

/-- What is given is there, and so is what was there before. -/
theorem has_give (r : Reader) (a : Argument) (g : Given) :
    (r.give a g).Has key ↔ r.Has key ∨ a.key = key := by
  simp [Has, give, eq_comm]

/-- What is given once is there, and so is what was there before. -/
theorem has_of_giveOnce {g : Except LineFault Given}
    (h : (r.giveOnce a g).mapError Stop.fault = .ok r') : r'.Has key ↔ r.Has key ∨ a.key = key := by
  unfold giveOnce at h
  split at h
  · cases h
  · cases g with
    | error e => cases h
    | ok g =>
      cases h
      exact has_give r a g

/-- What was there is still there when an argument is taken. -/
theorem Has.takeNow (hr : r.Has key) {byLongName : Bool} {value : Option Bytes}
    (h : takeNow path byLongName r a value = .ok r') : r'.Has key := by
  unfold Reader.takeNow at h
  split at h
  · cases h
  · cases h
  · exact (has_of_giveOnce h).2 (.inl hr)
  · -- what is counted is given anew, and all else is kept
    cases h
    rw [has_give]
    by_cases hkey : a.key = key
    · exact .inr hkey
    · simp only [Has, List.mem_map, Prod.exists, exists_and_right, exists_eq_right] at hr ⊢
      obtain ⟨g, hg⟩ := hr
      exact .inl ⟨g, List.mem_filter.2 ⟨hg, by simpa using Ne.symm hkey⟩⟩
  all_goals
    split at h
    · cases h
    · exact (has_of_giveOnce h).2 (.inl hr)

/-- A switch is there once it has been taken. -/
theorem has_of_takeNow (ha : a.operand = .nothing) {byLongName : Bool}
    (h : takeNow path byLongName r a none = .ok r') : r'.Has a.key := by
  rw [takeNow, ha] at h
  exact (has_of_giveOnce h).2 (.inr rfl)

/-- Taking an argument changes what is given and nothing else. -/
theorem optionsEnded_of_takeNow {byLongName : Bool} {value : Option Bytes}
    (h : takeNow path byLongName r a value = .ok r') : r'.optionsEnded = r.optionsEnded := by
  have honce : ∀ g, (r.giveOnce a g).mapError Stop.fault = .ok r' →
      r'.optionsEnded = r.optionsEnded := by
    intro g hgive
    unfold giveOnce at hgive
    split at hgive
    · cases hgive
    · cases g <;> cases hgive
      rfl
  unfold takeNow at h
  split at h
  · cases h
  · cases h
  · exact honce _ h
  · cases h
    rfl
  all_goals
    split at h
    · cases h
    · exact honce _ h

/-- Options have still ended when the pending argument has been taken. -/
theorem optionsEnded_of_settle (h : r.settle path = .ok r') : r'.optionsEnded = r.optionsEnded := by
  unfold settle at h
  split at h
  · cases h
    rfl
  · exact optionsEnded_of_takeNow (r := { r with pending := none, wantsValue := false }) h

/-- What was there is still there when the pending argument has been taken. -/
theorem Has.settle (hr : r.Has key) (h : r.settle path = .ok r') : r'.Has key := by
  unfold Reader.settle at h
  split at h
  · cases h
    exact hr
  · exact Has.takeNow (r := { r with pending := none, wantsValue := false }) hr h

/-- What was there is still there when another argument has been taken. -/
theorem Has.take (hr : r.Has key) {byLongName : Bool} {value : Option Bytes}
    (h : r.take path byLongName a value = .ok r') : r'.Has key := by
  obtain ⟨r₁, hsettle, htake⟩ := exists_of_bind_eq_ok h
  have hhas : r₁.Has key := hr.settle hsettle
  exact Has.takeNow (r := { r₁ with wantsValue := false }) hhas htake

/-- What was there is still there when an argument waits for its value. -/
theorem Has.await (hr : r.Has key) (h : r.await path a = .ok r') : r'.Has key := by
  obtain ⟨r₁, hsettle, hend⟩ := exists_of_bind_eq_ok h
  have hhas : r₁.Has key := hr.settle hsettle
  cases hend
  exact hhas

/-- An argument that takes a value is given it once. -/
theorem takeNow_of_takesValue (ha : a.takesValue = true) (byLongName : Bool) (value : Bytes) :
    takeNow path byLongName r a (some value) =
      (r.giveOnce a (readValue a value)).mapError .fault := by
  rw [takeNow]
  rw [Argument.takesValue] at ha
  cases hoperand : a.operand <;> simp [hoperand, Operand.label?] at ha ⊢

/-- A word that waits as an operand is refused. -/
theorem Marks.settle (hknows : c.Knows name) (hr : r.Marks name c) (h : r.settle path = .ok r') :
    r'.Has name := by
  rcases hr with hhas | ⟨-, a, ha, hpending⟩
  · exact hhas.settle h
  · obtain ⟨-, hoperand, -, -⟩ := hknows
    obtain ⟨htakes, e, he⟩ := hoperand a ha
    rw [Reader.settle, hpending] at h
    dsimp only at h
    rw [takeNow_of_takesValue htakes, he, giveOnce] at h
    split at h <;> cases h

/-! ### Words -/

/-- What was there is still there when an option has been read. -/
theorem Has.readLong (hr : r.Has key) {word : Bytes} (h : readLong path c r word = .ok r') :
    r'.Has key := by
  unfold CommandLine.readLong at h
  dsimp only at h
  split at h
  · cases h
  · split at h
    · split at h
      · exact hr.take h
      · cases h
    · split at h
      · exact hr.await h
      · exact hr.take h

/-- What was there is still there when options have been read by their short names. -/
theorem Has.readShort (hr : r.Has key) {tail : Bytes} {names : List Char}
    (h : readShort path c tail names r = .ok r') : r'.Has key := by
  induction names generalizing r with
  | nil =>
    rw [CommandLine.readShort] at h
    split at h
    · cases h
      exact hr
    · cases h
  | cons letter rest ih =>
    rw [CommandLine.readShort] at h
    split at h
    · cases h
    · split at h
      · split at h
        · exact hr.await h
        · exact hr.take h
      · obtain ⟨r₁, htake, hrest⟩ := exists_of_bind_eq_ok h
        exact ih (hr.take htake) hrest

/-- Once options have ended a word is an operand, and one that waits stays behind. -/
theorem Marks.readOperand (hknows : c.Knows name) {word : Bytes}
    (hr : r.Marks name c ∨ r.optionsEnded = true ∧ word = switchWord name)
    (h : readOperand path c r word = .ok r') : r'.Marks name c := by
  unfold CommandLine.readOperand at h
  split at h
  · next a ha =>
    split at h
    · cases h
    · obtain ⟨r₁, hsettle, hend⟩ := exists_of_bind_eq_ok h
      rcases hr with hmarks | ⟨hended, rfl⟩
      · have hhas : r₁.Has name := hmarks.settle hknows hsettle
        cases hend
        exact .inl hhas
      · have hended₁ := (optionsEnded_of_settle hsettle).trans hended
        cases hend
        exact .inr ⟨hended₁, a, ha, rfl⟩
  · cases h

/-- The word of a switch gives it. -/
theorem has_of_readLong (hname : IsLongName name) (hknows : c.Knows name)
    (h : readLong path c r (Text.encodeUtf8 name) = .ok r') : r'.Has name := by
  obtain ⟨⟨a, ha, hnothing⟩, -, -, -⟩ := hknows
  have hkey : a.key = name := by
    have hlong := List.find?_some ha
    simp only [beq_iff_eq] at hlong
    rw [Argument.key, hlong]
    rfl
  have hsplit : splitValue (Text.encodeUtf8 name) = (Text.encodeUtf8 name, none) := by
    have hrest : (Text.encodeUtf8 name).dropWhile (· ≠ equalsSign) = [] := by
      refine List.dropWhile_eq_nil_iff.2 fun b hb => decide_eq_true ?_
      rintro rfl
      exact hname.2 hb
    rw [splitValue, hrest]
  have hvalue : a.takesValue = false := by
    rw [Argument.takesValue, hnothing]
    rfl
  rw [readLong, hsplit] at h
  dsimp only at h
  rw [Text.decodeUtf8?_encodeUtf8, Option.bind_some, ha] at h
  dsimp only at h
  rw [if_neg (by simp [hvalue])] at h
  obtain ⟨r₁, -, htake⟩ := exists_of_bind_eq_ok h
  rw [← hkey]
  exact has_of_takeNow hnothing htake

/-- A reader that has read the word of a switch, now or before, has read it. -/
theorem Marks.readWord (hname : IsLongName name) (hknows : c.Knows name) {word : Bytes}
    (hr : r.Marks name c ∨ word = switchWord name) (h : readWord path c r word = .ok r') :
    r'.Marks name c := by
  unfold CommandLine.readWord at h
  by_cases hended : r.optionsEnded = true
  · rw [if_pos hended] at h
    exact Marks.readOperand hknows (hr.imp_right fun hword => ⟨hended, hword⟩) h
  · rw [if_neg hended] at h
    -- before the end of options no word waits as an operand but the last one, so it is given
    by_cases hword : word = switchWord name
    · have hkind : WordKind.of word = .long (Text.encodeUtf8 name) := by
        simp [hword, switchWord, WordKind.of, hname.1]
      rw [hkind] at h
      exact .inl (has_of_readLong hname hknows h)
    · have hhas : r.Has name :=
        (hr.resolve_right hword).resolve_right fun hwaits => hended hwaits.1
      split at h
      · cases h
        exact .inl hhas
      · exact .inl (hhas.readLong h)
      · exact .inl (hhas.readShort h)
      · split at h
        · cases h
          exact .inl hhas
        · exact Marks.readOperand hknows (.inl (.inl hhas)) h

end Reader

/-! ### Command lines -/

variable {name : String} {path : List Command} {c : Command}

/-- Once all words of a command have been read its switch is given. -/
theorem mem_of_finish (hknows : c.Knows name) {r : Reader} (hr : r.Marks name c)
    {hasSubcommand : Bool} {given : Arguments} (h : finish path c hasSubcommand r = .ok given) :
    name ∈ given.map Prod.fst := by
  obtain ⟨r₁, hsettle, hend⟩ := exists_of_bind_eq_ok h
  have hhas : r₁.Has name := hr.settle hknows hsettle
  split at hend
  · split at hend <;> cases hend
  · split at hend <;> cases hend
    exact hhas

/-- A switch among the words of a command line that is understood was given to one of the
    commands. -/
theorem exists_given_of_mem (hname : IsLongName name) (hknows : c.Knows name) {words : List Bytes}
    {r : Reader} (hr : r.Marks name c ∨ switchWord name ∈ words)
    {levels : List (String × Arguments)} (h : readFrom path c words r = .ok levels) :
    ∃ level ∈ levels, name ∈ level.2.map Prod.fst := by
  induction words generalizing path c r levels with
  | nil =>
    rw [readFrom] at h
    obtain ⟨given, hfinish, hend⟩ := exists_of_bind_eq_ok h
    cases hend
    exact ⟨_, .head _, mem_of_finish hknows (hr.resolve_right (by simp)) hfinish⟩
  | cons word rest ih =>
    rw [readFrom] at h
    split at h
    · next s hs =>
      split at h
      · cases h
      · next hhelp =>
        obtain ⟨below, hbelow, h⟩ := exists_of_bind_eq_ok h
        obtain ⟨given, hfinish, hend⟩ := exists_of_bind_eq_ok h
        cases hend
        rcases hr with hmarks | hmem
        · exact ⟨_, .head _, mem_of_finish hknows hmarks hfinish⟩
        · obtain ⟨-, -, hnone, hsub⟩ := hknows
          have hfound : c.subcommand? word = some s := by
            rw [subcommandHere?] at hs
            split at hs
            · cases hs
            · exact hs
          -- the word that names a subcommand is not that of the switch
          have hrest : switchWord name ∈ rest := by
            rcases List.mem_cons.1 hmem with rfl | hrest
            · rw [hnone] at hfound
              cases hfound
            · exact hrest
          have hknown : s.Knows name := hsub s (List.mem_of_find?_eq_some hfound) hhelp
          obtain ⟨level, hlevel, hgiven⟩ := ih hknown (.inr hrest) hbelow
          exact ⟨level, .tail _ hlevel, hgiven⟩
    · obtain ⟨r₁, hword, hrest⟩ := exists_of_bind_eq_ok h
      refine ih hknows ?_ hrest
      by_cases hmem : switchWord name ∈ rest
      · exact .inr hmem
      · refine .inl (Reader.Marks.readWord hname hknows (hr.imp_right fun hwords => ?_) hword)
        exact ((List.mem_cons.1 hwords).resolve_right hmem).symm

end CommandLine

/-! ### The program -/

namespace Program

/-- All commands of the program but help can be asked for a dry run. -/
theorem knows_command : command.Knows "dry-run" := by
  have hleaf : ∀ c : Command, c.subcommands = [] → c.operand = none →
      (∃ a, c.longOption? "dry-run" = some a ∧ a.operand = .nothing) → c.Knows "dry-run" := by
    intro c hsub hoperand hoption
    refine .intro hoption (by simp [hoperand]) (by simp [Command.subcommand?, hsub]) ?_
    simp [hsub]
  have hconfig : configCommand.Knows "dry-run" := by
    refine .intro ⟨_, rfl, rfl⟩ (fun a ha => by cases ha) (by decide +kernel) ?_
    intro s hs hhelp
    simp only [configCommand, List.mem_cons, List.not_mem_nil, or_false] at hs
    rcases hs with rfl | rfl | rfl | rfl | rfl
    · exact hleaf _ rfl rfl ⟨_, rfl, rfl⟩
    · exact hleaf _ rfl rfl ⟨_, rfl, rfl⟩
    · exact hleaf _ rfl rfl ⟨_, rfl, rfl⟩
    · exact hleaf _ rfl rfl ⟨_, rfl, rfl⟩
    · exact absurd rfl hhelp
  have hcompletions : completionsCommand.Knows "dry-run" := by
    refine .intro ⟨_, rfl, rfl⟩ ?_ rfl (by simp [completionsCommand])
    rintro a ⟨⟩
    refine ⟨rfl, .invalidValue "--dry-run" "<SHELL>", ?_⟩
    rw [readValue, switchWord_eq, Text.decodeUtf8?_encodeUtf8]
    rfl
  refine .intro ⟨_, rfl, rfl⟩ (fun a ha => by cases ha) (by decide +kernel) ?_
  intro s hs hhelp
  simp only [command, List.mem_cons, List.not_mem_nil, or_false] at hs
  rcases hs with rfl | rfl | rfl
  · exact hconfig
  · exact hcompletions
  · exact absurd rfl hhelp

end Program

namespace Invocation

/-- A command line with `--dry-run` asks for a dry run if it is understood. -/
theorem dryRun_of_mem {words : List Bytes} {i : Invocation}
    (hword : Text.encodeUtf8 "--dry-run" ∈ words) (h : ofWords words = .ok i) :
    i.common.dryRun = true := by
  have hname : IsLongName "dry-run" := ⟨by decide +kernel, by decide +kernel⟩
  obtain ⟨levels, hread, hend⟩ := exists_of_bind_eq_ok h
  cases hend
  rw [show Text.encodeUtf8 "--dry-run" = switchWord "dry-run" from rfl] at hword
  obtain ⟨level, hlevel, hgiven⟩ :=
    exists_given_of_mem hname Program.knows_command (.inr hword) hread
  obtain ⟨g, hg, hkey⟩ := List.mem_map.1 hgiven
  have hmem : g ∈ levels.reverse.flatMap Prod.snd :=
    List.mem_flatMap.2 ⟨level, List.mem_reverse.2 hlevel, hg⟩
  show isGiven (levels.reverse.flatMap Prod.snd) "dry-run" = true
  exact List.lookup_isSome_iff.2 ⟨g, hmem, by simp [hkey]⟩

end Invocation

end SovdConfig
