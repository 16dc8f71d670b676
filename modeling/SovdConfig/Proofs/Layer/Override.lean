import SovdConfig.Proofs.Layer.Decoding
import SovdConfig.Proofs.Layer.Variables

namespace SovdConfig

/-!
# Settings that one variable decides

What is known of a setting when one variable is about it, whatever else has been said before.  Main
definitions:

* `Hop.PassBy` — steps that lead past a setting;
* `Environment.GivesOnly` — a variable that gives a setting its text, all others leading past it;
* `Datum.Orderly` — a table in which no key occurs twice, nor in one of its sections.

Main statements:

* `Datum.setting?_addSource_variables` — the setting is what that variable says;
* `Datum.generatorAre_of_toSettings` — settings that are read at all are read from what is known.

Nothing is supposed of what was known before: a file may have said anything.
-/

open Variables (keyOf textOf datumOf nameOf)

/-- Whether steps lead past a setting: to another member of the whole than its section, or to
    another member of the section. -/
def Hop.PassBy (sec key : String) (hops : List Hop) : Prop :=
  ∃ name rest, hops = .key name :: rest ∧
    (name ≠ sec ∨ ∃ other more, rest = .key other :: more ∧ other ≠ key)

/-- Steps that lead to a setting do not lead past it. -/
theorem Hop.not_passBy (sec key : String) (hops : List Hop) :
    ¬ PassBy sec key (.key sec :: .key key :: hops) := by
  rintro ⟨_, _, ⟨⟩, hne | ⟨_, _, ⟨⟩, hne⟩⟩
  · exact hne rfl
  · exact hne rfl

/-- A key starts with a name. -/
theorem Hop.exists_ofKey (k : String) : ∃ name hops, ofKey k = .key name :: hops := by
  unfold ofKey
  rcases hparse : parse? k.toList with - | hops
  · exact ⟨k, [], rfl⟩
  · simp only [parse?, Option.bind_eq_bind, Option.bind_eq_some_iff] at hparse
    obtain ⟨⟨name, rest⟩, -, more, -, heq⟩ := hparse
    exact ⟨name, more, (Option.some.inj heq).symm⟩

namespace Datum

variable {d : Datum} {sec key : String}

/-! ### One setting -/

/-- A source adds its first entry first. -/
theorem addSource_cons (d : Datum) (m : String × Datum) (rest : List (String × Datum)) :
    addSource d (m :: rest) = addSource (put (some d) (Hop.ofKey m.1) m.2) rest := rfl

/-- A value is put where its steps lead. -/
theorem setting?_put_scalar (d : Datum) (sec key : String) (origin : Option String)
    (value : Scalar) :
    (put (some d) [.key sec, .key key] (.scalar origin value)).setting? sec key =
      some (.scalar origin value) := by
  rw [setting?_put_self]
  exact lookup_setMember_self _ _ _

/-- What is put elsewhere leaves a setting alone. -/
theorem setting?_put_of_passBy (d : Datum) {hops : List Hop} (h : Hop.PassBy sec key hops)
    (new : Datum) : (put (some d) hops new).setting? sec key = d.setting? sec key := by
  obtain ⟨name, rest, rfl, hne | ⟨other, more, rfl, hne⟩⟩ := h
  · exact setting?_put_of_ne d key rest new hne.symm
  · by_cases hname : sec = name
    · subst hname
      rw [setting?_put_self]
      exact lookup_setMember_of_ne _ _ hne.symm
    · exact setting?_put_of_ne d key _ new hname

/-- A source whose keys lead past a setting leaves it alone. -/
theorem setting?_addSource_of_passBy {source : List (String × Datum)}
    (h : ∀ m ∈ source, Hop.PassBy sec key (Hop.ofKey m.1)) (d : Datum) :
    (addSource d source).setting? sec key = d.setting? sec key := by
  induction source generalizing d with
  | nil => rfl
  | cons m rest ih =>
    rw [addSource_cons, ih (fun m hm => h m (List.mem_cons_of_mem _ hm))]
    exact setting?_put_of_passBy d (h m List.mem_cons_self) m.2

/-- A source with one value for a setting decides it. -/
theorem setting?_addSource_of_only {source : List (String × Datum)} {k : String}
    {origin : Option String} {value : Scalar} (hk : Hop.ofKey k = [.key sec, .key key])
    (hnodup : (source.map Prod.fst).Nodup)
    (hothers : ∀ m ∈ source, m.1 ≠ k → Hop.PassBy sec key (Hop.ofKey m.1))
    (hvalue : source.lookup k = some (.scalar origin value)) (d : Datum) :
    (addSource d source).setting? sec key = some (.scalar origin value) := by
  induction source generalizing d with
  | nil => cases hvalue
  | cons m rest ih =>
    obtain ⟨other, new⟩ := m
    obtain ⟨hnew, hrest⟩ := List.nodup_cons.1 hnodup
    by_cases heq : k = other
    · subst heq
      obtain rfl : new = .scalar origin value := by simpa using hvalue
      -- the entries behind it have other keys
      have hlater : ∀ m ∈ rest, Hop.PassBy sec key (Hop.ofKey m.1) := by
        intro m hm
        refine hothers m (List.mem_cons_of_mem _ hm) ?_
        intro heq
        exact hnew (List.mem_map.2 ⟨m, hm, heq⟩)
      rw [addSource_cons, setting?_addSource_of_passBy hlater, hk]
      exact setting?_put_scalar d sec key origin value
    · rw [List.lookup_cons, beq_false_of_ne heq] at hvalue
      exact ih hrest (fun m hm => hothers m (List.mem_cons_of_mem _ hm)) hvalue _

/-! ### Tables without repetitions -/

/-- Data that are a table in which no key occurs twice, nor in one of its sections. -/
structure Orderly (sec : String) (d : Datum) : Prop where
  isTable : ∃ origin ms, d = .table origin ms
  nodup : (d.members.map Prod.fst).Nodup
  inside : ((asTable (d.members.lookup sec)).2.map Prod.fst).Nodup

/-- Whatever is put into such data, no key comes to occur twice. -/
theorem Orderly.put (h : d.Orderly sec) (name : String) (hops : List Hop) (new : Datum) :
    (put (some d) (.key name :: hops) new).Orderly sec where
  isTable := ⟨_, _, rfl⟩
  nodup := by
    rw [members_put]
    exact nodup_setMember h.nodup _ _
  inside := by
    rw [members_put]
    by_cases hname : sec = name
    · subst hname
      rw [lookup_setMember_self]
      rcases hops with - | ⟨other | i, hops⟩
      · -- a table is laid over the section, and anything else takes its place
        cases new with
        | table origin ms => exact nodup_overlayMembers h.inside ms
        | _ => exact List.nodup_nil
      · exact nodup_setMember h.inside _ _
      · exact List.nodup_nil
    · rw [lookup_setMember_of_ne _ _ hname]
      exact h.inside

/-- Neither does one when a whole source is added. -/
theorem Orderly.addSource (h : d.Orderly sec) (source : List (String × Datum)) :
    (addSource d source).Orderly sec := by
  induction source generalizing d with
  | nil => exact h
  | cons m rest ih =>
    obtain ⟨name, hops, hkey⟩ := Hop.exists_ofKey m.1
    rw [addSource_cons, hkey]
    exact ih (h.put name hops m.2)

/-- The settings of the section `generator` that are read are read from what is known, if anything
    is known of the section. -/
theorem generatorAre_of_toSettings (h : d.Orderly "generator") {s : Settings}
    (hs : toSettings d = .ok s) {v : Datum} (hv : d.setting? "generator" key = some v) :
    GeneratorAre (d.setting? "generator") s.generator := by
  obtain ⟨origin, members, rfl⟩ := h.isTable
  have hread := (toOption_toSettings_table_iff h.nodup).1 (toOption_eq_some_iff.2 hs)
  rcases hlookup : members.lookup "generator" with - | section?
  · simp [setting?, Datum.members, asTable, hlookup] at hv
  · cases section? with
    | table o ms =>
      have hinside : (ms.map Prod.fst).Nodup := by
        have hms := h.inside
        simpa only [Datum.members, asTable, hlookup] using hms
      have hgenerator : Gives (members.lookup "generator") _ _ s.generator := hread.generator
      rw [hlookup] at hgenerator
      have hknown :
          (Datum.table origin members).setting? "generator" = fun key => ms.lookup key := by
        funext key
        simp [setting?, Datum.members, asTable, hlookup]
      rw [hknown]
      exact (toOption_toGenerator_iff hinside).1 hgenerator
    | _ => simp [setting?, Datum.members, asTable, hlookup] at hv

end Datum

/-! ### Variables -/

/-- Whether the variable of a setting has a text, and all other variables of the tool lead past that
    setting. -/
structure Environment.GivesOnly (env : Environment) (sec key text : String) : Prop where
  given : variableSetting? env sec key = some text
  once : (env.toolVariables.map Prod.fst).count (nameOf sec key) ≤ 1
  others : ∀ v ∈ env.toolVariables, v.1 ≠ nameOf sec key →
    Hop.PassBy sec key (Hop.ofKey (keyOf v.1))

/-- Plain variables lead past each other's settings. -/
theorem PlainVariables.givesOnly {env : Environment} (h : PlainVariables env)
    {n : String × String} (hn : n ∈ settingNames) {text : String}
    (hgiven : variableSetting? env n.1 n.2 = some text) : env.GivesOnly n.1 n.2 text := by
  refine ⟨hgiven, h.once n hn, fun v hv hname => ?_⟩
  have hplain := h.plainKey hv
  obtain ⟨first, names, hkey, hchars⟩ := Hop.ofKey_eq_keys hplain.noBracket
  refine ⟨first, names.map .key, hkey, or_iff_not_imp_left.2 fun hsec => ?_⟩
  rw [not_not] at hsec
  subst hsec
  rcases names with - | ⟨other, more⟩
  · -- the key would be that of the whole section
    have hwhole : keyOf v.1 = n.1 := String.toList_inj.1 (by simpa [Hop.dottedNames] using hchars)
    exact absurd (hwhole ▸ mem_sectionNames n hn) hplain.notSection
  · refine ⟨other, more.map .key, rfl, ?_⟩
    rintro rfl
    -- the key would be that of the setting, so the name would be the same
    have hend : more.map Hop.key = [] := hplain.notBelow n hn _ hkey
    rw [List.map_cons, hend] at hkey
    have hpair := Hop.eq_of_ofKey_pair hplain.noBracket hkey
    have hnames : ∀ n ∈ settingNames,
        '.' ∉ (nameOf n.1 n.2).toList ∧ keyOf (nameOf n.1 n.2) = n.1 ++ "." ++ n.2 := by decide
    obtain ⟨hdot, hsame⟩ := hnames n hn
    have hdot' : '.' ∉ v.1.toList := fun hc => by simpa using h.names v hv _ hc
    exact hname ((Variables.keyOf_inj hdot' hdot).1 (hpair.trans hsame.symm))

namespace Datum

variable {env : Environment} {source : List (String × Datum)}

/-- A setting that one variable gives is what that says, whatever was known before and in whatever
    order the entries of the variables come. -/
theorem setting?_addSource_variables (hsource : Variables.source env = .ok source)
    {listed : List (String × Datum)} (hlisted : source.Perm listed) {n : String × String}
    (hn : n ∈ settingNames) {text : String} (h : env.GivesOnly n.1 n.2 text) (d : Datum) :
    (addSource d listed).setting? n.1 n.2 = some (datumOf text) := by
  have hnames : ∀ n ∈ settingNames, keyOf (nameOf n.1 n.2) = n.1 ++ "." ++ n.2 := by decide
  have hkey := hnames n hn
  have hhops := ofKey_setting n hn
  -- another variable does not have the same key, as that would lead to the setting
  have hkeys : ∀ v ∈ env.toolVariables,
      keyOf (nameOf n.1 n.2) = keyOf v.1 ↔ nameOf n.1 n.2 = v.1 := by
    refine fun v hv => ⟨fun heq => ?_, congrArg keyOf⟩
    by_contra hne
    have hpast := h.others v hv (Ne.symm hne)
    rw [← heq, hkey, hhops] at hpast
    exact Hop.not_passBy n.1 n.2 [] hpast
  have hothers : ∀ m ∈ listed, m.1 ≠ n.1 ++ "." ++ n.2 →
      Hop.PassBy n.1 n.2 (Hop.ofKey m.1) := by
    intro m hm hne
    obtain ⟨v, hv, rfl⟩ := Variables.exists_variable_of_mem hsource (hlisted.mem_iff.2 hm)
    refine h.others v hv ?_
    rintro heq
    exact hne (by rw [heq, hkey])
  have hgiven : source.lookup (n.1 ++ "." ++ n.2) = some (datumOf text) := by
    rw [← hkey, Variables.lookup_of_source hsource hkeys h.once]
    have hmap := congrArg (Option.map datumOf) h.given
    rwa [variableSetting?, Option.map_map] at hmap
  have hnodup := Variables.nodup_of_source hsource
  refine setting?_addSource_of_only hhops ((hlisted.map Prod.fst).nodup hnodup) hothers ?_ d
  rw [lookup_perm hlisted hnodup, hgiven]
  rfl

end Datum

end SovdConfig
