import SovdConfig.Layer.Variables
import SovdConfig.Proofs.Attempt
import SovdConfig.Proofs.Layer.Sections
import SovdConfig.Proofs.Number.Numeral
import SovdConfig.Proofs.Record

namespace SovdConfig

/-!
# Variables as sources of settings

Main definitions:

* `Environment.toolVariables` — the tool's variables, by what follows the start of their names;
* `variableSetting?` — the text that a variable gives to a setting;
* `TextVariables` — variables whose values are texts;
* `PlainVariables` — variables with plain names, none of them in the way of a setting.

Main statements:

* `Variables.scalarOf_decimalText` — an integer of 64 bits is taken for that integer;
* `Datum.addSource_variables` — after the variables have been laid over what was known, a setting is
  what its variable says, or else what it was.
-/

/-! ### Variables of the tool -/

namespace Variables

/-- The tool's variables among others: what follows the start of the name, in lower case, and the
    value. -/
def named (bindings : List (Bytes × Bytes)) : List (String × Bytes) :=
  bindings.filterMap fun b => (key? b.1).map fun key => (String.ofList key, b.2)

/-- The key that a name stands for. -/
def keyOf (name : String) : String := String.ofList (dotted name.toList)

/-- The text of a value, if it is one. -/
def textOf (value : Bytes) : String := (Text.decodeUtf8? value).getD ""

/-- What the text of a variable says. -/
def datumOf (text : String) : Datum := .scalar (some sourceName) (scalarOf text)

/-- The name of the variable of a setting, in lower case and without its start. -/
def nameOf (sec key : String) : String := sec ++ "__" ++ key

end Variables

open Variables (keyOf textOf datumOf nameOf)

/-- The tool's variables: what follows the start of the name, in lower case, and the value. -/
def Environment.toolVariables (env : Environment) : List (String × Bytes) :=
  Variables.named env.bindings

/-- The text that a variable gives to a setting. -/
def variableSetting? (env : Environment) (sec key : String) : Option String :=
  (env.toolVariables.lookup (nameOf sec key)).map textOf

/-- Variables whose values are texts. -/
def TextVariables (env : Environment) : Prop :=
  ∀ v ∈ env.toolVariables, (Text.decodeUtf8? v.2).isSome

/-- Variables whose names consist of letters, digits and underscores.  No setting has two of them,
    and none names a whole section or a place below a setting. -/
structure PlainVariables (env : Environment) : Prop where
  names : ∀ v ∈ env.toolVariables, ∀ c ∈ v.1.toList, c.isAlphanum ∨ c = '_'
  once : ∀ s ∈ settingNames, (env.toolVariables.map Prod.fst).count (nameOf s.1 s.2) ≤ 1
  notSection : ∀ v ∈ env.toolVariables, v.1 ∉ sectionNames
  notBelow : ∀ v ∈ env.toolVariables, ∀ s ∈ settingNames, ∀ hops,
    Hop.ofKey (keyOf v.1) = .key s.1 :: .key s.2 :: hops → hops = []

/-! ### Integers as texts -/

/-- No character before the letters is changed by lower-casing. -/
theorem Text.lowerCode_of_lt {code : Nat} (h : code < 0x41) : lowerCode code = code := by
  have hruns : ∀ run ∈ lowerRuns, 0x41 ≤ run.first := by decide +kernel
  have hnone : lowerRuns.find? (·.covers code) = none := by
    refine List.find?_eq_none.2 fun run hrun hcovers => ?_
    have hfirst : run.first ≤ code := (of_decide_eq_true hcovers).1
    have := hruns run hrun
    omega
  rw [lowerCode, hnone]

/-- A text in lower case still starts with the character that it started with, if that comes before
    the letters. -/
theorem Text.head?_lowercase {text : String} {c : Char} {rest : List Char}
    (htext : text.toList = c :: rest) (hc : c.toNat < 0x41) :
    (lowercase text).toList.head? = some c := by
  have hsigma : c ≠ 'Σ' := by rintro rfl; revert hc; decide
  have hdotted : c ≠ '\u0130' := by rintro rfl; revert hc; decide
  rw [lowercase, String.toList_ofList, htext, lowerFrom, if_neg hsigma, lowerChar, if_neg hdotted,
    lowerCode_of_lt hc, Char.ofNat_toNat]
  rfl

/-- An integer of 64 bits in decimal is taken for that integer. -/
theorem Variables.scalarOf_decimalText {text : String} {n : Int} (h : DecimalText text.toList n)
    (hn : fitsSigned 64 n) : Variables.scalarOf text = .integer n := by
  obtain ⟨c, rest, htext, hc⟩ := h.exists_cons
  have hhead := Text.head?_lowercase htext hc
  have hword : ∀ {word : String} {d : Char}, word.toList.head? = some d → 0x41 ≤ d.toNat →
      Text.lowercase text ≠ word := by
    rintro word d hd hle rfl
    obtain rfl : c = d := Option.some.inj (hhead.symm.trans hd)
    omega
  have htrue : Text.lowercase text ≠ "true" := hword (d := 't') (by decide) (by decide)
  have hfalse : Text.lowercase text ≠ "false" := hword (d := 'f') (by decide) (by decide)
  simp only [Variables.scalarOf, if_neg htrue, if_neg hfalse, Numeral.integer?_of_decimalText h,
    Option.filter_some, hn, if_true]

/-! ### Keys of variables -/

namespace Variables

/-- A text with double underscores for dots. -/
def undotted : List Char → List Char
  | '.' :: rest => '_' :: '_' :: undotted rest
  | c :: rest => c :: undotted rest
  | [] => []

/-- Dots can be turned back into the double underscores they stand for. -/
theorem undotted_dotted {cs : List Char} (h : '.' ∉ cs) : undotted (dotted cs) = cs := by
  fun_induction dotted cs with
  | case1 rest ih => simp [undotted, ih fun hmem => h (by simp [hmem])]
  | case2 c rest hc ih =>
    have hdot : c ≠ '.' := fun heq => h (by simp [heq])
    rw [undotted.eq_2 _ _ hdot, ih fun hmem => h (by simp [hmem])]
  | case3 => rfl

/-- Names without dots stand for different keys. -/
theorem keyOf_inj {name other : String} (h : '.' ∉ name.toList) (h' : '.' ∉ other.toList) :
    keyOf name = keyOf other ↔ name = other := by
  constructor
  · intro heq
    have hdotted : dotted name.toList = dotted other.toList := by
      simpa [keyOf, String.ofList_inj] using heq
    have hnames := congrArg undotted hdotted
    rw [undotted_dotted h, undotted_dotted h'] at hnames
    exact String.toList_inj.1 hnames
  · rintro rfl
    rfl

/-- A key has no characters but those of the name and dots. -/
theorem mem_dotted {cs : List Char} {c : Char} (h : c ∈ dotted cs) : c = '.' ∨ c ∈ cs := by
  fun_induction dotted cs with
  | case1 rest ih =>
    rcases List.mem_cons.1 h with h | h
    · exact Or.inl h
    · exact (ih h).imp_right fun h => by simp [h]
  | case2 d rest _ ih =>
    rcases List.mem_cons.1 h with h | h
    · exact Or.inr (by simp [h])
    · exact (ih h).imp_right fun h => by simp [h]
  | case3 => simp at h

/-! ### What all variables say -/

/-- What the variables say, one after the other. -/
def entries (env : Environment) : List (String × Datum) :=
  env.toolVariables.map fun v => (keyOf v.1, datumOf (textOf v.2))

/-- Variables are added to what those before them said if and only if their values are texts. -/
theorem foldlM_add_eq_ok_iff {bindings : List (Bytes × Bytes)}
    {known source : List (String × Datum)} :
    bindings.foldlM add known = .ok source ↔
      (∀ v ∈ named bindings, (Text.decodeUtf8? v.2).isSome) ∧
        setMembers known ((named bindings).map fun v => (keyOf v.1, datumOf (textOf v.2))) =
          source := by
  induction bindings generalizing known with
  | nil =>
    show Except.ok known = Except.ok source ↔ _
    simp [named, setMembers]
  | cons b rest ih =>
    rw [List.foldlM_cons]
    rcases hkey : key? b.1 with - | key
    · have hnamed : named (b :: rest) = named rest := by simp [named, hkey]
      have hadd : add known b = .ok known := by simp [add, hkey]
      rw [hadd, ok_bind, ih, hnamed]
    · have hnamed : named (b :: rest) = (String.ofList key, b.2) :: named rest := by
        simp [named, hkey]
      rw [hnamed, List.forall_mem_cons]
      rcases htext : Text.decodeUtf8? b.2 with - | text
      · have hadd : add known b = .error (.variableNotText (String.ofList key) b.2) := by
          simp [add, hkey, htext]
        rw [hadd, error_bind]
        simp
      · have hadd : add known b =
            .ok (setMember known (keyOf (String.ofList key)) (datumOf (textOf b.2))) := by
          simp [add, hkey, htext, keyOf, datumOf, textOf]
        rw [hadd, ok_bind, ih]
        simp [setMembers]

/-- The variables say something if and only if their values are texts, and then each of them adds
    what it says. -/
theorem source_eq_ok_iff {env : Environment} {said : List (String × Datum)} :
    source env = .ok said ↔ TextVariables env ∧ setMembers [] (entries env) = said :=
  foldlM_add_eq_ok_iff

/-- They say nothing twice. -/
theorem nodup_of_source {env : Environment} {said : List (String × Datum)}
    (h : source env = .ok said) : (said.map Prod.fst).Nodup := by
  obtain ⟨-, rfl⟩ := source_eq_ok_iff.1 h
  exact nodup_setMembers (by simp) _

/-- Each key of what they say is that of one of them, and what it has is what that says. -/
theorem exists_variable_of_mem {env : Environment} {said : List (String × Datum)}
    (h : source env = .ok said) {m : String × Datum} (hm : m ∈ said) :
    ∃ v ∈ env.toolVariables, m = (keyOf v.1, datumOf (textOf v.2)) := by
  obtain ⟨-, rfl⟩ := source_eq_ok_iff.1 h
  obtain ⟨v, hv, rfl⟩ := List.mem_map.1 ((mem_setMembers hm).resolve_right (by simp))
  exact ⟨v, hv, rfl⟩

/-- Among what the variables say, a key is found as its variable is found among the others, if no
    other name stands for the key. -/
theorem lookup_entries {env : Environment} {name : String}
    (h : ∀ v ∈ env.toolVariables, keyOf name = keyOf v.1 ↔ name = v.1) :
    (entries env).lookup (keyOf name) =
      (env.toolVariables.lookup name).map fun value => datumOf (textOf value) := by
  rw [entries]
  revert h
  generalize env.toolVariables = all
  intro h
  induction all with
  | nil => rfl
  | cons v rest ih =>
    obtain ⟨other, value⟩ := v
    have hkeys : keyOf name = keyOf other ↔ name = other := h (other, value) (by simp)
    have hrest := ih fun v hv => h v (by simp [hv])
    by_cases heq : name = other
    · simp [heq]
    · rw [List.map_cons, List.lookup_cons, List.lookup_cons, beq_false_of_ne heq,
        beq_false_of_ne (hkeys.not.2 heq)]
      exact hrest

/-- Such a key is given as often as there are variables of its name. -/
theorem count_entries {env : Environment} {name : String}
    (h : ∀ v ∈ env.toolVariables, keyOf name = keyOf v.1 ↔ name = v.1) :
    ((entries env).map Prod.fst).count (keyOf name) =
      (env.toolVariables.map Prod.fst).count name := by
  rw [entries]
  revert h
  generalize env.toolVariables = all
  intro h
  induction all with
  | nil => rfl
  | cons v rest ih =>
    have hkeys := h v (by simp)
    have hrest := ih fun v hv => h v (by simp [hv])
    simp only [List.map_cons, List.count_cons, hrest, beq_iff_eq]
    by_cases heq : name = v.1
    · simp [heq]
    · rw [if_neg (Ne.symm (hkeys.not.2 heq)), if_neg (Ne.symm heq)]

/-- What the variables say under such a key is what the variable of that name says, if there is at
    most one. -/
theorem lookup_of_source {env : Environment} {said : List (String × Datum)} {name : String}
    (h : source env = .ok said)
    (hname : ∀ v ∈ env.toolVariables, keyOf name = keyOf v.1 ↔ name = v.1)
    (honce : (env.toolVariables.map Prod.fst).count name ≤ 1) :
    said.lookup (keyOf name) =
      (env.toolVariables.lookup name).map fun value => datumOf (textOf value) := by
  obtain ⟨-, rfl⟩ := source_eq_ok_iff.1 h
  rw [← count_entries hname] at honce
  rw [lookup_setMembers honce, lookup_entries hname]
  rcases env.toolVariables.lookup name with - | value <;> rfl

end Variables

/-! ### Variables over what was known -/

/-- A key that leads neither to a whole section nor below a setting. -/
structure PlainKey (k : String) : Prop where
  noBracket : '[' ∉ k.toList
  noSchema : '$' ∉ k.toList
  notSection : k ∉ sectionNames
  notBelow : ∀ s ∈ settingNames, ∀ hops, Hop.ofKey k = .key s.1 :: .key s.2 :: hops → hops = []

/-- The keys of plain variables are plain. -/
theorem PlainVariables.plainKey {env : Environment} (h : PlainVariables env)
    {v : String × Bytes} (hv : v ∈ env.toolVariables) : PlainKey (keyOf v.1) := by
  have hchars : ∀ c ∈ (keyOf v.1).toList, c = '.' ∨ c.isAlphanum ∨ c = '_' := by
    intro c hc
    exact (Variables.mem_dotted (by simpa [keyOf] using hc)).imp_right (h.names v hv c)
  have hother : ∀ c ∈ (keyOf v.1).toList, c ≠ '[' ∧ c ≠ '$' := by
    intro c hc
    constructor <;> rintro rfl <;> simpa using hchars _ hc
  refine ⟨fun hc => (hother _ hc).1 rfl, fun hc => (hother _ hc).2 rfl, fun hsec => ?_,
    h.notBelow v hv⟩
  have hdot : '.' ∉ v.1.toList := fun hc => by simpa using h.names v hv _ hc
  have hsections : ∀ sec ∈ sectionNames, '.' ∉ sec.toList ∧ keyOf sec = sec := by decide
  obtain ⟨hsecDot, hsecKey⟩ := hsections _ hsec
  have hname := (Variables.keyOf_inj hdot hsecDot).1 hsecKey.symm
  exact h.notSection v hv (hname ▸ hsec)

/-- The key of a setting leads to it. -/
theorem ofKey_setting : ∀ s ∈ settingNames,
    Hop.ofKey (s.1 ++ "." ++ s.2) = [.key s.1, .key s.2] := by decide

/-- An environment without variables of the tool is plain. -/
theorem plainVariables_of_nil {env : Environment} (h : env.toolVariables = []) :
    PlainVariables env := by
  constructor <;> simp [h]

/-- An environment whose only variable of the tool is that of a setting is plain. -/
theorem plainVariables_of_setting {env : Environment} {n : String × String} (hn : n ∈ settingNames)
    {value : Bytes} (h : env.toolVariables = [(nameOf n.1 n.2, value)]) : PlainVariables env := by
  have hnames : ∀ n ∈ settingNames,
      ((nameOf n.1 n.2).toList.all fun c => c.isAlphanum || c = '_') ∧
        nameOf n.1 n.2 ∉ sectionNames ∧ keyOf (nameOf n.1 n.2) = n.1 ++ "." ++ n.2 := by decide
  obtain ⟨hchars, hsection, hkey⟩ := hnames n hn
  refine ⟨?_, fun s _ => ?_, by simpa [h] using hsection, ?_⟩
  · simpa [h] using hchars
  · rw [h]
    exact Nat.le_trans List.count_le_length (by simp)
  · simp only [h, List.mem_singleton, forall_eq]
    intro s _ hops heq
    rw [hkey, ofKey_setting n hn] at heq
    simpa using (List.cons.inj (List.cons.inj heq).2).2.symm

/-- The settings are in the sections. -/
theorem mem_sectionNames : ∀ s ∈ settingNames, s.1 ∈ sectionNames := by decide

/-- A key that leads to a setting leads there in two steps. -/
theorem steps_of_setting {s : String × String} (hs : s ∈ settingNames) {name : String}
    {names : List String} (h : Hop.ofKey (s.1 ++ "." ++ s.2) = .key name :: names.map .key) :
    s.1 = name ∧ names = [s.2] := by
  rw [ofKey_setting s hs] at h
  obtain ⟨rfl, hnames⟩ : s.1 = name ∧ [Hop.key s.2] = names.map .key := by simpa using h
  obtain ⟨second, rfl, hsecond⟩ := List.map_eq_singleton_iff.1 hnames.symm
  exact ⟨rfl, by simpa using hsecond⟩

namespace Datum

section

variable {d : Datum} {k name : String}

/-- What is put under a plain key into a section takes the place of the setting of that key, and of
    no other. -/
theorem Sectioned.put_plain_inside (h : d.Sectioned) (hk : PlainKey k) {names : List String}
    (hname : name ∈ sectionNames) (hkey : Hop.ofKey k = .key name :: names.map .key)
    (hnames : names ≠ []) (new : Datum) :
    (put (some d) (Hop.ofKey k) new).Sectioned ∧
      ∀ s ∈ settingNames, (put (some d) (Hop.ofKey k) new).setting? s.1 s.2 =
        if k = s.1 ++ "." ++ s.2 then some (put (d.setting? s.1 s.2) [] new)
        else d.setting? s.1 s.2 := by
  obtain ⟨key, more, rfl⟩ := List.exists_cons_of_ne_nil hnames
  have hsteps : ∀ s ∈ settingNames, k = s.1 ++ "." ++ s.2 → s.1 = name ∧ key :: more = [s.2] :=
    fun s hs heq => steps_of_setting hs (heq ▸ hkey)
  rw [List.map_cons] at hkey
  rw [hkey]
  obtain ⟨hsectioned, hself, hothers⟩ := h.put_inside hname key (more.map .key) new
  refine ⟨hsectioned, fun s hs => ?_⟩
  by_cases hpair : k = s.1 ++ "." ++ s.2
  · obtain ⟨rfl, hkeys⟩ := hsteps s hs hpair
    obtain ⟨rfl, rfl⟩ := List.cons.inj hkeys
    rw [if_pos hpair, hself]
    rfl
  · rw [if_neg hpair]
    by_cases hsec : s.1 = name
    · -- under the key of the setting, nothing is put below it
      have hsetting : s.2 ≠ key := by
        intro hsetting
        rw [← hsec, ← hsetting] at hkey
        rw [hk.notBelow s hs _ hkey] at hkey
        exact hpair (Hop.eq_of_ofKey_pair hk.noBracket hkey)
      rw [hsec, hothers s.2 hsetting]
    · rw [setting?_put_of_ne d s.2 _ _ hsec]

/-- What is put under a plain key elsewhere leaves the settings alone. -/
theorem Sectioned.put_plain_elsewhere (h : d.Sectioned) (hk : PlainKey k) {names : List String}
    (hname : name ∉ sectionNames) (hkey : Hop.ofKey k = .key name :: names.map .key)
    (hchars : k.toList = name.toList ++ Hop.dottedNames names) (new : Datum) :
    (put (some d) (Hop.ofKey k) new).Sectioned ∧
      ∀ s ∈ settingNames, k ≠ s.1 ++ "." ++ s.2 ∧
        (put (some d) (Hop.ofKey k) new).setting? s.1 s.2 = d.setting? s.1 s.2 := by
  have hschema : name ≠ "$schema" := by
    rintro rfl
    exact hk.noSchema (by simp [hchars])
  rw [hkey]
  refine ⟨h.put_elsewhere hname hschema _ _, fun s hs => ?_⟩
  have hsec : s.1 ≠ name := fun heq => hname (heq ▸ mem_sectionNames s hs)
  refine ⟨fun heq => hsec (steps_of_setting hs (heq ▸ hkey)).1, ?_⟩
  rw [setting?_put_of_ne d s.2 _ _ hsec]

/-- What a variable says takes the place of what was known of its setting, and of no other. -/
theorem Sectioned.put_variable (h : d.Sectioned) (hk : PlainKey k) (text : String) :
    (put (some d) (Hop.ofKey k) (datumOf text)).Sectioned ∧
      ∀ s ∈ settingNames, (put (some d) (Hop.ofKey k) (datumOf text)).setting? s.1 s.2 =
        if k = s.1 ++ "." ++ s.2 then some (datumOf text) else d.setting? s.1 s.2 := by
  obtain ⟨name, names, hkey, hchars⟩ := Hop.ofKey_eq_keys hk.noBracket
  by_cases hname : name ∈ sectionNames
  · have hnames : names ≠ [] := by
      rintro rfl
      obtain rfl : k = name := String.toList_inj.1 (by simpa [Hop.dottedNames] using hchars)
      exact hk.notSection hname
    -- a scalar is put without a look at what it replaces
    exact h.put_plain_inside hk hname hkey hnames (datumOf text)
  · obtain ⟨hsectioned, hsettings⟩ :=
      h.put_plain_elsewhere hk hname hkey hchars (datumOf text)
    refine ⟨hsectioned, fun s hs => ?_⟩
    obtain ⟨hne, hsame⟩ := hsettings s hs
    rw [if_neg hne, hsame]

end

/-- After entries with plain keys, a setting is what the entry of its key says, or else what it
    was. -/
theorem addSource_plain {d : Datum} (h : d.Sectioned) {source : List (String × Datum)}
    (hnodup : (source.map Prod.fst).Nodup)
    (hplain : ∀ m ∈ source, PlainKey m.1 ∧ ∃ text, m.2 = datumOf text) :
    (addSource d source).Sectioned ∧
      ∀ s ∈ settingNames, (addSource d source).setting? s.1 s.2 =
        (source.lookup (s.1 ++ "." ++ s.2) <|> d.setting? s.1 s.2) := by
  induction source generalizing d with
  | nil => exact ⟨h, fun s _ => rfl⟩
  | cons m rest ih =>
    obtain ⟨k, new⟩ := m
    obtain ⟨hnew, hrest⟩ := List.nodup_cons.1 hnodup
    obtain ⟨hk, text, rfl⟩ := hplain _ List.mem_cons_self
    obtain ⟨hput, hfirst⟩ := h.put_variable hk text
    obtain ⟨hall, hmore⟩ := ih hput hrest fun m hm => hplain m (List.mem_cons_of_mem _ hm)
    refine ⟨hall, fun s hs => ?_⟩
    refine (hmore s hs).trans ?_
    rw [hfirst s hs]
    by_cases heq : k = s.1 ++ "." ++ s.2
    · rw [← heq, lookup_eq_none_of_not_mem hnew, List.lookup_cons_self, if_pos rfl]
      rfl
    · rw [if_neg heq, List.lookup_cons, beq_false_of_ne (Ne.symm heq)]

/-- After the variables, in whatever order their entries come, a setting is what its variable says,
    or else what it was. -/
theorem addSource_variables {d : Datum} (h : d.Sectioned) {env : Environment}
    (henv : PlainVariables env) {source listed : List (String × Datum)}
    (hsource : Variables.source env = .ok source) (hlisted : source.Perm listed) :
    (addSource d listed).Sectioned ∧
      ∀ s ∈ settingNames, (addSource d listed).setting? s.1 s.2 =
        ((variableSetting? env s.1 s.2).map datumOf <|> d.setting? s.1 s.2) := by
  have hnodup := Variables.nodup_of_source hsource
  obtain ⟨hsectioned, hsetting⟩ := addSource_plain h ((hlisted.map Prod.fst).nodup hnodup)
    fun m hm => by
      obtain ⟨v, hv, rfl⟩ := Variables.exists_variable_of_mem hsource (hlisted.mem_iff.2 hm)
      exact ⟨henv.plainKey hv, _, rfl⟩
  refine ⟨hsectioned, fun s hs => ?_⟩
  have hdots : ∀ v ∈ env.toolVariables, '.' ∉ v.1.toList :=
    fun v hv hc => by simpa using henv.names v hv _ hc
  have hsettings : ∀ s ∈ settingNames,
      '.' ∉ (nameOf s.1 s.2).toList ∧ keyOf (nameOf s.1 s.2) = s.1 ++ "." ++ s.2 := by decide
  obtain ⟨hdot, hkey⟩ := hsettings s hs
  have hkeys : ∀ v ∈ env.toolVariables, keyOf (nameOf s.1 s.2) = keyOf v.1 ↔ nameOf s.1 s.2 = v.1 :=
    fun v hv => Variables.keyOf_inj hdot (hdots v hv)
  have hsaid := Variables.lookup_of_source hsource hkeys (henv.once s hs)
  rw [hkey] at hsaid
  rw [hsetting s hs, lookup_perm hlisted hnodup, hsaid, variableSetting?, Option.map_map]
  rfl

end Datum

end SovdConfig
