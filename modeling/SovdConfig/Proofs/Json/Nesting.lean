import SovdConfig.Proofs.Json.Decoding

namespace SovdConfig.Json.Decoder

/-!
# How deep typed readers look

A typed reader looks a few levels into a text, and passes over what it does not want however deep
that is nested.  Main definition: `Shallow`, whether a typed reader reads the same whatever levels
of nesting are left, from so many on.

Main statement: `toOption_ofText_of_shallow`, a whole text is read as the result of its value,
without a limit on the nesting of the parts that are passed over.
-/

variable {α β σ : Type}

/-- Whether a typed reader reads the same with any levels of nesting left, from so many on. -/
def Shallow (d : Decoder α) (levels : Nat) : Prop :=
  ∀ depth, levels ≤ depth → d.read depth = d.read levels

namespace Shallow

variable {d : Decoder α} {m n : Nat}

/-- More levels than are needed make no difference. -/
theorem mono (h : d.Shallow m) (hle : m ≤ n) : d.Shallow n := by
  intro depth hdepth
  rw [h depth (Nat.le_trans hle hdepth), h n hle]

/-- What is read may be passed through a function. -/
theorem map (h : d.Shallow n) (f : α → β) : (d.map f).Shallow n := by
  intro depth hdepth
  simp only [Decoder.map, h depth hdepth]

/-- What is read of a field is what is read of its value. -/
theorem field (h : d.Shallow n) (name : String) (set : α → σ → σ) :
    (Decoder.field name d set).update.Shallow n :=
  h.map set

/-- A text has no levels. -/
theorem string : Decoder.string.Shallow n := fun _ _ => rfl

/-- Neither has an integer. -/
theorem unsigned (limit : Nat) (typeName : String) : (Decoder.unsigned limit typeName).Shallow n :=
  fun _ _ => rfl

/-- A value that may be `null` has the levels of what it may be. -/
theorem optional (h : d.Shallow n) : (Decoder.optional d).Shallow n := by
  intro depth hdepth
  simp only [Decoder.optional, h depth hdepth]

/-- A named alternative may be an object, which is one level inside another. -/
theorem variant (known : List String) (ofName? : String → Option α) :
    (Decoder.variant known ofName?).Shallow 2 := by
  intro depth hdepth
  have hdeep : ¬ depth ≤ 1 := by omega
  funext cs
  simp [Decoder.variant, hdeep]

/-! ### Records -/

/-- A container is read the same if its inside is. -/
theorem inContainer (close : List Char → Except Failure (List Char))
    (pass : List Char → List Char) {body : Nat → Reader α} (h : ∀ k, n ≤ k → body k = body n)
    {depth : Nat} (hdepth : n + 2 ≤ depth) :
    Json.inContainer close pass depth body = Json.inContainer close pass (n + 2) body := by
  have hdeep : ¬ depth ≤ 1 := by omega
  funext cs
  simp only [Json.inContainer, hdeep, if_false, h (depth - 1) (by omega), Nat.add_one_sub_one,
    h (n + 1) (by omega), show ¬ n + 2 ≤ 1 by omega]

section

variable {fields : List (Field σ)} (h : ∀ f ∈ fields, f.update.Shallow n)

include h

/-- The members of an object are read the same if the fields are. -/
theorem readFields {depth : Nat} (hdepth : n ≤ depth) (fuel : Nat) (seen : List String) (s : σ)
    (cs : List Char) :
    Decoder.readFields fields depth fuel seen s cs =
      Decoder.readFields fields n fuel seen s cs := by
  induction fuel generalizing seen s cs with
  | zero => rfl
  | succ fuel ih =>
    simp only [Decoder.readFields, ih]
    refine bind_congr fun next => ?_
    cases next with
    | none => rfl
    | some cs =>
      refine bind_congr ?_
      rintro ⟨name, rest⟩
      simp only
      cases hfield : fields.find? (·.name = name) with
      | none => rfl
      | some f => simp only [h f (List.mem_of_find?_eq_some hfield) depth hdepth]

/-- The items of a list are read the same if the fields are. -/
theorem readTuple {depth : Nat} (hdepth : n ≤ depth) (isFirst : Bool) (s : σ) (cs : List Char) :
    Decoder.readTuple depth fields isFirst s cs = Decoder.readTuple n fields isFirst s cs := by
  induction fields generalizing isFirst s cs with
  | nil => rfl
  | cons f fields ih =>
    simp only [Decoder.readTuple, h f (by simp) depth hdepth,
      ih fun g hg => h g (by simp [hg])]

/-- A record has one level more than its fields, and looks into one more where they have none. -/
theorem record (typeName : String) (default : σ) :
    (Decoder.record typeName fields default).Shallow (n + 2) := by
  intro depth hdepth
  funext cs
  have hitems : ∀ k, n ≤ k →
      Decoder.readTuple k fields true default = Decoder.readTuple n fields true default :=
    fun k hk => funext (readTuple h hk true default)
  have hmembers : ∀ k, n ≤ k →
      (fun cs => Decoder.readFields fields k (cs.length + 1) [] default cs) =
        fun cs => Decoder.readFields fields n (cs.length + 1) [] default cs :=
    fun k hk => funext fun cs => readFields h hk _ _ default cs
  have hlist := inContainer closeList passListEnd hitems hdepth
  have hobject := inContainer closeObject passObjectEnd hmembers hdepth
  simp only [Decoder.record, inList, inObject, hlist, hobject]

end

end Shallow

/-- A whole text is read as the result of its value, however deep the parts are nested that are
    passed over. -/
theorem toOption_ofText_of_shallow {d : Decoder α} {sem : Tree → Option α} (h : d.Reads sem)
    (hshallow : d.Shallow nestingLimit) {text : String} {v : Tree} (htext : TextDenotes text v) :
    (d.ofText text).toOption = sem v := by
  obtain ⟨before, cs, after, heq, hbefore, hafter, hcs⟩ := htext
  have hread := h cs v (max nestingLimit (v.depth + 1)) hcs (by omega) before after hbefore
    (endsValue_of_isBlankText hafter)
  rw [hshallow _ (Nat.le_max_left _ _), ← List.append_assoc] at hread
  rw [← List.append_assoc] at heq
  exact toOption_ofText_of_read heq hafter hread

end SovdConfig.Json.Decoder
