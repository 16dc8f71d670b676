namespace SovdConfig

/-!
# Members under keys

Tables are kept as lists of members, in the order in which their keys were first given.  Main
definitions:

* `setMember`, `setMembers` — the members with another value under a key, or under several keys.

No key comes to occur twice.
-/

variable {α : Type}

/-- The members with a value under a key, in the place of the old one or at the end. -/
def setMember (members : List (String × α)) (key : String) (value : α) : List (String × α) :=
  match members with
  | [] => [(key, value)]
  | (other, v) :: rest =>
    if key = other then (key, value) :: rest else (other, v) :: setMember rest key value

/-- A key that has been set is found. -/
theorem lookup_setMember_self (members : List (String × α)) (key : String) (value : α) :
    (setMember members key value).lookup key = some value := by
  induction members with
  | nil => simp [setMember]
  | cons m rest ih =>
    by_cases h : key = m.1
    · simp [setMember, h]
    · rw [setMember, if_neg h, List.lookup_cons, ih, beq_false_of_ne h]

/-- Other keys keep their values. -/
theorem lookup_setMember_of_ne (members : List (String × α)) {key other : String} (value : α)
    (h : other ≠ key) : (setMember members key value).lookup other = members.lookup other := by
  induction members with
  | nil => rw [setMember, List.lookup_cons, beq_false_of_ne h]
  | cons m rest ih =>
    by_cases hk : key = m.1
    · rw [setMember, if_pos hk, List.lookup_cons, List.lookup_cons, ← hk, beq_false_of_ne h]
    · rw [setMember, if_neg hk, List.lookup_cons, List.lookup_cons, ih]

/-- A missing key goes to the end. -/
theorem setMember_of_lookup_eq_none {members : List (String × α)} {key : String}
    (h : members.lookup key = none) (value : α) :
    setMember members key value = members ++ [(key, value)] := by
  induction members with
  | nil => rfl
  | cons m rest ih =>
    by_cases hk : key = m.1
    · simp [hk] at h
    · rw [List.lookup_cons, beq_false_of_ne hk] at h
      rw [setMember, if_neg hk, ih h, List.cons_append]

/-- Giving a key the value that it has changes nothing. -/
theorem setMember_of_lookup_eq_some {members : List (String × α)} {key : String} {value : α}
    (h : members.lookup key = some value) : setMember members key value = members := by
  induction members with
  | nil => simp at h
  | cons m rest ih =>
    obtain ⟨other, old⟩ := m
    by_cases hk : key = other
    · obtain rfl : old = value := by simpa [List.lookup_cons, hk] using h
      simp [setMember, hk]
    · rw [List.lookup_cons, beq_false_of_ne hk] at h
      rw [setMember, if_neg hk, ih h]

/-- The last value of a key stays. -/
theorem setMember_setMember (members : List (String × α)) (key : String) (old new : α) :
    setMember (setMember members key old) key new = setMember members key new := by
  induction members with
  | nil => simp [setMember]
  | cons m rest ih =>
    by_cases hk : key = m.1
    · simp [setMember, hk]
    · simp only [setMember, if_neg hk, ih]

/-- Nothing is found under a key that no member has. -/
theorem lookup_eq_none_of_not_mem {members : List (String × α)} {key : String}
    (h : key ∉ members.map Prod.fst) : members.lookup key = none := by
  induction members with
  | nil => rfl
  | cons m rest ih =>
    obtain ⟨hne, hrest⟩ : key ≠ m.1 ∧ key ∉ rest.map Prod.fst := by
      simpa only [List.map_cons, List.mem_cons, not_or] using h
    rw [List.lookup_cons, beq_false_of_ne hne]
    exact ih hrest

/-- What is found under a key is a member. -/
theorem mem_of_lookup_eq_some {members : List (String × α)} {key : String} {value : α}
    (h : members.lookup key = some value) : (key, value) ∈ members := by
  induction members with
  | nil => simp at h
  | cons m rest ih =>
    obtain ⟨other, v⟩ := m
    by_cases hk : key = other
    · obtain rfl : v = value := by simpa [List.lookup_cons, hk] using h
      simp [hk]
    · rw [List.lookup_cons, beq_false_of_ne hk] at h
      exact List.mem_cons_of_mem _ (ih h)

/-- A member after a change is the changed one or was there before. -/
theorem mem_setMember {members : List (String × α)} {key : String} {value : α} {m : String × α}
    (h : m ∈ setMember members key value) : m = (key, value) ∨ m ∈ members := by
  induction members with
  | nil => simpa [setMember] using h
  | cons first rest ih =>
    rw [setMember] at h
    split at h
    · rcases List.mem_cons.1 h with h | h
      · exact Or.inl h
      · exact Or.inr (List.mem_cons_of_mem _ h)
    · rcases List.mem_cons.1 h with h | h
      · exact Or.inr (h ▸ List.mem_cons_self)
      · exact (ih h).imp_right (List.mem_cons_of_mem _)

/-- If no key occurs twice, none does after a change. -/
theorem nodup_setMember {members : List (String × α)} (h : (members.map Prod.fst).Nodup)
    (key : String) (value : α) : ((setMember members key value).map Prod.fst).Nodup := by
  induction members with
  | nil => simp [setMember]
  | cons m rest ih =>
    obtain ⟨hnew, hrest⟩ := List.nodup_cons.1 h
    by_cases hk : key = m.1
    · simpa [setMember, hk] using h
    · rw [setMember, if_neg hk]
      refine List.nodup_cons.2 ⟨fun hmem => ?_, ih hrest⟩
      obtain ⟨other, hother, hname⟩ := List.mem_map.1 hmem
      rcases mem_setMember hother with rfl | hother
      · exact hk hname
      · exact hnew (List.mem_map.2 ⟨other, hother, hname⟩)

/-! ### One change after another -/

/-- The members after changes, one after the other. -/
def setMembers (members changes : List (String × α)) : List (String × α) :=
  changes.foldl (fun members m => setMember members m.1 m.2) members

/-- If no key occurs twice, none does after changes. -/
theorem nodup_setMembers {members : List (String × α)} (h : (members.map Prod.fst).Nodup)
    (changes : List (String × α)) : ((setMembers members changes).map Prod.fst).Nodup := by
  induction changes generalizing members with
  | nil => exact h
  | cons m rest ih => exact ih (nodup_setMember h m.1 m.2)

/-- A member after changes is one of them or was there before. -/
theorem mem_setMembers {members changes : List (String × α)} {m : String × α}
    (h : m ∈ setMembers members changes) : m ∈ changes ∨ m ∈ members := by
  induction changes generalizing members with
  | nil => exact Or.inr h
  | cons first rest ih =>
    rcases ih h with h | h
    · exact Or.inl (List.mem_cons_of_mem _ h)
    · rcases mem_setMember h with rfl | h
      · exact Or.inl List.mem_cons_self
      · exact Or.inr h

/-- A key that changes at most once has the value that it is given, or else the one it had. -/
theorem lookup_setMembers {members changes : List (String × α)} {key : String}
    (hcount : (changes.map Prod.fst).count key ≤ 1) :
    (setMembers members changes).lookup key = (changes.lookup key <|> members.lookup key) := by
  induction changes generalizing members with
  | nil => rfl
  | cons m rest ih =>
    obtain ⟨name, value⟩ := m
    by_cases hname : name = key
    · rw [List.map_cons, hname, List.count_cons_self] at hcount
      have hzero : (rest.map Prod.fst).count key = 0 := by omega
      have hnone := lookup_eq_none_of_not_mem (List.count_eq_zero.1 hzero)
      rw [setMembers, List.foldl_cons, ← setMembers, ih (by omega), hnone, hname]
      simp [lookup_setMember_self]
    · rw [List.map_cons, List.count_cons_of_ne hname] at hcount
      rw [setMembers, List.foldl_cons, ← setMembers, ih hcount, List.lookup_cons,
        beq_false_of_ne (Ne.symm hname), lookup_setMember_of_ne _ _ (Ne.symm hname)]

end SovdConfig
