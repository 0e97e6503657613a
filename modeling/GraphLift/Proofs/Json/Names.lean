import GraphLift.Json.Parser
import GraphLift.Proofs.Outcome
import Mathlib.Data.List.Nodup

/-! # Names in objects

    A table that `put` writes has every name once, and so have the objects of every value that is read.

    * **Tables**: `put` changes what is under its name and nothing else (`lookup_put`), and adds no name twice.
    * **Values** (`Json.Distinct`): no object in them has a name twice. `parse_distinct` says that texts read as such
      values.
-/

namespace GraphLift

namespace Json

/-! ## Tables -/

section Tables

variable {α : Type} {table : List (String × α)} {name : String} {value : α}

/-- Where keys differ, a member of a list is found by its key if it is there. -/
theorem find?_key_eq_some {key : α → String} {l : List α} (hdistinct : (l.map key).Nodup) {k : String} {a : α} :
    l.find? (fun b => key b == k) = some a ↔ a ∈ l ∧ key a = k := by
  constructor
  · intro h
    exact ⟨List.mem_of_find?_eq_some h, by simpa using List.find?_some h⟩
  · intro h
    obtain ⟨hmem, hkey⟩ := h
    induction l with
    | nil => cases hmem
    | cons first rest ih =>
      obtain ⟨hfirst, hrest⟩ := List.nodup_cons.mp hdistinct
      rw [List.find?_cons]
      rcases List.mem_cons.mp hmem with heq | hmem
      · rw [← heq, beq_iff_eq.mpr hkey]
      · have hne : key first ≠ k := by
          intro heq
          exact hfirst (List.mem_map.mpr ⟨a, hmem, hkey.trans heq.symm⟩)
        rw [beq_eq_false_iff_ne.mpr hne]
        exact ih hrest hmem

theorem mem_of_lookup (h : lookup name table = some value) : (name, value) ∈ table := by
  obtain ⟨p, hp, rfl⟩ := Option.map_eq_some_iff.mp h
  have hname : p.1 = name := by simpa using List.find?_some hp
  rw [← hname]
  exact List.mem_of_find?_eq_some hp

theorem lookup_eq_some (hdistinct : (table.map (·.1)).Nodup) :
    lookup name table = some value ↔ (name, value) ∈ table := by
  constructor
  · exact mem_of_lookup
  · intro h
    exact Option.map_eq_some_iff.mpr ⟨(name, value), (find?_key_eq_some hdistinct).mpr ⟨h, rfl⟩, rfl⟩

theorem lookup_cons (other : String) (p : String × α) :
    lookup other (p :: table) = if p.1 = other then some p.2 else lookup other table := by
  unfold lookup
  rw [List.find?_cons]
  by_cases h : p.1 = other
  · rw [if_pos h, beq_iff_eq.mpr h]
    rfl
  · rw [if_neg h, beq_eq_false_iff_ne.mpr h]

/-- After `put` the value is under its name, and under the other names is what was there before. -/
theorem lookup_put (other : String) :
    lookup other (put name value table) = if name = other then some value else lookup other table := by
  induction table with
  | nil => rw [put, lookup_cons]
  | cons p rest ih =>
    obtain ⟨n, v⟩ := p
    unfold put
    by_cases hn : n = name
    · rw [if_pos (beq_iff_eq.mpr hn), lookup_cons, lookup_cons]
      subst hn
      by_cases ho : n = other
      · rw [if_pos ho, if_pos ho]
      · rw [if_neg ho, if_neg ho, if_neg ho]
    · rw [if_neg (by simpa using hn), lookup_cons, lookup_cons, ih]
      by_cases ho : name = other
      · subst ho
        rw [if_neg hn, if_pos rfl, if_pos rfl]
      · rw [if_neg ho, if_neg ho]

/-- The names after `put` are those before, and the new one. -/
theorem mem_names_put {other : String} :
    other ∈ (put name value table).map (·.1) ↔ other = name ∨ other ∈ table.map (·.1) := by
  induction table with
  | nil => simp [put]
  | cons p rest ih =>
    obtain ⟨n, v⟩ := p
    unfold put
    by_cases hn : n = name
    · rw [if_pos (beq_iff_eq.mpr hn)]
      subst hn
      simp
    · rw [if_neg (by simpa using hn), List.map_cons, List.mem_cons, ih, List.map_cons, List.mem_cons]
      exact or_left_comm

theorem nodup_names_put (h : (table.map (·.1)).Nodup) : ((put name value table).map (·.1)).Nodup := by
  induction table with
  | nil => exact List.nodup_singleton _
  | cons p rest ih =>
    obtain ⟨n, v⟩ := p
    obtain ⟨hn, hrest⟩ := List.nodup_cons.mp h
    unfold put
    by_cases heq : n = name
    · rw [if_pos (beq_iff_eq.mpr heq)]
      exact h
    · rw [if_neg (by simpa using heq), List.map_cons, List.nodup_cons]
      refine ⟨?_, ih hrest⟩
      intro hmem
      rcases mem_names_put.mp hmem with hmem | hmem
      · exact heq hmem
      · exact hn hmem

theorem mem_put {p : String × α} (h : p ∈ put name value table) : p.2 = value ∨ p ∈ table := by
  induction table with
  | nil =>
    cases List.mem_singleton.mp h
    exact .inl rfl
  | cons q rest ih =>
    obtain ⟨n, v⟩ := q
    unfold put at h
    by_cases heq : n = name
    · rw [if_pos (beq_iff_eq.mpr heq)] at h
      rcases List.mem_cons.mp h with h | h
      · exact .inl (by rw [h])
      · exact .inr (List.mem_cons_of_mem _ h)
    · rw [if_neg (by simpa using heq)] at h
      rcases List.mem_cons.mp h with h | h
      · exact .inr (h ▸ List.mem_cons_self)
      · exact (ih h).imp_right (List.mem_cons_of_mem _)

/-- What is collected has every name once, and its values are those of the pairs. -/
theorem collect_spec (pairs : List (String × α)) :
    ((collect pairs).map (·.1)).Nodup ∧ ∀ p ∈ collect pairs, ∃ q ∈ pairs, p.2 = q.2 := by
  -- the same for every table that was collected before
  have hfold : ∀ table : List (String × α), (table.map (·.1)).Nodup →
      ((pairs.foldl (fun t q => put q.1 q.2 t) table).map (·.1)).Nodup ∧
        ∀ p ∈ pairs.foldl (fun t q => put q.1 q.2 t) table, p ∈ table ∨ ∃ q ∈ pairs, p.2 = q.2 := by
    induction pairs with
    | nil =>
      intro table htable
      exact ⟨htable, fun p hp => .inl hp⟩
    | cons q rest ih =>
      intro table htable
      obtain ⟨hnames, hvalues⟩ := ih (put q.1 q.2 table) (nodup_names_put htable)
      refine ⟨hnames, ?_⟩
      intro p hp
      rcases hvalues p hp with hp | ⟨r, hr, hpr⟩
      · rcases mem_put hp with hp | hp
        · exact .inr ⟨q, List.mem_cons_self, hp⟩
        · exact .inl hp
      · exact .inr ⟨r, List.mem_cons_of_mem _ hr, hpr⟩
  obtain ⟨hnames, hvalues⟩ := hfold [] List.nodup_nil
  refine ⟨hnames, ?_⟩
  intro p hp
  rcases hvalues p hp with hp | hp
  · cases hp
  · exact hp

/-- What is collected has the value of every pair under its name, where names differ. -/
theorem lookup_collect {pairs : List (String × α)} (hdistinct : (pairs.map (·.1)).Nodup) (name : String) :
    lookup name (collect pairs) = lookup name pairs := by
  have hfold : ∀ table : List (String × α), lookup name (pairs.foldl (fun t q => put q.1 q.2 t) table) =
      (lookup name pairs).or (lookup name table) := by
    induction pairs with
    | nil =>
      intro table
      rfl
    | cons q rest ih =>
      intro table
      obtain ⟨hq, hrest⟩ := List.nodup_cons.mp hdistinct
      rw [List.foldl_cons, ih hrest, lookup_put, lookup_cons]
      by_cases hname : q.1 = name
      · rw [if_pos hname, if_pos hname]
        cases hlookup : lookup name rest with
        | none => rfl
        | some v =>
          -- the name would be there twice
          have hmem := (lookup_eq_some hrest).mp hlookup
          exact absurd (List.mem_map.mpr ⟨_, hmem, hname.symm⟩) hq
      · rw [if_neg hname, if_neg hname]
  have := hfold []
  rwa [show lookup name ([] : List (String × α)) = none from rfl, Option.or_none] at this

end Tables

/-! ## Values -/

/-- The value holds no others. -/
def isScalar : Json → Bool
  | .array _ | .object _ => false
  | _ => true

/-- No object in the value has a name twice. -/
inductive Distinct : Json → Prop where
  | scalar {v : Json} (h : v.isScalar = true) : Distinct v
  | array {items : List Json} (inner : ∀ v ∈ items, Distinct v) : Distinct (.array items)
  | object {members : List (String × Json)} (names : (members.map (·.1)).Nodup)
      (inner : ∀ m ∈ members, Distinct m.2) : Distinct (.object members)

theorem distinct_collect {pairs : List (String × Json)} (h : ∀ p ∈ pairs, Distinct p.2) :
    Distinct (.object (collect pairs)) := by
  obtain ⟨hnames, hvalues⟩ := collect_spec pairs
  refine .object hnames ?_
  intro m hm
  obtain ⟨q, hq, heq⟩ := hvalues m hm
  rw [heq]
  exact h q hq

/-- The members of an object are distinct in turn; an absent one reads as null. -/
theorem Distinct.field {members : List (String × Json)} (h : Distinct (.object members)) (name : String) :
    Distinct (Json.field members name) := by
  unfold Json.field Json.lookup
  cases hfind : members.find? fun p => p.1 == name with
  | none => exact .scalar rfl
  | some p =>
    cases h with
    | scalar h => cases h
    | object _ inner => exact inner p (List.mem_of_find?_eq_some hfind)

theorem Distinct.names {members : List (String × Json)} (h : Distinct (.object members)) :
    (members.map (·.1)).Nodup := by
  cases h with
  | scalar h => cases h
  | object names _ => exact names

/-! ## Values that are read -/

theorem distinct_of_unsigned? {negative : Bool} {s : List Char} {v : Json} {r : Rest s}
    (h : unsigned? negative s = some (v, r)) : Distinct v := by
  unfold unsigned? at h
  split at h
  · cases h
  · dsimp only at h
    cases h
    split
    · exact .scalar rfl
    · exact .scalar rfl

theorem distinct_of_number? {s : List Char} {v : Json} {r : Rest s} (h : number? s = some (v, r)) : Distinct v := by
  unfold number? at h
  split at h
  · obtain ⟨⟨v', r'⟩, hr, h⟩ := Option.map_eq_some_iff.mp h
    cases h
    exact distinct_of_unsigned? hr
  · exact distinct_of_unsigned? h

/-- What is read off the front of a text is distinct. -/
structure ReadsDistinct (s : List Char) : Prop where
  value : ∀ v r, Json.value s = .ok (v, r) → Distinct v
  items : ∀ vs r, Json.items s = .ok (vs, r) → ∀ v ∈ vs, Distinct v
  members : ∀ ms r, Json.members s = .ok (ms, r) → ∀ m ∈ ms, Distinct m.2

theorem distinct_of_value {s : List Char} (ih : ∀ r, r.length < s.length → ReadsDistinct r) {v : Json} {r : Rest s}
    (h : value s = .ok (v, r)) : Distinct v := by
  unfold value at h
  split at h
  · simp only [Outcome.bind_eq_ok] at h
    obtain ⟨_, _, h⟩ := h
    cases h
    exact .scalar rfl
  · -- an array, whose members are read off what is behind its bracket
    next t =>
    dsimp only at h
    split at h
    · cases h
      exact .array fun _ hv => absurd hv List.not_mem_nil
    · simp only [Outcome.bind_eq_ok] at h
      obtain ⟨⟨vs, r'⟩, hvs, h⟩ := h
      cases h
      exact .array ((ih _ (Nat.lt_succ_of_le (length_skipSpace_le t))).items vs r' hvs)
  · -- an object, whose members are collected after they were read
    next t =>
    dsimp only at h
    split at h
    · cases h
      exact .object List.nodup_nil fun _ hm => absurd hm List.not_mem_nil
    · simp only [Outcome.bind_eq_ok] at h
      obtain ⟨⟨ms, r'⟩, hms, h⟩ := h
      cases h
      exact distinct_collect ((ih _ (Nat.lt_succ_of_le (length_skipSpace_le t))).members ms r' hms)
  · cases h
    exact .scalar rfl
  · cases h
    exact .scalar rfl
  · cases h
    exact .scalar rfl
  · -- a number, written as a word or in digits
    split at h
    · cases h
      exact .scalar rfl
    · split at h
      · cases h
      · split at h
        · next hnumber =>
          cases h
          exact distinct_of_number? hnumber
        · cases h

theorem distinct_of_items {s : List Char} (ih : ∀ r, r.length < s.length → ReadsDistinct r) {vs : List Json}
    {r : Rest s} (h : items s = .ok (vs, r)) : ∀ v ∈ vs, Distinct v := by
  unfold items at h
  obtain ⟨⟨first, t, ht⟩, hfirst, h⟩ := Outcome.bind_eq_ok.mp h
  have hdistinct := distinct_of_value ih hfirst
  dsimp only at h
  split at h
  · cases h
    intro v hv
    rwa [List.mem_singleton.mp hv]
  · next u hu =>
    -- the values behind the comma are read off a shorter text
    have hlt : (skipSpace u).length < s.length := by
      have hs := length_skipSpace_le t
      have hle := length_skipSpace_le u
      rw [hu, List.length_cons] at hs
      omega
    obtain ⟨⟨rest, w⟩, hrest, h⟩ := Outcome.bind_eq_ok.mp h
    cases h
    intro v hv
    rcases List.mem_cons.mp hv with hv | hv
    · rwa [hv]
    · exact (ih _ hlt).items rest w hrest v hv
  · cases h

theorem distinct_of_members {s : List Char} (ih : ∀ r, r.length < s.length → ReadsDistinct r)
    {ms : List (String × Json)} {r : Rest s} (h : members s = .ok (ms, r)) : ∀ m ∈ ms, Distinct m.2 := by
  unfold members at h
  split at h
  · next t =>
    obtain ⟨⟨cs, a, ha⟩, _, h⟩ := Outcome.bind_eq_ok.mp h
    dsimp only at h
    split at h
    · next b hb =>
      have hlt : (skipSpace b).length < t.length := by
        have hs := length_skipSpace_le a
        have hle := length_skipSpace_le b
        rw [hb, List.length_cons] at hs
        omega
      obtain ⟨⟨first, c, hc⟩, hfirst, h⟩ := Outcome.bind_eq_ok.mp h
      have hdistinct := (ih _ (Nat.lt_succ_of_lt hlt)).value first ⟨c, hc⟩ hfirst
      dsimp only at h
      split at h
      · cases h
        intro m hm
        rw [List.mem_singleton.mp hm]
        exact hdistinct
      · next u hu =>
        have hltu : (skipSpace u).length < t.length := by
          have hs := length_skipSpace_le c
          have hle := length_skipSpace_le u
          rw [hu, List.length_cons] at hs
          omega
        obtain ⟨⟨rest, w⟩, hrest, h⟩ := Outcome.bind_eq_ok.mp h
        cases h
        intro m hm
        rcases List.mem_cons.mp hm with hm | hm
        · rw [hm]
          exact hdistinct
        · exact (ih _ (Nat.lt_succ_of_lt hltu)).members rest w hrest m hm
      · cases h
    · cases h
  · cases h

/-- Reading gives distinct values only: by induction on the length of what is left to read. -/
theorem readsDistinct (s : List Char) : ReadsDistinct s := by
  induction hn : s.length using Nat.strongRecOn generalizing s with
  | ind n ih =>
    have ih' : ∀ r : List Char, r.length < s.length → ReadsDistinct r := fun r hr => ih r.length (hn ▸ hr) r rfl
    exact ⟨fun v r h => distinct_of_value ih' h, fun vs r h => distinct_of_items ih' h,
      fun ms r h => distinct_of_members ih' h⟩

/-- **No object that is read has a name twice.** -/
theorem parse_distinct {text : String} {v : Json} (h : parse text = .ok v) : Distinct v := by
  unfold parse at h
  cases hread : readDocument text.toList with
  | error e =>
    rw [hread] at h
    cases h
  | ok v' =>
    rw [hread] at h
    cases h
    unfold readDocument at hread
    split at hread
    · cases hread
    · obtain ⟨⟨v', r, hr⟩, hvalue, hread⟩ := Outcome.bind_eq_ok.mp hread
      dsimp only at hread
      split at hread
      · cases hread
        exact (readsDistinct _).value v ⟨r, hr⟩ hvalue
      · cases hread

end Json

end GraphLift
