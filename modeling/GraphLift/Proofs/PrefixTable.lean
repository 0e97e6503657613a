import GraphLift.Proofs.Mapping.Success
import GraphLift.Rdf.Namespaces

/-! # Prefix tables that every use admits

    Nothing checks the entries of a prefix table when it is read: a prefix is looked at when it is bound, and a namespace
    when a reference is expanded.

    * **Sound tables** (`PrefixTable.IsSound`) can be bound, and expand every reference.
    * **Foreseen values** (`PrefixTable.Foreseen`) write sound tables, unless what stands for a pair has another length,
      which is refused (`PrefixTable.ofJson_cases`).
-/

namespace GraphLift

open Outcome

/-- The value is a text, a list or an object, whose parts can be gone through. -/
def Json.IsWalkable : Json → Prop
  | .array _ | .text _ | .object _ => True
  | _ => False

/-- The prefix can be bound: it is a text without a space, or null. -/
def PrefixName.IsBindable : PrefixName → Prop
  | .text s => ' ' ∉ s.toList
  | .absent => True
  | .other => False

/-- How a prefix is written where it is bound: an absent one as the empty text. -/
def PrefixName.spelling : PrefixName → String
  | .text s => s
  | .absent | .other => ""

theorem PrefixName.bound_of_isBindable {name : PrefixName} (h : name.IsBindable) : name.bound = .ok name.spelling := by
  cases name with
  | text s =>
    have hspace : s.toList.contains ' ' ≠ true := fun hmem => h (List.contains_iff_mem.mp hmem)
    exact if_neg hspace
  | absent => rfl
  | other => exact h.elim

/-- Binds the pairs in order. -/
def Namespaces.bindAll (ns : Namespaces) (pairs : List (String × String)) : Namespaces :=
  pairs.foldl (fun ns p => ns.bind p.1 p.2) ns

namespace PrefixTable

/-- A table whose prefixes can be bound and whose namespaces are texts or null. -/
structure IsSound (table : PrefixTable) : Prop where
  names : ∀ e ∈ table.entries, e.1.IsBindable
  namespaces : ∀ e ∈ table.entries, e.2 = .null ∨ ∃ s, e.2 = .text s

theorem isSound_ofTexts {prefixes : List (String × String)} (h : ∀ p ∈ prefixes, ' ' ∉ p.1.toList) :
    (ofTexts prefixes).IsSound := by
  refine ⟨fun e he => ?_, fun e he => ?_⟩
  · obtain ⟨p, hp, rfl⟩ := List.mem_map.mp he
    exact h p hp
  · obtain ⟨p, _, rfl⟩ := List.mem_map.mp he
    exact .inr ⟨p.2, rfl⟩

/-- The prefixes and namespaces of a table, as they are bound. -/
def pairs (table : PrefixTable) : List (String × String) :=
  table.entries.map fun e => (e.1.spelling, e.2.label)

/-- All entries are bound if each prefix can be. -/
theorem bindTo_eq {table : PrefixTable} (h : ∀ e ∈ table.entries, e.1.IsBindable) (ns : Namespaces) :
    table.bindTo ns = .ok (ns.bindAll table.pairs) := by
  have hall : ∀ (entries : List (PrefixName × Json)) (ns : Namespaces), (∀ e ∈ entries, e.1.IsBindable) →
      entries.foldlM (fun (ns : Namespaces) e => do return ns.bind (← e.1.bound) e.2.label) ns =
        .ok (ns.bindAll (entries.map fun e => (e.1.spelling, e.2.label))) := by
    intro entries
    induction entries with
    | nil => exact fun ns _ => rfl
    | cons e rest ih =>
      intro ns hnames
      obtain ⟨he, hrest⟩ := List.forall_mem_cons.mp hnames
      rw [List.foldlM_cons, PrefixName.bound_of_isBindable he]
      exact ih (ns.bind e.1.spelling e.2.label) hrest
  exact hall table.entries ns h

/-- All entries of a sound table are bound. -/
theorem IsSound.succeeds_bindTo {table : PrefixTable} (h : table.IsSound) (ns : Namespaces) :
    Succeeds (table.bindTo ns) := by
  rw [bindTo_eq h.names]
  exact succeeds_ok _

/-! ## Tables that are written in JSON -/

/-- An entry that every use admits. -/
structure EntryForeseen (name ns : Json) : Prop where
  name : name = .null ∨ ∃ s, name = .text s ∧ ' ' ∉ s.toList
  iri : ns = .null ∨ ∃ s, ns = .text s

/-- A value for a prefix table that is of the kind that is reckoned with: an object, a list of pairs, a text, or what
    counts as nothing. -/
def Foreseen : Json → Prop
  | .object members => ∀ m ∈ members, EntryForeseen (.text m.1) m.2
  | .array items => ∀ v ∈ items, v.IsWalkable ∧ ∀ index a b, pairOf index v = .ok (a, b) → EntryForeseen a b
  | .text _ => True
  | v => v.isTruthy = false

theorem mem_put {name : PrefixName} {ns : Json} {entries : List (PrefixName × Json)} {e : PrefixName × Json}
    (h : e ∈ put name ns entries) : e = (name, ns) ∨ e ∈ entries := by
  induction entries with
  | nil => exact .inl (List.mem_singleton.mp h)
  | cons entry rest ih =>
    obtain ⟨n, v⟩ := entry
    rw [put] at h
    split at h
    · next hsame =>
      rcases List.mem_cons.mp h with rfl | h
      · exact .inl (by rw [hsame])
      · exact .inr (List.mem_cons_of_mem _ h)
    · rcases List.mem_cons.mp h with rfl | h
      · exact .inr List.mem_cons_self
      · rcases ih h with h | h
        · exact .inl h
        · exact .inr (List.mem_cons_of_mem _ h)

/-- A sound table stays sound with one more entry that every use admits. -/
theorem IsSound.put {entries : List (PrefixName × Json)} (h : IsSound ⟨entries⟩) {name : PrefixName} {ns : Json}
    (hname : name.IsBindable) (hns : ns = .null ∨ ∃ s, ns = .text s) : IsSound ⟨PrefixTable.put name ns entries⟩ := by
  refine ⟨fun e he => ?_, fun e he => ?_⟩
  · rcases mem_put he with rfl | he
    · exact hname
    · exact h.names e he
  · rcases mem_put he with rfl | he
    · exact hns
    · exact h.namespaces e he

/-- The prefix of an entry that every use admits is known and can be bound. -/
theorem EntryForeseen.exists_nameOf {a b : Json} (h : EntryForeseen a b) :
    ∃ name, nameOf a = .ok name ∧ name.IsBindable := by
  rcases h.name with rfl | ⟨s, rfl, hs⟩
  · exact ⟨.absent, rfl, trivial⟩
  · exact ⟨.text s, rfl, hs⟩

/-- What can be gone through is a pair, or it is refused for its length. -/
theorem pairOf_cases {v : Json} (h : v.IsWalkable) (index : Nat) :
    (∃ a b, pairOf index v = .ok (a, b)) ∨ ∃ cause, pairOf index v = .error (.value cause) := by
  unfold pairOf
  dsimp only
  split
  · next hnone =>
    -- whatever can be gone through has parts
    cases v with
    | array items => cases hnone
    | text s => cases hnone
    | object members => cases hnone
    | null => exact h.elim
    | bool b => exact h.elim
    | int n => exact h.elim
    | real x => exact h.elim
  · exact .inl ⟨_, _, rfl⟩
  · exact .inr ⟨_, rfl⟩

/-- A single character is no pair. -/
theorem pairOf_singleton (index : Nat) (c : Char) (p : Json × Json) :
    pairOf index (.text (String.singleton c)) ≠ .ok p := by
  intro h
  unfold pairOf at h
  dsimp only at h
  rw [String.toList_singleton] at h
  cases h

/-- Pairs give a sound table, or one of them is refused for its length. -/
theorem readPairs_cases {items : List Json}
    (hitems : ∀ v ∈ items, v.IsWalkable ∧ ∀ index a b, pairOf index v = .ok (a, b) → EntryForeseen a b)
    {entries : List (PrefixName × Json)} (hentries : IsSound ⟨entries⟩) (index : Nat) :
    Yields IsSound (readPairs index entries items) ∨ ∃ cause, readPairs index entries items = .error (.value cause) := by
  induction items generalizing entries index with
  | nil => exact .inl (yields_ok hentries)
  | cons v rest ih =>
    obtain ⟨⟨hwalkable, hpair⟩, hrest⟩ := List.forall_mem_cons.mp hitems
    rw [readPairs]
    rcases pairOf_cases hwalkable index with ⟨a, b, hv⟩ | ⟨cause, hv⟩
    · obtain ⟨name, hname, hbindable⟩ := (hpair index a b hv).exists_nameOf
      rw [hv]
      show Yields _ (nameOf a >>= _) ∨ ∃ cause, (nameOf a >>= _) = _
      rw [hname]
      exact ih hrest (hentries.put hbindable (hpair index a b hv).iri) (index + 1)
    · rw [hv]
      exact .inr ⟨cause, rfl⟩

/-- A foreseen value gives a sound table, or it is refused for the length of a pair. -/
theorem ofJson_cases {v : Json} (h : Foreseen v) :
    Yields IsSound (ofJson v) ∨ ∃ cause, ofJson v = .error (.value cause) := by
  have hempty : IsSound ⟨[]⟩ := ⟨fun e he => absurd he List.not_mem_nil, fun e he => absurd he List.not_mem_nil⟩
  unfold ofJson
  by_cases htruthy : v.isTruthy = true
  · rw [htruthy]
    cases v with
    | array items => exact readPairs_cases h hempty 0
    | text s =>
      -- a character is no pair
      refine readPairs_cases (fun v hv => ?_) hempty 0
      obtain ⟨c, _, rfl⟩ := List.mem_map.mp hv
      exact ⟨trivial, fun index a b hpair => absurd hpair (pairOf_singleton index c (a, b))⟩
    | object members =>
      refine .inl (yields_ok ⟨fun e he => ?_, fun e he => ?_⟩)
      · obtain ⟨m, hm, rfl⟩ := List.mem_map.mp he
        rcases (h m hm).name with hnull | ⟨s, hs, hspace⟩
        · cases hnull
        · cases hs
          exact hspace
      · obtain ⟨m, hm, rfl⟩ := List.mem_map.mp he
        exact (h m hm).iri
    | null => cases htruthy
    | bool b => exact absurd htruthy (Bool.eq_false_iff.mp h)
    | int n => exact absurd htruthy (Bool.eq_false_iff.mp h)
    | real x => exact absurd htruthy (Bool.eq_false_iff.mp h)
  · rw [show v.isTruthy = false by simpa using htruthy]
    exact .inl (yields_ok hempty)

end PrefixTable

end GraphLift
