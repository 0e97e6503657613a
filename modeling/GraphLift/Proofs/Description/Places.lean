import GraphLift.Mapping.Description
import Mathlib.Data.List.NodupEquivFin
import Mathlib.Data.Set.Finite.List
import Mathlib.Logic.Equiv.Fin.Basic
import Mathlib.Logic.Equiv.List

/-! # Places within descriptions

    A description is a tree, so every resource in it has a place: the number of the statement and the number of
    the object that lead to it, at every level. Places are what blank nodes are before they have numbers.

    * **`Description.parts`** lists the resources of a description with their places, in the order of the walk.
    * **Distinctness** (`Description.distinct_parts`): no two resources have the same place.
    * **Numbering** (`exists_numbering`): the places of anonymous resources can be numbered in the order of the
      walk, and all other places behind them, so that every place has a number of its own.
-/

namespace GraphLift

/-- The way to a resource within descriptions: the number of the description, and then, for every level, the
    numbers of the statement and of the object that lead on. -/
abbrev Place := List Nat

/-! ## Deep induction -/

/-- The predicate of a statement. -/
def Statement.predicate : Statement → String
  | .mk predicate _ => predicate

/-- The objects of a statement. -/
def Statement.objects : Statement → List Value
  | .mk _ objects => objects

/-- Descriptions by induction on the resources that their statements have as objects. -/
theorem Description.deepInduction {motive : Description → Prop}
    (step : ∀ identity type statements,
      (∀ s ∈ statements, ∀ d, Value.resource d ∈ s.objects → motive d) →
        motive (.mk identity type statements))
    (d : Description) : motive d := by
  -- the recursor of the nested type, with the resources among the objects as the motive of statements and values
  refine @Description.rec motive (fun s => ∀ d, Value.resource d ∈ s.objects → motive d)
    (fun v => ∀ d, v = .resource d → motive d)
    (fun ss => ∀ s ∈ ss, ∀ d, Value.resource d ∈ s.objects → motive d)
    (fun vs => ∀ d, Value.resource d ∈ vs → motive d) ?_ ?_ ?_ ?_ ?_ ?_ ?_ ?_ d
  · intro identity type statements ih
    exact step identity type statements ih
  · intro predicate objects ih
    exact ih
  · intro l d hd
    cases hd
  · intro d ih d' hd
    cases hd
    exact ih
  · intro s hs
    cases hs
  · intro s rest ihs ihrest s' hs'
    rcases List.mem_cons.mp hs' with rfl | hs'
    · exact ihs
    · exact ihrest s' hs'
  · intro d hd
    cases hd
  · intro v rest ihv ihrest d hd
    rcases List.mem_cons.mp hd with hd | hd
    · exact ihv d hd.symm
    · exact ihrest d hd

/-! ## Resources and their places -/

namespace Description

/-- Who the resource is. -/
def identity : Description → Identity
  | .mk identity _ _ => identity

/-- The type of the resource. -/
def type : Description → Option String
  | .mk _ type _ => type

/-- What is said of the resource. -/
def statements : Description → List Statement
  | .mk _ _ statements => statements

end Description

mutual

/-- The resources of a description that stands at a place, each with its own place, itself first. -/
def Description.parts (p : Place) : Description → List (Place × Description)
  | .mk identity type statements => (p, .mk identity type statements) :: partsOfStatements p 0 statements

/-- The resources in statements, the first of which has number `j`. -/
def partsOfStatements (p : Place) (j : Nat) : List Statement → List (Place × Description)
  | [] => []
  | s :: rest => s.parts (p ++ [j]) ++ partsOfStatements p (j + 1) rest

/-- The resources in a statement. -/
def Statement.parts (p : Place) : Statement → List (Place × Description)
  | .mk _ objects => partsOfValues p 0 objects

/-- The resources in objects, the first of which has number `k`. -/
def partsOfValues (p : Place) (k : Nat) : List Value → List (Place × Description)
  | [] => []
  | v :: rest => v.parts (p ++ [k]) ++ partsOfValues p (k + 1) rest

/-- The resources in an object. -/
def Value.parts (p : Place) : Value → List (Place × Description)
  | .literal _ => []
  | .resource d => d.parts p

end

/-- What `f` lists for the members of a list, when the members are numbered from `j`. -/
def spread {α β : Type} (f : Place → α → List β) (p : Place) (j : Nat) : List α → List β
  | [] => []
  | a :: rest => f (p ++ [j]) a ++ spread f p (j + 1) rest

/-- The resources of descriptions that stand at a place, one after the other. -/
def partsOfAll (p : Place) (ds : List Description) : List (Place × Description) :=
  spread Description.parts p 0 ds

theorem partsOfStatements_eq (p : Place) (j : Nat) (ss : List Statement) :
    partsOfStatements p j ss = spread Statement.parts p j ss := by
  induction ss generalizing j with
  | nil => rw [partsOfStatements, spread]
  | cons s rest ih => rw [partsOfStatements, spread, ih]

theorem partsOfValues_eq (p : Place) (k : Nat) (vs : List Value) :
    partsOfValues p k vs = spread Value.parts p k vs := by
  induction vs generalizing k with
  | nil => rw [partsOfValues, spread]
  | cons v rest ih => rw [partsOfValues, spread, ih]

/-! ## Membership -/

theorem mem_spread {α β : Type} {f : Place → α → List β} {p : Place} {j : Nat} {l : List α} {x : β} :
    x ∈ spread f p j l ↔ ∃ i a, l[i]? = some a ∧ x ∈ f (p ++ [j + i]) a := by
  induction l generalizing j with
  | nil => simp [spread]
  | cons a rest ih =>
    rw [spread, List.mem_append, ih]
    constructor
    · intro h
      rcases h with h | ⟨i, b, hb, h⟩
      · exact ⟨0, a, rfl, h⟩
      · refine ⟨i + 1, b, hb, ?_⟩
        rw [show j + (i + 1) = j + 1 + i from by omega]
        exact h
    · intro h
      obtain ⟨i, b, hb, h⟩ := h
      cases i with
      | zero =>
        cases hb
        exact .inl h
      | succ i =>
        refine .inr ⟨i, b, hb, ?_⟩
        rw [show j + 1 + i = j + (i + 1) from by omega]
        exact h

/-- The resources of a description are itself and those of the resources that its statements have as objects. -/
theorem Description.mem_parts {p : Place} {d : Description} {x : Place × Description} :
    x ∈ d.parts p ↔ x = (p, d) ∨ ∃ (j : Nat) (s : Statement) (k : Nat) (d' : Description),
      d.statements[j]? = some s ∧ s.objects[k]? = some (.resource d') ∧ x ∈ d'.parts (p ++ [j, k]) := by
  obtain ⟨identity, type, statements⟩ := d
  rw [Description.parts, List.mem_cons, partsOfStatements_eq, mem_spread]
  refine or_congr Iff.rfl ?_
  constructor
  · intro h
    obtain ⟨j, ⟨predicate, objects⟩, hs, h⟩ := h
    rw [Statement.parts, partsOfValues_eq, mem_spread] at h
    -- only resources among the objects have parts
    obtain ⟨k, v, hv, h⟩ := h
    cases v with
    | literal l => simp [Value.parts] at h
    | resource d' =>
      rw [Value.parts] at h
      exact ⟨j, _, k, d', hs, hv, by simpa using h⟩
  · intro h
    obtain ⟨j, ⟨predicate, objects⟩, k, d', hs, hv, h⟩ := h
    refine ⟨j, _, hs, ?_⟩
    rw [Statement.parts, partsOfValues_eq, mem_spread]
    exact ⟨k, _, hv, by simpa [Value.parts] using h⟩

theorem mem_partsOfAll {ds : List Description} {x : Place × Description} :
    x ∈ partsOfAll [] ds ↔ ∃ (i : Nat) (d : Description), ds[i]? = some d ∧ x ∈ d.parts [i] := by
  rw [partsOfAll, mem_spread]
  simp only [List.nil_append, Nat.zero_add]

/-- A description is a part of itself. -/
theorem Description.self_mem_parts (p : Place) (d : Description) : (p, d) ∈ d.parts p :=
  mem_parts.mpr (.inl rfl)

/-- What stands as an object in a part is a part. -/
theorem Description.mem_parts_of_object {p q : Place} {d e d' : Description} {j k : Nat} {s : Statement}
    (h : (q, e) ∈ d.parts p) (hs : e.statements[j]? = some s) (hv : s.objects[k]? = some (.resource d')) :
    (q ++ [j, k], d') ∈ d.parts p := by
  induction d using Description.deepInduction generalizing p with
  | step identity type statements ih =>
    rcases mem_parts.mp h with heq | ⟨j₀, s₀, k₀, d₀, hs₀, hv₀, h₀⟩
    · cases heq
      exact mem_parts.mpr (.inr ⟨j, s, k, d', hs, hv, self_mem_parts _ _⟩)
    · have hs₀' : s₀ ∈ statements := List.mem_of_getElem? hs₀
      -- the place leads on through `d₀`, of which the same is known
      have := ih s₀ hs₀' d₀ (List.mem_of_getElem? hv₀) h₀
      exact mem_parts.mpr (.inr ⟨j₀, s₀, k₀, d₀, hs₀, hv₀, this⟩)

theorem mem_partsOfAll_of_object {q : Place} {ds : List Description} {e d' : Description} {j k : Nat}
    {s : Statement} (h : (q, e) ∈ partsOfAll [] ds) (hs : e.statements[j]? = some s)
    (hv : s.objects[k]? = some (.resource d')) : (q ++ [j, k], d') ∈ partsOfAll [] ds := by
  obtain ⟨i, d, hd, h⟩ := mem_partsOfAll.mp h
  exact mem_partsOfAll.mpr ⟨i, d, hd, Description.mem_parts_of_object h hs hv⟩

/-! ## Distinctness -/

/-- A list of resources with places all of which lie behind `p`, no two of them at the same place. -/
structure DistinctBehind {β : Type} (p : Place) (parts : List (Place × β)) : Prop where
  nodup : (parts.map (·.1)).Nodup
  behind : ∀ x ∈ parts, p <+: x.1

/-- A place lies behind one numbered place at most. -/
theorem number_eq_of_prefix {p q : Place} {i j : Nat} (hi : p ++ [i] <+: q) (hj : p ++ [j] <+: q) : i = j := by
  obtain ⟨a, rfl⟩ := hi
  obtain ⟨b, hb⟩ := hj
  simp only [List.append_assoc, List.cons_append, List.nil_append, List.append_cancel_left_eq,
    List.cons.injEq] at hb
  exact hb.1.symm

theorem DistinctBehind.nil {β : Type} (p : Place) : DistinctBehind p ([] : List (Place × β)) :=
  ⟨List.nodup_nil, fun _ hx => absurd hx List.not_mem_nil⟩

/-- What is listed for the members of a list is distinct if it is for every member. -/
theorem DistinctBehind.spread {α β : Type} {f : Place → α → List (Place × β)} {p : Place} {j : Nat}
    {l : List α} (h : ∀ a ∈ l, ∀ q, DistinctBehind q (f q a)) :
    DistinctBehind p (spread f p j l) := by
  constructor
  · induction l generalizing j with
    | nil => exact List.nodup_nil
    | cons a rest ih =>
      rw [GraphLift.spread, List.map_append, List.nodup_append]
      refine ⟨(h a List.mem_cons_self _).nodup, ih fun b hb => h b (List.mem_cons_of_mem _ hb), ?_⟩
      -- the two places lie behind different numbers of `p`
      intro q hq q' hq' heq
      obtain ⟨x, hx, rfl⟩ := List.mem_map.mp hq
      obtain ⟨y, hy, rfl⟩ := List.mem_map.mp hq'
      obtain ⟨i, b, hb, hy⟩ := mem_spread.mp hy
      have hxp := (h a List.mem_cons_self _).behind x hx
      have hyp := (h b (List.mem_cons_of_mem _ (List.mem_of_getElem? hb)) _).behind y hy
      have := number_eq_of_prefix (heq ▸ hxp) hyp
      omega
  · intro x hx
    obtain ⟨i, a, ha, hx⟩ := mem_spread.mp hx
    exact (List.prefix_append p _).trans ((h a (List.mem_of_getElem? ha) _).behind x hx)

theorem Value.distinct_parts {v : Value} (h : ∀ d, v = .resource d → ∀ q, DistinctBehind q (d.parts q))
    (q : Place) : DistinctBehind q (v.parts q) := by
  cases v with
  | literal l => rw [Value.parts]; exact .nil q
  | resource d => rw [Value.parts]; exact h d rfl q

/-- No two resources of a description have the same place. -/
theorem Description.distinct_parts (d : Description) (p : Place) : DistinctBehind p (d.parts p) := by
  induction d using Description.deepInduction generalizing p with
  | step identity type statements ih =>
    have hs : ∀ s ∈ statements, ∀ q, DistinctBehind q (s.parts q) := by
      intro ⟨predicate, objects⟩ hs q
      rw [Statement.parts, partsOfValues_eq]
      refine .spread fun v hv => Value.distinct_parts ?_
      intro d heq
      subst heq
      exact ih _ hs d hv
    have hparts := DistinctBehind.spread (p := p) (j := 0) hs
    rw [Description.parts, partsOfStatements_eq]
    constructor
    · rw [List.map_cons, List.nodup_cons]
      refine ⟨?_, hparts.nodup⟩
      intro hp
      obtain ⟨x, hx, hxp⟩ := List.mem_map.mp hp
      obtain ⟨j, s, hs', hx⟩ := mem_spread.mp hx
      -- every place in a statement is longer than `p`
      have hle := ((hs s (List.mem_of_getElem? hs') _).behind x hx).length_le
      rw [hxp] at hle
      simp only [List.length_append, List.length_singleton] at hle
      omega
    · intro x hx
      rcases List.mem_cons.mp hx with rfl | hx
      · exact List.prefix_rfl
      · exact hparts.behind x hx

theorem distinct_partsOfAll (p : Place) (ds : List Description) : DistinctBehind p (partsOfAll p ds) :=
  .spread fun d _ => d.distinct_parts

/-! ## Numbering -/

/-- The places of the anonymous resources of a list. -/
def blanks (parts : List (Place × Description)) : List Place :=
  (parts.filter fun x => x.2.identity = .fresh).map (·.1)

@[simp] theorem blanks_append (l r : List (Place × Description)) : blanks (l ++ r) = blanks l ++ blanks r := by
  simp [blanks]

theorem nodup_blanks {p : Place} {parts : List (Place × Description)} (h : DistinctBehind p parts) :
    (blanks parts).Nodup :=
  h.nodup.sublist ((List.filter_sublist).map _)

/-- `ν` numbers the anonymous resources of a list from `next` on, in the order of the list. -/
def Numbers (ν : Place → Nat) (next : Nat) (parts : List (Place × Description)) : Prop :=
  (blanks parts).map ν = List.range' next (blanks parts).length

/-- Numbering two lists, one after the other. -/
theorem numbers_append {ν : Place → Nat} {next : Nat} {l r : List (Place × Description)} :
    Numbers ν next (l ++ r) ↔ Numbers ν next l ∧ Numbers ν (next + (blanks l).length) r := by
  unfold Numbers
  -- the numbers of the second list are those behind the numbers of the first
  rw [blanks_append, List.map_append, List.length_append, ← List.range'_append_1]
  constructor
  · intro h
    exact List.append_inj h (by simp)
  · intro h
    obtain ⟨hl, hr⟩ := h
    rw [hl, hr]

/-- Places that differ can be numbered in their order, and all other places behind them. -/
theorem exists_numbering (places : List Place) (h : places.Nodup) :
    ∃ e : Place ≃ Nat, places.map e = List.range places.length := by
  have hinf : Infinite { p // p ∉ places } := (List.finite_toSet places).infinite_compl.to_subtype
  obtain ⟨others⟩ := nonempty_denumerable { p // p ∉ places }
  -- the given places come first, the infinitely many others behind them
  let e : Place ≃ Nat := (Equiv.sumCompl (· ∈ places)).symm.trans
    ((Equiv.sumCongr (h.getEquiv places).symm (Denumerable.eqv _)).trans (finSumNatEquiv _))
  refine ⟨e, ?_⟩
  apply List.ext_getElem
  · rw [List.length_map, List.length_range]
  · intro i hi _
    have hi' : i < places.length := by simpa using hi
    have hmem : places[i] ∈ places := List.getElem_mem hi'
    simp only [e, List.getElem_map, Equiv.trans_apply, Equiv.sumCompl_symm_apply_of_pos hmem, Equiv.sumCongr_apply,
      Sum.map_inl, finSumNatEquiv_apply_left, List.getElem_range]
    have hplace : (h.getEquiv places).symm ⟨places[i], hmem⟩ = ⟨i, hi'⟩ := (Equiv.symm_apply_eq _).mpr rfl
    rw [hplace]

/-- Different places have different numbers, from `next` on too. -/
theorem injective_numbers (e : Place ≃ Nat) (next : Nat) : Function.Injective fun q => next + e q :=
  (add_right_injective next).comp e.injective

/-- The parts of a list can be numbered from `next` on, by a numbering of all places. -/
theorem exists_numbers {p : Place} {parts : List (Place × Description)} (h : DistinctBehind p parts) (next : Nat) :
    ∃ e : Place ≃ Nat, Numbers (fun q => next + e q) next parts := by
  obtain ⟨e, he⟩ := exists_numbering _ (nodup_blanks h)
  refine ⟨e, ?_⟩
  unfold Numbers
  rw [show (blanks parts).map (fun q => next + e q) = ((blanks parts).map e).map (next + ·) by simp, he,
    List.range'_eq_map_range]

end GraphLift
