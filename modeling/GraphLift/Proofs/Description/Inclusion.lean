import GraphLift.Proofs.Description.Rearrangement

/-! # Descriptions within descriptions

    A description lies within another one if that one says the same of the same resources, and perhaps more: wherever
    the first one has objects, the second one has them in front, and further ones may follow.

    * **Fronts** (`FrontOf`): the members of a list stand to the first members of another list, one by one.
    * **Inclusion** (`Description.Within`) does not move resources. What has a place in the one description has the same
      place in the other, so that places that are added do not disturb those that were there.
    * **Emission** (`exists_injective_renaming`): numbers are handed out differently, but an injective renaming of blank
      nodes takes all that comes out of the one to what comes out of the other.
-/

namespace GraphLift

/-! ## Fronts of lists -/

/-- The members of the one list stand to the first members of the other, one by one. -/
def FrontOf {α β : Type} (R : α → β → Prop) (l : List α) (r : List β) : Prop :=
  ∃ front, front <+: r ∧ List.Forall₂ R l front

namespace FrontOf

variable {α β : Type} {R : α → β → Prop}

/-- The partner of a member stands at the same place. -/
theorem exists_right {l : List α} {r : List β} (h : FrontOf R l r) {i : Nat} {a : α} (ha : l[i]? = some a) :
    ∃ b, r[i]? = some b ∧ R a b := by
  obtain ⟨front, ⟨rest, rfl⟩, hall⟩ := h
  obtain ⟨b, hb, hab⟩ := hall.exists_right ha
  have hi : i < front.length := (List.getElem?_eq_some_iff.mp hb).1
  exact ⟨b, by rw [List.getElem?_append_left hi, hb], hab⟩

theorem of_isPrefix {S : α → α → Prop} {l r : List α} (hS : ∀ a, S a a) (h : l <+: r) : FrontOf S l r :=
  ⟨l, h, List.forall₂_same.mpr fun a _ => hS a⟩

theorem imp {S : α → β → Prop} {l : List α} {r : List β} (h : FrontOf R l r) (hRS : ∀ a b, R a b → S a b) :
    FrontOf S l r := by
  obtain ⟨front, hfront, hall⟩ := h
  exact ⟨front, hfront, hall.imp hRS⟩

theorem prefix_of_eq {l r : List α} (h : FrontOf Eq l r) : l <+: r := by
  obtain ⟨front, hfront, hall⟩ := h
  rw [List.forall₂_eq_eq_eq] at hall
  rwa [hall]

/-- Runs along a list and along one that goes on after it give a list and one that goes on after it, if the values of the
    runs stand to each other at every member. -/
theorem mapM {ε ι : Type} {f : ι → Except ε α} {g : ι → Except ε β} {l l' : List ι} {as : List α} {bs : List β}
    (hfront : l <+: l') (has : l.mapM f = .ok as) (hbs : l'.mapM g = .ok bs)
    (hfg : ∀ i a b, f i = .ok a → g i = .ok b → R a b) : FrontOf R as bs := by
  obtain ⟨more, rfl⟩ := hfront
  have hleft := Outcome.mapM_eq_ok.mp has
  have hright := Outcome.mapM_eq_ok.mp hbs
  -- the values for the members of the first list are those in front
  have hfront : List.Forall₂ (fun i b => g i = .ok b) l (bs.take l.length) := by
    have htake := List.forall₂_take l.length hright
    rwa [List.take_left] at htake
  exact ⟨bs.take l.length, List.take_prefix _ _, hleft.flip.comp hfront fun a i b ha hb => hfg i a b ha hb⟩

end FrontOf

/-! ## Saying more -/

/-- What stands in the place of a thing says all that the thing says, and has the same value, wherever both stand and
    however places are numbered. -/
structure Covered {α β : Type} (f : Place → α → List (Place × Description)) (g : (Place → Nat) → Place → α → β)
    (a a' : α) : Prop where
  value : ∀ ν p, g ν p a = g ν p a'
  said : ∀ ν p t, Said ν (f p a) t → Said ν (f p a') t

/-- What is said at the front of a list is said by the whole list. -/
theorem said_spread_of_frontOf {α : Type} {f : Place → α → List (Place × Description)} {l l' : List α}
    {ν : Place → Nat} {p : Place} {j : Nat} {t : Triple}
    (h : FrontOf (fun a a' => ∀ q, Said ν (f q a) t → Said ν (f q a') t) l l') (ht : Said ν (spread f p j l) t) :
    Said ν (spread f p j l') t := by
  obtain ⟨i, a, ha, ht⟩ := said_spread.mp ht
  obtain ⟨a', ha', hsaid⟩ := h.exists_right ha
  exact said_spread.mpr ⟨i, a', ha', hsaid _ ht⟩

/-! ## Values, statements and descriptions -/

/-- The description says nothing that the other one does not say of the same resource. -/
abbrev Description.Within (d d' : Description) : Prop :=
  Covered Description.parts Description.node d d'

/-- The values are the same literal, or resources of which the second one has all that is said of the first. -/
inductive Value.Within : Value → Value → Prop where
  | literal (l : Literal) : Within (.literal l) (.literal l)
  | resource {d d' : Description} (h : d.Within d') : Within (.resource d) (.resource d')

/-- The statements have the same predicate, and the objects of the first one are in front of those of the second. -/
structure Statement.Within (s s' : Statement) : Prop where
  predicate : s.predicate = s'.predicate
  objects : FrontOf Value.Within s.objects s'.objects

theorem Value.Within.refl (v : Value) : v.Within v := by
  cases v with
  | literal l => exact .literal l
  | resource d => exact .resource ⟨fun _ _ => rfl, fun _ _ _ ht => ht⟩

theorem Value.Within.covered {v v' : Value} (h : v.Within v') : Covered Value.parts Value.term v v' := by
  cases h with
  | literal l => exact ⟨fun _ _ => rfl, fun _ _ _ ht => ht⟩
  | resource h =>
    refine ⟨fun ν p => congrArg Term.node (h.value ν p), ?_⟩
    intro ν p t ht
    rw [Value.parts] at ht ⊢
    exact h.said ν p t ht

/-- What the objects of a statement say, those of the statement say that it lies within. -/
theorem Statement.Within.said {s s' : Statement} (h : s.Within s') {ν : Place → Nat} {p : Place} {t : Triple}
    (ht : Said ν (s.parts p) t) : Said ν (s'.parts p) t := by
  obtain ⟨predicate, objects⟩ := s
  obtain ⟨predicate', objects'⟩ := s'
  rw [Statement.parts, partsOfValues_eq] at ht ⊢
  have hobjects : FrontOf Value.Within objects objects' := h.objects
  exact said_spread_of_frontOf (hobjects.imp fun v v' hv q => hv.covered.said ν q t) ht

/-- Statements about a node say no more than those that they lie within, one by one. -/
theorem StatementsSay.of_within {ss ss' : List Statement} (h : List.Forall₂ Statement.Within ss ss')
    {ν : Place → Nat} {node : Node} {p : Place} {j : Nat} {t : Triple} (ht : StatementsSay ν node p j ss t) :
    StatementsSay ν node p j ss' t := by
  obtain ⟨i, s, k, v, hs, hv, rfl⟩ := ht
  obtain ⟨s', hs', hwithin⟩ := h.exists_right hs
  obtain ⟨v', hv', hvwithin⟩ := hwithin.objects.exists_right hv
  refine ⟨i, s', k, v', hs', hv', ?_⟩
  rw [hwithin.predicate, hvwithin.covered.value]

/-- A description lies within another one of the same resource, if its statements lie within those of the other one by
    one. -/
theorem Description.within_mk {identity : Identity} {type : Option String} {ss ss' : List Statement}
    (h : List.Forall₂ Statement.Within ss ss') : Within (.mk identity type ss) (.mk identity type ss') := by
  refine ⟨fun _ _ => rfl, ?_⟩
  intro ν p t ht
  rw [Description.parts, said_cons, partsOfStatements_eq] at ht ⊢
  rcases ht with (htype | hsay) | hinner
  · exact .inl (.inl htype)
  · exact .inl (.inr (.of_within h hsay))
  · have hfront : FrontOf Statement.Within ss ss' := ⟨ss', List.prefix_rfl, h⟩
    exact .inr (said_spread_of_frontOf (hfront.imp fun s s' hs q => hs.said) hinner)

/-! ## Emission -/

/-- The renaming that takes the number of every place to its number in another numbering, where both count from `next`
    on. Numbers before `next` stay as they are. -/
def renumber (next : Nat) (e e' : Place ≃ Nat) (n : Nat) : Nat :=
  if n < next then n else next + e' (e.symm (n - next))

theorem renumber_injective (next : Nat) (e e' : Place ≃ Nat) : Function.Injective (renumber next e e') := by
  intro m n h
  unfold renumber at h
  by_cases hm : m < next
  · by_cases hn : n < next
    · rwa [if_pos hm, if_pos hn] at h
    · rw [if_pos hm, if_neg hn] at h
      omega
  · by_cases hn : n < next
    · rw [if_neg hm, if_pos hn] at h
      omega
    · rw [if_neg hm, if_neg hn] at h
      have hplaces := e'.injective (Nat.add_left_cancel h)
      have hsame := e.symm.injective hplaces
      omega

theorem renumber_place (next : Nat) (e e' : Place ≃ Nat) :
    (renumber next e e' ∘ fun p => next + e p) = fun p => next + e' p := by
  funext p
  have hle : ¬ next + e p < next := by omega
  have hplace : e.symm (next + e p - next) = p := by rw [Nat.add_sub_cancel_left, e.symm_apply_apply]
  show (if next + e p < next then next + e p else next + e' (e.symm (next + e p - next))) = next + e' p
  rw [if_neg hle, hplace]

/-- What comes out of descriptions comes out, up to an injective renaming of blank nodes, of those that they lie within:
    the same nodes in the same order, and all of the triples. -/
theorem exists_injective_renaming {ds ds' : List Description} (h : List.Forall₂ Description.Within ds ds')
    (next : Nat) :
    ∃ σ : Nat → Nat, Function.Injective σ ∧
      (emitAll next ds').value = (emitAll next ds).value.map (Node.rename σ) ∧
      ∀ t ∈ (emitAll next ds).triples, t.rename σ ∈ (emitAll next ds').triples := by
  obtain ⟨e, he⟩ := exists_reads_emitAll ds next
  obtain ⟨e', he'⟩ := exists_reads_emitAll ds' next
  -- a number is taken to that of its place in the other numbering
  refine ⟨renumber next e e', renumber_injective next e e', ?_, ?_⟩
  · rw [he.value_eq, he'.value_eq, ← renumber_place next e e']
    apply List.ext_getElem?
    intro i
    rw [nodesOfAll, nodesOfAll, List.getElem?_map, List.getElem?_mapIdx, List.getElem?_mapIdx, Option.map_map]
    refine (map_eq_of_rel (rel_of_forall₂ h i) fun d d' hd => ?_).symm
    show (d.node _ ([] ++ [i])).rename _ = d'.node _ ([] ++ [i])
    rw [← Description.node_rename, hd.value]
  · intro t ht
    have hsaid : Said (fun p => next + e p) (partsOfAll [] ds) t := by
      have hboth := (he.mem_triples t).mp ht
      rwa [or_false] at hboth
    have hrenamed : Said (fun p => next + e' p) (partsOfAll [] ds) (t.rename (renumber next e e')) := by
      rw [← renumber_place next e e']
      exact said_rename.mpr ⟨t, hsaid, rfl⟩
    have hfront : FrontOf Description.Within ds ds' := ⟨ds', List.prefix_rfl, h⟩
    rw [he'.mem_triples, or_false]
    exact said_spread_of_frontOf (hfront.imp fun d d' hd q => hd.said _ q _) hrenamed

end GraphLift
