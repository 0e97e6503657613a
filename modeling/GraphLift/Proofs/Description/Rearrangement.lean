import GraphLift.Proofs.Description.Emission
import GraphLift.Proofs.Rdf.Renaming
import GraphLift.Proofs.Rearranged

/-! # Rearranged descriptions

    Two descriptions are like each other if they differ in the order of statements only, at any level. Such a
    difference moves resources to other places, and that is all: what is said of them is the same.

    * **Rearrangements of places** (`branch`) follow the tree: they say which branch takes the place of which, and how
      what is behind it is rearranged.
    * **Alikeness** (`Alike`) of two things means that they have the same value and say the same, when the places of
      the one are rearranged. Lists of things that are alike are alike (`alike_spread`, `alike_list`), and from that
      follows the same for values, statements and descriptions.
    * **Emission** (`exists_renaming`): what comes out of groups of descriptions that are like each other is the same up
      to a renaming of blank nodes, nodes of the groups included.
-/

namespace GraphLift

variable {α β : Type} {f : Place → α → List (Place × Description)} {g : (Place → Nat) → Place → α → β}

/-! ## Rearrangements of places -/

/-- The rearrangement that takes the branch `i` to the branch `τ i` and rearranges what is behind it by `π i`. -/
def branch (τ : Equiv.Perm Nat) (π : Nat → Equiv.Perm Place) : Equiv.Perm Place where
  toFun
    | [] => []
    | i :: q => τ i :: π i q
  invFun
    | [] => []
    | i :: q => τ.symm i :: (π (τ.symm i)).symm q
  left_inv q := by cases q <;> simp
  right_inv q := by cases q <;> simp

/-- A thing says the same and has the same value wherever it stands, if places are numbered the same from there. -/
structure Movable (f : Place → α → List (Place × Description)) (g : (Place → Nat) → Place → α → β) (a : α) :
    Prop where
  value : ∀ ν p q, g ν (p ++ q) a = g (fun r => ν (p ++ r)) q a
  said : ∀ ν p q t, Said ν (f (p ++ q) a) t ↔ Said (fun r => ν (p ++ r)) (f q a) t

/-- What stands behind a place is moved to where nothing stands before it. -/
theorem Movable.value_alone {a : α} (h : Movable f g a) (ν : Place → Nat) (p : Place) : g ν p a = g (fun r => ν (p ++ r)) [] a := by
  have hmove := h.value ν p []
  rwa [List.append_nil] at hmove

theorem Movable.said_alone {a : α} (h : Movable f g a) (ν : Place → Nat) (p : Place) (t : Triple) :
    Said ν (f p a) t ↔ Said (fun r => ν (p ++ r)) (f [] a) t := by
  have hmove := h.said ν p [] t
  rwa [List.append_nil] at hmove

/-- Two things have the same value and say the same, when `π` rearranges the places. -/
structure Alike (f : Place → α → List (Place × Description)) (g : (Place → Nat) → Place → α → β)
    (π : Equiv.Perm Place) (a a' : α) : Prop where
  value : ∀ ν, g (ν ∘ π) [] a = g ν [] a'
  said : ∀ ν t, Said (ν ∘ π) (f [] a) t ↔ Said ν (f [] a') t

/-! ## Lists of things -/

theorem said_spread {ν : Place → Nat} {p : Place} {j : Nat} {l : List α} {t : Triple} :
    Said ν (spread f p j l) t ↔ ∃ i a, l[i]? = some a ∧ Said ν (f (p ++ [j + i]) a) t := by
  unfold Said
  constructor
  · intro h
    obtain ⟨x, hx, ht⟩ := h
    obtain ⟨i, a, ha, hx⟩ := mem_spread.mp hx
    exact ⟨i, a, ha, x, hx, ht⟩
  · intro h
    obtain ⟨i, a, ha, x, hx, ht⟩ := h
    exact ⟨x, mem_spread.mpr ⟨i, a, ha, hx⟩, ht⟩

theorem movable_spread {l : List α} (h : ∀ a ∈ l, Movable f g a) :
    Movable (fun p l => spread f p 0 l) (fun ν p l => l.mapIdx fun i a => g ν (p ++ [i]) a) l := by
  constructor
  · intro ν p q
    apply List.ext_getElem?
    intro i
    rw [List.getElem?_mapIdx, List.getElem?_mapIdx]
    cases ha : l[i]? with
    | none => rfl
    | some a =>
      rw [Option.map_some, Option.map_some, List.append_assoc, (h a (List.mem_of_getElem? ha)).value]
  · intro ν p q t
    rw [said_spread, said_spread]
    refine exists_congr fun i => exists_congr fun a => and_congr_right fun ha => ?_
    rw [List.append_assoc]
    exact (h a (List.mem_of_getElem? ha)).said ν p _ t

/-- Things that are alike are so behind the branches that are taken to each other. -/
theorem Alike.at_branch {π : Nat → Equiv.Perm Place} {i : Nat} {a a' : α} (h : Alike f g (π i) a a')
    (ha : Movable f g a) (ha' : Movable f g a') (τ : Equiv.Perm Nat) :
    (∀ ν : Place → Nat, g (ν ∘ branch τ π) [i] a = g ν [τ i] a') ∧
      ∀ (ν : Place → Nat) t, Said (ν ∘ branch τ π) (f [i] a) t ↔ Said ν (f [τ i] a') t := by
  constructor
  · intro ν
    -- both values are moved to where the things stand alone
    rw [ha.value_alone, ha'.value_alone]
    exact h.value fun r => ν ([τ i] ++ r)
  · intro ν t
    rw [ha.said_alone, ha'.said_alone]
    exact h.said (fun r => ν ([τ i] ++ r)) t

/-- Lists of things are alike if the things at the places that `τ` takes to each other are. -/
theorem alike_spread {l l' : List α} (hl : ∀ a ∈ l, Movable f g a) (hl' : ∀ a ∈ l', Movable f g a)
    {τ : Equiv.Perm Nat} (h : ∀ i : Nat, Option.Rel (fun a a' => ∃ π, Alike f g π a a') l[i]? l'[τ i]?) :
    ∃ π : Equiv.Perm Place, π [] = [] ∧
      (∀ (ν : Place → Nat) (i : Nat), l[i]?.map (g (ν ∘ π) [i]) = l'[τ i]?.map (g ν [τ i])) ∧
      (∀ ν t, Said (ν ∘ π) (spread f [] 0 l) t ↔ Said ν (spread f [] 0 l') t) := by
  have hchoose : ∀ i : Nat, ∃ π : Equiv.Perm Place, Option.Rel
      (fun a a' => Alike f g π a a' ∧ Movable f g a ∧ Movable f g a') l[i]? l'[τ i]? := by
    intro i
    have hi := h i
    generalize ha : l[i]? = x at hi
    generalize ha' : l'[τ i]? = y at hi
    cases hi with
    | none => exact ⟨Equiv.refl Place, .none⟩
    | some hi =>
      obtain ⟨π, hπ⟩ := hi
      exact ⟨π, .some ⟨hπ, hl _ (List.mem_of_getElem? ha), hl' _ (List.mem_of_getElem? ha')⟩⟩
  -- every branch is rearranged by itself
  choose π hπ using hchoose
  refine ⟨branch τ π, rfl, ?_, ?_⟩
  · intro ν i
    refine map_eq_of_rel (hπ i) fun a a' haa => ?_
    exact (haa.1.at_branch haa.2.1 haa.2.2 τ).1 ν
  · intro ν t
    rw [said_spread, said_spread]
    -- what the branch `i` says of the one list, the branch `τ i` says of the other
    refine τ.exists_congr fun i => exists_iff_of_rel (hπ i) fun a a' haa => ?_
    rw [Nat.zero_add, Nat.zero_add]
    exact (haa.1.at_branch haa.2.1 haa.2.2 τ).2 ν t

/-- Lists of things that are alike one by one are alike. -/
theorem alike_list {l l' : List α} (hl : ∀ a ∈ l, Movable f g a) (hl' : ∀ a ∈ l', Movable f g a)
    (h : List.Forall₂ (fun a a' => ∃ π, Alike f g π a a') l l') :
    ∃ π : Equiv.Perm Place, π [] = [] ∧
      Alike (fun p l => spread f p 0 l) (fun ν p l => l.mapIdx fun i a => g ν (p ++ [i]) a) π l l' := by
  obtain ⟨π, hroot, hvalue, hsaid⟩ := alike_spread (τ := Equiv.refl Nat) hl hl' (rel_of_forall₂ h)
  refine ⟨π, hroot, ?_, hsaid⟩
  intro ν
  apply List.ext_getElem?
  intro i
  rw [List.getElem?_mapIdx, List.getElem?_mapIdx]
  exact hvalue ν i

/-! ## Values, statements and descriptions -/

/-- What a statement says of its subject: the predicate, and the terms of the objects. -/
def Statement.told (ν : Place → Nat) (p : Place) (s : Statement) : String × List Term :=
  (s.predicate, s.objects.mapIdx fun k v => v.term ν (p ++ [k]))

theorem statementsSay_iff {ν : Place → Nat} {node : Node} {p : Place} {ss : List Statement} {t : Triple} :
    StatementsSay ν node p 0 ss t ↔
      ∃ (j : Nat) (x : String × List Term), ss[j]?.map (Statement.told ν (p ++ [j])) = some x ∧
        ∃ o ∈ x.2, t = ⟨node, x.1, o⟩ := by
  constructor
  · intro h
    obtain ⟨j, s, k, v, hs, hv, ht⟩ := h
    rw [Nat.zero_add] at ht
    refine ⟨j, _, by rw [hs]; rfl, v.term ν (p ++ [j, k]), ?_, ht⟩
    rw [Statement.told]
    refine List.mem_of_getElem? (i := k) ?_
    rw [List.getElem?_mapIdx, hv, Option.map_some, List.append_assoc]
    rfl
  · intro h
    obtain ⟨j, x, hx, o, ho, ht⟩ := h
    obtain ⟨s, hs, rfl⟩ := Option.map_eq_some_iff.mp hx
    obtain ⟨k, hk⟩ := List.getElem?_of_mem ho
    rw [Statement.told, List.getElem?_mapIdx] at hk
    obtain ⟨v, hv, rfl⟩ := Option.map_eq_some_iff.mp hk
    refine ⟨j, s, k, v, hs, hv, ?_⟩
    rw [ht, Nat.zero_add, List.append_assoc]
    rfl

theorem Description.node_append (ν : Place → Nat) (p q : Place) (d : Description) :
    d.node ν (p ++ q) = d.node (fun r => ν (p ++ r)) q := by
  unfold node
  cases d.identity <;> rfl

theorem Value.term_append (ν : Place → Nat) (p q : Place) (v : Value) :
    v.term ν (p ++ q) = v.term (fun r => ν (p ++ r)) q := by
  cases v with
  | literal l => rfl
  | resource d => exact congrArg Term.node (d.node_append ν p q)

theorem Statement.told_append (ν : Place → Nat) (p q : Place) (s : Statement) :
    s.told ν (p ++ q) = s.told (fun r => ν (p ++ r)) q := by
  unfold told
  simp only [List.append_assoc, Value.term_append ν p]

theorem Description.says_append {ν : Place → Nat} {p q : Place} {d : Description} {t : Triple} :
    d.Says ν (p ++ q) t ↔ d.Says (fun r => ν (p ++ r)) q t := by
  have htold : ∀ j : Nat, Statement.told ν (p ++ q ++ [j]) = Statement.told (fun r => ν (p ++ r)) (q ++ [j]) := by
    intro j
    funext s
    rw [List.append_assoc, s.told_append]
  unfold Says
  rw [node_append, statementsSay_iff, statementsSay_iff]
  simp only [htold]

theorem Value.movable {v : Value} (h : ∀ d, v = .resource d → Movable Description.parts Description.node d) :
    Movable Value.parts Value.term v := by
  refine ⟨fun ν p q => v.term_append ν p q, ?_⟩
  intro ν p q t
  cases v with
  | literal l => rw [Value.parts, Value.parts]; simp
  | resource d =>
    rw [Value.parts, Value.parts]
    exact (h d rfl).said ν p q t

theorem Statement.movable {s : Statement}
    (h : ∀ d, Value.resource d ∈ s.objects → Movable Description.parts Description.node d) :
    Movable Statement.parts Statement.told s := by
  refine ⟨fun ν p q => s.told_append ν p q, ?_⟩
  obtain ⟨predicate, objects⟩ := s
  intro ν p q t
  rw [Statement.parts, Statement.parts, partsOfValues_eq, partsOfValues_eq]
  have hvalues : ∀ v ∈ objects, Movable Value.parts Value.term v := by
    intro v hv
    refine Value.movable fun d hd => h d ?_
    rw [← hd]
    exact hv
  exact (movable_spread hvalues).said ν p q t

/-- A description says the same wherever it stands. -/
theorem Description.movable (d : Description) : Movable Description.parts Description.node d := by
  induction d using Description.deepInduction with
  | step identity type statements ih =>
    refine ⟨fun ν p q => node_append ν p q _, ?_⟩
    intro ν p q t
    rw [Description.parts, Description.parts, said_cons, said_cons, partsOfStatements_eq, partsOfStatements_eq]
    have hstatements : ∀ s ∈ statements, Movable Statement.parts Statement.told s :=
      fun s hs => Statement.movable (ih s hs)
    exact or_congr says_append ((movable_spread hstatements).said ν p q t)

/-- Two descriptions are like each other: some rearrangement of places makes them say the same. -/
def Description.IsLike (d d' : Description) : Prop :=
  ∃ π, Alike Description.parts Description.node π d d'

/-- Two values are like each other: they are the same literal, or resources that are like each other. -/
inductive Value.IsLike : Value → Value → Prop where
  | literal (l : Literal) : IsLike (.literal l) (.literal l)
  | resource {d d' : Description} (h : d.IsLike d') : IsLike (.resource d) (.resource d')

/-- Two statements are like each other: they have the same predicate, and their objects are like each other. -/
structure Statement.IsLike (s s' : Statement) : Prop where
  predicate : s.predicate = s'.predicate
  objects : List.Forall₂ Value.IsLike s.objects s'.objects

theorem Alike.refl (a : α) : Alike f g (Equiv.refl Place) a a :=
  ⟨fun _ => rfl, fun _ _ => Iff.rfl⟩

theorem Description.IsLike.refl (d : Description) : d.IsLike d :=
  ⟨_, Alike.refl d⟩

theorem Value.IsLike.refl (v : Value) : v.IsLike v := by
  cases v with
  | literal l => exact .literal l
  | resource d => exact .resource (.refl d)

theorem Value.IsLike.alike {v v' : Value} (h : v.IsLike v') : ∃ π, Alike Value.parts Value.term π v v' := by
  cases h with
  | literal l => exact ⟨_, Alike.refl _⟩
  | resource h =>
    obtain ⟨π, hπ⟩ := h
    refine ⟨π, fun ν => congrArg Term.node (hπ.value ν), ?_⟩
    intro ν t
    rw [Value.parts, Value.parts]
    exact hπ.said ν t

theorem Statement.IsLike.alike {s s' : Statement} (h : s.IsLike s') :
    ∃ π, Alike Statement.parts Statement.told π s s' := by
  have hmovable : ∀ v : Value, Movable Value.parts Value.term v := fun v => Value.movable fun d _ => d.movable
  obtain ⟨π, _, hπ⟩ := alike_list (fun v _ => hmovable v) (fun v _ => hmovable v)
    (h.objects.imp fun _ _ hv => hv.alike)
  refine ⟨π, ?_, ?_⟩
  · intro ν
    exact Prod.ext h.predicate (hπ.value ν)
  · intro ν t
    obtain ⟨predicate, objects⟩ := s
    obtain ⟨predicate', objects'⟩ := s'
    rw [Statement.parts, Statement.parts, partsOfValues_eq, partsOfValues_eq]
    exact hπ.said ν t

/-- Descriptions of the same resource are like each other, if the statements of the one are those of the other, in any
    order and each like the one that it replaces. -/
theorem Description.isLike_mk {identity : Identity} {type : Option String} {ss ss' : List Statement}
    (h : Rearranged Statement.IsLike ss ss') : IsLike (.mk identity type ss) (.mk identity type ss') := by
  have hmovable : ∀ s : Statement, Movable Statement.parts Statement.told s :=
    fun s => Statement.movable fun d _ => d.movable
  obtain ⟨τ, hτ⟩ := (h.imp fun _ _ hs => hs.alike).exists_places
  obtain ⟨π, hroot, hvalue, hsaid⟩ := alike_spread (fun s _ => hmovable s) (fun s _ => hmovable s) hτ
  have hnode : ∀ ν : Place → Nat, node (ν ∘ π) [] (.mk identity type ss) = node ν [] (.mk identity type ss') := by
    intro ν
    unfold node
    -- the resource itself stays where it stands
    cases identity with
    | iri s => rfl
    | fresh => exact congrArg (fun p => Node.blank (ν p)) hroot
  refine ⟨π, hnode, ?_⟩
  intro ν t
  rw [Description.parts, Description.parts, said_cons, said_cons, partsOfStatements_eq, partsOfStatements_eq]
  refine or_congr ?_ (hsaid ν t)
  unfold Says
  rw [hnode, statementsSay_iff, statementsSay_iff]
  refine or_congr Iff.rfl (τ.exists_congr fun j => ?_)
  show (∃ x, ss[j]?.map (Statement.told (ν ∘ π) [j]) = some x ∧ _) ↔ _
  rw [hvalue ν j]
  rfl

/-! ## Renaming -/

theorem Description.node_rename (h : Nat → Nat) (ν : Place → Nat) (p : Place) (d : Description) :
    d.node (h ∘ ν) p = (d.node ν p).rename h := by
  unfold node
  cases d.identity <;> rfl

theorem Value.term_rename (h : Nat → Nat) (ν : Place → Nat) (p : Place) (v : Value) :
    v.term (h ∘ ν) p = (v.term ν p).rename h := by
  cases v with
  | literal l => rfl
  | resource d => exact congrArg Term.node (d.node_rename h ν p)

/-- With numbers replaced resources say the renamed triples, and no others. -/
theorem Description.says_rename {h : Nat → Nat} {ν : Place → Nat} {p : Place} {d : Description} {t : Triple} :
    d.Says (h ∘ ν) p t ↔ ∃ u, d.Says ν p u ∧ t = u.rename h := by
  unfold Says StatementsSay
  rw [node_rename]
  constructor
  · intro ht
    rcases ht with ⟨type, htype, rfl⟩ | ⟨i, s, k, v, hs, hv, rfl⟩
    · exact ⟨_, .inl ⟨type, htype, rfl⟩, rfl⟩
    · rw [Value.term_rename]
      exact ⟨_, .inr ⟨i, s, k, v, hs, hv, rfl⟩, rfl⟩
  · intro ht
    obtain ⟨u, ⟨type, htype, rfl⟩ | ⟨i, s, k, v, hs, hv, rfl⟩, rfl⟩ := ht
    · exact .inl ⟨type, htype, rfl⟩
    · refine .inr ⟨i, s, k, v, hs, hv, ?_⟩
      rw [Value.term_rename]
      rfl

theorem said_rename {h : Nat → Nat} {ν : Place → Nat} {parts : List (Place × Description)} {t : Triple} :
    Said (h ∘ ν) parts t ↔ ∃ u, Said ν parts u ∧ t = u.rename h := by
  unfold Said
  simp only [Description.says_rename]
  constructor
  · intro ht
    obtain ⟨x, hx, u, hu, ht⟩ := ht
    exact ⟨u, ⟨x, hx, hu⟩, ht⟩
  · intro ht
    obtain ⟨u, ⟨x, hx, hu⟩, ht⟩ := ht
    exact ⟨x, hx, u, hu, ht⟩

/-- A numbering that is permuted makes resources say the renamed triples. -/
theorem said_permuted (σ : Equiv.Perm Nat) {ν : Place → Nat} {parts : List (Place × Description)} {t : Triple} :
    Said (σ ∘ ν) parts (t.rename σ) ↔ Said ν parts t := by
  rw [said_rename]
  simp only [Triple.rename_inj, exists_eq_right']

/-! ## Groups of descriptions -/

/-- The nodes and triples of a group of descriptions that has a name. -/
def emitGroup (next : Nat) (x : String × List Description) : Emission (String × List Node) :=
  let e := emitAll next x.2
  ⟨(x.1, e.value), e.triples, e.next⟩

/-- The nodes of a group that stands at a place, with its name. -/
def nodesOfGroup (ν : Place → Nat) (p : Place) (x : String × List Description) : String × List Node :=
  (x.1, nodesOfAll ν p x.2)

/-- The resources of a group that stands at a place. -/
def partsOfGroup (p : Place) (x : String × List Description) : List (Place × Description) :=
  partsOfAll p x.2

theorem nodesOfGroup_rename (h : Nat → Nat) (ν : Place → Nat) (p : Place) (x : String × List Description) :
    nodesOfGroup (h ∘ ν) p x = ((nodesOfGroup ν p x).1, (nodesOfGroup ν p x).2.map (Node.rename h)) := by
  refine Prod.ext rfl ?_
  apply List.ext_getElem?
  intro i
  show (nodesOfAll (h ∘ ν) p x.2)[i]? = ((nodesOfAll ν p x.2).map (Node.rename h))[i]?
  rw [nodesOfAll, nodesOfAll, List.getElem?_map, List.getElem?_mapIdx, List.getElem?_mapIdx, Option.map_map]
  congr 1
  funext d
  exact d.node_rename h ν _

/-- A group says the same wherever it stands. -/
theorem movable_group (x : String × List Description) : Movable partsOfGroup nodesOfGroup x := by
  have hmove := movable_spread (l := x.2) fun d _ => d.movable
  exact ⟨fun ν p q => Prod.ext rfl (hmove.value ν p q), hmove.said⟩

/-- What comes out of groups of descriptions, in terms of their places: all places can be numbered, such that emission
    gives the nodes of the groups in order and exactly the triples that their parts say. -/
theorem exists_reads_emitGroups (groups : List (String × List Description)) :
    ∃ e : Place ≃ Nat, Reads e 0 (spread partsOfGroup [] 0 groups)
      (groups.mapIdx fun i x => nodesOfGroup e [i] x) (fun _ => False) (emitList emitGroup 0 groups) := by
  have hdistinct : DistinctBehind [] (spread partsOfGroup [] 0 groups) :=
    .spread fun x _ q => distinct_partsOfAll q x.2
  obtain ⟨e, he⟩ := exists_numbers hdistinct 0
  simp only [Nat.zero_add] at he
  refine ⟨e, ?_⟩
  have hreads := reads_emitList (e := emitGroup) (g := nodesOfGroup e) (fun x _ q n hn => ?_) [] 0 0 he
  · simp only [Nat.zero_add, List.nil_append] at hreads
    exact hreads
  · have hread := reads_emitAll x.2 q n hn
    exact ⟨Prod.ext rfl hread.value_eq, hread.next_eq, hread.mem_triples⟩

/-- Two groups are like each other: they have the same name, and their descriptions are like each other. -/
structure GroupIsLike (x y : String × List Description) : Prop where
  name : x.1 = y.1
  descriptions : List.Forall₂ Description.IsLike x.2 y.2

theorem GroupIsLike.alike {x y : String × List Description} (h : GroupIsLike x y) :
    ∃ π, Alike partsOfGroup nodesOfGroup π x y := by
  obtain ⟨π, _, hπ⟩ := alike_list (fun d _ => d.movable) (fun d _ => d.movable) h.descriptions
  exact ⟨π, fun ν => Prod.ext h.name (hπ.value ν), hπ.said⟩

/-- What comes out of groups of descriptions that are like each other, in any order, is the same up to a renaming of
    blank nodes: the triples, and the nodes of every group. -/
theorem exists_renaming {groups groups' : List (String × List Description)}
    (h : Rearranged GroupIsLike groups groups') :
    ∃ σ : Equiv.Perm Nat,
      (∀ t, t.rename σ ∈ (emitList emitGroup 0 groups').triples ↔ t ∈ (emitList emitGroup 0 groups).triples) ∧
      (∀ id nodes, (id, nodes.map (Node.rename σ)) ∈ (emitList emitGroup 0 groups').value ↔
        (id, nodes) ∈ (emitList emitGroup 0 groups).value) := by
  obtain ⟨τ, hτ⟩ := (h.imp fun _ _ hx => hx.alike).exists_places
  obtain ⟨π, _, hvalue, hsaid⟩ := alike_spread (fun x _ => movable_group x) (fun x _ => movable_group x) hτ
  obtain ⟨e, he⟩ := exists_reads_emitGroups groups
  obtain ⟨e', he'⟩ := exists_reads_emitGroups groups'
  -- from a number to its place, to the place that this one is taken to, and to the number there
  let σ : Equiv.Perm Nat := e.symm.trans (π.trans e')
  have hσ : σ ∘ e = e' ∘ π := by
    funext p
    simp [σ]
  refine ⟨σ, ?_, ?_⟩
  · intro t
    rw [he.mem_triples, he'.mem_triples, or_false, or_false, ← hsaid, ← hσ, said_permuted]
  · intro id nodes
    have hmem : ∀ (ν : Place → Nat) (l : List (String × List Description)) (y : String × List Node),
        y ∈ (l.mapIdx fun i x => nodesOfGroup ν [i] x) ↔ ∃ i : Nat, l[i]?.map (nodesOfGroup ν [i]) = some y := by
      intro ν l y
      rw [List.mem_iff_getElem?]
      simp only [List.getElem?_mapIdx]
    rw [he.value_eq, he'.value_eq, hmem, hmem]
    refine (τ.exists_congr fun i => ?_).symm
    rw [← hvalue e' i, ← hσ]
    cases groups[i]? with
    | none => simp
    | some x =>
      -- groups have the same name, and their nodes are renamed one by one
      have hinj := List.map_injective_iff.mpr (Node.rename_injective σ)
      rw [Option.map_some, Option.map_some, nodesOfGroup_rename, Option.some.injEq, Option.some.injEq,
        Prod.ext_iff, Prod.ext_iff]
      exact and_congr_right fun _ => hinj.eq_iff.symm

end GraphLift
