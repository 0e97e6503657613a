import GraphLift.Proofs.Description.Places

/-! # What descriptions say

    `Description.Says` reads the triples of a single resource off its type and its statements, with blank nodes
    numbered by their places. Emission walks through the whole tree and hands out numbers on the way; it gives the
    same triples.

    * **A step** of the walk reads as what the part it walks through says (`Description.reads_emit`).
    * **A whole walk** (`reads_emitAll`) through descriptions gives their nodes in order and exactly the triples
      that one of their parts says, when the places are numbered in the order of the walk.
-/

namespace GraphLift

variable {ν : Place → Nat}

/-! ## Reading triples off a resource -/

/-- The node of an identity at a place, when `ν` numbers the places. -/
def Identity.nodeAt (ν : Place → Nat) (p : Place) : Identity → Node
  | iri s => .iri s
  | fresh => .blank (ν p)

/-- The node of a resource at a place. -/
def Description.node (ν : Place → Nat) (p : Place) (d : Description) : Node :=
  d.identity.nodeAt ν p

/-- The term of an object at a place. -/
def Value.term (ν : Place → Nat) (p : Place) : Value → Term
  | .literal l => .literal l
  | .resource d => .node (d.node ν p)

/-- Statements about a node say a triple; the first of them has number `j`, and the node stands at `p`. -/
def StatementsSay (ν : Place → Nat) (node : Node) (p : Place) (j : Nat) (ss : List Statement) (t : Triple) : Prop :=
  ∃ (i : Nat) (s : Statement) (k : Nat) (v : Value), ss[i]? = some s ∧ s.objects[k]? = some v ∧
    t = ⟨node, s.predicate, v.term ν (p ++ [j + i, k])⟩

/-- A resource at a place says a triple: its type, or that it has an object. -/
def Description.Says (ν : Place → Nat) (p : Place) (d : Description) (t : Triple) : Prop :=
  (∃ type, d.type = some type ∧ t = ⟨d.node ν p, rdfType, .node (.iri type)⟩) ∨
    StatementsSay ν (d.node ν p) p 0 d.statements t

/-- One of the resources of a list says a triple. -/
def Said (ν : Place → Nat) (parts : List (Place × Description)) (t : Triple) : Prop :=
  ∃ x ∈ parts, x.2.Says ν x.1 t

@[simp] theorem said_nil (t : Triple) : ¬ Said ν [] t := by
  intro h
  obtain ⟨x, hx, _⟩ := h
  exact List.not_mem_nil hx

theorem said_append {l r : List (Place × Description)} {t : Triple} :
    Said ν (l ++ r) t ↔ Said ν l t ∨ Said ν r t := by
  simp only [Said, List.mem_append, or_and_right, exists_or]

theorem said_cons {x : Place × Description} {l : List (Place × Description)} {t : Triple} :
    Said ν (x :: l) t ↔ x.2.Says ν x.1 t ∨ Said ν l t := by
  simp only [Said, List.mem_cons, or_and_right, exists_or, exists_eq_left]

@[simp] theorem statementsSay_nil (node : Node) (p : Place) (j : Nat) (t : Triple) :
    ¬ StatementsSay ν node p j [] t := by
  intro h
  obtain ⟨i, s, k, v, hs, _⟩ := h
  simp at hs

/-- Statements say what the first one does and what the others do. -/
theorem statementsSay_cons {node : Node} {p : Place} {j : Nat} {s : Statement} {rest : List Statement}
    {t : Triple} :
    StatementsSay ν node p j (s :: rest) t ↔
      (∃ (k : Nat) (v : Value), s.objects[k]? = some v ∧ t = ⟨node, s.predicate, v.term ν (p ++ [j, k])⟩) ∨
        StatementsSay ν node p (j + 1) rest t := by
  constructor
  · intro h
    obtain ⟨i, s', k, v, hs, hv, rfl⟩ := h
    cases i with
    | zero =>
      cases hs
      exact .inl ⟨k, v, hv, rfl⟩
    | succ i =>
      refine .inr ⟨i, s', k, v, hs, hv, ?_⟩
      rw [show j + 1 + i = j + (i + 1) from by omega]
  · intro h
    rcases h with ⟨k, v, hv, rfl⟩ | ⟨i, s', k, v, hs, hv, rfl⟩
    · exact ⟨0, s, k, v, rfl, hv, rfl⟩
    · refine ⟨i + 1, s', k, v, hs, hv, ?_⟩
      rw [show j + (i + 1) = j + 1 + i from by omega]

/-! ## Reading an emission -/

/-- An emission that starts from the number `next` reads as the parts it walks through: it has the given value, it
    uses one number for every blank part, and its triples are those that the parts say, and `own` besides. -/
structure Reads {α : Type} (ν : Place → Nat) (next : Nat) (parts : List (Place × Description)) (value : α)
    (own : Triple → Prop) (e : Emission α) : Prop where
  value_eq : e.value = value
  next_eq : e.next = next + (blanks parts).length
  mem_triples : ∀ t, t ∈ e.triples ↔ Said ν parts t ∨ own t

/-- Two emissions, one after the other, read as the parts of both. -/
theorem Reads.append {α β γ : Type} {next : Nat} {l r : List (Place × Description)} {a : α} {b : β} {c : γ}
    {own own' : Triple → Prop} {e : Emission α} {e' : Emission β} (h : Reads ν next l a own e)
    (h' : Reads ν e.next r b own' e') :
    Reads ν next (l ++ r) c (fun t => own t ∨ own' t) ⟨c, e.triples ++ e'.triples, e'.next⟩ := by
  refine ⟨rfl, ?_, ?_⟩
  · show e'.next = _
    rw [h'.next_eq, h.next_eq, blanks_append, List.length_append]
    omega
  · intro t
    show t ∈ e.triples ++ e'.triples ↔ _
    rw [List.mem_append, h.mem_triples, h'.mem_triples, said_append]
    tauto

/-- Emissions read alike if what they say besides their parts is the same. -/
theorem Reads.congr {α : Type} {next : Nat} {parts : List (Place × Description)} {a : α} {own own' : Triple → Prop}
    {e : Emission α} (h : Reads ν next parts a own e) (hown : ∀ t, own t ↔ own' t) :
    Reads ν next parts a own' e :=
  ⟨h.value_eq, h.next_eq, fun t => (h.mem_triples t).trans (or_congr Iff.rfl (hown t))⟩

/-- The resource reads as its parts, whatever number its walk starts from. -/
def Description.IsRead (ν : Place → Nat) (d : Description) : Prop :=
  ∀ p next, Numbers ν next (d.parts p) →
    Reads ν next (d.parts p) (d.node ν p) (fun _ => False) (d.emit next)

/-! ## Steps of the walk -/

theorem Value.reads_emit {v : Value} (hd : ∀ d, v = .resource d → d.IsRead ν) (p : Place) (next : Nat)
    (h : Numbers ν next (v.parts p)) :
    Reads ν next (v.parts p) (v.term ν p) (fun _ => False) (v.emit next) := by
  cases v with
  | literal l =>
    rw [Value.emit, Value.parts]
    exact ⟨rfl, rfl, fun t => by simp⟩
  | resource d =>
    rw [Value.parts] at h ⊢
    have hread := hd d rfl p next h
    rw [Value.emit]
    exact ⟨congrArg Term.node hread.value_eq, hread.next_eq, hread.mem_triples⟩

/-- The values and triples that `e` gives for the members of a list, one after the other. -/
def emitList {α β : Type} (e : Nat → α → Emission β) (next : Nat) : List α → Emission (List β)
  | [] => ⟨[], [], next⟩
  | a :: rest =>
    let head := e next a
    let tail := emitList e head.next rest
    ⟨head.value :: tail.value, head.triples ++ tail.triples, tail.next⟩

/-- An emission along a list reads as the parts of its members, if the emission of every member does. -/
theorem reads_emitList {α β : Type} {f : Place → α → List (Place × Description)} {g : Place → α → β}
    {e : Nat → α → Emission β} {l : List α}
    (he : ∀ a ∈ l, ∀ p next, Numbers ν next (f p a) → Reads ν next (f p a) (g p a) (fun _ => False) (e next a))
    (p : Place) (j next : Nat) (h : Numbers ν next (spread f p j l)) :
    Reads ν next (spread f p j l) (l.mapIdx fun i a => g (p ++ [j + i]) a) (fun _ => False) (emitList e next l) := by
  induction l generalizing j next with
  | nil =>
    rw [emitList, spread]
    exact ⟨rfl, rfl, fun t => by simp⟩
  | cons a rest ih =>
    rw [spread] at h ⊢
    -- the members behind start from the number that the first one leaves
    obtain ⟨ha, hrest⟩ := numbers_append.mp h
    have hhead := he a List.mem_cons_self (p ++ [j]) next ha
    have htail := ih (fun b hb => he b (List.mem_cons_of_mem _ hb)) (j + 1) _ hrest
    rw [← hhead.next_eq] at htail
    have hboth : Reads ν next _ _ (fun _ => False) _ :=
      (hhead.append (c := (e next a).value :: (emitList e (e next a).next rest).value) htail).congr fun t => by simp
    rw [emitList]
    refine ⟨?_, hboth.next_eq, hboth.mem_triples⟩
    show (e next a).value :: (emitList e (e next a).next rest).value = _
    rw [hhead.value_eq, htail.value_eq, List.mapIdx_cons]
    simp only [Nat.add_zero, Nat.add_assoc, Nat.add_comm 1]

theorem emitValues_eq (next : Nat) (vs : List Value) : emitValues next vs = emitList (fun n v => v.emit n) next vs := by
  induction vs generalizing next with
  | nil => rw [emitValues, emitList]
  | cons v rest ih => rw [emitValues, emitList, ih]

theorem emitAll_eq (next : Nat) (ds : List Description) : emitAll next ds = emitList (fun n d => d.emit n) next ds := by
  induction ds generalizing next with
  | nil => rw [emitAll, emitList]
  | cons d rest ih => rw [emitAll, emitList, ih]

theorem reads_emitValues {vs : List Value} (hd : ∀ d, Value.resource d ∈ vs → d.IsRead ν) (p : Place)
    (next : Nat) (h : Numbers ν next (spread Value.parts p 0 vs)) :
    Reads ν next (spread Value.parts p 0 vs) (vs.mapIdx fun i v => v.term ν (p ++ [0 + i])) (fun _ => False)
      (emitValues next vs) := by
  rw [emitValues_eq]
  refine reads_emitList (fun v hv q n hn => ?_) p 0 next h
  exact v.reads_emit (fun d hvd => hd d (hvd ▸ hv)) q n hn

theorem Statement.reads_emit {s : Statement} (hd : ∀ d, Value.resource d ∈ s.objects → d.IsRead ν) (node : Node)
    (p : Place) (next : Nat) (h : Numbers ν next (s.parts p)) :
    Reads ν next (s.parts p) () (fun t => ∃ (k : Nat) (v : Value), s.objects[k]? = some v ∧
      t = ⟨node, s.predicate, v.term ν (p ++ [k])⟩) (s.emit node next) := by
  obtain ⟨predicate, objects⟩ := s
  rw [Statement.parts, partsOfValues_eq] at h ⊢
  have hobjects : ∀ d, Value.resource d ∈ objects → d.IsRead ν := hd
  have hvalues := reads_emitValues hobjects p next h
  rw [Statement.emit]
  refine ⟨rfl, hvalues.next_eq, ?_⟩
  intro t
  -- first what the objects say, then that the subject has them
  show t ∈ (emitValues next objects).triples ++ (emitValues next objects).value.map (⟨node, predicate, ·⟩) ↔ _
  rw [List.mem_append, hvalues.mem_triples, hvalues.value_eq, or_false]
  refine or_congr Iff.rfl ?_
  rw [List.mem_map]
  constructor
  · intro h
    obtain ⟨o, ho, rfl⟩ := h
    obtain ⟨k, hk, rfl⟩ := List.mem_mapIdx.mp ho
    exact ⟨k, objects[k], List.getElem?_eq_getElem hk, by simp [Statement.predicate]⟩
  · intro h
    obtain ⟨k, v, hv, rfl⟩ := h
    obtain ⟨hk, rfl⟩ := List.getElem?_eq_some_iff.mp hv
    refine ⟨_, List.mem_mapIdx.mpr ⟨k, hk, rfl⟩, ?_⟩
    rw [Nat.zero_add]
    rfl

theorem reads_emitStatements {ss : List Statement}
    (hd : ∀ s ∈ ss, ∀ d, Value.resource d ∈ s.objects → d.IsRead ν) (node : Node) (p : Place) (j next : Nat)
    (h : Numbers ν next (spread Statement.parts p j ss)) :
    Reads ν next (spread Statement.parts p j ss) () (StatementsSay ν node p j ss)
      (emitStatements node next ss) := by
  induction ss generalizing j next with
  | nil =>
    rw [emitStatements, spread]
    exact ⟨rfl, rfl, fun t => by simp⟩
  | cons s rest ih =>
    rw [spread] at h ⊢
    obtain ⟨hs, hrest⟩ := numbers_append.mp h
    have hhead := s.reads_emit (hd s List.mem_cons_self) node (p ++ [j]) next hs
    have htail := ih (fun s' hs' => hd s' (List.mem_cons_of_mem _ hs')) (j + 1) _ hrest
    rw [← hhead.next_eq] at htail
    rw [emitStatements]
    refine (hhead.append htail).congr fun t => ?_
    rw [statementsSay_cons]
    simp

/-- The node of a resource is named as its place is numbered. -/
theorem Description.name_identity {d : Description} {p : Place} {next : Nat} (h : Numbers ν next [(p, d)]) :
    d.identity.name next = (d.node ν p, next + (blanks [(p, d)]).length) := by
  unfold Numbers blanks at h
  unfold Description.node blanks
  cases hi : d.identity with
  | iri s => simp [Identity.name, Identity.nodeAt, hi]
  | fresh =>
    -- the resource is the only blank one of the list, so that its number is `next`
    simp only [hi, List.filter_cons, decide_true, if_true, List.filter_nil, List.map_cons, List.map_nil,
      List.length_singleton, List.range'_one, List.cons.injEq, and_true] at h
    simp [Identity.name, Identity.nodeAt, hi, h]

/-- A description reads as its parts. -/
theorem Description.reads_emit (d : Description) : d.IsRead ν := by
  induction d using Description.deepInduction with
  | step identity type statements ih =>
    intro p next h
    rw [Description.parts, partsOfStatements_eq, ← List.singleton_append] at h ⊢
    -- the resource is numbered first and what its statements hold behind it
    obtain ⟨hself, hrest⟩ := numbers_append.mp h
    have hname := Description.name_identity hself
    have hsaid := reads_emitStatements ih ((Description.mk identity type statements).node ν p) p 0 _ hrest
    rw [Description.emit]
    rw [show identity.name next = _ from hname]
    refine ⟨rfl, ?_, ?_⟩
    · show (emitStatements _ _ statements).next = _
      rw [hsaid.next_eq, blanks_append, List.length_append]
      omega
    · intro t
      show t ∈ typeTriples _ type ++ (emitStatements _ _ statements).triples ↔ _
      rw [List.mem_append, hsaid.mem_triples, List.singleton_append, said_cons, or_false]
      unfold Description.Says
      have htype : t ∈ typeTriples ((Description.mk identity type statements).node ν p) type ↔
          ∃ T, type = some T ∧ t = ⟨(Description.mk identity type statements).node ν p, rdfType, .node (.iri T)⟩ := by
        cases type <;> simp [typeTriples]
      rw [htype]
      exact (or_congr Iff.rfl or_comm).trans or_assoc.symm

/-- The nodes of descriptions that stand at a place, one after the other. -/
def nodesOfAll (ν : Place → Nat) (p : Place) (ds : List Description) : List Node :=
  ds.mapIdx fun i d => d.node ν (p ++ [i])

/-- A walk through descriptions gives their nodes in order and the triples that their parts say, one number being
    used for every blank part. -/
theorem reads_emitAll (ds : List Description) (p : Place) (next : Nat) (h : Numbers ν next (partsOfAll p ds)) :
    Reads ν next (partsOfAll p ds) (nodesOfAll ν p ds) (fun _ => False) (emitAll next ds) := by
  rw [emitAll_eq]
  have hreads := reads_emitList (fun d _ q n hn => d.reads_emit q n hn) p 0 next h
  -- the first description has the number zero
  simp only [Nat.zero_add] at hreads
  exact hreads

/-- What comes out of descriptions, in terms of their places: all places can be numbered, such that emission gives the
    nodes of the descriptions in order and exactly the triples that their parts say, with numbers from `next` on. -/
theorem exists_reads_emitAll (ds : List Description) (next : Nat) :
    ∃ e : Place ≃ Nat, Reads (fun p => next + e p) next (partsOfAll [] ds) (nodesOfAll (fun p => next + e p) [] ds)
      (fun _ => False) (emitAll next ds) := by
  obtain ⟨e, he⟩ := exists_numbers (distinct_partsOfAll [] ds) next
  exact ⟨e, reads_emitAll ds [] next he⟩

end GraphLift
