import GraphLift.Proofs.Outcome
import GraphLift.Turtle.Writer

/-! # Graphs that have a Turtle text

    Two things keep a graph from being written: an IRI with a character that no written IRI may hold, and a decimal number
    that would have to be put in order with what is no number. Every other graph has a text.

    * **Sorting** (`Insertion.yields_sort`) comes out well if all members of a list can be compared, and keeps to the
      members of the list.
    * **Writing** (`Turtle.Layout.Completes`) comes out well whatever has been written already. Sequences do if their parts
      do.
    * **Objects** (`Turtle.Layout.completes_objectText`) complete at every depth, collections and nested nodes included.
    * **Graphs** (`Turtle.succeeds_write`) have a text if they are writable.
    * **Refusals** (`Turtle.write_typed_refused`): one subject that cannot be written is enough for a graph to have none.
-/

namespace GraphLift

open Outcome

/-! ## Sorting -/

namespace Insertion

variable {α ε : Type} {before : α → α → Except ε Bool} {Q : α → Prop}

/-- The members of a list, and those of what is left over, are of a certain kind. -/
def BothOf (Q : α → Prop) (p : List α × List α) : Prop :=
  (∀ a ∈ p.1, Q a) ∧ ∀ a ∈ p.2, Q a

theorem yields_fallingRun (hbefore : ∀ a b, Q a → Q b → Succeeds (before a b)) {run rest : List α} {last : α}
    (hrun : ∀ a ∈ run, Q a) (hlast : Q last) (hrest : ∀ a ∈ rest, Q a) :
    Yields (BothOf Q) (fallingRun before run last rest) := by
  induction rest generalizing run last with
  | nil => exact yields_ok ⟨hrun, hrest⟩
  | cons a rest ih =>
    obtain ⟨ha, hrest'⟩ := List.forall_mem_cons.mp hrest
    rw [fallingRun]
    refine (hbefore a last ha hlast).yields.bind fun falls _ => ?_
    -- the run goes on with `a`, or ends before it
    cases falls with
    | true => exact ih (List.forall_mem_cons.mpr ⟨ha, hrun⟩) ha hrest'
    | false => exact yields_ok ⟨hrun, hrest⟩

theorem yields_risingRun (hbefore : ∀ a b, Q a → Q b → Succeeds (before a b)) {run rest : List α} {last : α}
    (hrun : ∀ a ∈ run, Q a) (hlast : Q last) (hrest : ∀ a ∈ rest, Q a) :
    Yields (BothOf Q) (risingRun before run last rest) := by
  induction rest generalizing run last with
  | nil => exact yields_ok ⟨hrun, hrest⟩
  | cons a rest ih =>
    obtain ⟨ha, hrest'⟩ := List.forall_mem_cons.mp hrest
    rw [risingRun]
    refine (hbefore a last ha hlast).yields.bind fun falls _ => ?_
    cases falls with
    | true => exact yields_ok ⟨hrun, hrest⟩
    | false => exact ih (List.forall_mem_cons.mpr ⟨ha, hrun⟩) ha hrest'

theorem succeeds_place (hbefore : ∀ a b, Q a → Q b → Succeeds (before a b)) {xs : List α} (hxs : ∀ a ∈ xs, Q a)
    {a : α} (ha : Q a) (room low high : Nat) : Succeeds (place before xs a room low high) := by
  induction room generalizing low high with
  | zero => exact succeeds_ok _
  | succ room ih =>
    unfold place
    split
    · dsimp only
      split
      · exact succeeds_ok _
      · next b hb =>
        refine (hbefore a b ha (hxs b (List.mem_of_getElem? hb))).bind fun isBefore _ => ?_
        cases isBefore with
        | true => exact ih _ _
        | false => exact ih _ _
    · exact succeeds_ok _

theorem yields_insert (hbefore : ∀ a b, Q a → Q b → Succeeds (before a b)) {xs : List α} (hxs : ∀ a ∈ xs, Q a)
    {a : α} (ha : Q a) : Yields (fun ys => ∀ b ∈ ys, Q b) (insert before xs a) := by
  refine (succeeds_place hbefore hxs ha (xs.length + 1) 0 xs.length).yields.bind fun n _ => yields_ok ?_
  intro b hb
  rcases List.mem_append.mp hb with hb | hb
  · exact hxs b (List.mem_of_mem_take hb)
  · rcases List.mem_cons.mp hb with rfl | hb
    · exact ha
    · exact hxs b (List.mem_of_mem_drop hb)

theorem yields_insertAll (hbefore : ∀ a b, Q a → Q b → Succeeds (before a b)) {p : List α × List α}
    (hp : BothOf Q p) : Yields (fun ys => ∀ b ∈ ys, Q b) (p.2.foldlM (insert before) p.1) := by
  obtain ⟨xs, others⟩ := p
  obtain ⟨hxs, hothers⟩ := hp
  induction others generalizing xs with
  | nil => exact yields_ok hxs
  | cons a others ih =>
    obtain ⟨ha, hothers⟩ := List.forall_mem_cons.mp hothers
    rw [List.foldlM_cons]
    exact (yields_insert hbefore hxs ha).bind fun ys hys => ih ys hys hothers

/-- A list whose members can all be compared is sorted, and what comes out has the members of the list only. -/
theorem yields_sort {l : List α} (hbefore : ∀ a ∈ l, ∀ b ∈ l, Succeeds (before a b)) :
    Yields (fun sorted => ∀ a ∈ sorted, a ∈ l) (sort before l) := by
  match l, hbefore with
  | [], _ => exact yields_ok fun a ha => ha
  | [a], _ => exact yields_ok fun b hb => hb
  | a :: b :: rest, hbefore =>
    have hcompare : ∀ x y, x ∈ a :: b :: rest → y ∈ a :: b :: rest → Succeeds (before x y) :=
      fun x y hx hy => hbefore x hx y hy
    have ha : a ∈ a :: b :: rest := List.mem_cons_self
    have hb : b ∈ a :: b :: rest := List.mem_cons_of_mem _ List.mem_cons_self
    have hrest : ∀ x ∈ rest, x ∈ a :: b :: rest := fun x hx => List.mem_cons_of_mem _ (List.mem_cons_of_mem _ hx)
    have hrun : ∀ x ∈ [b, a], x ∈ a :: b :: rest := List.forall_mem_cons.mpr ⟨hb, List.forall_mem_singleton.mpr ha⟩
    rw [sort]
    -- the first two members tell which way the run at the front goes; what is left over is inserted into it
    refine (hcompare b a hb ha).yields.bind fun falls _ => ?_
    cases falls with
    | true => exact (yields_fallingRun hcompare hrun hb hrest).bind fun p hp => yields_insertAll hcompare hp
    | false =>
      refine (yields_risingRun hcompare hrun hb hrest).bind fun p hp => ?_
      exact yields_insertAll (p := (p.1.reverse, p.2)) hcompare ⟨fun x hx => hp.1 x (List.mem_reverse.mp hx), hp.2⟩

end Insertion

/-! ## Literals -/

/-- The first literal is no decimal number, or the second one is not a value that is no number. -/
def Literal.OrderedBeside (a b : Literal) : Prop :=
  ∀ v w, a.value? = some v → b.value? = some w → v.isDecimal = true → w.quantity? ≠ some .undefined

/-- Of two sizes that have no order one is undefined. -/
theorem Quantity.undefined_of_order? {a b : Quantity} (h : a.order? b = none) : a = .undefined ∨ b = .undefined := by
  cases a with
  | undefined => exact .inl rfl
  | ratio num den =>
    cases b with
    | undefined => exact .inr rfl
    | ratio num' den' => cases h
    | infinite negative => cases h
  | infinite negative =>
    cases b with
    | undefined => exact .inr rfl
    | ratio num den => cases h
    | infinite negative' => cases h

/-- Two values can be compared, unless one of them is a decimal number and one is no number. -/
theorem TypedValue.succeeds_exceeds {v w : TypedValue}
    (h : ∀ a ∈ [v, w], ∀ b ∈ [v, w], a.isDecimal = true → b.quantity? ≠ some .undefined) :
    Succeeds (v.exceeds w) := by
  unfold exceeds
  cases hv : v.quantity? with
  | none => exact succeeds_ok _
  | some a =>
    cases hw : w.quantity? with
    | none => exact succeeds_ok _
    | some b =>
      dsimp only
      cases horder : a.order? b with
      | some o => exact succeeds_ok _
      | none =>
        have hundefined : ∃ b ∈ [v, w], b.quantity? = some .undefined := by
          rcases Quantity.undefined_of_order? horder with rfl | rfl
          · exact ⟨v, List.mem_cons_self, hv⟩
          · exact ⟨w, List.mem_cons_of_mem _ List.mem_cons_self, hw⟩
        obtain ⟨b, hb, hundefined⟩ := hundefined
        -- sizes without order raise beside a decimal number only
        have hdecimal : ∀ a ∈ [v, w], a.isDecimal = false := by
          intro a ha
          by_contra hne
          exact h a ha b hb (by simpa using hne) hundefined
        rw [hdecimal v List.mem_cons_self, hdecimal w (List.mem_cons_of_mem _ List.mem_cons_self)]
        exact succeeds_ok _

namespace Literal

/-- A literal that is a number has that number for its value. -/
theorem value?_of_number? {l : Literal} {v : TypedValue} (h : l.number? = some v) : l.value? = some v := by
  unfold number? at h
  obtain ⟨k, hk, hv⟩ := Option.bind_eq_some_iff.mp h
  unfold value?
  rw [(Option.filter_eq_some_iff.mp hk).1]
  exact (Option.filter_eq_some_iff.mp hv).1

variable {a b : Literal}

theorem succeeds_exceeds (h : ∀ c ∈ [a, b], ∀ d ∈ [a, b], c.OrderedBeside d) : Succeeds (a.exceeds b) := by
  have ha : a ∈ [a, b] := List.mem_cons_self
  have hb : b ∈ [a, b] := List.mem_cons_of_mem _ List.mem_cons_self
  have hvalues : ∀ v w, a.value? = some v → b.value? = some w → Succeeds (v.exceeds w) := by
    intro v w hv hw
    refine TypedValue.succeeds_exceeds ?_
    -- each of the two values beside itself and beside the other
    simp only [List.forall_mem_cons, List.not_mem_nil, false_imp_iff, implies_true, and_true]
    exact ⟨⟨h a ha a ha v v hv hv, h a ha b hb v w hv hw⟩, h b hb a ha w v hw hv, h b hb b hb w w hw hw⟩
  unfold exceeds
  split
  · next v w hv hw =>
    exact (hvalues v w (value?_of_number? hv) (value?_of_number? hw)).bind fun _ _ => succeeds_pure _
  · split
    · exact succeeds_ok _
    · split
      · exact succeeds_ok _
      · split
        · next v w hv hw => exact (hvalues v w hv hw).bind fun _ _ => succeeds_pure _
        · exact succeeds_ok _

theorem succeeds_before (h : ∀ c ∈ [a, b], ∀ d ∈ [a, b], c.OrderedBeside d) : Succeeds (a.before b) := by
  have hswap : ∀ c ∈ [b, a], ∀ d ∈ [b, a], c.OrderedBeside d := fun c hc d hd =>
    h c (List.mem_pair.mpr (List.mem_pair.mp hc).symm) d (List.mem_pair.mpr (List.mem_pair.mp hd).symm)
  unfold before
  refine (succeeds_exceeds h).bind fun above _ => ?_
  cases above with
  | true => exact succeeds_pure _
  | false =>
    cases a.means? b with
    | some same => exact succeeds_pure _
    | none => exact succeeds_exceeds hswap

end Literal

/-! ## Graphs -/

/-- The node can be written. -/
def Node.IsWritable : Node → Prop
  | .iri s => isWritable s = true
  | .blank _ => True

/-- The node, if it is one, can be written. Literals always can. -/
def Term.IsWritable : Term → Prop
  | .node n => n.IsWritable
  | .literal _ => True

/-- The triple can be written. -/
structure Triple.IsWritable (t : Triple) : Prop where
  subject : t.subject.IsWritable
  predicate : GraphLift.isWritable t.predicate = true
  object : t.object.IsWritable

/-- Every IRI of the triples can be written, and the literals that are said of one subject by one predicate can be put in
    order. -/
structure Turtle.AreWritable (ts : List Triple) : Prop where
  triples : ∀ t ∈ ts, t.IsWritable
  literals : ∀ t ∈ ts, ∀ u ∈ ts, t.subject = u.subject → t.predicate = u.predicate →
    ∀ a b, t.object = .literal a → u.object = .literal b → a.OrderedBeside b

namespace Turtle

theorem AreWritable.mono {ts us : List Triple} (h : AreWritable us) (hsub : ts ⊆ us) : AreWritable ts where
  triples t ht := h.triples t (hsub ht)
  literals t ht u hu := h.literals t (hsub ht) u (hsub hu)

theorem mem_of_mem_distinct {α : Type} [BEq α] {l : List α} {a : α} (h : a ∈ distinct l) : a ∈ l := by
  induction l with
  | nil => exact h
  | cons b rest ih =>
    rcases List.mem_cons.mp h with rfl | h
    · exact List.mem_cons_self
    · exact List.mem_cons_of_mem _ (ih (List.mem_filter.mp h).1)

theorem grouped_subset (ts : List Triple) : grouped ts ⊆ ts := by
  intro t ht
  obtain ⟨s, _, ht⟩ := List.mem_flatMap.mp ht
  obtain ⟨p, _, ht⟩ := List.mem_flatMap.mp ht
  exact (List.mem_filter.mp (List.mem_filter.mp ht).1).1

theorem mem_sortBy {α : Type} {order : α → α → Ordering} {l : List α} {a : α} : a ∈ sortBy order l ↔ a ∈ l :=
  (List.mergeSort_perm l _).mem_iff

/-! ## Names -/

theorem Naming.succeeds_iriText (n : Naming) {iri : String} (h : isWritable iri = true) :
    Succeeds (n.iriText iri) := by
  unfold iriText
  rw [h]
  split
  · exact succeeds_ok _
  · split
    · exact succeeds_ok _
    · exact succeeds_ok _

theorem Naming.namespaces_withPrefix (n : Naming) (name iri : String) :
    (n.withPrefix name iri).namespaces = n.namespaces := by
  unfold withPrefix
  simp only [apply_ite Naming.namespaces, ite_self]

/-- Noting what an IRI is written with binds no prefix. -/
theorem Naming.namespaces_note (n : Naming) (iri : String) : (n.note iri).namespaces = n.namespaces := by
  unfold note
  split
  · exact n.namespaces_withPrefix _ _
  · rfl

/-- An IRI that cannot be written has a short name only if a prefix is bound to all of it. -/
theorem Naming.iriText_refused {n : Naming} {iri : String} (h : isWritable iri = false)
    (hunbound : n.namespaces.nameOf? iri = none) (hnil : iri ≠ rdfNil) : n.iriText iri = .error (.unwritable iri) := by
  have hcompact : n.compact? iri = none := by
    unfold compact? shortName? ShortName.of?
    simp [h, hunbound]
  unfold iriText
  rw [if_neg hnil, hcompact]
  simp [h]

theorem Naming.succeeds_predicateText (n : Naming) {iri : String} (h : isWritable iri = true) :
    Succeeds (n.predicateText iri) := by
  unfold predicateText
  split
  · exact succeeds_ok _
  · exact n.succeeds_iriText h

/-! ## Collections -/

namespace Collection

variable {ts : List Triple}

theorem exists_of_object? {n : Node} {predicate : String} {o : Term} (h : object? ts n predicate = some o) :
    ∃ t ∈ ts, t.object = o := by
  obtain ⟨t, ht, rfl⟩ := Option.map_eq_some_iff.mp h
  exact ⟨t, List.mem_of_find?_eq_some ht, rfl⟩

theorem exists_of_cellsFrom? {room : Nat} {n : Node} {cells : List (Node × Term)}
    (h : cellsFrom? ts room n = some cells) : ∀ c ∈ cells, ∃ t ∈ ts, t.object = c.2 := by
  induction room generalizing n cells with
  | zero => cases h
  | succ room ih =>
    have hcell : ∀ rest : List (Node × Term), (∀ c ∈ rest, ∃ t ∈ ts, t.object = c.2) →
        ∀ c ∈ ((object? ts n rdfFirst).map (n, ·)).toList ++ rest, ∃ t ∈ ts, t.object = c.2 := by
      intro rest hrest c hc
      rcases List.mem_append.mp hc with hc | hc
      · obtain ⟨o, ho, rfl⟩ := Option.map_eq_some_iff.mp (Option.mem_toList.mp hc)
        exact exists_of_object? ho
      · exact hrest c hc
    have hnil : ∀ c ∈ ([] : List (Node × Term)), ∃ t ∈ ts, t.object = c.2 := fun c hc => absurd hc List.not_mem_nil
    unfold cellsFrom? at h
    split at h
    · cases h
      exact hnil
    · split at h
      · cases h
      · -- the next cell is none, a literal, or a node that the chain goes on with
        dsimp only at h
        split at h
        · cases h
          exact hcell _ hnil
        · split at h
          · cases h
            exact hcell _ hnil
          · cases h
        · next next _ =>
          obtain ⟨rest, hrest, hcells⟩ := Option.bind_eq_some_iff.mp h
          cases hcells
          exact hcell rest (ih hrest)

/-- The items of a collection are objects of triples. -/
theorem exists_of_cells? {n : Node} {cells : List (Node × Term)} (h : cells? ts n = some cells) :
    ∀ c ∈ cells, ∃ t ∈ ts, t.object = c.2 := by
  obtain ⟨_, _, hcells⟩ := Option.bind_eq_some_iff.mp h
  exact exists_of_cellsFrom? hcells

end Collection

namespace Layout

/-! ## Writing -/

section

variable {α β : Type}

/-- The writing comes out well, whatever has been written already. -/
def Completes (w : Writing α) : Prop :=
  ∀ written, Succeeds (w.run written)

theorem completes_pure (a : α) : Completes (pure a) :=
  fun _ => succeeds_ok _

theorem completes_lift {x : Except Failure α} (h : Succeeds x) : Completes (StateT.lift x) := by
  obtain ⟨a, rfl⟩ := h
  exact fun written => ⟨(a, written), rfl⟩

theorem completes_get : Completes get :=
  fun _ => succeeds_ok _

theorem completes_modify (f : List Node → List Node) : Completes (modify f) :=
  fun _ => succeeds_ok _

theorem Completes.bind {w : Writing α} {k : α → Writing β} (hw : Completes w) (hk : ∀ a, Completes (k a)) :
    Completes (w >>= k) := by
  intro written
  rw [StateT.run_bind]
  exact (hw written).bind fun p _ => hk p.1 p.2

theorem completes_mapM {f : α → Writing β} {l : List α} (h : ∀ a ∈ l, Completes (f a)) : Completes (l.mapM f) := by
  induction l with
  | nil => exact completes_pure []
  | cons a l ih =>
    rw [List.mapM_cons]
    refine (h a List.mem_cons_self).bind fun b => ?_
    exact (ih fun a' ha' => h a' (List.mem_cons_of_mem _ ha')).bind fun bs => completes_pure _

/-- A run without writing that yields values of a certain kind is followed by writing that need only complete for those. -/
theorem completes_lift_bind {Q : α → Prop} {x : Except Failure α} {k : α → Writing β} (hx : Yields Q x)
    (hk : ∀ a, Q a → Completes (k a)) : Completes (StateT.lift x >>= k) := by
  obtain ⟨a, rfl, ha⟩ := hx
  exact hk a ha

end

variable {l : Layout}

/-! ## What is said -/

/-- The objects of a node for a predicate are those of its triples. -/
theorem exists_of_said {n : Node} {x : String × List Term} (hx : x ∈ l.said n) :
    ∀ o ∈ x.2, ∃ t ∈ l.triples, t.subject = n ∧ t.predicate = x.1 ∧ t.object = o := by
  obtain ⟨p, _, rfl⟩ := List.mem_map.mp hx
  intro o ho
  obtain ⟨t, ht, rfl⟩ := List.mem_map.mp ho
  obtain ⟨hown, hpredicate⟩ := List.mem_filter.mp ht
  obtain ⟨hmem, hsubject⟩ := List.mem_filter.mp hown
  exact ⟨t, hmem, by simpa using hsubject, by simpa using hpredicate, rfl⟩

/-- The predicates of a node are those of its triples. -/
theorem exists_of_predicate {n : Node} {x : String × List Term} (hx : x ∈ l.said n) :
    ∃ t ∈ l.triples, t.predicate = x.1 := by
  obtain ⟨p, hp, rfl⟩ := List.mem_map.mp hx
  have hdistinct : p ∈ distinct ((l.triples.filter (·.subject == n)).map (·.predicate)) := by
    -- the leading predicates, and the others in their order
    rcases List.mem_append.mp hp with hp | hp
    · simpa using (List.mem_filter.mp hp).2
    · exact (List.mem_filter.mp (mem_sortBy.mp hp)).1
  obtain ⟨t, ht, htp⟩ := List.mem_map.mp (mem_of_mem_distinct hdistinct)
  exact ⟨t, (List.mem_filter.mp ht).1, htp⟩

theorem succeeds_termBefore (h : AreWritable l.triples) {n : Node} {x : String × List Term} (hx : x ∈ l.said n)
    {a b : Term} (ha : a ∈ x.2) (hb : b ∈ x.2) : Succeeds (termBefore a b) := by
  unfold termBefore
  cases a with
  | node a =>
    cases b with
    | node b => exact succeeds_ok _
    | literal b => exact succeeds_ok _
  | literal a =>
    cases b with
    | node b => exact succeeds_ok _
    | literal b =>
      -- only literals are put in order by their values
      refine Literal.succeeds_before fun c hc d hd => ?_
      have hobject : ∀ c ∈ [a, b], .literal c ∈ x.2 := by
        intro c hc
        rcases List.mem_pair.mp hc with rfl | rfl
        · exact ha
        · exact hb
      obtain ⟨t, ht, hts, htp, hto⟩ := exists_of_said hx _ (hobject c hc)
      obtain ⟨u, hu, hus, hup, huo⟩ := exists_of_said hx _ (hobject d hd)
      exact h.literals t ht u hu (hts.trans hus.symm) (htp.trans hup.symm) c d hto huo

/-- What is said of a node is put in order, and can be written after that. -/
theorem yields_sorted (h : AreWritable l.triples) (n : Node) :
    Yields (fun said => ∀ x ∈ said, isWritable x.1 = true ∧ ∀ o ∈ x.2, o.IsWritable) (l.sorted n) := by
  refine yields_mapM fun x hx => ?_
  refine (Insertion.yields_sort fun a ha b hb => succeeds_termBefore h hx ha hb).bind fun objects hsub => yields_ok ?_
  refine ⟨?_, ?_⟩
  · obtain ⟨t, ht, htp⟩ := exists_of_predicate hx
    exact htp ▸ (h.triples t ht).predicate
  · intro o ho
    obtain ⟨t, ht, _, _, hto⟩ := exists_of_said hx o (hsub o ho)
    exact hto ▸ (h.triples t ht).object

/-! ## Texts -/

/-- What is said of a node completes if its objects do. -/
theorem completes_propertiesWith (h : AreWritable l.triples) {write : Term → Writing String}
    (hwrite : ∀ o : Term, o.IsWritable → Completes (write o)) (level : Nat) (n : Node) :
    Completes (l.propertiesWith write level n) := by
  refine completes_lift_bind (yields_sorted h n) fun said hsaid => ?_
  refine (completes_mapM fun x hx => ?_).bind fun parts => ?_
  · obtain ⟨hpredicate, hobjects⟩ := hsaid x hx
    refine (completes_lift (l.naming.succeeds_predicateText hpredicate)).bind fun _ => ?_
    exact (completes_mapM fun o ho => hwrite o (hobjects o ho)).bind fun _ => completes_pure _
  · split
    · exact completes_pure _
    · exact completes_pure _

/-- An object completes, however many brackets there is room for. -/
theorem completes_objectText (h : AreWritable l.triples) (room level : Nat) {o : Term} (ho : o.IsWritable) :
    Completes (l.objectText room level o) := by
  induction room generalizing level o with
  | zero =>
    cases o with
    | literal lit => exact completes_pure _
    | node n =>
      cases n with
      | iri s => exact completes_lift (l.naming.succeeds_iriText ho)
      | blank n => exact completes_pure _
  | succ room ih =>
    cases o with
    | literal lit => exact completes_pure _
    | node n =>
      cases n with
      | iri s => exact completes_lift (l.naming.succeeds_iriText ho)
      | blank n =>
        rw [objectText]
        refine completes_get.bind fun written => ?_
        split
        · exact completes_pure _
        · split
          · next cells hcells =>
            -- the items of a collection, one level further in
            refine (completes_mapM fun c hc => ?_).bind fun items => completes_pure _
            obtain ⟨t, ht, hto⟩ := Collection.exists_of_cells? hcells c hc
            refine (ih (level + 1) (hto ▸ (h.triples t ht).object)).bind fun _ => ?_
            exact (completes_modify _).bind fun _ => completes_pure _
          · -- what is said of a nested node, two levels further in
            refine (completes_modify _).bind fun _ => ?_
            have hnested := completes_propertiesWith h (fun o ho => ih (level + 2) ho) (level + 2) (.blank n)
            exact hnested.bind fun _ => completes_pure _

theorem succeeds_head (l : Layout) {s : Node} (hs : s.IsWritable) : Succeeds (l.head s) := by
  cases s with
  | iri s => exact l.naming.succeeds_iriText hs
  | blank n =>
    unfold head
    dsimp only
    split
    · exact succeeds_ok _
    · exact succeeds_ok _

theorem completes_statement (h : AreWritable l.triples) (room : Nat) {s : Node} (hs : s.IsWritable) :
    Completes (l.statement room s) := by
  unfold statement
  refine completes_get.bind fun written => ?_
  split
  · exact completes_pure _
  · refine (completes_modify _).bind fun _ => (completes_lift (l.succeeds_head hs)).bind fun front => ?_
    have hsaid := completes_propertiesWith h (fun o ho => completes_objectText h room 1 ho) 1 s
    exact hsaid.bind fun _ => completes_pure _

/-- The subjects are those of the triples. -/
theorem exists_of_subjects {s : Node} (hs : s ∈ l.subjects) : ∃ t ∈ l.triples, t.subject = s := by
  have hdistinct : s ∈ distinct (l.triples.map (·.subject)) := by
    rcases List.mem_append.mp hs with hs | hs
    · exact (List.mem_filter.mp (mem_sortBy.mp hs)).1
    · exact (List.mem_filter.mp (mem_sortBy.mp hs)).1
  exact List.mem_map.mp (mem_of_mem_distinct hdistinct)

/-- Triples that are writable have a text, with whatever names. -/
theorem succeeds_text (h : AreWritable l.triples) : Succeeds l.text := by
  have hstatements : Completes (l.subjects.mapM (l.statement l.triples.length)) := by
    refine completes_mapM fun s hs => ?_
    obtain ⟨t, ht, hts⟩ := exists_of_subjects hs
    exact completes_statement h _ (hts ▸ (h.triples t ht).subject)
  exact (hstatements []).bind fun _ _ => succeeds_pure _

end Layout

/-- **A writable graph has a Turtle text**, whatever its namespaces are. -/
theorem succeeds_write {g : Graph} (h : AreWritable g.triples) (ns : Namespaces) : Succeeds (write g ns) :=
  Layout.succeeds_text (l := ⟨grouped g.triples, Naming.ofTriples ns (grouped g.triples)⟩)
    (h.mono (grouped_subset g.triples))

/-- A resource whose IRI cannot be written keeps its graph from being written, even if all that is said of it is its
    type. -/
theorem write_typed_refused {s type : String} {ns : Namespaces} (h : isWritable s = false)
    (hunbound : ns.nameOf? s = none) (hnil : s ≠ rdfNil) :
    write ⟨[⟨.iri s, rdfType, .node (.iri type)⟩]⟩ ns = .error (.unwritable s) := by
  have hgrouped : grouped [⟨.iri s, rdfType, .node (.iri type)⟩] = [⟨.iri s, rdfType, .node (.iri type)⟩] := by
    simp [grouped, distinct]
  unfold write
  dsimp only
  rw [hgrouped]
  generalize hn : Naming.ofTriples ns _ = n
  -- no prefix is made up for a type
  have hns : n.namespaces = ns := by
    rw [← hn]
    simp [Naming.ofTriples, Naming.noteTriple, Naming.notePredicate, Naming.noteTerm, Naming.namespaces_note]
  have hsubjects : Layout.subjects ⟨[⟨.iri s, rdfType, .node (.iri type)⟩], n⟩ = [.iri s] := by
    by_cases hclass : type = rdfsClass
    · simp [Layout.subjects, distinct, sortBy, hclass]
    · simp [Layout.subjects, distinct, sortBy, hclass]
  have hiri : n.iriText s = .error (.unwritable s) := by
    apply Naming.iriText_refused h _ hnil
    rw [hns]
    exact hunbound
  unfold Layout.text
  rw [hsubjects]
  simp [Layout.statement, Layout.head, Layout.nodeText, hiri]
  rfl

end Turtle

end GraphLift
