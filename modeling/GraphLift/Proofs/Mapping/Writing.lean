import GraphLift.Mapping.Writing
import GraphLift.Proofs.Mapping.Derivation

/-! # Writing and describing agree

    `Mapper.write` writes triple by triple and counts depths up. `Mapper.describe` builds descriptions, counts the room
    that is left down, and leaves the writing to emission. Both do the same.

    * **A run realizes a description** (`Realizes`) if it comes out as that does, keeps its reports, and, when all went
      well, has written what emission gives.
    * **Steps** compose along sequences (`Realizes.bind`) and lists (`Realizes.mapM`).
    * **The mapper** (`Mapper.realizes_write`) realizes its descriptions, so that `mapInto` gives the store that a run
      leaves behind (`Mapper.outcome_mapInto`).
-/

namespace GraphLift

variable {α β γ δ : Type}

/-! ## Realizing a description -/

theorem Graph.insertAll_append (g : Graph) (l r : List Triple) :
    g.insertAll (l ++ r) = (g.insertAll l).insertAll r :=
  List.foldl_append

/-- Started in the store `s`, a run does what `x` describes: it keeps its reports, fails as it does, and when a
    description comes out, the run leaves what `post` says of the description, of the value of the run and of the store
    behind it. -/
structure Realizes (s : Store) (w : Writing β) (x : Traced α) (post : α → β → Store → Prop) : Prop where
  records : (w.after s).records = s.records ++ x.records
  fails : ∀ e, x.outcome = .error e → w.outcome s = .error e
  gives : ∀ a, x.outcome = .ok a → ∃ b, w.outcome s = .ok b ∧ post a b (w.after s)

namespace Realizes

variable {s : Store} {w : Writing β} {x : Traced α} {post : α → β → Store → Prop}

/-- Runs in sequence realize descriptions in sequence. -/
theorem bind {k : β → Writing δ} {y : α → Traced γ} {post' : γ → δ → Store → Prop} (hw : Realizes s w x post)
    (hk : ∀ a b s', x.outcome = .ok a → post a b s' → Realizes s' (k b) (y a) post') :
    Realizes s (w >>= k) (x >>= y) post' := by
  cases hx : x.outcome with
  | error e =>
    -- the first run fails, and there is no second one
    have hfails := hw.fails e hx
    have hseq : (x >>= y).outcome = .error e := by rw [Traced.outcome_bind, hx]; rfl
    refine ⟨?_, ?_, ?_⟩
    · rw [Writing.after_bind_of_error hfails, hw.records, Traced.records_bind_of_error hx]
    · intro e' he
      cases hseq.symm.trans he
      rw [Writing.outcome_bind, hfails]
      rfl
    · intro c hc
      cases hseq.symm.trans hc
  | ok a =>
    obtain ⟨b, hb, hpost⟩ := hw.gives a hx
    have hsnd := hk a b _ hx hpost
    have hseq : (x >>= y).outcome = (y a).outcome := by rw [Traced.outcome_bind, hx]; rfl
    have hout : (w >>= k).outcome s = (k b).outcome (w.after s) := by rw [Writing.outcome_bind, hb]; rfl
    refine ⟨?_, ?_, ?_⟩
    · rw [Writing.after_bind_of_ok hb, hsnd.records, hw.records, Traced.records_bind_of_ok hx, List.append_assoc]
    · intro e he
      rw [hout]
      exact hsnd.fails e (hseq.symm.trans he)
    · intro c hc
      rw [hout, Writing.after_bind_of_ok hb]
      exact hsnd.gives c (hseq.symm.trans hc)

theorem pure {a : α} {b : β} (h : post a b s) : Realizes s (Pure.pure b) (Pure.pure a) post := by
  refine ⟨(List.append_nil _).symm, ?_, ?_⟩
  · intro e he
    cases he
  · intro a' ha
    cases ha
    exact ⟨b, rfl, h⟩

theorem throw (e : Failure) : Realizes s (MonadExcept.throw e) (MonadExcept.throw e) post := by
  refine ⟨(List.append_nil _).symm, ?_, ?_⟩
  · intro e' he
    cases he
    rfl
  · intro a ha
    cases ha

theorem imp {post' : α → β → Store → Prop} (h : Realizes s w x post) (hpost : ∀ a b s', post a b s' → post' a b s') :
    Realizes s w x post' :=
  ⟨h.records, h.fails, fun a ha => (h.gives a ha).imp fun b hb => ⟨hb.1, hpost a b _ hb.2⟩⟩

/-- What is consulted describes itself, and leaves the graph and the numbers alone. -/
theorem consult_bind {k : α → Writing δ} {y : α → Traced γ} {post' : γ → δ → Store → Prop}
    (hk : ∀ a s', x.outcome = .ok a → s'.graph = s.graph → s'.next = s.next → Realizes s' (k a) (y a) post') :
    Realizes s (Writing.consult x >>= k) (x >>= y) post' := by
  have hconsult : Realizes s (Writing.consult x) x fun a b s' => b = a ∧ s'.graph = s.graph ∧ s'.next = s.next := by
    refine ⟨?_, ?_, ?_⟩
    · rw [Writing.after_consult]
    · intro e he
      rw [Writing.outcome_consult, he]
    · intro a ha
      rw [Writing.outcome_consult, Writing.after_consult, ha]
      exact ⟨a, rfl, rfl, rfl, rfl⟩
  refine hconsult.bind fun a b s' ha hsame => ?_
  obtain ⟨rfl, hgraph, hnext⟩ := hsame
  exact hk b s' ha hgraph hnext

/-- A step of the run that has no part in the description, with which nothing goes wrong. -/
theorem step {b : β} {s' : Store} {y : Traced γ} {k : β → Writing δ} {post' : γ → δ → Store → Prop}
    (hw : w s = .ok b s') (hrecords : s'.records = s.records) (hk : Realizes s' (k b) y post') :
    Realizes s (w >>= k) y post' := by
  have hb : w.outcome s = .ok b := by rw [Writing.outcome, hw]
  have hs : w.after s = s' := by rw [Writing.after, hw]
  have hout : (w >>= k).outcome s = (k b).outcome s' := by rw [Writing.outcome_bind, hb, hs]; rfl
  have hafter : (w >>= k).after s = (k b).after s' := by rw [Writing.after_bind_of_ok hb, hs]
  refine ⟨?_, ?_, ?_⟩
  · rw [hafter, hk.records, hrecords]
  · intro e he
    rw [hout]
    exact hk.fails e he
  · intro c hc
    rw [hout, hafter]
    exact hk.gives c hc

end Realizes

/-! ## Writing what is emitted -/

/-- What a description emits was written into the store `s`; there is the value `b`, and the store is `s'` now. -/
structure Emission.Written (e : Emission β) (s : Store) (b : β) (s' : Store) : Prop where
  value_eq : b = e.value
  graph_eq : s'.graph = s.graph.insertAll e.triples
  next_eq : s'.next = e.next

/-- Only the graph of the store matters, into which an emission was written. -/
theorem Emission.Written.of_graph {e : Emission β} {s₁ s s' : Store} {b : β} (h : e.Written s₁ b s')
    (hgraph : s₁.graph = s.graph) : e.Written s b s' :=
  ⟨h.value_eq, hgraph ▸ h.graph_eq, h.next_eq⟩

namespace Realizes

/-- A run along a list writes what descriptions along the list emit, if it does so at every member. -/
theorem mapM {ι : Type} {w : ι → Writing β} {x : ι → Traced α} {l : List ι} (e : Nat → α → Emission β)
    (h : ∀ i ∈ l, ∀ s, Realizes s (w i) (x i) fun a => (e s.next a).Written s) (s : Store) :
    Realizes s (l.mapM w) (l.mapM x) fun as => (emitList e s.next as).Written s := by
  induction l generalizing s with
  | nil => exact pure ⟨rfl, rfl, rfl⟩
  | cons i rest ih =>
    rw [List.mapM_cons, List.mapM_cons]
    refine (h i List.mem_cons_self s).bind fun a b s₁ _ hhead => ?_
    refine (ih (fun j hj => h j (List.mem_cons_of_mem i hj)) s₁).bind fun as bs s₂ _ htail => ?_
    rw [hhead.next_eq] at htail
    refine pure ⟨?_, ?_, htail.next_eq⟩
    · rw [hhead.value_eq, htail.value_eq]
      rfl
    · rw [htail.graph_eq, hhead.graph_eq, ← Graph.insertAll_append]
      rfl

end Realizes

/-- Triples are written one after the other. -/
theorem Writing.run_forM_add {ι : Type} (f : ι → Triple) (l : List ι) (s : Store) :
    (l.forM fun i => Writing.add (f i)) s = .ok () { s with graph := s.graph.insertAll (l.map f) } := by
  induction l generalizing s with
  | nil => rfl
  | cons i rest ih => exact ih { s with graph := s.graph.insert (f i) }

/-- A value of which nothing is said besides is made as it is emitted. -/
theorem Value.realizes_make {v : Value} (h : ∀ d, v = .resource d → ∃ identity, d = .bare identity) (s : Store) :
    Realizes s v.make (pure v) fun v => (v.emit s.next).Written s := by
  cases v with
  | literal l => exact .pure ⟨rfl, rfl, rfl⟩
  | resource d =>
    obtain ⟨identity, rfl⟩ := h d rfl
    exact .step (b := (identity.name s.next).1) rfl rfl (.pure ⟨rfl, rfl, rfl⟩)

/-! ## The mapper -/

namespace Mapper

variable (table : PrefixTable) {write : Property → Writing (List Term)} {objects : Property → Traced (List Value)}

/-- The objects of properties are written as they are emitted. -/
def WritesObjects (write : Property → Writing (List Term)) (objects : Property → Traced (List Value)) : Prop :=
  ∀ p s, Realizes s (write p) (objects p) fun vs => (emitValues s.next vs).Written s

/-- What a property says of a node is written as its statement is emitted. -/
theorem realizes_writeProperty (h : WritesObjects write objects) (node : Node) (key : String) (p : Property)
    (s : Store) :
    Realizes s (writeProperty table write node key p) (statement table objects key p)
      fun said => (emitStatements node s.next said.toList).Written s := by
  unfold writeProperty statement
  refine Realizes.consult_bind fun expanded s₁ _ hgraph hnext => ?_
  rw [← hnext]
  cases expanded with
  | none =>
    rw [← bind_pure (Writing.consult _)]
    refine Realizes.consult_bind fun _ s₂ _ hgraph' hnext' => .pure ⟨rfl, ?_, hnext'⟩
    rw [hgraph', hgraph]
    rfl
  | some predicate =>
    refine (h p s₁).bind fun vs os s₂ _ hobjects => ?_
    rw [← bind_pure (List.forM _ _)]
    refine .step (Writing.run_forM_add _ os s₂) rfl (.pure ⟨rfl, ?_, ?_⟩)
    · show s₂.graph.insertAll _ = _
      rw [hobjects.graph_eq, hobjects.value_eq, hgraph, ← Graph.insertAll_append]
      simp [emitStatements, Statement.emit]
    · show s₂.next = _
      rw [hobjects.next_eq]
      simp [emitStatements, Statement.emit]

/-- Statements are emitted one after the other. -/
theorem emitStatements_append (node : Node) (next : Nat) (l r : List Statement) :
    emitStatements node next (l ++ r) =
      ⟨(), (emitStatements node next l).triples ++ (emitStatements node (emitStatements node next l).next r).triples,
        (emitStatements node (emitStatements node next l).next r).next⟩ := by
  induction l generalizing next with
  | nil => simp [emitStatements]
  | cons s rest ih => simp [emitStatements, ih]

/-- What properties say of a node is written as their statements are emitted. -/
theorem realizes_writeProperties (h : WritesObjects write objects) (node : Node)
    (properties : List (String × Property)) (s : Store) :
    Realizes s (properties.forM fun p => writeProperty table write node p.1 p.2)
      (statements table objects properties) fun said => (emitStatements node s.next said).Written s := by
  induction properties generalizing s with
  | nil => exact .pure ⟨rfl, rfl, rfl⟩
  | cons kp rest ih =>
    obtain ⟨key, p⟩ := kp
    show Realizes s (writeProperty table write node key p >>= fun _ => rest.forM _) _ _
    rw [← bind_pure (rest.forM _)]
    unfold statements
    refine (realizes_writeProperty table h node key p s).bind fun head _ s₁ _ hhead => ?_
    refine (ih s₁).bind fun tail _ s₂ _ htail => .pure ⟨rfl, ?_, ?_⟩
    · rw [emitStatements_append, htail.graph_eq, hhead.graph_eq, hhead.next_eq, ← Graph.insertAll_append]
    · rw [emitStatements_append, htail.next_eq, hhead.next_eq]

/-- A resource is written as its description is emitted. -/
theorem realizes_writeResource (h : WritesObjects write objects) (depth : Nat) (identity : Traced Identity)
    (type : Option Reference) (properties : List (String × Property)) (s : Store) :
    Realizes s (writeResource table write depth identity type properties)
      (do
        let identity ← identity
        let type ← typeIri table type
        let said ← statements table objects properties
        return Description.mk identity type said)
      fun d => (d.emit s.next).Written s := by
  unfold writeResource
  refine Realizes.consult_bind fun identity s₁ _ hgraph hnext => ?_
  refine .step (b := (identity.name s₁.next).1) rfl rfl ?_
  refine .step (b := ()) rfl rfl ?_
  refine Realizes.consult_bind fun type s₂ _ hgraph' hnext' => ?_
  refine .step (Writing.run_forM_add id _ s₂) rfl ?_
  refine (realizes_writeProperties table h _ properties _).bind fun said _ s₃ _ hsaid => .pure ?_
  -- in between, the graph has got the type and the resource has taken its number
  have hsame : s₂.graph = s.graph := hgraph'.trans hgraph
  have hnamed : s₂.next = (identity.name s₁.next).2 := hnext'
  rw [hnext] at hnamed hsaid ⊢
  refine ⟨?_, ?_, ?_⟩
  · rw [Description.emit]
  · rw [hsaid.graph_eq, Description.emit]
    show (s₂.graph.insertAll (List.map id _)).insertAll (emitStatements _ s₂.next said).triples = _
    rw [hsame, hnamed, List.map_id, ← Graph.insertAll_append]
  · rw [hsaid.next_eq, Description.emit]
    show (emitStatements _ s₂.next said).next = _
    rw [hnamed]

variable [Library]

/-- An instance of a node template is written as an object. -/
theorem realizes_writeInstance (h : WritesObjects write objects) (depth : Nat) (n : NodeTemplate)
    (base : Option String) (f : Finder) (s : Store) :
    Realizes s
      (do
        let node ← writeResource table write depth (n.identify base f) (n.typeRef.map .text) n.properties
        return Term.node node)
      (do
        let identity ← n.identify base f
        let type ← typeIri table (n.typeRef.map .text)
        let said ← statements table objects n.properties
        return Value.resource (.mk identity type said))
      fun v => (v.emit s.next).Written s := by
  have hobject : ∀ d node s', (d.emit s.next).Written s node s' →
      Realizes s' (pure (Term.node node)) (pure (Value.resource d)) fun v => (v.emit s.next).Written s := by
    intro d node s' h
    refine .pure ?_
    rw [Value.emit]
    exact ⟨congrArg Term.node h.value_eq, h.graph_eq, h.next_eq⟩
  have hresource := realizes_writeResource table h depth (n.identify base f) (n.typeRef.map .text) n.properties s
  simpa only [bind_assoc, pure_bind] using hresource.bind fun d node s' _ => hobject d node s'

/-- Values are made as they are emitted. -/
theorem realizes_values (p : Property) (f : Finder) (s : Store) :
    Realizes s (Writing.consult (p.terms table f) >>= fun vs => vs.mapM Value.make) (p.terms table f)
      fun vs => (emitValues s.next vs).Written s := by
  suffices h : Realizes s _ (p.terms table f >>= fun vs => pure vs) _ by rwa [bind_pure] at h
  refine Realizes.consult_bind fun vs s₁ hvs hgraph hnext => ?_
  have hbare : ∀ v ∈ vs, ∀ d, v = .resource d → ∃ identity, d = .bare identity := by
    intro v hv d hd
    exact Property.bare_of_mem_terms hvs (hd ▸ hv)
  have hmake := Realizes.mapM Value.emit (fun v hv s' => Value.realizes_make (hbare v hv) s') s₁
  rw [List.mapM_pure, List.map_id', hnext] at hmake
  refine hmake.imp fun vs' os s₂ hmade => ?_
  rw [emitValues_eq]
  exact hmade.of_graph hgraph

/-- Objects at a depth are written as they are emitted: the room that is left is what `maxDepth` still allows. -/
theorem realizes_writeObjects (t : ResourceTemplate) (f : Finder) {room depth : Nat} (hroom : depth + room = maxDepth) :
    WritesObjects (writeObjects t table f depth) (Mapper.objects t table f room) := by
  intro p
  induction depth, p using writeObjects_induction t generalizing room with
  | value depth p hkind =>
    rw [writeObjects_of_ne hkind, objects_of_ne hkind]
    exact realizes_values table p f
  | unknown depth p hkind hnode =>
    rw [writeObjects_of_unknown hkind hnode, objects_of_unknown hkind hnode]
    exact fun s => Realizes.consult_bind fun _ s₁ _ hgraph hnext => .pure ⟨rfl, hgraph, hnext⟩
  | deep depth p n hkind hnode hdepth =>
    obtain rfl : room = 0 := by omega
    rw [writeObjects_of_deep hkind hnode hdepth, objects_of_full hkind hnode]
    exact fun s => .throw _
  | node depth p n hkind hnode hdepth ih =>
    obtain ⟨room, rfl⟩ : ∃ less, room = less + 1 := ⟨room - 1, by omega⟩
    have hinner : WritesObjects (writeObjects t table f (depth + 1)) (Mapper.objects t table f room) :=
      fun q => ih q (by omega)
    rw [writeObjects_of_node hkind hnode hdepth, objects_of_node hkind hnode]
    intro s
    refine Realizes.consult_bind fun bases s₁ _ hgraph hnext => ?_
    have hinstances := Realizes.mapM Value.emit
      (fun base (_ : base ∈ bases) s' => realizes_writeInstance table hinner (depth + 1) n base f s') s₁
    refine hinstances.imp fun vs os s₂ hmade => ?_
    rw [emitValues_eq, ← hnext]
    exact hmade.of_graph hgraph

variable (m : Mapper)

/-- The resource of a scope is written as its description is emitted. -/
theorem realizes_writeScope (f : Finder) (s : Store) :
    Realizes s (m.writeScope f) (m.describeScope f) fun d => (d.emit s.next).Written s :=
  realizes_writeResource m.table (realizes_writeObjects m.table m.template f (Nat.zero_add maxDepth)) 0 _ _ _ s

/-- A mapper writes what its descriptions of the document emit. -/
theorem realizes_write (document : Json) (s : Store) :
    Realizes s (m.write document) (m.describe document) fun ds => (emitAll s.next ds).Written s := by
  unfold write describe
  refine Realizes.consult_bind fun f s₁ _ hgraph hnext => ?_
  refine Realizes.consult_bind fun scopes s₂ _ hgraph' hnext' => ?_
  refine (Realizes.mapM Description.emit (fun f _ => m.realizes_writeScope f) s₂).imp fun ds nodes s₃ hwritten => ?_
  rw [emitAll_eq, ← hnext, ← hnext']
  exact hwritten.of_graph (hgraph'.trans hgraph)

/-- **Mapping gives what a run leaves behind**: its graph, its subjects and its next number, or its failure. -/
theorem outcome_mapInto (g : Graph) (next : Nat) (document : Json) :
    (m.mapInto g next document).outcome = match (m.write document) (.start g next) with
      | .ok subjects s => .ok ⟨s.graph, subjects, s.next⟩
      | .error e _ => .error e := by
  have hrun := m.realizes_write document (.start g next)
  unfold mapInto
  rw [Traced.outcome_bind]
  cases hds : (m.describe document).outcome with
  | error e =>
    have hfails := hrun.fails e hds
    unfold Writing.outcome at hfails
    cases hw : (m.write document) (.start g next) with
    | ok subjects s => simp [hw] at hfails
    | error e' s =>
      rw [hw] at hfails
      cases hfails
      rfl
  | ok ds =>
    obtain ⟨subjects, hsubjects, hwritten⟩ := hrun.gives ds hds
    unfold Writing.outcome at hsubjects
    unfold Writing.after at hwritten
    cases hw : (m.write document) (.start g next) with
    | ok subjects' s =>
      rw [hw] at hsubjects hwritten
      cases hsubjects
      show Except.ok _ = Except.ok _
      rw [hwritten.value_eq, hwritten.graph_eq, hwritten.next_eq]
      rfl
    | error e' s => simp [hw] at hsubjects

/-- Both give the same reports. -/
theorem records_mapInto (g : Graph) (next : Nat) (document : Json) :
    (m.mapInto g next document).records = ((m.write document).after (.start g next)).records := by
  rw [(m.realizes_write document (.start g next)).records]
  unfold mapInto
  cases hds : (m.describe document).outcome with
  | error e => exact Traced.records_bind_of_error hds _
  | ok ds => exact (Traced.records_bind_of_ok hds _).trans (List.append_nil _)

end Mapper

end GraphLift
