import GraphLift.Proofs.Description.Emission

/-! # How resources are attached

    A resource within a description is an object of the resource around it, and of no other one. Blank nodes get their
    numbers in the order of the walk, in which a resource comes before everything within it.

    * **Subtrees** (`Description.isInfix_of_mem_parts`): the parts of a part stand together among the parts.
    * **Attachment** (`exists_attaches`, `Attaches.unique`): every part is one of the descriptions themselves or attached
      to another part, and that in one place only.
    * **Numbers** (`Attaches.lt`): what is attached has a higher number than what it is attached to.
    * **Triples** (`exists_attaches_of_said`): a blank node is the object of a triple only where it is attached.
-/

namespace GraphLift

variable {ν : Place → Nat} {p q : Place} {d e : Description} {j k : Nat}

/-! ## Subtrees -/

/-- What is listed for a member of a list stands together in what is listed for the whole of it. -/
theorem isInfix_spread {α β : Type} {f : Place → α → List β} {l : List α} {i : Nat} {a : α} (h : l[i]? = some a) :
    f (p ++ [j + i]) a <:+: spread f p j l := by
  induction l generalizing i j with
  | nil => simp at h
  | cons b rest ih =>
    rw [spread]
    cases i with
    | zero =>
      cases h
      exact (List.prefix_append _ _).isInfix
    | succ i =>
      -- behind the first member everything is listed with a number more
      have hrest := ih (j := j + 1) h
      rw [show j + 1 + i = j + (i + 1) from by omega] at hrest
      exact hrest.trans (List.suffix_append _ _).isInfix

/-- The parts of an object stand together among the parts of the description. -/
theorem Description.isInfix_of_object {s : Statement} (hs : d.statements[j]? = some s)
    (hv : s.objects[k]? = some (.resource e)) : e.parts (p ++ [j, k]) <:+: d.parts p := by
  obtain ⟨identity, type, statements⟩ := d
  obtain ⟨predicate, objects⟩ := s
  have hvalues := isInfix_spread (f := Value.parts) (p := p ++ [j]) (j := 0) hv
  have hstatements := isInfix_spread (f := Statement.parts) (p := p) (j := 0) hs
  rw [Value.parts, Nat.zero_add, List.append_assoc] at hvalues
  rw [Statement.parts, partsOfValues_eq, Nat.zero_add] at hstatements
  rw [Description.parts, partsOfStatements_eq]
  exact (hvalues.trans hstatements).trans (List.suffix_cons _ _).isInfix

/-- The parts of a part stand together among the parts of the description. -/
theorem Description.isInfix_of_mem_parts (h : (q, e) ∈ d.parts p) : e.parts q <:+: d.parts p := by
  induction d using Description.deepInduction generalizing p with
  | step identity type statements ih =>
    rcases mem_parts.mp h with heq | ⟨j, s, k, d', hs, hv, h'⟩
    · cases heq
      exact List.infix_rfl
    · have hinner := ih s (List.mem_of_getElem? hs) d' (List.mem_of_getElem? hv) h'
      exact hinner.trans (isInfix_of_object hs hv)

theorem isInfix_partsOfAll {ds : List Description} (h : (q, e) ∈ partsOfAll [] ds) :
    e.parts q <:+: partsOfAll [] ds := by
  obtain ⟨i, d, hd, h⟩ := mem_partsOfAll.mp h
  have hall := isInfix_spread (f := Description.parts) (p := []) (j := 0) hd
  rw [Nat.zero_add, List.nil_append] at hall
  exact (Description.isInfix_of_mem_parts h).trans hall

/-! ## Attachment -/

/-- Among some parts, `e` at the place `q` has the resource `d` as the `k`-th object of its `j`-th statement `s`. -/
structure Attaches (parts : List (Place × Description)) (q : Place) (e : Description) (j k : Nat) (s : Statement)
    (d : Description) : Prop where
  holder : (q, e) ∈ parts
  statement : e.statements[j]? = some s
  object : s.objects[k]? = some (.resource d)

theorem Attaches.mono {parts parts' : List (Place × Description)} {s : Statement} (h : Attaches parts q e j k s d)
    (hsub : parts ⊆ parts') : Attaches parts' q e j k s d :=
  ⟨hsub h.holder, h.statement, h.object⟩

/-- Every part of a description is the description itself or attached to another part. -/
theorem Description.exists_attaches {d₀ : Description} (h : (q, d) ∈ d₀.parts p) :
    (q = p ∧ d = d₀) ∨ ∃ q' e j k s, Attaches (d₀.parts p) q' e j k s d ∧ q = q' ++ [j, k] := by
  induction d₀ using Description.deepInduction generalizing p with
  | step identity type statements ih =>
    rcases mem_parts.mp h with heq | ⟨j, s, k, d', hs, hv, h'⟩
    · cases heq
      exact .inl ⟨rfl, rfl⟩
    · right
      have hsub : d'.parts (p ++ [j, k]) ⊆ (Description.mk identity type statements).parts p :=
        (isInfix_of_object hs hv).subset
      rcases ih s (List.mem_of_getElem? hs) d' (List.mem_of_getElem? hv) h' with ⟨hq, hd⟩ | hinner
      · -- an object is attached to the description itself
        exact ⟨p, _, j, k, s, ⟨self_mem_parts _ _, hs, hd ▸ hv⟩, hq⟩
      · obtain ⟨q', e, j', k', s', hatt, hq⟩ := hinner
        exact ⟨q', e, j', k', s', hatt.mono hsub, hq⟩

/-- Every part of a list of descriptions is one of them or attached to another part. -/
theorem exists_attaches {ds : List Description} (h : (q, d) ∈ partsOfAll [] ds) :
    (∃ i : Nat, ds[i]? = some d ∧ q = [i]) ∨
      ∃ q' e j k s, Attaches (partsOfAll [] ds) q' e j k s d ∧ q = q' ++ [j, k] := by
  obtain ⟨i, d₀, hd₀, h⟩ := mem_partsOfAll.mp h
  have hsub : d₀.parts [i] ⊆ partsOfAll [] ds := fun x hx => mem_partsOfAll.mpr ⟨i, d₀, hd₀, hx⟩
  rcases Description.exists_attaches h with ⟨hq, hd⟩ | ⟨q', e, j, k, s, hatt, hq⟩
  · exact .inl ⟨i, hd ▸ hd₀, hq⟩
  · exact .inr ⟨q', e, j, k, s, hatt.mono hsub, hq⟩

/-- At one place there is one part. -/
theorem DistinctBehind.eq_of_place {parts : List (Place × Description)} (h : DistinctBehind p parts)
    (hd : (q, d) ∈ parts) (he : (q, e) ∈ parts) : d = e := by
  have hinj := List.inj_on_of_nodup_map h.nodup hd he rfl
  exact (Prod.mk.inj hinj).2

/-- What is attached at one place is attached to one part, in one of its statements. -/
theorem Attaches.unique {parts : List (Place × Description)} (hparts : DistinctBehind p parts) {q' : Place}
    {e' d' : Description} {j' k' : Nat} {s s' : Statement} (h : Attaches parts q e j k s d)
    (h' : Attaches parts q' e' j' k' s' d') (hplace : q ++ [j, k] = q' ++ [j', k']) :
    q = q' ∧ e = e' ∧ s = s' := by
  obtain ⟨hq, hjk⟩ := List.append_inj' hplace rfl
  cases hjk
  subst hq
  have he := hparts.eq_of_place h.holder h'.holder
  subst he
  have hs := h.statement.symm.trans h'.statement
  exact ⟨rfl, rfl, Option.some.inj hs⟩

/-! ## Numbers -/

theorem mem_blanks {parts : List (Place × Description)} :
    q ∈ blanks parts ↔ ∃ d, (q, d) ∈ parts ∧ d.identity = .fresh := by
  simp [blanks]

/-- The numbers in use are those from `next` on, one for every blank part. -/
theorem Numbers.exists_iff {parts : List (Place × Description)} {next : Nat} (h : Numbers ν next parts) (n : Nat) :
    (∃ q d, (q, d) ∈ parts ∧ d.identity = .fresh ∧ ν q = n) ↔ next ≤ n ∧ n < next + (blanks parts).length := by
  rw [← List.mem_range'_1, ← h, List.mem_map]
  simp only [mem_blanks]
  constructor
  · intro hn
    obtain ⟨q, d, hq, hd, hn⟩ := hn
    exact ⟨q, ⟨d, hq, hd⟩, hn⟩
  · intro hn
    obtain ⟨q, ⟨d, hq, hd⟩, hn⟩ := hn
    exact ⟨q, d, hq, hd, hn⟩

/-- Parts that stand together are numbered from some later number on. -/
theorem Numbers.of_isInfix {l parts : List (Place × Description)} {next : Nat} (h : Numbers ν next parts)
    (hl : l <:+: parts) : ∃ start, Numbers ν start l := by
  obtain ⟨before, behind, rfl⟩ := hl
  obtain ⟨hfront, _⟩ := numbers_append.mp h
  obtain ⟨_, hl⟩ := numbers_append.mp hfront
  exact ⟨_, hl⟩

/-- A blank node that is attached to a blank node has a higher number than that. -/
theorem Attaches.lt {ds : List Description} {next : Nat} {s : Statement}
    (h : Attaches (partsOfAll [] ds) q e j k s d) (hn : Numbers ν next (partsOfAll [] ds)) (he : e.identity = .fresh)
    (hd : d.identity = .fresh) : ν q < ν (q ++ [j, k]) := by
  obtain ⟨start, hstart⟩ := hn.of_isInfix (isInfix_partsOfAll h.holder)
  have hmem : (q ++ [j, k], d) ∈ e.parts q := (Description.isInfix_of_object h.statement h.object).subset
    (Description.self_mem_parts _ _)
  obtain ⟨identity, type, statements⟩ := e
  rw [Description.parts] at hstart hmem
  -- the resource itself comes first, and what is attached to it behind it
  rw [← List.singleton_append] at hstart
  obtain ⟨hself, hrest⟩ := numbers_append.mp hstart
  have hfirst := (hself.exists_iff (ν q)).mp ⟨q, _, List.mem_singleton_self _, he, rfl⟩
  have hbehind : (q ++ [j, k], d) ∈ partsOfStatements q 0 statements := by
    rcases List.mem_cons.mp hmem with heq | hmem
    · have hlength := congrArg (fun x => x.1.length) heq
      simp at hlength
    · exact hmem
  have hlater := (hrest.exists_iff (ν (q ++ [j, k]))).mp ⟨_, d, hbehind, hd, rfl⟩
  omega

/-! ## Triples -/

theorem Identity.nodeAt_eq_blank {identity : Identity} {n : Nat} :
    identity.nodeAt ν p = .blank n ↔ identity = .fresh ∧ ν p = n := by
  cases identity <;> simp [Identity.nodeAt]

/-- A blank node is the object of a triple only where the resource is attached that it stands for. -/
theorem exists_attaches_of_said {parts : List (Place × Description)} {t : Triple} {n : Nat} (h : Said ν parts t)
    (hobject : t.object = .node (.blank n)) :
    ∃ q e j k s d, Attaches parts q e j k s d ∧ d.identity = .fresh ∧ ν (q ++ [j, k]) = n ∧
      t = ⟨e.node ν q, s.predicate, .node (.blank n)⟩ := by
  obtain ⟨⟨q, e⟩, hq, htold⟩ := h
  rcases htold with ⟨type, _, rfl⟩ | ⟨j, s, k, v, hs, hv, rfl⟩
  · cases hobject
  · cases v with
    | literal l => cases hobject
    | resource d =>
      rw [Nat.zero_add] at hobject ⊢
      obtain ⟨hd, hn⟩ := Identity.nodeAt_eq_blank.mp (Term.node.inj hobject)
      exact ⟨q, e, j, k, s, d, ⟨hq, hs, hv⟩, hd, hn, congrArg (Triple.mk _ _) hobject⟩

/-- Where a resource is attached, the resource around it says so. -/
theorem Attaches.said {parts : List (Place × Description)} {s : Statement} (h : Attaches parts q e j k s d) :
    Said ν parts ⟨e.node ν q, s.predicate, .node (d.node ν (q ++ [j, k]))⟩ := by
  refine ⟨_, h.holder, .inr ⟨j, s, k, _, h.statement, h.object, ?_⟩⟩
  rw [Nat.zero_add]
  rfl

end GraphLift
