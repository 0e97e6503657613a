import GraphLift.Proofs.Outcome
import GraphLift.Template.References
import Mathlib.Data.List.Chain
import Mathlib.Data.List.Nodup
import Mathlib.Data.List.Perm.Subperm
import Mathlib.Data.List.TakeWhile
import Mathlib.Logic.Relation

/-! # Circles of references

    The references between the node templates of a template form a directed graph. `findCycle` searches it depth
    first, along a way of node templates that it is within, and leaves behind those from which no circle can be
    reached.

    * **Circles** (`IsCircle`) lead from a node template back to itself, along references, past no node template
      twice.
    * **What is left behind** (`Settled`) refers only to what was left behind before, so it is in no circle.
    * **The step** of the search gives a circle (`walk_error`), or settles where it started from (`walk_ok`).
    * **The whole search** (`findCycle_eq_none_iff`) gives a circle exactly if there is one, and the bound on its depth
      is never what ends it.
-/

namespace GraphLift

namespace ResourceTemplate

variable {t : ResourceTemplate}

/-! ## The graph of references -/

/-- A node template refers to another one: a property of it names one that exists. -/
def RefersTo (t : ResourceTemplate) (a b : String) : Prop :=
  ∃ n key p, t.node? a = some n ∧ (key, p) ∈ n.properties ∧ p.kind = .nodeRef ∧ p.node = some b ∧
    (t.node? b).isSome = true

/-- There is a node template of this name. -/
def Known (t : ResourceTemplate) (id : String) : Prop :=
  (t.node? id).isSome = true

/-- A circle of references, written from a node template back to itself. -/
structure IsCircle (t : ResourceTemplate) (c : List String) : Prop where
  long : 2 ≤ c.length
  closed : c.head? = c.getLast?
  distinct : c.dropLast.Nodup
  known : ∀ id ∈ c.dropLast, t.Known id
  linked : c.IsChain t.RefersTo

theorem mem_targets {properties : List (String × Property)} {b : String} :
    b ∈ t.targets properties ↔
      ∃ key p, (key, p) ∈ properties ∧ p.kind = .nodeRef ∧ p.node = some b ∧ t.Known b := by
  unfold targets Property.target?
  rw [List.mem_filterMap]
  constructor
  · intro h
    obtain ⟨⟨key, p⟩, hp, h⟩ := h
    obtain ⟨h, hb⟩ := Option.filter_eq_some_iff.mp h
    split at h
    · next hkind => exact ⟨key, p, hp, hkind, h, hb⟩
    · cases h
  · intro h
    obtain ⟨key, p, hp, hkind, hnode, hb⟩ := h
    exact ⟨(key, p), hp, Option.filter_eq_some_iff.mpr ⟨by rw [if_pos hkind]; exact hnode, hb⟩⟩

theorem mem_targetsOf {a b : String} : b ∈ t.targetsOf a ↔ t.RefersTo a b := by
  unfold targetsOf RefersTo
  cases ha : t.node? a with
  | none => simp
  | some n =>
    dsimp only
    rw [mem_targets]
    constructor
    · intro h
      obtain ⟨key, p, h⟩ := h
      exact ⟨n, key, p, rfl, h⟩
    · intro h
      obtain ⟨n', key, p, hn, h⟩ := h
      cases hn
      exact ⟨key, p, h⟩

theorem RefersTo.known {a b : String} (h : t.RefersTo a b) : t.Known b := by
  obtain ⟨_, _, _, _, _, _, _, hb⟩ := h
  exact hb

theorem known_iff {id : String} : t.Known id ↔ id ∈ t.nodes.map (·.id) := by
  unfold Known node?
  rw [List.find?_isSome, List.mem_map]
  simp only [beq_iff_eq]

/-- Names of node templates that differ are no more than there are node templates. -/
theorem length_le_of_known {ids : List String} (hids : ids.Nodup) (hknown : ∀ id ∈ ids, t.Known id) :
    ids.length ≤ t.nodes.length := by
  have hsub : ids ⊆ t.nodes.map (·.id) := fun id h => known_iff.mp (hknown id h)
  have := (hids.subperm hsub).length_le
  rwa [List.length_map] at this

/-! ## What is left behind -/

/-- Node templates each of which refers only to those before it. -/
inductive Settled (t : ResourceTemplate) : List String → Prop where
  | nil : Settled t []
  | snoc {done : List String} {id : String} (before : Settled t done) (refers : ∀ b, t.RefersTo id b → b ∈ done) :
      Settled t (done ++ [id])

/-- From what is settled, references lead only to what is settled. -/
theorem Settled.mem_of_transGen {done : List String} (h : t.Settled done) {a b : String} (ha : a ∈ done)
    (hab : Relation.TransGen t.RefersTo a b) : b ∈ done := by
  induction h generalizing a with
  | nil => cases ha
  | @snoc done id _ hrefers ih =>
    rcases List.mem_append.mp ha with ha | ha
    · exact List.mem_append_left _ (ih ha hab)
    · cases List.mem_singleton.mp ha
      rcases Relation.TransGen.head'_iff.mp hab with ⟨c, hc, hcb⟩
      rcases Relation.reflTransGen_iff_eq_or_transGen.mp hcb with rfl | hcb
      · exact List.mem_append_left _ (hrefers _ hc)
      · exact List.mem_append_left _ (ih (hrefers _ hc) hcb)

/-- What is settled is in no circle. -/
theorem Settled.acyclic {done : List String} (h : t.Settled done) {a : String} (ha : a ∈ done) :
    ¬ Relation.TransGen t.RefersTo a a := by
  induction h with
  | nil => cases ha
  | @snoc done id hdone hrefers ih =>
    by_cases hmem : a ∈ done
    · exact ih hmem
    · -- `a` is the last one, and all it refers to came before
      have heq : a = id := by
        rcases List.mem_append.mp ha with ha | ha
        · exact absurd ha hmem
        · exact List.mem_singleton.mp ha
      subst heq
      intro hcycle
      rcases Relation.TransGen.head'_iff.mp hcycle with ⟨c, hc, hca⟩
      rcases Relation.reflTransGen_iff_eq_or_transGen.mp hca with heq | hca
      · exact hmem (heq ▸ hrefers _ hc)
      · exact hmem (hdone.mem_of_transGen (hrefers _ hc) hca)

/-! ## The step of the search -/

/-- The search has come to `id` by way of `chain`, along references and past no node template twice. -/
structure Way (t : ResourceTemplate) (chain : List String) (id : String) : Prop where
  linked : (chain ++ [id]).IsChain t.RefersTo
  distinct : chain.Nodup
  known : ∀ a ∈ chain ++ [id], t.Known a

theorem Way.start {id : String} (h : t.Known id) : t.Way [] id :=
  ⟨List.isChain_singleton _, List.nodup_nil, by simpa using h⟩

/-- The search goes on along a reference, as long as it is not where it was before. -/
theorem Way.next {chain : List String} {id b : String} (h : t.Way chain id) (hid : id ∉ chain)
    (hb : t.RefersTo id b) : t.Way (chain ++ [id]) b := by
  refine ⟨?_, ?_, ?_⟩
  · rw [List.isChain_append]
    refine ⟨h.linked, List.isChain_singleton _, ?_⟩
    intro x hx y hy
    simp only [List.getLast?_append, List.getLast?_singleton, Option.some_or, Option.mem_def,
      Option.some.injEq] at hx
    simp only [List.head?_cons, Option.mem_def, Option.some.injEq] at hy
    rw [← hx, ← hy]
    exact hb
  · rw [List.nodup_append]
    refine ⟨h.distinct, List.nodup_singleton _, ?_⟩
    intro x hx y hy heq
    subst heq
    exact hid (List.mem_singleton.mp hy ▸ hx)
  · intro a ha
    rcases List.mem_append.mp ha with ha | ha
    · exact h.known a ha
    · exact List.mem_singleton.mp ha ▸ hb.known

/-- A way that comes to where it was before holds a circle. -/
theorem Way.circle {chain : List String} {id : String} (h : t.Way chain id) (hid : id ∈ chain) :
    t.IsCircle (chain.dropWhile (· != id) ++ [id]) := by
  -- the circle starts where the way has come past `id`
  obtain ⟨rest, hrest⟩ : ∃ rest, chain.dropWhile (· != id) = id :: rest := by
    cases hd : chain.dropWhile (· != id) with
    | nil =>
      have := List.dropWhile_eq_nil_iff.mp hd id hid
      simp at this
    | cons a rest =>
      have := List.head?_dropWhile_not (· != id) chain
      simp only [hd, List.head?_cons, bne_eq_false_iff_eq] at this
      exact ⟨rest, by rw [this]⟩
  have hsuffix : chain.dropWhile (· != id) <:+ chain := List.dropWhile_suffix _
  have hdrop : (chain.dropWhile (· != id) ++ [id]).dropLast = chain.dropWhile (· != id) :=
    List.dropLast_concat
  refine ⟨?_, ?_, ?_, ?_, ?_⟩
  · rw [hrest]
    simp
  · rw [hrest, List.getLast?_concat]
    rfl
  · rw [hdrop]
    exact h.distinct.sublist hsuffix.sublist
  · rw [hdrop]
    intro a ha
    exact h.known a (List.mem_append_left _ (hsuffix.subset ha))
  · obtain ⟨before, hbefore⟩ := hsuffix
    have := h.linked
    rw [← hbefore, List.append_assoc] at this
    exact this.right_of_append

/-- The room for the search suffices: a way that fills it has come past all node templates. -/
theorem Way.mem_of_full {chain : List String} {id : String} (h : t.Way chain id)
    (hfull : t.nodes.length ≤ chain.length) : id ∈ chain := by
  by_contra hid
  -- otherwise the way and `id` were more names than there are
  have hnodup : (id :: chain).Nodup := List.nodup_cons.mpr ⟨hid, h.distinct⟩
  have hle := length_le_of_known hnodup fun a ha => by
    rcases List.mem_cons.mp ha with rfl | ha
    · exact h.known a (List.mem_append_right _ (List.mem_singleton_self a))
    · exact h.known a (List.mem_append_left _ ha)
  rw [List.length_cons] at hle
  omega

/-- A search that fails gives a circle. -/
theorem walk_error {room : Nat} {chain done c : List String} {id : String} (hway : t.Way chain id)
    (h : t.walk room chain done id = .error c) : t.IsCircle c := by
  induction room generalizing chain done id with
  | zero =>
    unfold walk at h
    split at h
    · next hmem =>
      cases h
      exact hway.circle (by simpa using hmem)
    · split at h <;> cases h
  | succ room ih =>
    unfold walk at h
    split at h
    · next hmem =>
      cases h
      exact hway.circle (by simpa using hmem)
    · next hmem =>
      split at h
      · cases h
      · -- the circle was found behind one of the references
        rcases Outcome.bind_eq_error.mp h with h | ⟨left, _, h⟩
        · obtain ⟨b, hb, d, h⟩ := Outcome.exists_of_foldlM_eq_error h
          exact ih (hway.next (by simpa using hmem) (mem_targetsOf.mp hb)) h
        · cases h

/-- What a step of the search does that comes to its end: the node template it starts from is settled, and so is all
    that was settled before. -/
structure Settles (t : ResourceTemplate) (id : String) (done left : List String) : Prop where
  settled : t.Settled left
  mem : id ∈ left
  subset : done ⊆ left

/-- A search along a list that comes to its end settles all of the list. -/
theorem settles_foldlM {f : List String → String → Except (List String) (List String)} {ids done left : List String}
    (hf : ∀ id ∈ ids, ∀ d d', t.Settled d → f d id = .ok d' → t.Settles id d d') (hdone : t.Settled done)
    (h : ids.foldlM f done = .ok left) : t.Settled left ∧ (∀ id ∈ ids, id ∈ left) ∧ done ⊆ left := by
  induction ids generalizing done with
  | nil =>
    cases h
    exact ⟨hdone, fun id hid => absurd hid List.not_mem_nil, List.Subset.refl _⟩
  | cons id rest ih =>
    rw [List.foldlM_cons] at h
    obtain ⟨middle, hmiddle, h⟩ := Outcome.bind_eq_ok.mp h
    have hhead := hf id List.mem_cons_self done middle hdone hmiddle
    obtain ⟨hleft, hrest, hsub⟩ := ih (fun a ha => hf a (List.mem_cons_of_mem _ ha)) hhead.settled h
    refine ⟨hleft, ?_, List.Subset.trans hhead.subset hsub⟩
    intro a ha
    rcases List.mem_cons.mp ha with rfl | ha
    · exact hsub hhead.mem
    · exact hrest a ha

/-- A search with enough room that comes to its end settles where it started from. -/
theorem walk_ok {room : Nat} {chain done left : List String} {id : String} (hway : t.Way chain id)
    (hroom : t.nodes.length ≤ room + chain.length) (hdone : t.Settled done)
    (h : t.walk room chain done id = .ok left) : t.Settles id done left := by
  induction room generalizing chain done id left with
  | zero =>
    unfold walk at h
    -- the room ends only where the way has come past everything, and then the search fails
    rw [if_pos (by simpa using hway.mem_of_full (by omega))] at h
    cases h
  | succ room ih =>
    unfold walk at h
    split at h
    · cases h
    · next hmem =>
      split at h
      · next hin =>
        cases h
        exact ⟨hdone, by simpa using hin, List.Subset.refl _⟩
      · obtain ⟨middle, hmiddle, h⟩ := Outcome.bind_eq_ok.mp h
        cases h
        -- all that `id` refers to is settled by then, so that `id` may follow
        obtain ⟨hsettled, htargets, hsub⟩ := settles_foldlM (fun b hb d d' hd hwalk =>
          ih (hway.next (by simpa using hmem) (mem_targetsOf.mp hb))
            (by rw [List.length_append, List.length_singleton]; omega) hd hwalk) hdone hmiddle
        exact ⟨.snoc hsettled fun b hb => htargets b (mem_targetsOf.mpr hb),
          List.mem_append_right _ (List.mem_singleton_self id), List.Subset.trans hsub (List.subset_append_left _ _)⟩

/-- More room changes nothing about a search that has enough of it. -/
theorem walk_room {room more : Nat} {chain : List String} {id : String} (hway : t.Way chain id)
    (hroom : t.nodes.length ≤ room + chain.length) (hmore : room ≤ more) (done : List String) :
    t.walk more chain done id = t.walk room chain done id := by
  induction room generalizing chain done id more with
  | zero =>
    -- without room left, the way has come to where it was before, which both searches see first
    have hmem : chain.contains id = true := by simpa using hway.mem_of_full (by omega)
    unfold walk
    rw [if_pos hmem, if_pos hmem]
  | succ room ih =>
    obtain ⟨more, rfl⟩ : ∃ k, more = k + 1 := ⟨more - 1, by omega⟩
    unfold walk
    by_cases hmem : chain.contains id = true
    · rw [if_pos hmem, if_pos hmem]
    · rw [if_neg hmem, if_neg hmem]
      have hstep : ∀ b ∈ t.targetsOf id, ∀ d,
          t.walk more (chain ++ [id]) d b = t.walk room (chain ++ [id]) d b := fun b hb d =>
        ih (hway.next (by simpa using hmem) (mem_targetsOf.mp hb))
          (by rw [List.length_append, List.length_singleton]; omega) (by omega) d
      have hfold : (t.targetsOf id).foldlM (fun d next => t.walk more (chain ++ [id]) d next) done =
          (t.targetsOf id).foldlM (fun d next => t.walk room (chain ++ [id]) d next) done :=
        Outcome.foldlM_congr hstep
      simp only [hfold]

/-! ## The whole search -/

/-- The search from all node templates in order, with some room for its depth. -/
def search (t : ResourceTemplate) (room : Nat) : Except (List String) (List String) :=
  t.nodes.foldlM (fun done n => t.walk room [] done n.id) []

theorem findCycle_eq (t : ResourceTemplate) :
    t.findCycle = match t.search t.nodes.length with | .error circle => some circle | .ok _ => none := rfl

theorem search_eq (t : ResourceTemplate) (room : Nat) :
    t.search room = (t.nodes.map (·.id)).foldlM (fun done id => t.walk room [] done id) [] := by
  rw [List.foldlM_map]
  rfl

/-- The search of a template finds circles only. -/
theorem isCircle_of_search {room : Nat} {c : List String} (h : t.search room = .error c) : t.IsCircle c := by
  rw [search_eq] at h
  obtain ⟨id, hid, d, h⟩ := Outcome.exists_of_foldlM_eq_error h
  exact walk_error (.start (known_iff.mpr hid)) h

/-- If the search of a template finds no circle, there is none. -/
theorem acyclic_of_search {left : List String} (h : t.search t.nodes.length = .ok left) (id : String) :
    ¬ Relation.TransGen t.RefersTo id id := by
  rw [search_eq] at h
  have hsettled := settles_foldlM (fun id hid d d' hd hwalk =>
    walk_ok (.start (known_iff.mpr hid)) (by simp) hd hwalk) .nil h
  intro hcycle
  have hknown : t.Known id := by
    rcases Relation.TransGen.tail'_iff.mp hcycle with ⟨_, _, hlast⟩
    exact hlast.known
  exact hsettled.1.acyclic (hsettled.2.1 id (known_iff.mp hknown)) hcycle

theorem isCircle_of_findCycle {c : List String} (h : t.findCycle = some c) : t.IsCircle c := by
  rw [findCycle_eq] at h
  split at h
  · next hsearch =>
    cases h
    exact isCircle_of_search hsearch
  · cases h

theorem acyclic_of_findCycle (h : t.findCycle = none) (id : String) : ¬ Relation.TransGen t.RefersTo id id := by
  rw [findCycle_eq] at h
  split at h
  · cases h
  · next hsearch => exact acyclic_of_search hsearch id

/-- A circle leads along references from a node template to itself. -/
theorem IsCircle.transGen {c : List String} (h : t.IsCircle c) : ∃ id, Relation.TransGen t.RefersTo id id := by
  obtain ⟨hlong, hclosed, _, _, hlinked⟩ := h
  match c, hlong with
  | a :: b :: rest, _ =>
    rw [List.isChain_cons_cons] at hlinked
    -- from the second name to the last one, which is the first one
    have hreach : Relation.ReflTransGen t.RefersTo b ((b :: rest).getLast (List.cons_ne_nil _ _)) :=
      List.relationReflTransGen_of_exists_isChain_cons rest hlinked.2 rfl
    have hlast : (b :: rest).getLast (List.cons_ne_nil _ _) = a := by
      rw [List.head?_cons, List.getLast?_cons_cons, List.getLast?_eq_some_getLast (List.cons_ne_nil _ _)] at hclosed
      exact (Option.some.inj hclosed).symm
    rw [hlast] at hreach
    exact ⟨a, .head' hlinked.1 hreach⟩

/-- The search finds nothing exactly if no references lead from a node template back to itself. -/
theorem findCycle_eq_none_iff : t.findCycle = none ↔ ∀ id, ¬ Relation.TransGen t.RefersTo id id := by
  constructor
  · exact acyclic_of_findCycle
  · intro hacyclic
    cases hc : t.findCycle with
    | none => rfl
    | some c =>
      obtain ⟨id, hid⟩ := (isCircle_of_findCycle hc).transGen
      exact absurd hid (hacyclic id)

/-- **The search for circles is sound, complete and bounded.** It finds nothing exactly if no references lead from a
    node template back to itself; what it finds is a circle; and with more room for its depth it comes out the same,
    so that the room never ends it. -/
theorem findCycle_spec (t : ResourceTemplate) :
    (t.findCycle = none ↔ ∀ id, ¬ Relation.TransGen t.RefersTo id id) ∧
      (∀ c, t.findCycle = some c → t.IsCircle c) ∧
      (∀ room, t.nodes.length ≤ room → t.search room = t.search t.nodes.length) := by
  refine ⟨findCycle_eq_none_iff, fun c hc => isCircle_of_findCycle hc, ?_⟩
  intro room hroom
  rw [search_eq, search_eq]
  exact Outcome.foldlM_congr fun id hid d => walk_room (.start (known_iff.mpr hid)) (by simp) hroom d

end ResourceTemplate

end GraphLift
