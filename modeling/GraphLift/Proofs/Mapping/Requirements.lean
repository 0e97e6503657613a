import GraphLift.Library.Builtin
import GraphLift.Mapping.Mapper
import GraphLift.Proofs.Outcome
import GraphLift.Proofs.Template.Circles
import GraphLift.Template.Reader

/-! # What templates have to keep to

    The requirements that a template has to keep to, so that it maps every document.

    * **Paths** can be followed (`Followable`), also those that stand in patterns (`Fillable`): the library reads them, and
      it selects something or nothing from every node.
    * **Languages** are language tags of the library.
    * **References** lead through no more than `maxDepth` node templates (`Leads`). Without circles they do as long as
      there are no more node templates at all.
    * **Plain paths** (`JsonPath.Step.isPlain`) neither ask for containers nor test anything. In the library of the program
      they can be followed from every node.
-/

namespace GraphLift

open Outcome

/-! ## Requirements -/

/-- The path as it is followed: trimmed, and without the first one of two dollar signs in front of it. -/
def Finder.followed (path : String) : String :=
  match (Text.trim path).toList with
  | '$' :: '$' :: rest => String.ofList ('$' :: rest)
  | _ => Text.trim path

section

variable [Library]

/-- A path that a template may use. A blank one is not followed at all. -/
structure Followable (path : String) : Prop where
  parses : Text.isBlank path = false → (Library.path? (Finder.followed path)).isSome = true
  /-- Once it is read, the path can be followed from every node. -/
  total : ∀ p, Library.path? (Finder.followed path) = some p → ∀ v, Succeeds (Library.select p v)

/-- A pattern that a template may use. -/
structure Fillable (pattern : String) : Prop where
  paths : ∀ body, .marker body ∈ Pattern.pieces pattern → Pattern.isPath body = true → Followable body
  /-- Numbers are short enough to be read. -/
  numbers : ∀ body, .marker body ∈ Pattern.pieces pattern → Pattern.isNumber body = true →
    body.length ≤ Text.maxDigits

/-- A property that a template may have. -/
structure Property.Evaluable (p : Property) : Prop where
  path : ∀ s, p.path = some s → Followable s
  indexed : ∀ s ∈ p.indexedPaths, Followable s
  format : ∀ s, p.format = some s → Fillable s
  lang : ∀ s, p.lang = some s → Text.isBlank s = false → Library.isLanguageTag s = true

/-- A node template that a template may have. -/
structure NodeTemplate.Evaluable (n : NodeTemplate) : Prop where
  path : ∀ s, n.path = some s → Followable s
  format : ∀ s, n.format = some s → Fillable s
  properties : ∀ p ∈ n.properties, p.2.Evaluable

/-- A subject rule that a template may have. -/
structure SubjectRule.Evaluable (r : SubjectRule) : Prop where
  path : ∀ s, r.path = some s → Followable s
  template : ∀ s, r.template = some s → Fillable s
  format : ∀ s, r.format = some s → Fillable s

/-- References lead from properties through a chain of node templates. -/
structure ResourceTemplate.Leads (t : ResourceTemplate) (properties : List (String × Property))
    (chain : List String) : Prop where
  start : ∀ id, chain.head? = some id → id ∈ t.targets properties
  linked : chain.IsChain t.RefersTo

/-- A template that maps every document. -/
structure ResourceTemplate.Evaluable (t : ResourceTemplate) : Prop where
  scope : ∀ s, t.scopePath = some s → Followable s
  subject : t.subject.Evaluable
  properties : ∀ p ∈ t.properties, p.2.Evaluable
  nodes : ∀ n ∈ t.nodes, n.Evaluable
  shallow : ∀ chain, t.Leads t.properties chain → chain.length ≤ maxDepth

end

/-! ## Plain paths -/

/-- The step asks for no container and tests nothing, so that from every node it leads somewhere or nowhere. -/
def JsonPath.Step.isPlain : Step → Bool
  | .parent | .filter _ => false
  | _ => true

theorem JsonPath.Step.exists_apply {step : Step} (h : step.isPlain = true) (s : Spot) :
    ∃ found, step.apply s = some found := by
  cases step with
  | parent => cases h
  | filter test => cases h
  | members names | indices places | slice start stop stride | names =>
    rw [apply]
    split
    · exact ⟨_, rfl⟩
    · exact ⟨_, rfl⟩
  | root | here | children | descendants | size => exact ⟨_, by rw [apply]⟩

theorem JsonPath.exists_mapM {α β : Type} {f : α → Option β} {l : List α} (h : ∀ a ∈ l, ∃ b, f a = some b) :
    ∃ r, l.mapM f = some r := by
  induction l with
  | nil => exact ⟨[], rfl⟩
  | cons a l ih =>
    obtain ⟨b, hb⟩ := h a List.mem_cons_self
    obtain ⟨bs, hbs⟩ := ih fun a' ha' => h a' (List.mem_cons_of_mem _ ha')
    exact ⟨b :: bs, by rw [List.mapM_cons, hb, hbs]; rfl⟩

/-- A path of plain steps can be followed from every node. -/
theorem JsonPath.exists_selectFrom {path : Path} (h : ∀ step ∈ path, step.isPlain = true) (s : Spot) :
    ∃ found, selectFrom s path = some found := by
  induction path generalizing s with
  | nil => exact ⟨[s], by rw [selectFrom]⟩
  | cons step rest ih =>
    obtain ⟨first, hfirst⟩ := step.exists_apply (h step List.mem_cons_self) s
    obtain ⟨found, hfound⟩ := exists_mapM fun t (_ : t ∈ first) =>
      ih (fun step' hstep => h step' (List.mem_cons_of_mem _ hstep)) t
    exact ⟨found.flatten, by rw [selectFrom, hfirst, Option.bind_eq_bind, Option.bind_some, hfound]; rfl⟩

theorem Followable.of_parse {path : String} {p : JsonPath.Path} (h : JsonPath.parse? (Finder.followed path) = some p)
    (hplain : ∀ step ∈ p, step.isPlain = true) : Followable path := by
  have hread : Library.path? (Finder.followed path) = some p := h
  refine ⟨fun _ => Option.isSome_iff_exists.mpr ⟨p, hread⟩, fun q hq v => ?_⟩
  obtain rfl : p = q := Option.some_inj.mp (hread.symm.trans hq)
  obtain ⟨found, hfound⟩ := JsonPath.exists_selectFrom hplain (.ofStart v)
  exact ⟨found.map (·.value), JsonPath.nodesOf_of_select hfound⟩

/-- The nodes that a path leads to, once it is known where it starts and how it is read. -/
theorem Finder.nodes_of_select {f : Finder} {path text : String} {start : Json} {p : JsonPath.Path} {found : List Json}
    (htarget : f.target path = (start, text)) (hparse : JsonPath.parse? text = some p)
    (hselect : (JsonPath.select p start).map (fun spots => spots.map (·.value)) = some found) :
    f.nodes path = .ok found := by
  have hread : Library.path? text = some p := hparse
  obtain ⟨spots, hspots, rfl⟩ := Option.map_eq_some_iff.mp hselect
  have hfound : Library.select p start = .ok (spots.map (·.value)) := JsonPath.nodesOf_of_select hspots
  unfold nodes
  rw [htarget]
  dsimp only
  rw [hread]
  dsimp only
  rw [hfound]
  rfl

/-! ## Chains of references -/

namespace ResourceTemplate

variable {t : ResourceTemplate}

/-- If a property refers to a node template, references lead from there on as they lead from the properties of that
    one. -/
theorem Leads.cons {key id : String} {p : Property} {n : NodeTemplate} {chain : List String}
    (h : t.Leads n.properties chain) (hkind : p.kind = .nodeRef) (hid : p.node = some id) (hn : t.node? id = some n) :
    t.Leads [(key, p)] (id :: chain) := by
  have hknown : t.Known id := Option.isSome_iff_exists.mpr ⟨n, hn⟩
  refine ⟨?_, ?_⟩
  · intro a ha
    cases ha
    exact mem_targets.mpr ⟨key, p, List.mem_singleton_self _, hkind, hid, hknown⟩
  · rw [List.isChain_cons]
    refine ⟨?_, h.linked⟩
    intro b hb
    -- the first name of the chain is one that the node template refers to
    obtain ⟨key', q, hq, hqkind, hqnode, hb⟩ := mem_targets.mp (h.start b hb)
    exact ⟨n, key', q, hn, hq, hqkind, hqnode, hb⟩

theorem Leads.of_mem {properties : List (String × Property)} {p : String × Property} {chain : List String}
    (h : t.Leads [p] chain) (hp : p ∈ properties) : t.Leads properties chain := by
  refine ⟨?_, h.linked⟩
  intro id hid
  obtain ⟨key, q, hq, hrest⟩ := mem_targets.mp (h.start id hid)
  cases List.mem_singleton.mp hq
  exact mem_targets.mpr ⟨key, q, hp, hrest⟩

theorem known_of_isChain {first : String} {rest : List String} (hfirst : t.Known first)
    (h : (first :: rest).IsChain t.RefersTo) : ∀ id ∈ first :: rest, t.Known id := by
  induction rest generalizing first with
  | nil =>
    intro id hid
    cases List.mem_singleton.mp hid
    exact hfirst
  | cons second rest ih =>
    rw [List.isChain_cons_cons] at h
    intro id hid
    rcases List.mem_cons.mp hid with rfl | hid
    · exact hfirst
    · exact ih h.1.known h.2 id hid

/-- What references lead to is there. -/
theorem Leads.known {properties : List (String × Property)} {chain : List String} (h : t.Leads properties chain) :
    ∀ id ∈ chain, t.Known id := by
  obtain ⟨hstart, hlinked⟩ := h
  cases chain with
  | nil => exact fun id hid => absurd hid List.not_mem_nil
  | cons first rest =>
    obtain ⟨_, _, _, _, _, hknown⟩ := mem_targets.mp (hstart first rfl)
    exact known_of_isChain hknown hlinked

/-- Without circles, references lead through every node template once at most, so that a template with no more than
    `maxDepth` node templates is never too deep. -/
theorem Leads.length_le_maxDepth {properties : List (String × Property)} {chain : List String}
    (h : t.Leads properties chain) (hcycle : t.findCycle = none) (hfew : t.nodes.length ≤ maxDepth) :
    chain.length ≤ maxDepth := by
  -- along the chain no name comes back, for that would be a circle
  have hpairs : chain.Pairwise (Relation.TransGen t.RefersTo) :=
    List.isChain_iff_pairwise.mp (h.linked.imp fun _ _ => .single)
  have hnodup : chain.Nodup := by
    refine hpairs.imp ?_
    intro a b hab heq
    subst heq
    exact acyclic_of_findCycle hcycle a hab
  exact (length_le_of_known hnodup h.known).trans hfew

theorem Leads.nil (properties : List (String × Property)) : t.Leads properties [] :=
  ⟨fun _ hid => absurd hid (by simp), List.isChain_nil⟩

end ResourceTemplate

/-! ## A template for lists -/

/-- A template that makes a resource of every member of a list: its title, and a part that bears the name of the
    whole. -/
def Template.ofList : Template.Members := [
  ("scope", .text "$[*]"),
  ("type", .text "ex:Thing"),
  ("props", .object [
    ("title", .object [("predicate", .text "ex:title"), ("json", .text "$"), ("lang", .text "en"),
      ("format", .text "<$\x7bvalue\x7d>")]),
    ("part", .object [("predicate", .text "ex:part"), ("as", .text "node-ref"), ("node", .text "part")])]),
  ("nodes", .object [
    ("part", .object [("props", .object [
      ("name", .object [("predicate", .text "ex:name"), ("json", .text "$$")])])])])]

/-- The template as it is read. -/
def ResourceTemplate.ofList : ResourceTemplate where
  scopePath := some "$[*]"
  typeRef := some (.text "ex:Thing")
  properties := [
    ("title", { predicate := "ex:title", path := some "$", lang := some "en", format := some "<$\x7bvalue\x7d>" }),
    ("part", { predicate := "ex:part", kind := .nodeRef, node := some "part" })]
  nodes := [{ id := "part", properties := [("name", { predicate := "ex:name", path := some "$$" })] }]

theorem JsonPath.parse?_root : JsonPath.parse? "$" = some [.root] := by
  simp [parse?, tokens?, token?, Shorter.tail, path, operand, simpleOperand, continuations]

theorem JsonPath.parse?_children : JsonPath.parse? "$[*]" = some [.root, .children] := by
  simp [parse?, tokens?, token?, Shorter.tail, Shorter.after, path, operand, simpleOperand, continuations, bracketed]

theorem ResourceTemplate.evaluable_ofList : ofList.Evaluable := by
  have hroot : Followable "$" := .of_parse JsonPath.parse?_root (by simp [JsonPath.Step.isPlain])
  have houter : Followable "$$" := .of_parse JsonPath.parse?_root (by simp [JsonPath.Step.isPlain])
  have hchildren : Followable "$[*]" := .of_parse JsonPath.parse?_children (by simp [JsonPath.Step.isPlain])
  have hformat : Pattern.pieces "<$\x7bvalue\x7d>" = [.text "<", .marker "value", .text ">"] := by
    simp [Pattern.pieces, Pattern.readPieces, Pattern.consText, List.dropWhile]
  have hfill : Fillable "<$\x7bvalue\x7d>" := by
    refine ⟨fun body hbody => ?_, fun body hbody => ?_⟩
    · rw [hformat] at hbody
      obtain rfl : body = "value" := by simpa using hbody
      intro h
      exact absurd h (by decide)
    · rw [hformat] at hbody
      obtain rfl : body = "value" := by simpa using hbody
      intro h
      exact absurd h (by decide)
  have htitle : Property.Evaluable {
      predicate := "ex:title", path := some "$", lang := some "en", format := some "<$\x7bvalue\x7d>" } := by
    refine ⟨?_, fun s hs => absurd hs List.not_mem_nil, ?_, ?_⟩
    · intro s hs
      cases hs
      exact hroot
    · intro s hs
      cases hs
      exact hfill
    · intro s hs _
      cases hs
      decide
  have hpart : Property.Evaluable { predicate := "ex:part", kind := .nodeRef, node := some "part" } :=
    ⟨by simp, by simp, by simp, by simp⟩
  have hname : Property.Evaluable { predicate := "ex:name", path := some "$$" } := by
    refine ⟨?_, by simp, by simp, by simp⟩
    intro s hs
    cases hs
    exact houter
  refine ⟨?_, ⟨by simp [ofList], by simp [ofList], by simp [ofList]⟩, ?_, ?_, ?_⟩
  · intro s hs
    cases hs
    exact hchildren
  · simpa [ofList] using ⟨htitle, hpart⟩
  · have hpartNode : NodeTemplate.Evaluable {
        id := "part", properties := [("name", { predicate := "ex:name", path := some "$$" })] } :=
      ⟨by simp, by simp, by simpa using hname⟩
    simpa [ofList] using hpartNode
  · intro chain hchain
    exact hchain.length_le_maxDepth (by decide) (by decide)

end GraphLift
