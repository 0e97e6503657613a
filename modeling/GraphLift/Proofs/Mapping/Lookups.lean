import GraphLift.Proofs.Mapping.Forest
import GraphLift.Proofs.Text.Blank

/-! # What a mapping sees of a document

    A mapping sees a document only through the paths that its template uses: two documents that look alike along these
    paths, scope by scope, are mapped alike.

    * **Paths** of a template (`ResourceTemplate.paths`) are all that it uses within a scope, those in the markers of its
      patterns included.
    * **Lookups** along a path depend on the scope alone, or on the whole document alone (`Finder.FromRoot`).
    * **Functions** of the mapper each have a lemma that says on which paths they depend, up to the description of a
      scope (`Mapper.describeScope_eq`).
    * **Mapping** (`Mapper.mapInto_lookups`) depends on the number of scopes and on what the paths give in each of them.
-/

namespace GraphLift

/-! ## Paths of a template -/

/-- The paths that stand in the markers of a pattern. -/
def Pattern.paths (pattern : String) : List String :=
  (pieces pattern).filterMap fun
    | .marker body => if isPath body then some body else none
    | .text _ => none

/-- The paths that stand in the markers of a pattern, if there is one. -/
def Pattern.pathsOf : Option String → List String
  | none => []
  | some pattern => paths pattern

def SubjectRule.paths (r : SubjectRule) : List String :=
  r.path.toList ++ Pattern.pathsOf r.template ++ Pattern.pathsOf r.format

def Property.paths (p : Property) : List String :=
  p.path.toList ++ p.indexedPaths ++ Pattern.pathsOf p.format

def NodeTemplate.paths (n : NodeTemplate) : List String :=
  n.path.toList ++ Pattern.pathsOf n.format ++ n.properties.flatMap (·.2.paths)

/-- The paths that a template uses within a scope, that is all of its paths but the scope path. -/
def ResourceTemplate.paths (t : ResourceTemplate) : List String :=
  t.subject.paths ++ t.properties.flatMap (·.2.paths) ++ t.nodes.flatMap NodeTemplate.paths

theorem Pattern.mem_paths {pattern body : String} (h : .marker body ∈ pieces pattern) (hpath : isPath body = true) :
    body ∈ paths pattern := by
  unfold paths
  rw [List.mem_filterMap]
  exact ⟨_, h, if_pos hpath⟩

theorem Pattern.mem_pathsOf {pattern : Option String} {s body : String} (hs : pattern = some s)
    (h : body ∈ paths s) : body ∈ pathsOf pattern := by
  subst hs
  exact h

namespace ResourceTemplate

variable {t : ResourceTemplate}

theorem subject_paths_subset : t.subject.paths ⊆ t.paths :=
  fun _ hs => List.mem_append_left _ (List.mem_append_left _ hs)

theorem property_paths_subset {p : String × Property} (hp : p ∈ t.properties) : p.2.paths ⊆ t.paths :=
  fun _ hs => List.mem_append_left _ (List.mem_append_right _ (List.mem_flatMap.mpr ⟨p, hp, hs⟩))

theorem node_paths_subset {n : NodeTemplate} (hn : n ∈ t.nodes) : n.paths ⊆ t.paths :=
  fun _ hs => List.mem_append_right _ (List.mem_flatMap.mpr ⟨n, hn, hs⟩)

/-- What a reference is found to stand for is one of the node templates. -/
theorem mem_of_referred {reference : Option String} {n : NodeTemplate} (h : reference.bind t.node? = some n) :
    n ∈ t.nodes := by
  obtain ⟨id, _, hid⟩ := Option.bind_eq_some_iff.mp h
  exact List.mem_of_find?_eq_some hid

end ResourceTemplate

theorem NodeTemplate.property_paths_subset {n : NodeTemplate} {p : String × Property} (hp : p ∈ n.properties) :
    p.2.paths ⊆ n.paths :=
  fun _ hs => List.mem_append_right _ (List.mem_flatMap.mpr ⟨p, hp, hs⟩)

/-! ## Lookups -/

namespace Finder

/-- The path is followed from the whole document: it starts with two dollar signs, when it is trimmed. -/
def FromRoot (path : String) : Prop :=
  ∃ rest, (Text.trim path).toList = '$' :: '$' :: rest

/-- A path that starts with two dollar signs does so when it is trimmed. -/
theorem fromRoot_of_isPrefixOf {path : String} (h : "$$".toList.isPrefixOf path.toList = true) : FromRoot path := by
  have hdollar : Text.isBlankChar '$' = false := by decide
  obtain ⟨rest, hrest⟩ := List.isPrefixOf_iff_prefix.mp h
  refine ⟨Text.trimEndChars rest, ?_⟩
  unfold Text.trim Text.trimChars
  rw [String.toList_ofList, ← hrest]
  show Text.trimEndChars (('$' :: '$' :: rest).dropWhile Text.isBlankChar) = _
  rw [List.dropWhile_cons_of_neg (by rw [hdollar]; exact Bool.false_ne_true), Text.trimEndChars_cons hdollar,
    Text.trimEndChars_cons hdollar]

variable [Library]

/-- Along every one of the paths there is the same to be seen, or there is the same failure. -/
def SeeAlike (paths : List String) (f f' : Finder) : Prop :=
  ∀ p ∈ paths, f.values (some p) = f'.values (some p)

variable {paths : List String} {f f' : Finder}

theorem SeeAlike.mono {paths' : List String} (h : SeeAlike paths f f') (hsub : paths' ⊆ paths) :
    SeeAlike paths' f f' :=
  fun p hp => h p (hsub hp)

theorem SeeAlike.values (h : SeeAlike paths f f') {path : Option String} (hpath : path.toList ⊆ paths) :
    f.values path = f'.values path := by
  cases path with
  | none => rfl
  | some p => exact h p (hpath List.mem_cons_self)

theorem SeeAlike.first (h : SeeAlike paths f f') {path : Option String} (hpath : path.toList ⊆ paths) :
    f.first path = f'.first path := by
  unfold Finder.first
  rw [h.values hpath]

/-- A lookup depends on the node that it starts from. -/
theorem values_eq_of_target {path : String} (h : f.target (Text.trim path) = f'.target (Text.trim path)) :
    f.values (some path) = f'.values (some path) := by
  unfold values nodes
  dsimp only
  rw [h]

theorem values_eq_of_root {path : String} (h : FromRoot path) (hroot : f.root = f'.root) :
    f.values (some path) = f'.values (some path) := by
  obtain ⟨rest, hrest⟩ := h
  apply values_eq_of_target
  unfold target
  rw [hrest]
  exact Prod.ext hroot rfl

theorem values_eq_of_scope {path : String} (h : ¬ FromRoot path) (hscope : f.scope = f'.scope) :
    f.values (some path) = f'.values (some path) := by
  have htarget : ∀ e : Finder, e.target (Text.trim path) = (e.scope, Text.trim path) := by
    intro e
    unfold target
    split
    · next rest hrest => exact absurd ⟨rest, hrest⟩ h
    · rfl
  apply values_eq_of_target
  rw [htarget, htarget, hscope]

end Finder

open Finder

section

variable [Library] {paths : List String} {f f' : Finder}

/-! ## Patterns -/

namespace Pattern

theorem lookUp_eq {path : String} (h : f.values (some path) = f'.values (some path)) :
    lookUp f path = lookUp f' path := by
  unfold lookUp first
  rw [h]

/-- A marker depends on the path that it is, or on one of the indexed paths. -/
theorem substitute_eq {indexed : List String} {value : Option String} {body : String}
    (hbody : isPath body = true → f.values (some body) = f'.values (some body)) (hindexed : SeeAlike indexed f f') :
    substitute ⟨some f, value, indexed⟩ body = substitute ⟨some f', value, indexed⟩ body := by
  rcases marker_cases indexed body with rfl | hlong | ⟨path, hdenotes⟩ | hnothing
  · rw [substitute_valueWord, substitute_valueWord]
  · rw [substitute_of_isOverlong hlong, substitute_of_isOverlong hlong]
  · have hvalues : f.values (some path) = f'.values (some path) := hdenotes.cases hindexed hbody
    rw [substitute_of_denotes hdenotes, substitute_of_denotes hdenotes]
    exact lookUp_eq hvalues
  · rw [substitute_of_meansNothing hnothing, substitute_of_meansNothing hnothing]

theorem expandPieces_eq {b b' : Bindings} {ps : List Piece} (h : ∀ p ∈ ps, expandPiece b p = expandPiece b' p) :
    expandPieces b ps = expandPieces b' ps := by
  induction ps with
  | nil => rfl
  | cons p rest ih =>
    rw [expandPieces, expandPieces, h p List.mem_cons_self, ih fun q hq => h q (List.mem_cons_of_mem _ hq)]

/-- A pattern depends on the paths in its markers and on the indexed paths. -/
theorem expand_eq {indexed : List String} {value : Option String} {pattern : String}
    (h : SeeAlike (Pattern.paths pattern) f f') (hindexed : SeeAlike indexed f f') :
    expand ⟨some f, value, indexed⟩ pattern = expand ⟨some f', value, indexed⟩ pattern := by
  apply expandPieces_eq
  intro p hp
  cases p with
  | text s => rfl
  | marker body => exact substitute_eq (fun hpath => h body (mem_paths hp hpath)) hindexed

end Pattern

theorem Finder.seeAlike_nil : SeeAlike [] f f' :=
  fun _ hp => absurd hp List.not_mem_nil

/-! ## Identities -/

namespace SubjectRule

variable {r : SubjectRule}

omit [Library] in
theorem path_subset : r.path.toList ⊆ r.paths :=
  fun _ hs => List.mem_append_left _ (List.mem_append_left _ hs)

theorem fromTemplate_eq (h : SeeAlike r.paths f f') : r.fromTemplate f = r.fromTemplate f' := by
  unfold fromTemplate
  cases htemplate : r.template with
  | none => rfl
  | some s =>
    have hsub : Pattern.paths s ⊆ r.paths := fun _ hp =>
      List.mem_append_left _ (List.mem_append_right _ (Pattern.mem_pathsOf htemplate hp))
    dsimp only
    rw [Pattern.expand_eq (h.mono hsub) seeAlike_nil]

theorem fromFormat_eq (h : SeeAlike r.paths f f') : r.fromFormat f = r.fromFormat f' := by
  unfold fromFormat
  cases hformat : r.format with
  | none => rfl
  | some format =>
    have hsub : Pattern.paths format ⊆ r.paths := fun _ hp =>
      List.mem_append_right _ (Pattern.mem_pathsOf hformat hp)
    have hexpand : ∀ value : Option String, Pattern.expand ⟨some f, value, []⟩ format =
        Pattern.expand ⟨some f', value, []⟩ format := fun _ => Pattern.expand_eq (h.mono hsub) seeAlike_nil
    cases hpath : r.path with
    | none => rfl
    | some path =>
      have hfirst : f.first (some path) = f'.first (some path) := h.first (hpath ▸ path_subset)
      simp only [hfirst, hexpand]

theorem identity_eq (h : SeeAlike r.paths f f') : r.identity f = r.identity f' := by
  unfold identity text
  rw [fromTemplate_eq h, fromFormat_eq h, h.first path_subset]

end SubjectRule

namespace NodeTemplate

variable {n : NodeTemplate}

theorem candidates_eq (h : SeeAlike n.paths f f') : n.candidates f = n.candidates f' := by
  have hsub : n.path.toList ⊆ n.paths := fun _ hs => List.mem_append_left _ (List.mem_append_left _ hs)
  unfold candidates
  rw [h.values hsub]

theorem fromFormat_eq (h : SeeAlike n.paths f f') (base : Option String) :
    n.fromFormat base f = n.fromFormat base f' := by
  unfold fromFormat
  cases hformat : notBlank? n.format with
  | none => rfl
  | some format =>
    have hsub : Pattern.paths format ⊆ n.paths := fun _ hp =>
      List.mem_append_left _ (List.mem_append_right _ (Pattern.mem_pathsOf (notBlank?_eq_some.mp hformat).1 hp))
    dsimp only
    rw [Pattern.expand_eq (h.mono hsub) seeAlike_nil]

theorem identify_eq (h : SeeAlike n.paths f f') (base : Option String) : n.identify base f = n.identify base f' := by
  unfold identify iriFor fromBase
  simp only [fromFormat_eq h]

end NodeTemplate

/-! ## Values -/

namespace Property

variable {p : Property}

theorem baseValues_eq (h : SeeAlike p.paths f f') : p.baseValues f = p.baseValues f' := by
  unfold baseValues
  cases p.const with
  | some c => rfl
  | none =>
    cases hpath : p.path with
    | none => rfl
    | some path =>
      have hsub : p.path.toList ⊆ p.paths := fun _ hs => List.mem_append_left _ (List.mem_append_left _ hs)
      dsimp only
      rw [h.values (hpath ▸ hsub)]

theorem applyFormat_eq (h : SeeAlike p.paths f f') (value : Option String) :
    p.applyFormat f value = p.applyFormat f' value := by
  unfold applyFormat
  cases hformat : notBlank? p.format with
  | none => rfl
  | some format =>
    have hsub : Pattern.paths format ⊆ p.paths := fun _ hp =>
      List.mem_append_right _ (Pattern.mem_pathsOf (notBlank?_eq_some.mp hformat).1 hp)
    have hindexed : p.indexedPaths ⊆ p.paths := fun _ hs => List.mem_append_left _ (List.mem_append_right _ hs)
    cases value with
    | none => rfl
    | some v =>
      dsimp only
      rw [Pattern.expand_eq (h.mono hsub) (h.mono hindexed)]

theorem terms_eq (h : SeeAlike p.paths f f') (table : PrefixTable) : p.terms table f = p.terms table f' := by
  unfold terms resolvedValues
  simp only [baseValues_eq h, applyFormat_eq h]

end Property

/-! ## Descriptions -/

namespace Mapper

omit [Library] in
/-- Statements depend on the objects of the properties that they are made of. -/
theorem statements_eq {table : PrefixTable} {objects objects' : Property → Traced (List Value)}
    {properties : List (String × Property)} (h : ∀ p ∈ properties, objects p.2 = objects' p.2) :
    statements table objects properties = statements table objects' properties := by
  induction properties with
  | nil => rfl
  | cons kp rest ih =>
    obtain ⟨key, p⟩ := kp
    have hp := h (key, p) List.mem_cons_self
    have hrest := ih fun q hq => h q (List.mem_cons_of_mem _ hq)
    unfold statements statement
    rw [hrest, hp]

/-- The objects of a property depend on its own paths and those of the node templates, at any depth. -/
theorem objects_eq {t : ResourceTemplate} (h : SeeAlike t.paths f f') (table : PrefixTable) (room : Nat)
    {p : Property} (hp : p.paths ⊆ t.paths) : objects t table f room p = objects t table f' room p := by
  induction room, p using objects_induction t with
  | value room p hkind =>
    rw [objects_of_ne hkind, objects_of_ne hkind, Property.terms_eq (h.mono hp)]
  | unknown room p hkind hnode =>
    rw [objects_of_unknown hkind hnode, objects_of_unknown hkind hnode]
  | full p n hkind hnode =>
    rw [objects_of_full hkind hnode, objects_of_full hkind hnode]
  | node room p n hkind hnode ih =>
    -- instances of a node template are described in the scope of the property that refers to it
    have hpaths := ResourceTemplate.node_paths_subset (ResourceTemplate.mem_of_referred hnode)
    have hsaid : statements table (objects t table f room) n.properties =
        statements table (objects t table f' room) n.properties := by
      apply statements_eq
      intro q hq
      exact ih q.2 (List.Subset.trans (NodeTemplate.property_paths_subset hq) hpaths)
    rw [objects_of_node hkind hnode, objects_of_node hkind hnode]
    simp only [NodeTemplate.candidates_eq (h.mono hpaths), NodeTemplate.identify_eq (h.mono hpaths), hsaid]

/-- What a template says of a scope depends on its paths. -/
theorem describeScope_eq {m : Mapper} (h : SeeAlike m.template.paths f f') : m.describeScope f = m.describeScope f' := by
  have hsaid : statements m.table (objects m.template m.table f maxDepth) m.template.properties =
      statements m.table (objects m.template m.table f' maxDepth) m.template.properties := by
    apply statements_eq
    intro p hp
    exact objects_eq h m.table maxDepth (ResourceTemplate.property_paths_subset hp)
  unfold describeScope
  rw [SubjectRule.identity_eq (h.mono ResourceTemplate.subject_paths_subset), hsaid]

/-! ## Documents -/

/-- What is reported of the scopes of a document: that a scope path led to none. -/
def reportScopes (m : Mapper) (scopes : List Finder) : Traced Unit :=
  match notBlank? m.template.scopePath with
  | none => pure ()
  | some path => if scopes.isEmpty then Traced.report (.scopeEmpty path) else pure ()

/-- Finding the scopes of a document is reporting on them. -/
theorem scopes_eq {m : Mapper} {document : Json} {scopes : List Finder} (h : m.AreScopes document scopes) :
    m.scopes ⟨document, document⟩ = m.reportScopes scopes >>= fun _ => pure scopes := by
  unfold AreScopes at h
  unfold Mapper.scopes reportScopes
  cases hpath : notBlank? m.template.scopePath with
  | none =>
    rw [hpath] at h
    dsimp only at h ⊢
    rw [h, pure_bind]
  | some path =>
    rw [hpath] at h
    obtain ⟨found, hfound, rfl⟩ := h
    dsimp only
    rw [hfound, List.isEmpty_map]
    show (pure found >>= _) = _
    rw [pure_bind]
    cases found with
    | nil => rfl
    | cons v rest => rfl

theorem mapM_describeScope_eq {m : Mapper} {scopes scopes' : List Finder}
    (h : List.Forall₂ (SeeAlike m.template.paths) scopes scopes') :
    scopes.mapM m.describeScope = scopes'.mapM m.describeScope := by
  induction h with
  | nil => rfl
  | cons hf _ ih => rw [List.mapM_cons, List.mapM_cons, describeScope_eq hf, ih]

/-- A document is described scope by scope. -/
theorem describe_eq_mapM {m : Mapper} {document : Json} {scopes : List Finder} (hdoc : document.isNull = false)
    (hscopes : m.AreScopes document scopes) :
    m.describe document = m.reportScopes scopes >>= fun _ => scopes.mapM m.describeScope := by
  unfold describe Finder.ofDocument
  rw [hdoc]
  show (pure (Finder.mk document document) >>= _) = _
  rw [pure_bind, scopes_eq hscopes, bind_assoc]
  simp only [pure_bind]

/-- Documents are described alike if they look alike, scope by scope. -/
theorem describe_eq {m : Mapper} {document document' : Json} {scopes scopes' : List Finder}
    (hdoc : document.isNull = false) (hdoc' : document'.isNull = false) (hscopes : m.AreScopes document scopes)
    (hscopes' : m.AreScopes document' scopes') (h : List.Forall₂ (SeeAlike m.template.paths) scopes scopes') :
    m.describe document = m.describe document' := by
  have hreports : m.reportScopes scopes = m.reportScopes scopes' := by
    unfold reportScopes
    cases h with
    | nil => rfl
    | cons _ _ => rfl
  rw [describe_eq_mapM hdoc hscopes, describe_eq_mapM hdoc' hscopes', hreports, mapM_describeScope_eq h]

/-- The scopes of a document all lie in that document. -/
theorem AreScopes.root {m : Mapper} {document : Json} {scopes : List Finder} (h : m.AreScopes document scopes)
    {f : Finder} (hf : f ∈ scopes) : f.root = document := by
  unfold AreScopes at h
  split at h
  · rw [h] at hf
    rw [List.mem_singleton.mp hf]
  · obtain ⟨found, _, rfl⟩ := h
    obtain ⟨v, _, rfl⟩ := List.mem_map.mp hf
    rfl

end Mapper

end

/-! ## The same description in many places -/

/-- A value that is no blank node is the same wherever it stands. -/
theorem Value.term_elsewhere {ν : Place → Nat} {p : Place} {v : Value} (h : ∀ n, v.term ν p ≠ .node (.blank n))
    (q : Place) : v.term ν q = v.term ν p := by
  cases v with
  | literal l => rfl
  | resource d =>
    have hid : d.identity ≠ .fresh := by
      intro hfresh
      exact h (ν p) (congrArg Term.node (Identity.nodeAt_eq_blank.mpr ⟨hfresh, rfl⟩))
    show Term.node (d.identity.nodeAt ν q) = Term.node (d.identity.nodeAt ν p)
    cases hd : d.identity with
    | iri s => rfl
    | fresh => exact absurd hd hid

/-- What a description says with a literal or an IRI, it says wherever it stands. -/
theorem Description.says_elsewhere {ν : Place → Nat} {p : Place} {d : Description} {predicate : String} {o : Term}
    (h : d.Says ν p ⟨d.node ν p, predicate, o⟩) (ho : ∀ n, o ≠ .node (.blank n)) (q : Place) :
    d.Says ν q ⟨d.node ν q, predicate, o⟩ := by
  rcases h with ⟨type, htype, heq⟩ | ⟨j, s, k, v, hs, hv, heq⟩
  · cases heq
    exact .inl ⟨type, htype, rfl⟩
  · cases heq
    exact .inr ⟨j, s, k, v, hs, hv, by rw [v.term_elsewhere ho (q ++ [0 + j, k])]⟩

theorem Triple.parts_of_same {t u : Triple} (h : t.same u = true) :
    t.subject = u.subject ∧ t.predicate = u.predicate ∧ t.object.folded = u.object.folded :=
  Triple.mk.inj (same_iff.mp h)

/-- If two descriptions of a list are the same, their resources have the same literals and IRIs. -/
theorem holds_of_same_description {ds : List Description} {d : Description} {i j : Nat} {a b : Node}
    {predicate : String} {o : Term} (hi : ds[i]? = some d) (hj : ds[j]? = some d)
    (ha : (emitAll 0 ds).value[i]? = some a) (hb : (emitAll 0 ds).value[j]? = some b)
    (ho : ∀ n, o ≠ .node (.blank n))
    (h : (({} : Graph).insertAll (emitAll 0 ds).triples).holds ⟨a, predicate, o⟩ = true) :
    (({} : Graph).insertAll (emitAll 0 ds).triples).holds ⟨b, predicate, o⟩ = true := by
  obtain ⟨e, hreads⟩ := exists_reads_emitAll ds 0
  have hinj := injective_numbers e 0
  generalize (fun p => 0 + e p) = ν at hreads hinj
  have hnode : ∀ {k : Nat} {c : Node}, ds[k]? = some d → (emitAll 0 ds).value[k]? = some c → c = d.node ν [k] := by
    intro k c hk hc
    rw [hreads.value_eq, nodesOfAll, List.getElem?_mapIdx, hk] at hc
    exact (Option.some.inj hc).symm
  have hpart : ∀ {k : Nat}, ds[k]? = some d → ([k], d) ∈ partsOfAll [] ds :=
    fun hk => mem_partsOfAll.mpr ⟨_, d, hk, d.self_mem_parts _⟩
  have ha := hnode hi ha
  have hb := hnode hj hb
  cases hid : d.identity with
  | iri s =>
    -- the two resources are one
    have hsame : a = b := by
      rw [ha, hb]
      unfold Description.node
      rw [hid]
      rfl
    rwa [← hsame]
  | fresh =>
    rw [Graph.holds_insertAll] at h ⊢
    rcases h with h | ⟨u, hu, hsame⟩
    · cases h
    · right
      obtain ⟨hsubject, hpredicate, hobject⟩ := Triple.parts_of_same hsame
      rw [hreads.mem_triples, or_false] at hu
      obtain ⟨⟨q, c⟩, hq, htold⟩ := hu
      -- only the description itself has its blank node as the subject
      have hblank : c.node ν q = .blank (ν [i]) := by
        rw [← htold.subject, ← hsubject, ha]
        exact Identity.nodeAt_eq_blank.mpr ⟨hid, rfl⟩
      cases hinj (Identity.nodeAt_eq_blank.mp hblank).2
      cases (distinct_partsOfAll [] ds).eq_of_place hq (hpart hi)
      have hplain : ∀ n, u.object ≠ .node (.blank n) := by
        intro n hn
        have heq := Triple.eq_of_same (Triple.same_symm hsame) hn
        exact ho n ((congrArg Triple.object heq).trans hn)
      have hu : u = ⟨d.node ν [i], predicate, u.object⟩ := by
        rw [← ha]
        exact (congrArg₂ (fun s p => Triple.mk s p u.object) hsubject hpredicate).symm
      rw [hu] at htold
      refine ⟨_, (hreads.mem_triples _).mpr (.inl ⟨_, hpart hj, Description.says_elsewhere htold hplain [j]⟩), ?_⟩
      rw [Triple.same_iff, hb]
      exact congrArg (Triple.mk _ _) hobject

namespace Mapper

/-! ## Mapping -/

section

variable [Library] {m : Mapper}

/-- Documents are mapped alike if they look alike, scope by scope. -/
theorem mapInto_eq {document document' : Json} {scopes scopes' : List Finder} (hdoc : document.isNull = false)
    (hdoc' : document'.isNull = false) (hscopes : m.AreScopes document scopes)
    (hscopes' : m.AreScopes document' scopes') (h : List.Forall₂ (SeeAlike m.template.paths) scopes scopes')
    (g : Graph) (next : Nat) : m.mapInto g next document = m.mapInto g next document' := by
  unfold mapInto
  rw [describe_eq hdoc hdoc' hscopes hscopes' h]

/-- Every subject comes from what is said of one of the scopes. -/
theorem exists_description_of_subject {scopes : List Finder} {ds : List Description} {next i : Nat} {a : Node}
    (h : m.DescribesAll scopes ds)
    (ha : (emitAll next ds).value[i]? = some a) :
    ∃ f ∈ scopes, ∃ d, ds[i]? = some d ∧ (m.describeScope f).outcome = .ok d := by
  obtain ⟨e, hreads⟩ := exists_reads_emitAll ds next
  rw [hreads.value_eq, nodesOfAll, List.getElem?_mapIdx] at ha
  obtain ⟨d, hd, _⟩ := Option.map_eq_some_iff.mp ha
  obtain ⟨f, hf, hdesc⟩ := h.exists_left hd
  exact ⟨f, List.mem_of_getElem? hf, d, hd, hdesc⟩

/-- **A mapping sees the document only through the paths of its template.** Two documents that have as many scopes, in
    each of which every path leads to the same texts or fails in the same way, are mapped in the same way. If no path
    but that of the scopes is followed from the whole document, this holds of documents with the same scope nodes. If
    all of them are, the same is said of all scopes, so that their subjects have the same literals and IRIs. -/
theorem mapInto_lookups (m : Mapper) :
    (∀ (document document' : Json) (scopes scopes' : List Finder) (g : Graph) (next : Nat),
      document.isNull = false → document'.isNull = false → m.AreScopes document scopes →
      m.AreScopes document' scopes' → List.Forall₂ (SeeAlike m.template.paths) scopes scopes' →
        m.mapInto g next document = m.mapInto g next document') ∧
    ((∀ p ∈ m.template.paths, ¬ FromRoot p) →
      ∀ (document document' : Json) (scopes scopes' : List Finder) (g : Graph) (next : Nat),
        document.isNull = false → document'.isNull = false → m.AreScopes document scopes →
        m.AreScopes document' scopes' → scopes.map (·.scope) = scopes'.map (·.scope) →
          m.mapInto g next document = m.mapInto g next document') ∧
    ((∀ p ∈ m.template.paths, FromRoot p) → ∀ (document : Json) (scopes : List Finder), m.AreScopes document scopes →
      (∀ f ∈ scopes, ∀ f' ∈ scopes, m.describeScope f = m.describeScope f') ∧
      ∀ r, (m.mapInto {} 0 document).outcome = .ok r → ∀ (i j : Nat) (a b : Node) (predicate : String) (o : Term),
        r.subjects[i]? = some a → r.subjects[j]? = some b → (∀ n, o ≠ .node (.blank n)) →
          (r.graph.holds ⟨a, predicate, o⟩ = true ↔ r.graph.holds ⟨b, predicate, o⟩ = true)) := by
  refine ⟨fun _ _ _ _ g next hdoc hdoc' hscopes hscopes' h => mapInto_eq hdoc hdoc' hscopes hscopes' h g next, ?_, ?_⟩
  · intro hpaths document document' scopes scopes' g next hdoc hdoc' hscopes hscopes' hnodes
    have hmaps : List.Forall₂ Eq (scopes.map (·.scope)) (scopes'.map (·.scope)) := by
      rw [hnodes]
      exact List.forall₂_refl _
    have hsame := List.forall₂_map_right_iff.mp (List.forall₂_map_left_iff.mp hmaps)
    have halike : List.Forall₂ (SeeAlike m.template.paths) scopes scopes' :=
      hsame.imp fun _ _ hscope p hp => values_eq_of_scope (hpaths p hp) hscope
    exact mapInto_eq hdoc hdoc' hscopes hscopes' halike g next
  · intro hpaths document scopes hscopes
    have hsame : ∀ f ∈ scopes, ∀ f' ∈ scopes, m.describeScope f = m.describeScope f' := by
      intro f hf f' hf'
      apply describeScope_eq
      intro p hp
      exact values_eq_of_root (hpaths p hp) ((hscopes.root hf).trans (hscopes.root hf').symm)
    refine ⟨hsame, ?_⟩
    intro r hr i j a b predicate o ha hb ho
    simp only [mapInto, Traced.outcome_bind, Outcome.bind_eq_ok] at hr
    obtain ⟨ds, hds, hr⟩ := hr
    cases hr
    obtain ⟨scopes', hscopes', hall⟩ := describe_eq_ok hds
    cases hscopes.unique hscopes'
    -- what is said of the two scopes is the same description
    obtain ⟨f, hf, d, hi, hd⟩ := exists_description_of_subject hall ha
    obtain ⟨f', hf', d', hj, hd'⟩ := exists_description_of_subject hall hb
    rw [hsame f hf f' hf', hd'] at hd
    cases hd
    exact ⟨holds_of_same_description hi hj ha hb ho, holds_of_same_description hj hi hb ha ho⟩

end

/-! ### Children and a path -/

/-- A mapper that makes a resource of every child of a document, with the text that a path leads to. -/
def ofPath (path : String) : Mapper :=
  ⟨{ scopePath := some "$[*]", properties := [("k", { predicate := "http://e/p", path := some path })] }, .ofTexts [],
    rfl⟩

theorem areScopes_ofPath (path : String) (document : Json) (found : List Json)
    (h : (JsonPath.select [.root, .children] document).map (fun spots => spots.map (·.value)) = some found) :
    (ofPath path).AreScopes document (found.map fun v => ⟨document, v⟩) := by
  have hpath : notBlank? (ofPath path).template.scopePath = some "$[*]" := by
    show notBlank? (some "$[*]") = _
    decide
  have htarget : (Finder.mk document document).target (Text.trim "$[*]") = (document, "$[*]") := by rfl
  unfold AreScopes
  rw [hpath]
  exact ⟨found, Finder.nodes_of_select htarget JsonPath.parse?_children h, rfl⟩

/-- A resource with one text. -/
def ofText (text : String) : Description :=
  .mk .fresh none [.mk "http://e/p" [.literal ⟨text, .plain⟩]]

/-- The text that the path leads to becomes a literal. -/
theorem describeScope_ofPath {path text : String} {f : Finder} (hvalues : f.values (some path) = .ok [text]) :
    ((ofPath path).describeScope f).outcome = .ok (ofText text) := by
  have hpredicate : (PrefixTable.ofTexts []).expand "http://e/p" = .ok (some "http://e/p") := rfl
  have hobjects : (objects (ofPath path).template (.ofTexts []) f maxDepth
      { predicate := "http://e/p", path := some path }).outcome = .ok [.literal ⟨text, .plain⟩] := by
    rw [objects_of_ne (fun h => by cases h)]
    unfold Property.terms Property.resolvedValues Property.baseValues
    simp only [hvalues]
    rfl
  have hsaid : (statements (.ofTexts []) (objects (ofPath path).template (.ofTexts []) f maxDepth)
      (ofPath path).template.properties).outcome = .ok [.mk "http://e/p" [.literal ⟨text, .plain⟩]] := by
    show (statements _ _ [("k", { predicate := "http://e/p", path := some path })]).outcome = _
    unfold statements statement
    simp only [Traced.outcome_bind, Traced.outcome_lift, hpredicate]
    show ((((objects _ _ f maxDepth _) >>= _).outcome) >>= _) = _
    rw [Traced.outcome_bind, hobjects]
    rfl
  have htemplate : (ofPath path).template.subject = {} := rfl
  have htable : (ofPath path).table = .ofTexts [] := rfl
  unfold describeScope
  rw [htemplate, htable]
  simp only [Traced.outcome_bind, hsaid]
  rfl

/-- If the path leads to the same text in every scope, all resources have that text. -/
theorem mapInto_ofPath {path text : String} {document : Json} {scopes : List Finder}
    (hdoc : document.isNull = false) (hscopes : (ofPath path).AreScopes document scopes)
    (hvalues : ∀ f ∈ scopes, f.values (some path) = .ok [text]) :
    ((ofPath path).mapInto {} 0 document).outcome =
      let e := emitAll 0 (scopes.map fun _ => ofText text)
      .ok ⟨({} : Graph).insertAll e.triples, e.value, e.next⟩ := by
  have hreports : ((ofPath path).reportScopes scopes).outcome = .ok () := by
    unfold reportScopes
    split
    · rfl
    · split
      · rfl
      · rfl
  have hmap : (scopes.mapM (ofPath path).describeScope).outcome = .ok (scopes.map fun _ => ofText text) := by
    rw [Traced.outcome_mapM, Outcome.mapM_eq_ok, List.forall₂_map_right_iff, List.forall₂_same]
    intro f hf
    exact describeScope_ofPath (hvalues f hf)
  unfold mapInto
  rw [describe_eq_mapM hdoc hscopes]
  simp only [Traced.outcome_bind, hreports]
  show (Traced.outcome _ >>= _) = _
  rw [hmap]
  rfl

/-- A path that is one dollar sign, once it is known where to start from, leads to where it starts from. -/
theorem values_of_target {path text : String} {f : Finder} {start : Json} (hblank : Text.isBlank path = false)
    (htarget : f.target (Text.trim path) = (start, "$")) (h : start.asText = some text) :
    f.values (some path) = .ok [text] := by
  have hnodes : f.nodes (Text.trim path) = .ok [start] :=
    Finder.nodes_of_select htarget JsonPath.parse?_root rfl
  unfold Finder.values
  dsimp only
  rw [hblank, hnodes]
  show Except.ok ([start].filterMap Json.asText) = _
  rw [List.filterMap_cons, h]
  rfl

/-- A path that is two dollar signs between blanks leads to the whole document, whatever the scope is. -/
theorem values_whole {path text : String} {f : Finder} (hblank : Text.isBlank path = false)
    (htrim : Text.trim path = "$$") (h : f.root.asText = some text) : f.values (some path) = .ok [text] := by
  apply values_of_target hblank _ h
  rw [htrim]
  rfl

/-- Lists of texts, and an object with a text as the value of its one member. -/
def listOf (texts : List String) : Json := .array (texts.map .text)

def memberOf (text : String) : Json := .object [("k", .text text)]

/-- Along a blank path all lists look alike; along a path from the scope a list and an object do that have the same
    member; and along a path from the whole document all members of a list do. -/
theorem mapInto_lookups_ofPath :
    (ofPath "").mapInto {} 0 (listOf ["a"]) = (ofPath "").mapInto {} 0 (listOf ["b"]) ∧
    (ofPath "$").mapInto {} 0 (listOf ["a"]) = (ofPath "$").mapInto {} 0 (memberOf "a") ∧
    ∃ r, ((ofPath "$$").mapInto {} 0 (listOf ["a", "b"])).outcome = .ok r ∧ r.subjects = [.blank 0, .blank 1] ∧
      ∀ o, (∀ n, o ≠ .node (.blank n)) →
        (r.graph.holds ⟨.blank 0, "http://e/p", o⟩ = true ↔ r.graph.holds ⟨.blank 1, "http://e/p", o⟩ = true) := by
  refine ⟨?_, ?_, ?_⟩
  · have hscopes := areScopes_ofPath "" (listOf ["a"]) [.text "a"] rfl
    have hscopes' := areScopes_ofPath "" (listOf ["b"]) [.text "b"] rfl
    refine (mapInto_lookups (ofPath "")).1 _ _ _ _ {} 0 rfl rfl hscopes hscopes' (.cons ?_ .nil)
    intro p hp
    cases List.mem_singleton.mp hp
    rfl
  · have hpaths : ∀ p ∈ (ofPath "$").template.paths, ¬ FromRoot p := by
      intro p hp hroot
      cases List.mem_singleton.mp hp
      obtain ⟨rest, hrest⟩ := hroot
      have htrim : (Text.trim "$").toList = ['$'] := by decide
      rw [htrim] at hrest
      cases hrest
    have hscopes := areScopes_ofPath "$" (listOf ["a"]) [.text "a"] rfl
    have hscopes' := areScopes_ofPath "$" (memberOf "a") [.text "a"] rfl
    exact (mapInto_lookups (ofPath "$")).2.1 hpaths _ _ _ _ {} 0 rfl rfl hscopes hscopes' rfl
  · have hpaths : ∀ p ∈ (ofPath "$$").template.paths, FromRoot p := by
      intro p hp
      cases List.mem_singleton.mp hp
      exact fromRoot_of_isPrefixOf rfl
    have hscopes := areScopes_ofPath "$$" (listOf ["a", "b"]) [.text "a", .text "b"] rfl
    have hmap := mapInto_ofPath rfl hscopes fun f hf => values_whole (by decide) (by decide)
      (h := (congrArg Json.asText (hscopes.root hf)).trans (by rfl : _ = some "[\"a\",\"b\"]"))
    refine ⟨_, hmap, rfl, ?_⟩
    intro o ho
    exact ((mapInto_lookups (ofPath "$$")).2.2 hpaths _ _ hscopes).2 _ hmap 0 1 _ _ _ o rfl rfl ho

/-- It matters that paths are trimmed before they are followed: a path that starts with a blank does not start with two
    dollar signs, and yet a list and an object with the same members are mapped differently along it. -/
theorem mapInto_sees_past_blank :
    (∀ p ∈ (ofPath " $$").template.paths, "$$".toList.isPrefixOf p.toList = false) ∧
    ∃ scopes scopes', (ofPath " $$").AreScopes (listOf ["a"]) scopes ∧
      (ofPath " $$").AreScopes (memberOf "a") scopes' ∧ scopes.map (·.scope) = scopes'.map (·.scope) ∧
      ((ofPath " $$").mapInto {} 0 (listOf ["a"])).outcome =
        .ok ⟨⟨[⟨.blank 0, "http://e/p", .literal ⟨"[\"a\"]", .plain⟩⟩]⟩, [.blank 0], 1⟩ ∧
      ((ofPath " $$").mapInto {} 0 (memberOf "a")).outcome =
        .ok ⟨⟨[⟨.blank 0, "http://e/p", .literal ⟨"\x7b\"k\":\"a\"\x7d", .plain⟩⟩]⟩, [.blank 0], 1⟩ ∧
      (ofPath " $$").mapInto {} 0 (listOf ["a"]) ≠ (ofPath " $$").mapInto {} 0 (memberOf "a") := by
  have hblank : Text.isBlank " $$" = false := by decide
  have htrim : Text.trim " $$" = "$$" := by decide
  have hscopes := areScopes_ofPath " $$" (listOf ["a"]) [.text "a"] rfl
  have hscopes' := areScopes_ofPath " $$" (memberOf "a") [.text "a"] rfl
  have hmap : ((ofPath " $$").mapInto {} 0 (listOf ["a"])).outcome =
      .ok ⟨⟨[⟨.blank 0, "http://e/p", .literal ⟨"[\"a\"]", .plain⟩⟩]⟩, [.blank 0], 1⟩ :=
    mapInto_ofPath rfl hscopes fun f hf => values_whole hblank htrim
      ((congrArg Json.asText (hscopes.root hf)).trans rfl)
  have hmap' : ((ofPath " $$").mapInto {} 0 (memberOf "a")).outcome =
      .ok ⟨⟨[⟨.blank 0, "http://e/p", .literal ⟨"\x7b\"k\":\"a\"\x7d", .plain⟩⟩]⟩, [.blank 0], 1⟩ :=
    mapInto_ofPath rfl hscopes' fun f hf => values_whole hblank htrim
      ((congrArg Json.asText (hscopes'.root hf)).trans rfl)
  refine ⟨?_, _, _, hscopes, hscopes', rfl, hmap, hmap', ?_⟩
  · intro p hp
    cases List.mem_singleton.mp hp
    decide
  · intro heq
    rw [heq, hmap'] at hmap
    simp at hmap

end Mapper

end GraphLift
