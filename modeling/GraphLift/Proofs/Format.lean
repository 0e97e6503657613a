import GraphLift.Library.Builtin
import GraphLift.Proofs.Number.Notation
import GraphLift.Proofs.Rdf.Graph
import GraphLift.Proofs.Turtle.Totality

/-! # Graphs that a format admits

    Whether a graph can be written in a format is told by the terms that it uses and by the prefixes that are bound.

    * **Turtle** wants IRIs without the characters that no written IRI may hold, and decimal numbers that can be put in order
      (`Turtle.Orderly`).
    * **RDF/XML** needs the prefix `rdf` for itself. The names that are made up for namespaces do not take it
      (`Namespaces.KeepsRdf.ensureStrict`), so that only a prefix table can (`PrefixTable.mayBind_of_bindTo`).
    * **JSON-LD** admits everything.
    * **The writers of the program** (`Format.failsOnly_write`) write what is admitted, or refuse a value of its own.
-/

namespace GraphLift

open Outcome

/-- The prefix stands for the namespace. -/
def Namespaces.Binds (ns : Namespaces) (name iri : String) : Prop :=
  (name, iri) ∈ ns.pairs

/-! ## Numbers in order -/

namespace Literal

/-- The datatype of decimal numbers. -/
def decimalType : String := xsdNamespace ++ "decimal"

/-- The datatypes that have a word for what is no number. -/
def wordTypes : List String := [decimalType, xsdNamespace ++ "double", xsdNamespace ++ "float"]

/-- The literal is of a datatype that has a word for what is no number, and the letter of that word is in its text. -/
def MayBeNoNumber (l : Literal) : Prop :=
  (∃ d ∈ wordTypes, l.annotation = .datatype d) ∧ HasLetterA l.text.toList

end Literal

/-- The terms can be written in Turtle: the IRIs hold no characters that are refused, and beside a decimal number there is
    nothing that is no number. The two would have to be put in order, where both are said of one subject. -/
structure Turtle.Orderly (terms : Term → Prop) : Prop where
  iris : ∀ s, terms (.node (.iri s)) → isWritable s = true
  numbers : ∀ a b, terms (.literal a) → terms (.literal b) → a.annotation = .datatype Literal.decimalType →
    ¬ b.MayBeNoNumber

/-! ## Formats -/

/-- What terms and prefixes have to keep to in a format. -/
def Format.Admits (format : Format) (terms : Term → Prop) (bound : String → String → Prop) : Prop :=
  match format with
  | .turtle => Turtle.Orderly terms
  | .rdfXml => ∀ iri, bound "rdf" iri → iri = RdfXml.rdfNamespace
  | .jsonLd => True

/-- What is admitted stays so with fewer terms, blank nodes apart, and fewer prefixes. -/
theorem Format.Admits.mono {format : Format} {terms terms' : Term → Prop} {bound bound' : String → String → Prop}
    (h : format.Admits terms bound) (hterms : ∀ x, terms' x → x.OrBlank terms)
    (hbound : ∀ name iri, bound' name iri → bound name iri) : format.Admits terms' bound' := by
  cases format with
  | turtle =>
    constructor
    · intro s hs
      exact h.iris s ((hterms _ hs).of_ne fun n => by simp)
    · intro a b ha hb
      exact h.numbers a b ((hterms _ ha).of_ne fun n => by simp) ((hterms _ hb).of_ne fun n => by simp)
  | rdfXml => exact fun iri hiri => h iri (hbound _ _ hiri)
  | jsonLd => trivial

/-! ## Prefix tables -/

theorem Namespaces.binds_of_bind {ns : Namespaces} {name iri name' iri' : String}
    (h : (ns.bind name iri).Binds name' iri') : ns.Binds name' iri' ∨ name' = name ∧ iri' = iri := by
  unfold bind at h
  split at h
  · exact .inl h
  · rcases List.mem_append.mp h with h | h
    · exact .inl (List.mem_filter.mp h).1
    · cases List.mem_singleton.mp h
      exact .inr ⟨rfl, rfl⟩

/-- A graph to which the table is bound can take the prefix for the namespace, from the start or by the table. -/
def PrefixTable.MayBind (table : PrefixTable) (name iri : String) : Prop :=
  Namespaces.standard.Binds name iri ∨ ∃ e ∈ table.entries, e.1.bound = .ok name ∧ e.2.label = iri

/-- Only the table brings prefixes in. -/
theorem PrefixTable.mayBind_of_bindTo {table : PrefixTable} {ns : Namespaces} (h : table.bindTo .standard = .ok ns)
    {name iri : String} (hbinds : ns.Binds name iri) : table.MayBind name iri := by
  refine foldlM_preserves (P := fun ns => ns.Binds name iri → table.MayBind name iri) ?_ .inl h hbinds
  intro e he ns next hns hnext hbinds
  obtain ⟨name', hname, hpure⟩ := bind_eq_ok.mp hnext
  cases pure_eq_ok.mp hpure
  -- the prefix was bound before, or this entry binds it
  rcases Namespaces.binds_of_bind hbinds with hbefore | ⟨rfl, rfl⟩
  · exact hns hbefore
  · exact .inr ⟨e, he, hname, rfl⟩

/-! ## Short names -/

/-- The prefix `rdf` does not stand for anything but the namespace of the names that RDF/XML needs itself. -/
def Namespaces.KeepsRdf (ns : Namespaces) : Prop :=
  ∀ iri, ns.Binds "rdf" iri → iri = RdfXml.rdfNamespace

namespace ShortName

variable {ns : Namespaces}

theorem mem_of_nameOf? {iri name : String} (h : ns.nameOf? iri = some name) : (name, iri) ∈ ns.pairs := by
  obtain ⟨p, hp, rfl⟩ := Option.map_eq_some_iff.mp h
  have hiri : p.2 = iri := by simpa using List.find?_some hp
  rw [← hiri]
  exact List.mem_of_find?_eq_some hp

theorem longer_eq_or (a b : String × String) : longer a b = a ∨ longer a b = b := by
  unfold longer
  split
  · exact .inr rfl
  · exact .inl rfl

theorem foldl_longer_mem (rest : List (String × String)) (p : String × String) :
    rest.foldl longer p ∈ p :: rest := by
  induction rest generalizing p with
  | nil => exact List.mem_cons_self
  | cons q rest ih =>
    rw [List.foldl_cons]
    rcases List.mem_cons.mp (ih (longer p q)) with h | h
    · rw [h]
      rcases longer_eq_or p q with h | h
      · rw [h]
        exact List.mem_cons_self
      · rw [h]
        exact List.mem_cons_of_mem _ List.mem_cons_self
    · exact List.mem_cons_of_mem _ (List.mem_cons_of_mem _ h)

theorem mem_of_longest? {base iri : String} {p : String × String} (h : longest? ns base iri = some p) :
    p ∈ ns.pairs := by
  unfold longest? at h
  split at h
  · cases h
  · next q rest hfilter =>
    cases h
    have hmem := foldl_longer_mem rest q
    rw [← hfilter] at hmem
    exact (List.mem_filter.mp hmem).1

/-- A short name has a prefix that is bound to its namespace. -/
theorem mem_of_of? {iri : String} {s : ShortName} (h : of? ns iri = some s) : (s.name, s.iri) ∈ ns.pairs := by
  have hwhole : (ns.nameOf? iri).map (⟨·, iri, ""⟩) = some s → (s.name, s.iri) ∈ ns.pairs := by
    intro hs
    obtain ⟨name, hname, rfl⟩ := Option.map_eq_some_iff.mp hs
    exact mem_of_nameOf? hname
  unfold of? at h
  dsimp only at h
  split at h
  · exact hwhole h
  · split at h
    · exact hwhole h
    · split at h
      · next hlongest =>
        cases h
        exact mem_of_longest? hlongest
      · exact hwhole h

/-- So does a short name with a strict local name. -/
theorem mem_of_strict {iri : String} {s : ShortName} (h : strict ns iri = .ok s) : (s.name, s.iri) ∈ ns.pairs := by
  unfold strict at h
  split at h
  · cases h
  · split at h
    · cases h
    · next s' hs' =>
      split at h
      · cases h
        exact mem_of_of? (Option.filter_eq_some_iff.mp hs').1
      · split at h
        · next t ht =>
          cases h
          obtain ⟨c, _, ht⟩ := Option.bind_eq_some_iff.mp ht
          obtain ⟨name, hname, rfl⟩ := Option.map_eq_some_iff.mp ht
          exact mem_of_nameOf? hname
        · cases h

/-! ## Names made up for namespaces -/

theorem freeName_ne_rdf (ns : Namespaces) (n room : Nat) : freeName ns n room ≠ "rdf" := by
  have hname : ∀ n : Nat, s!"ns{n}" ≠ "rdf" := by
    intro n h
    have hchars := congrArg (fun s => s.toList.head?) h
    rw [show s!"ns{n}" = "ns" ++ toString n from rfl, String.toList_append] at hchars
    exact absurd hchars (by simp)
  -- whatever number is tried, the name begins with another letter
  induction room generalizing n with
  | zero => exact hname n
  | succ room ih =>
    rw [freeName]
    split
    · exact ih (n + 1)
    · exact hname n

end ShortName

namespace Namespaces.KeepsRdf

variable {ns : Namespaces}

theorem bind (h : ns.KeepsRdf) {name iri : String} (hname : name = "rdf" → iri = RdfXml.rdfNamespace) :
    (ns.bind name iri).KeepsRdf := by
  intro other hother
  rcases Namespaces.binds_of_bind hother with hother | ⟨hrdf, rfl⟩
  · exact h other hother
  · exact hname hrdf.symm

theorem bind_freeName (h : ns.KeepsRdf) (base : String) :
    (ns.bind (ShortName.freeName ns 1 ns.pairs.length) base).KeepsRdf :=
  h.bind fun hname => absurd hname (ShortName.freeName_ne_rdf ns 1 ns.pairs.length)

theorem ensure (h : ns.KeepsRdf) (iri : String) : (ShortName.ensure ns iri).KeepsRdf := by
  unfold ShortName.ensure
  split
  · exact h
  · split
    · exact h
    · split
      · exact h
      · exact h.bind_freeName _

theorem ensureStrict (h : ns.KeepsRdf) (iri : String) : (ShortName.ensureStrict ns iri).KeepsRdf := by
  have hensured := h.ensure iri
  unfold ShortName.ensureStrict
  dsimp only
  split
  · split
    · exact hensured
    · exact hensured.bind_freeName _
  · exact hensured

theorem foldl_ensureStrict (h : ns.KeepsRdf) (predicates : List String) :
    (predicates.foldl ShortName.ensureStrict ns).KeepsRdf := by
  induction predicates generalizing ns with
  | nil => exact h
  | cons p rest ih => exact ih (h.ensureStrict p)

end Namespaces.KeepsRdf

/-! ## RDF/XML -/

/-- If the prefix `rdf` is kept, RDF/XML refuses a graph for a predicate only, which has no short name with a strict local
    name. -/
theorem RdfXml.failsOnly_write (g : Graph) {ns : Namespaces} (h : ns.KeepsRdf) :
    FailsOnly (fun e => ∃ cause, e = .value cause) (write g ns) := by
  -- prefixes are bound to all predicates before any of them gets its tag
  have hkept := h.foldl_ensureStrict (Turtle.distinct (g.triples.map (·.predicate)))
  unfold write
  dsimp only
  refine FailsOnly.bind ?_ fun tags htags => ?_
  · exact failsOnly_mapM fun p _ => (failsOnly_mapError (fun e => ⟨e, rfl⟩) _).bind fun _ _ => failsOnly_pure _
  · have htaken : ∀ t ∈ tags, t.2.name = "rdf" → t.2.iri = rdfNamespace := by
      intro t ht hname
      obtain ⟨i, hi⟩ := List.getElem?_of_mem ht
      obtain ⟨p, _, hp⟩ := (mapM_eq_ok.mp htags).exists_left hi
      obtain ⟨s, hs, hpure⟩ := bind_eq_ok.mp hp
      cases pure_eq_ok.mp hpure
      have hmem := ShortName.mem_of_strict (mapError_eq_ok.mp hs)
      rw [hname] at hmem
      exact hkept _ hmem
    have hany : tags.any (fun t => t.2.name = "rdf" && t.2.iri ≠ rdfNamespace) = false := by
      rw [List.any_eq_false]
      intro t ht
      simpa using htaken t ht
    rw [hany]
    exact failsOnly_pure _

/-! ## Turtle -/

/-- A value that has no size beside others is the word for what is no number. -/
theorem TypedValue.word_of_quantity? {w : TypedValue} (h : w.quantity? = some .undefined) :
    (∃ negative alarming payload, w = .decimal (.undefined negative alarming payload)) ∨ w = .double .undefined := by
  cases w with
  | decimal n =>
    cases n with
    | undefined negative alarming payload => exact .inl ⟨negative, alarming, payload, rfl⟩
    | finite d => cases h
    | infinite negative => cases h
  | double x =>
    cases x with
    | undefined => exact .inr rfl
    | number x => cases x <;> cases h
  | whole n => cases h
  | _ => cases h

namespace Datatype.Kind

variable {k : Kind} {s : String}

theorem eq_of_read?_decimal {n : Numeral} (h : k.read? s = some (.decimal n)) :
    k = .decimal ∧ Numeral.readDecimal? s = some n := by
  cases k with
  | decimal => exact ⟨rfl, by simpa [read?] using h⟩
  | _ => simp [read?] at h

theorem eq_of_read?_double {x : Double} (h : k.read? s = some (.double x)) :
    (k = .double ∨ k = .single) ∧ Double.read? s = some x := by
  cases k with
  | double => exact ⟨.inl rfl, by simpa [read?] using h⟩
  | single => exact ⟨.inr rfl, by simpa [read?] using h⟩
  | _ => simp [read?] at h

end Datatype.Kind

namespace Literal

variable {a b l : Literal}

theorem annotation_of_kind? {k : Datatype.Kind} (h : l.kind? = some k) :
    ∃ name, (name, k) ∈ Datatype.kinds ∧ l.annotation = .datatype (xsdNamespace ++ name) := by
  unfold kind? at h
  split at h
  · next d hd =>
    obtain ⟨p, hp, rfl⟩ := Option.map_eq_some_iff.mp h
    have hname : xsdNamespace ++ p.1 = d := by simpa using List.find?_some hp
    exact ⟨p.1, List.mem_of_find?_eq_some hp, by rw [hd, hname]⟩
  · cases h

theorem annotation_of_isDecimal {v : TypedValue} (hv : l.value? = some v) (hdecimal : v.isDecimal = true) :
    l.annotation = .datatype decimalType := by
  obtain ⟨k, hk, hread⟩ := Option.bind_eq_some_iff.mp hv
  cases v with
  | decimal n =>
    obtain ⟨name, hname, htype⟩ := annotation_of_kind? hk
    rw [(Datatype.Kind.eq_of_read?_decimal hread).1] at hname
    -- whole numbers are of many datatypes, decimal ones of this datatype alone
    have honly : ∀ p ∈ Datatype.kinds, p.2 = .decimal → p.1 = "decimal" := by decide
    have hlocal : name = "decimal" := honly _ hname rfl
    rw [htype, hlocal]
    rfl
  | _ => cases hdecimal

/-- A literal whose value is no number is of a datatype that has a word for that, and holds its letter. -/
theorem mayBeNoNumber_of_quantity? {w : TypedValue} (hw : l.value? = some w) (hnone : w.quantity? = some .undefined) :
    l.MayBeNoNumber := by
  have hword : ∀ p ∈ Datatype.kinds, p.2 = .decimal ∨ p.2 = .double ∨ p.2 = .single →
      xsdNamespace ++ p.1 ∈ wordTypes := by decide
  obtain ⟨k, hk, hread⟩ := Option.bind_eq_some_iff.mp hw
  obtain ⟨name, hname, htype⟩ := annotation_of_kind? hk
  rcases TypedValue.word_of_quantity? hnone with ⟨negative, alarming, payload, rfl⟩ | rfl
  · obtain ⟨rfl, htext⟩ := Datatype.Kind.eq_of_read?_decimal hread
    exact ⟨⟨_, hword _ hname (.inl rfl), htype⟩, Numeral.hasLetterA_of_readDecimal? htext⟩
  · obtain ⟨hkind, htext⟩ := Datatype.Kind.eq_of_read?_double hread
    exact ⟨⟨_, hword _ hname (.inr hkind), htype⟩, Double.hasLetterA_of_read? htext⟩

theorem orderedBeside_of_not (h : a.annotation = .datatype decimalType → ¬ b.MayBeNoNumber) : a.OrderedBeside b := by
  intro v w hv hw hdecimal hnone
  exact h (annotation_of_isDecimal hv hdecimal) (mayBeNoNumber_of_quantity? hw hnone)

end Literal

/-- A graph of orderly terms only is writable. -/
theorem Turtle.Orderly.areWritable {g : Graph} (h : Orderly g.Uses) : AreWritable g.triples where
  triples t ht := by
    have hnode : ∀ n : Node, g.Uses (.node n) → n.IsWritable := by
      intro n hn
      cases n with
      | iri s => exact h.iris s hn
      | blank n => trivial
    refine ⟨hnode _ ⟨t, ht, .subject⟩, h.iris _ ⟨t, ht, .predicate⟩, ?_⟩
    cases hobject : t.object with
    | node n => exact hnode n ⟨t, ht, hobject ▸ .object⟩
    | literal l => trivial
  literals t ht u hu _ _ a b ha hb :=
    Literal.orderedBeside_of_not (h.numbers a b ⟨t, ht, ha ▸ .object⟩ ⟨u, hu, hb ▸ .object⟩)

/-! ## The writers of the program -/

/-- A graph that is admitted is written, or it is refused for a value of its own. -/
theorem Format.failsOnly_write {format : Format} {g : Graph} {ns : Namespaces}
    (h : format.Admits g.Uses ns.Binds) : FailsOnly (fun e => ∃ cause, e = .value cause) (format.write g ns) := by
  cases format with
  | turtle =>
    obtain ⟨text, htext⟩ := Turtle.succeeds_write h.areWritable ns
    rw [write, htext]
    exact failsOnly_ok text
  | rdfXml => exact RdfXml.failsOnly_write g h
  | jsonLd => exact failsOnly_ok _

end GraphLift
