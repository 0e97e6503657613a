import GraphLift.Report.Traced
import Mathlib.Data.List.Forall2
import Mathlib.Data.List.Perm.Basic

/-! # Outcomes of runs

    What comes out of a sequence of runs, read backwards: a sequence comes out well exactly if all of its
    parts do.

    * **`bind_eq_ok`** takes a sequence of two runs apart.
    * **`mapM_eq_ok`** takes a run along a list apart: its results stand to the members of the list one by one.
    * **`foldlM_preserves`** takes an invariant of the steps through a run along a list.
    * **`Succeeds`** says that a run comes out well, whatever its value is, and is put together from its parts.
      **`Yields`** adds what is known of the value.
    * **`FailsOnly`** says what a run can fail with, if it does.
    * **`Agree`** compares two runs: both fail, or both come out well with values that stand to each other.
-/

namespace GraphLift

namespace Outcome

variable {ε α β : Type}

/-- A sequence comes out well if its first run does and its second run does with the value of the first. -/
theorem bind_eq_ok {x : Except ε α} {f : α → Except ε β} {b : β} :
    x >>= f = .ok b ↔ ∃ a, x = .ok a ∧ f a = .ok b := by
  cases x with
  | error e => simp [bind, Except.bind]
  | ok a => simp [bind, Except.bind]

/-- A sequence fails if its first run does, or if that gives a value with which its second run does. -/
theorem bind_eq_error {x : Except ε α} {f : α → Except ε β} {e : ε} :
    x >>= f = .error e ↔ x = .error e ∨ ∃ a, x = .ok a ∧ f a = .error e := by
  cases x with
  | error e' => simp [bind, Except.bind]
  | ok a => simp [bind, Except.bind]

/-- What comes out of a run with its value changed. -/
theorem map_eq_ok {x : Except ε α} {f : α → β} {b : β} :
    x.map f = .ok b ↔ ∃ a, x = .ok a ∧ f a = b := by
  cases x with
  | error e => simp [Except.map]
  | ok a => simp [Except.map]

/-- A failure that is changed stays a failure. -/
theorem mapError_eq_ok {ε' : Type} {x : Except ε α} {f : ε → ε'} {a : α} : x.mapError f = .ok a ↔ x = .ok a := by
  cases x with
  | error e => simp [Except.mapError]
  | ok a' => simp [Except.mapError]

@[simp] theorem pure_eq_ok {a b : α} : (pure a : Except ε α) = .ok b ↔ a = b := by
  simp [pure, Except.pure]

/-- A run along a list comes out well if it does for every member. -/
theorem mapM_eq_ok {f : α → Except ε β} {l : List α} {r : List β} :
    l.mapM f = .ok r ↔ List.Forall₂ (fun a b => f a = .ok b) l r := by
  induction l generalizing r with
  | nil =>
    rw [List.mapM_nil, List.forall₂_nil_left_iff, pure_eq_ok]
    exact eq_comm
  | cons a l ih =>
    rw [List.mapM_cons, bind_eq_ok, List.forall₂_cons_left_iff]
    constructor
    · intro h
      obtain ⟨b, hb, h⟩ := h
      obtain ⟨bs, hbs, h⟩ := bind_eq_ok.mp h
      exact ⟨b, bs, hb, ih.mp hbs, (pure_eq_ok.mp h).symm⟩
    · intro h
      obtain ⟨b, bs, hb, hbs, rfl⟩ := h
      exact ⟨b, hb, bind_eq_ok.mpr ⟨bs, ih.mpr hbs, rfl⟩⟩

/-- A run that goes through a list fails at one of the members. -/
theorem exists_of_foldlM_eq_error {f : β → α → Except ε β} {l : List α} {b : β} {e : ε}
    (h : l.foldlM f b = .error e) : ∃ a ∈ l, ∃ b', f b' a = .error e := by
  induction l generalizing b with
  | nil => cases h
  | cons a l ih =>
    rw [List.foldlM_cons] at h
    rcases bind_eq_error.mp h with h | ⟨b', _, h⟩
    · exact ⟨a, List.mem_cons_self, b, h⟩
    · obtain ⟨a', ha', h⟩ := ih h
      exact ⟨a', List.mem_cons_of_mem _ ha', h⟩

/-- What every step of a run through a list preserves holds of what comes out of the run. -/
theorem foldlM_preserves {P : β → Prop} {f : β → α → Except ε β} {l : List α}
    (hstep : ∀ a ∈ l, ∀ b c, P b → f b a = .ok c → P c) {b c : β} (hb : P b) (h : l.foldlM f b = .ok c) : P c := by
  induction l generalizing b with
  | nil =>
    cases h
    exact hb
  | cons a l ih =>
    rw [List.foldlM_cons] at h
    obtain ⟨b', hb', h⟩ := bind_eq_ok.mp h
    have hrest : ∀ a' ∈ l, ∀ b c, P b → f b a' = .ok c → P c := fun a' ha' => hstep a' (List.mem_cons_of_mem _ ha')
    exact ih hrest (hstep a List.mem_cons_self b b' hb hb') h

/-- Runs through a list are the same if they are at each of its members. -/
theorem foldlM_congr {f g : β → α → Except ε β} {l : List α} (h : ∀ a ∈ l, ∀ b, f b a = g b a) {b : β} :
    l.foldlM f b = l.foldlM g b := by
  induction l generalizing b with
  | nil => rfl
  | cons a l ih =>
    rw [List.foldlM_cons, List.foldlM_cons, h a List.mem_cons_self]
    congr 1
    funext b'
    exact ih fun a' ha' => h a' (List.mem_cons_of_mem _ ha')

/-- A run through a list in which nothing depends on what came before, but the values are put together, is a run along
    the list of which the values are put together afterwards. -/
theorem foldlM_map {f : α → Except ε β} {γ : Type} {g : γ → β → γ} (l : List α) (c : γ) :
    l.foldlM (fun d a => (f a).map (g d)) c = (l.mapM f).map fun bs => bs.foldl g c := by
  induction l generalizing c with
  | nil => rfl
  | cons a l ih =>
    -- the rest is run with other values put together, and comes out well or not regardless
    rw [List.foldlM_cons, List.mapM_cons]
    cases f a with
    | error e => rfl
    | ok b =>
      show l.foldlM (fun d a => (f a).map (g d)) (g c b) = (l.mapM f >>= fun bs => pure (b :: bs)).map _
      rw [ih]
      cases l.mapM f with
      | error e => rfl
      | ok bs => rfl

/-! ## Success -/

/-- The run comes out well. -/
def Succeeds (x : Except ε α) : Prop :=
  ∃ a, x = .ok a

theorem succeeds_ok (a : α) : Succeeds (.ok a : Except ε α) :=
  ⟨a, rfl⟩

theorem succeeds_pure (a : α) : Succeeds (pure a : Except ε α) :=
  ⟨a, rfl⟩

/-- A sequence comes out well if its first run does and its second run does with every value the first may have. -/
theorem Succeeds.bind {x : Except ε α} {f : α → Except ε β} (hx : Succeeds x)
    (hf : ∀ a, x = .ok a → Succeeds (f a)) : Succeeds (x >>= f) := by
  obtain ⟨a, ha⟩ := hx
  obtain ⟨b, hb⟩ := hf a ha
  exact ⟨b, bind_eq_ok.mpr ⟨a, ha, hb⟩⟩

theorem Succeeds.map {x : Except ε α} {f : α → β} (hx : Succeeds x) : Succeeds (x.map f) := by
  obtain ⟨a, ha⟩ := hx
  exact ⟨f a, map_eq_ok.mpr ⟨a, ha, rfl⟩⟩

/-- A sequence comes out well if both of its runs do, when for the second one it does not matter which value the first
    one has. -/
theorem succeeds_bind_iff {x : Except ε α} {f : α → Except ε β} {P : Prop}
    (h : ∀ a, x = .ok a → (Succeeds (f a) ↔ P)) : Succeeds (x >>= f) ↔ Succeeds x ∧ P := by
  constructor
  · intro hbind
    obtain ⟨b, hb⟩ := hbind
    obtain ⟨a, ha, hb⟩ := bind_eq_ok.mp hb
    exact ⟨⟨a, ha⟩, (h a ha).mp ⟨b, hb⟩⟩
  · intro hboth
    obtain ⟨hx, hP⟩ := hboth
    exact hx.bind fun a ha => (h a ha).mpr hP

theorem not_succeeds_error (e : ε) : ¬ Succeeds (.error e : Except ε α) := by
  intro h
  obtain ⟨_, h⟩ := h
  cases h

/-- A run along a list comes out well if and only if it does for every member. -/
theorem succeeds_mapM_iff {f : α → Except ε β} {l : List α} : Succeeds (l.mapM f) ↔ ∀ a ∈ l, Succeeds (f a) := by
  induction l with
  | nil => simp [succeeds_pure]
  | cons a l ih =>
    rw [List.mapM_cons, List.forall_mem_cons]
    refine succeeds_bind_iff fun b _ => ?_
    refine (succeeds_bind_iff fun bs _ => iff_true_intro (succeeds_pure _)).trans ?_
    rw [ih, and_true]

theorem succeeds_mapM {f : α → Except ε β} {l : List α} (h : ∀ a ∈ l, Succeeds (f a)) : Succeeds (l.mapM f) :=
  succeeds_mapM_iff.mpr h

/-- The run comes out well, with a value of a certain kind. -/
def Yields (Q : α → Prop) (x : Except ε α) : Prop :=
  ∃ a, x = .ok a ∧ Q a

theorem yields_ok {Q : α → Prop} {a : α} (h : Q a) : Yields Q (.ok a : Except ε α) :=
  ⟨a, rfl, h⟩

/-- A sequence yields what its second run does with every value of the kind that the first one yields. -/
theorem Yields.bind {Q : α → Prop} {R : β → Prop} {x : Except ε α} {f : α → Except ε β} (hx : Yields Q x)
    (hf : ∀ a, Q a → Yields R (f a)) : Yields R (x >>= f) := by
  obtain ⟨a, rfl, ha⟩ := hx
  exact hf a ha

theorem Succeeds.yields {x : Except ε α} (h : Succeeds x) : Yields (fun _ => True) x := by
  obtain ⟨a, ha⟩ := h
  exact ⟨a, ha, trivial⟩

/-- A run along a list yields values of a certain kind if it does so for every member. -/
theorem yields_mapM {Q : β → Prop} {f : α → Except ε β} {l : List α} (h : ∀ a ∈ l, Yields Q (f a)) :
    Yields (fun bs => ∀ b ∈ bs, Q b) (l.mapM f) := by
  induction l with
  | nil => exact yields_ok fun b hb => absurd hb List.not_mem_nil
  | cons a l ih =>
    rw [List.mapM_cons]
    refine (h a List.mem_cons_self).bind fun b hb => ?_
    refine (ih fun a' ha' => h a' (List.mem_cons_of_mem _ ha')).bind fun bs hbs => ?_
    exact yields_ok (List.forall_mem_cons.mpr ⟨hb, hbs⟩)

/-! ## Failures -/

/-- All that the run can fail with is of a certain kind. -/
def FailsOnly (P : ε → Prop) (x : Except ε α) : Prop :=
  ∀ e, x = .error e → P e

variable {P : ε → Prop}

theorem failsOnly_ok (a : α) : FailsOnly P (.ok a : Except ε α) := by
  intro e he
  cases he

theorem failsOnly_pure (a : α) : FailsOnly P (pure a : Except ε α) :=
  failsOnly_ok a

theorem failsOnly_error {e : ε} (h : P e) : FailsOnly P (.error e : Except ε α) := by
  intro e' he
  cases he
  exact h

/-- A sequence fails only as its runs do. -/
theorem FailsOnly.bind {x : Except ε α} {f : α → Except ε β} (hx : FailsOnly P x)
    (hf : ∀ a, x = .ok a → FailsOnly P (f a)) : FailsOnly P (x >>= f) := by
  intro e he
  rcases bind_eq_error.mp he with he | ⟨a, ha, he⟩
  · exact hx e he
  · exact hf a ha e he

theorem FailsOnly.map {x : Except ε α} {f : α → β} (hx : FailsOnly P x) : FailsOnly P (x.map f) := by
  intro e he
  cases x with
  | error e' =>
    cases he
    exact hx e rfl
  | ok a => cases he

theorem FailsOnly.imp {Q : ε → Prop} {x : Except ε α} (hx : FailsOnly P x) (hPQ : ∀ e, P e → Q e) : FailsOnly Q x :=
  fun e he => hPQ e (hx e he)

theorem failsOnly_mapError {ε' : Type} {P : ε' → Prop} {f : ε → ε'} (h : ∀ e, P (f e)) (x : Except ε α) :
    FailsOnly P (x.mapError f) := by
  cases x with
  | error e => exact failsOnly_error (h e)
  | ok a => exact failsOnly_ok a

/-- A run along a list fails only as it does at its members. -/
theorem failsOnly_mapM {f : α → Except ε β} {l : List α} (h : ∀ a ∈ l, FailsOnly P (f a)) :
    FailsOnly P (l.mapM f) := by
  induction l with
  | nil => exact failsOnly_pure []
  | cons a l ih =>
    rw [List.mapM_cons]
    refine (h a List.mem_cons_self).bind fun b _ => ?_
    exact (ih fun a' ha' => h a' (List.mem_cons_of_mem _ ha')).bind fun bs _ => failsOnly_pure _

/-! ## Agreement -/

/-- Two runs agree: both fail, or both come out well, with values that stand to each other. -/
inductive Agree (R : α → β → Prop) : Except ε α → Except ε β → Prop where
  | ok {a : α} {b : β} (h : R a b) : Agree R (.ok a) (.ok b)
  | error (e e' : ε) : Agree R (.error e) (.error e')

variable {γ δ : Type}

theorem Agree.refl {R : α → α → Prop} (h : ∀ a, R a a) (x : Except ε α) : Agree R x x := by
  cases x with
  | ok a => exact .ok (h a)
  | error e => exact .error e e

/-- What holds of the value of the first run may be added to what the values have to do with each other. -/
theorem Agree.and_left {R : α → β → Prop} {P : α → Prop} {x : Except ε α} {y : Except ε β} (h : Agree R x y)
    (hP : ∀ a, x = .ok a → P a) : Agree (fun a b => R a b ∧ P a) x y := by
  cases h with
  | ok h => exact .ok ⟨h, hP _ rfl⟩
  | error e e' => exact .error e e'

theorem Agree.map {R : α → β → Prop} {S : γ → δ → Prop} {x : Except ε α} {y : Except ε β} {f : α → γ} {g : β → δ}
    (h : Agree R x y) (hfg : ∀ a b, R a b → S (f a) (g b)) : Agree S (x.map f) (y.map g) := by
  cases h with
  | ok h => exact .ok (hfg _ _ h)
  | error e e' => exact .error e e'

theorem Agree.mapError {ε' : Type} {R : α → β → Prop} {x : Except ε α} {y : Except ε β} {f : ε → ε'}
    (h : Agree R x y) : Agree R (x.mapError f) (y.mapError f) := by
  cases h with
  | ok h => exact .ok h
  | error e e' => exact .error _ _

theorem Agree.bind {R : α → β → Prop} {S : γ → δ → Prop} {x : Except ε α} {y : Except ε β} {f : α → Except ε γ}
    {g : β → Except ε δ} (h : Agree R x y) (hfg : ∀ a b, R a b → Agree S (f a) (g b)) :
    Agree S (x >>= f) (y >>= g) := by
  cases h with
  | ok h => exact hfg _ _ h
  | error e e' => exact .error e e'

/-- Two runs agree if they are the same run followed by runs that agree. -/
theorem Agree.bind_same {S : γ → δ → Prop} {x : Except ε α} {f : α → Except ε γ} {g : α → Except ε δ}
    (hfg : ∀ a, x = .ok a → Agree S (f a) (g a)) : Agree S (x >>= f) (x >>= g) := by
  cases x with
  | ok a => exact hfg a rfl
  | error e => exact .error e e

theorem Agree.trans {R : α → β → Prop} {S : β → γ → Prop} {T : α → γ → Prop} {x : Except ε α} {y : Except ε β}
    {z : Except ε γ} (h : Agree R x y) (h' : Agree S y z) (hcomp : ∀ a b c, R a b → S b c → T a c) :
    Agree T x z := by
  cases h with
  | ok h =>
    cases h' with
    | ok h' => exact .ok (hcomp _ _ _ h h')
  | error e e' =>
    cases h' with
    | error _ e'' => exact .error e e''

/-- Of two runs that agree, the one comes out well if the other does. -/
theorem Agree.succeeds_iff {R : α → β → Prop} {x : Except ε α} {y : Except ε β} (h : Agree R x y) :
    Succeeds x ↔ Succeeds y := by
  cases h with
  | ok h => exact ⟨fun _ => succeeds_ok _, fun _ => succeeds_ok _⟩
  | error e e' =>
    constructor
    · intro h
      obtain ⟨_, h⟩ := h
      cases h
    · intro h
      obtain ⟨_, h⟩ := h
      cases h

theorem Agree.rel {R : α → β → Prop} {a : α} {b : β} (h : Agree R (.ok a : Except ε α) (.ok b)) : R a b := by
  cases h with
  | ok h => exact h

/-- Runs along lists agree if they do at members that stand to each other. -/
theorem agree_mapM {R : α → β → Prop} {S : γ → δ → Prop} {f : α → Except ε γ} {g : β → Except ε δ} {l : List α}
    {r : List β} (h : List.Forall₂ R l r) (hfg : ∀ a b, R a b → Agree S (f a) (g b)) :
    Agree (List.Forall₂ S) (l.mapM f) (r.mapM g) := by
  induction h with
  | nil => exact .ok .nil
  | cons hab _ ih =>
    rw [List.mapM_cons, List.mapM_cons]
    refine (hfg _ _ hab).bind fun c d hcd => ?_
    exact ih.bind fun cs ds hcds => .ok (.cons hcd hcds)

/-- Runs along one list agree if they do at each of its members. -/
theorem agree_mapM_same {S : γ → δ → Prop} {f : α → Except ε γ} {g : α → Except ε δ} (l : List α)
    (hfg : ∀ a, Agree S (f a) (g a)) : Agree (List.Forall₂ S) (l.mapM f) (l.mapM g) := by
  refine agree_mapM (R := Eq) (List.forall₂_same.mpr fun a _ => rfl) ?_
  intro a b hab
  subst hab
  exact hfg a

/-- The run along a list in another order agrees with that in its order: it gives the same values in another order. -/
theorem agree_mapM_perm {f : α → Except ε β} {l r : List α} (h : l.Perm r) :
    Agree List.Perm (l.mapM f) (r.mapM f) := by
  induction h with
  | nil => exact .ok .nil
  | cons a _ ih =>
    rw [List.mapM_cons, List.mapM_cons]
    exact Agree.bind_same fun b _ => ih.bind fun bs bs' hbs => .ok (hbs.cons b)
  | swap a b l =>
    -- whichever of the two runs fails first, the sequence fails
    simp only [List.mapM_cons]
    cases f a with
    | error e =>
      cases f b with
      | error e' => exact .error _ _
      | ok c => exact .error _ _
    | ok c =>
      cases f b with
      | error e' => exact .error _ _
      | ok d =>
        cases l.mapM f with
        | error e' => exact .error _ _
        | ok cs => exact .ok (.swap _ _ _)
  | trans _ _ ih ih' => exact ih.trans ih' fun _ _ _ => .trans

end Outcome

namespace Traced

variable {α β : Type}

@[simp] theorem outcome_throw (e : Failure) : (throw e : Traced α).outcome = .error e := rfl

@[simp] theorem outcome_report (e : Event) : (report e).outcome = .ok () := rfl

/-- The outcome of a run along a list is the run of the outcomes along it. -/
@[simp] theorem outcome_mapM (f : α → Traced β) (l : List α) :
    (l.mapM f).outcome = l.mapM fun a => (f a).outcome := by
  induction l with
  | nil => rfl
  | cons a l ih =>
    simp only [List.mapM_cons, outcome_bind, ih, outcome_pure]
    rfl

/-- The outcome of a run through a list is the run of the outcomes through it. -/
theorem outcome_foldlM (f : β → α → Traced β) (l : List α) (b : β) :
    (l.foldlM f b).outcome = l.foldlM (fun c a => (f c a).outcome) b := by
  induction l generalizing b with
  | nil => rfl
  | cons a l ih => simp only [List.foldlM_cons, outcome_bind, ih]

end Traced

end GraphLift

/-! ## Lists that stand to each other member by member -/

namespace List.Forall₂

variable {α β : Type} {R : α → β → Prop} {l : List α} {r : List β}

/-- The partner of a member on the right. -/
theorem exists_left (h : List.Forall₂ R l r) {i : Nat} {b : β} (hb : r[i]? = some b) :
    ∃ a, l[i]? = some a ∧ R a b := by
  obtain ⟨hlen, hget⟩ := List.forall₂_iff_get.mp h
  obtain ⟨hi, rfl⟩ := List.getElem?_eq_some_iff.mp hb
  have hi' : i < l.length := by omega
  exact ⟨l[i], List.getElem?_eq_getElem hi', hget i hi' hi⟩

/-- The partner of a member on the left. -/
theorem exists_right (h : List.Forall₂ R l r) {i : Nat} {a : α} (ha : l[i]? = some a) :
    ∃ b, r[i]? = some b ∧ R a b :=
  exists_left h.flip ha

/-- Lists have the same values, member by member, if members that stand to each other have the same value. -/
theorem map_eq {γ : Type} {u : α → γ} {v : β → γ} (h : List.Forall₂ R l r) (huv : ∀ a b, R a b → u a = v b) :
    l.map u = r.map v := by
  induction h with
  | nil => rfl
  | cons hab _ ih => rw [List.map_cons, List.map_cons, ih, huv _ _ hab]

/-- Lists keep the same values, if members that stand to each other give the same value or none. -/
theorem filterMap_eq {γ : Type} {u : α → Option γ} {v : β → Option γ} (h : List.Forall₂ R l r)
    (huv : ∀ a b, R a b → u a = v b) : l.filterMap u = r.filterMap v := by
  induction h with
  | nil => rfl
  | cons hab _ ih => rw [List.filterMap_cons, List.filterMap_cons, ih, huv _ _ hab]

/-- Something that stands between all partners stands between the lists. -/
theorem exists_between {γ : Type} {S : α → γ → Prop} {T : β → γ → Prop} (h : List.Forall₂ R l r)
    (hST : ∀ a b, R a b → ∃ c, S a c ∧ T b c) : ∃ m, List.Forall₂ S l m ∧ List.Forall₂ T r m := by
  induction h with
  | nil => exact ⟨[], .nil, .nil⟩
  | cons hab _ ih =>
    obtain ⟨c, hS, hT⟩ := hST _ _ hab
    obtain ⟨m, hl, hr⟩ := ih
    exact ⟨c :: m, .cons hS hl, .cons hT hr⟩

/-- Lists that stand to each other by way of a list between them. -/
theorem comp {γ : Type} {S : β → γ → Prop} {T : α → γ → Prop} {m : List γ} (h : List.Forall₂ R l r)
    (h' : List.Forall₂ S r m) (hT : ∀ a b c, R a b → S b c → T a c) : List.Forall₂ T l m := by
  induction h generalizing m with
  | nil =>
    cases h'
    exact .nil
  | cons hab _ ih =>
    cases h' with
    | cons hbc h' => exact .cons (hT _ _ _ hab hbc) (ih h')

/-- What stands to those members of a list that have a value falls into groups, one for each member: a single one if it
    has a value, and none otherwise. -/
theorem exists_groups {γ : Type} {u : γ → Option α} {m : List γ} (h : List.Forall₂ R (m.filterMap u) r) :
    ∃ groups : List (List β), r = groups.flatten ∧
      List.Forall₂ (fun c group => (u c).elim (group = []) fun a => ∃ b, R a b ∧ group = [b]) m groups := by
  induction m generalizing r with
  | nil =>
    cases h
    exact ⟨[], rfl, .nil⟩
  | cons c m ih =>
    cases hc : u c with
    | none =>
      rw [List.filterMap_cons_none hc] at h
      obtain ⟨groups, rfl, hgroups⟩ := ih h
      exact ⟨[] :: groups, rfl, .cons (by rw [hc]; rfl) hgroups⟩
    | some a =>
      rw [List.filterMap_cons_some hc] at h
      obtain ⟨b, r, hab, hr, rfl⟩ := List.forall₂_cons_left_iff.mp h
      obtain ⟨groups, rfl, hgroups⟩ := ih hr
      exact ⟨[b] :: groups, rfl, .cons (by rw [hc]; exact ⟨b, hab, rfl⟩) hgroups⟩

end List.Forall₂
