import GraphLift.Proofs.Outcome
import Mathlib.Data.List.Forall2
import Mathlib.Data.List.Perm.Basic
import Mathlib.Logic.Equiv.Basic

/-! # Rearranged lists

    A list is rearranged into another one if its members come in another order there, each replaced by one that it
    stands to.

    * **Places** (`Rearranged.exists_places`): a permutation of the numbers takes the place of every member to that of
      the one that replaces it.
    * **Runs** (`agree_mapM_rearranged`) along the two lists agree if they do at members that stand to each other.
-/

namespace GraphLift

variable {α β γ : Type} {R : α → β → Prop}

/-- The members of the one list stand to those of the other, which come in any order. -/
def Rearranged (R : α → β → Prop) (l : List α) (r : List β) : Prop :=
  ∃ middle, l.Perm middle ∧ List.Forall₂ R middle r

/-! ## Members that stand to each other -/

/-- Two optional members have the same value, if they are there together and stand to each other. -/
theorem map_eq_of_rel {x : Option α} {y : Option β} (h : Option.Rel R x y) {u : α → γ} {v : β → γ}
    (huv : ∀ a b, R a b → u a = v b) : x.map u = y.map v := by
  cases h with
  | none => rfl
  | some h => exact congrArg some (huv _ _ h)

/-- Of two optional members that are there together, the one has a property if the other has the one it stands to. -/
theorem exists_iff_of_rel {x : Option α} {y : Option β} (h : Option.Rel R x y) {P : α → Prop} {Q : β → Prop}
    (hPQ : ∀ a b, R a b → (P a ↔ Q b)) :
    (∃ a, x = some a ∧ P a) ↔ ∃ b, y = some b ∧ Q b := by
  cases h with
  | none =>
    constructor
    · intro h
      obtain ⟨_, h, _⟩ := h
      cases h
    · intro h
      obtain ⟨_, h, _⟩ := h
      cases h
  | @some a b h =>
    constructor
    · intro hP
      obtain ⟨_, heq, hP⟩ := hP
      cases heq
      exact ⟨b, rfl, (hPQ a b h).mp hP⟩
    · intro hQ
      obtain ⟨_, heq, hQ⟩ := hQ
      cases heq
      exact ⟨a, rfl, (hPQ a b h).mpr hQ⟩

theorem eq_none_of_rel {x : Option α} {y : Option β} (h : Option.Rel R x y) (hx : x = none) : y = none := by
  cases h with
  | none => rfl
  | some _ => cases hx

theorem exists_of_rel {x : Option α} {y : Option β} (h : Option.Rel R x y) {a : α} (hx : x = some a) :
    ∃ b, y = some b ∧ R a b := by
  cases h with
  | none => cases hx
  | @some _ b h =>
    cases hx
    exact ⟨b, rfl, h⟩

theorem rel_bind {x : Option γ} {f : γ → Option α} {g : γ → Option β} (h : ∀ c, Option.Rel R (f c) (g c)) :
    Option.Rel R (x.bind f) (x.bind g) := by
  cases x with
  | none => exact .none
  | some c => exact h c

/-- By a key that members have in common, those are found that stand to each other. -/
theorem rel_find?_of_forall₂ {κ : Type} [BEq κ] {f : α → κ} {g : β → κ} (hkey : ∀ a b, R a b → g b = f a) {l : List α}
    {r : List β} (h : List.Forall₂ R l r) (key : κ) : Option.Rel R (l.find? (f · == key)) (r.find? (g · == key)) := by
  induction h with
  | nil => exact .none
  | @cons a b _ _ hab _ ih =>
    rw [List.find?_cons, List.find?_cons, hkey a b hab]
    cases f a == key with
    | true => exact .some hab
    | false => exact ih

/-- The members at one place of two lists that stand to each other one by one. -/
theorem rel_of_forall₂ {l : List α} {r : List β} (h : List.Forall₂ R l r) (i : Nat) : Option.Rel R l[i]? r[i]? := by
  obtain ⟨hlen, hget⟩ := List.forall₂_iff_get.mp h
  by_cases hi : i < l.length
  · rw [List.getElem?_eq_getElem hi, List.getElem?_eq_getElem (hlen ▸ hi)]
    exact .some (hget i hi (hlen ▸ hi))
  · rw [List.getElem?_eq_none (by omega), List.getElem?_eq_none (by omega)]
    exact .none

/-! ## Places -/

/-- The permutation that leaves zero in its place and moves the other numbers as `τ` does those before them. -/
def behindFirst (τ : Equiv.Perm Nat) : Equiv.Perm Nat where
  toFun
    | 0 => 0
    | i + 1 => τ i + 1
  invFun
    | 0 => 0
    | i + 1 => τ.symm i + 1
  left_inv i := by cases i <;> simp
  right_inv i := by cases i <;> simp

/-- A list in another order: the members can be found at other places. -/
theorem exists_places {l r : List α} (h : l.Perm r) : ∃ τ : Equiv.Perm Nat, ∀ i : Nat, r[τ i]? = l[i]? := by
  induction h with
  | nil => exact ⟨Equiv.refl Nat, fun _ => rfl⟩
  | cons a _ ih =>
    obtain ⟨τ, hτ⟩ := ih
    refine ⟨behindFirst τ, ?_⟩
    intro i
    cases i with
    | zero => rfl
    | succ i => exact hτ i
  | swap a b l =>
    -- only the first two places are swapped
    refine ⟨Equiv.swap 0 1, ?_⟩
    intro i
    match i with
    | 0 => rfl
    | 1 => rfl
    | i + 2 =>
      rw [Equiv.swap_apply_of_ne_of_ne (by omega) (by omega)]
      rfl
  | trans _ _ ih ih' =>
    obtain ⟨τ, hτ⟩ := ih
    obtain ⟨τ', hτ'⟩ := ih'
    refine ⟨τ.trans τ', ?_⟩
    intro i
    rw [← hτ i, ← hτ' (τ i)]
    rfl

namespace Rearranged

theorem of_perm {S : α → α → Prop} {l r : List α} (hS : ∀ a ∈ r, S a a) (h : l.Perm r) : Rearranged S l r :=
  ⟨r, h, List.forall₂_same.mpr hS⟩

theorem imp {S : α → β → Prop} {l : List α} {r : List β} (h : Rearranged R l r) (himp : ∀ a b, R a b → S a b) :
    Rearranged S l r := by
  obtain ⟨middle, hperm, hall⟩ := h
  exact ⟨middle, hperm, hall.imp himp⟩

/-- What replaces a member is at the place that the permutation takes it to. -/
theorem exists_places {l : List α} {r : List β} (h : Rearranged R l r) :
    ∃ τ : Equiv.Perm Nat, ∀ i : Nat, Option.Rel R l[i]? r[τ i]? := by
  obtain ⟨middle, hperm, hall⟩ := h
  obtain ⟨τ, hτ⟩ := GraphLift.exists_places hperm
  refine ⟨τ, ?_⟩
  intro i
  rw [← hτ i]
  exact rel_of_forall₂ hall (τ i)

/-- Optional members that are missing may be left out. -/
theorem flatMap_toList {l : List (Option α)} {r : List (Option β)} (h : Rearranged (Option.Rel R) l r) :
    Rearranged R (l.flatMap Option.toList) (r.flatMap Option.toList) := by
  obtain ⟨middle, hperm, hall⟩ := h
  refine ⟨middle.flatMap Option.toList, hperm.flatMap_right _, ?_⟩
  clear hperm
  induction hall with
  | nil => exact .nil
  | cons hab _ ih =>
    rw [List.flatMap_cons, List.flatMap_cons]
    cases hab with
    | none => exact ih
    | some hab => exact .cons hab ih

end Rearranged

/-- Runs along rearranged lists agree if they do at members that stand to each other. -/
theorem agree_mapM_rearranged {ε δ : Type} {α β γ : Type} {R : α → β → Prop} {S : γ → δ → Prop}
    {f : α → Except ε γ} {g : β → Except ε δ} {l : List α} {r : List β} (h : Rearranged R l r)
    (hfg : ∀ a b, R a b → Outcome.Agree S (f a) (g b)) :
    Outcome.Agree (Rearranged S) (l.mapM f) (r.mapM g) := by
  obtain ⟨middle, hperm, hall⟩ := h
  -- first the order is changed and then the members
  refine (Outcome.agree_mapM_perm hperm).trans (Outcome.agree_mapM hall hfg) ?_
  intro cs cs' ds hcs hds
  exact ⟨cs', hcs, hds⟩

end GraphLift
