import Mathlib.Data.List.Basic
import Mathlib.Order.Monotone.Basic

/-!
# Lists with fillers put in

Fillers may be put in between the items of a list without changing the order of the items. An item
is found again at the place that its index leads to, and nothing but fillers is found elsewhere.
-/
namespace DartSweep

/-- Where a run of items ends in a list in which each of them has its own place: behind the last. -/
def behind (place : Nat → Nat) : Nat → Nat
  | 0 => 0
  | last + 1 => place last + 1

/-- The second list is the first with fillers put in anywhere. The function leads from the index of
an item in the first list to its index in the second. -/
inductive Spaced {α : Type} (filler : α → Bool) : (Nat → Nat) → List α → List α → Prop
  | nil : Spaced filler id [] []
  | keep {place : Nat → Nat} {items wider : List α} (item : α)
      (h : Spaced filler place items wider) :
      Spaced filler (behind place) (item :: items) (item :: wider)
  | fill {place : Nat → Nat} {items wider : List α} {item : α} (hf : filler item = true)
      (h : Spaced filler place items wider) :
      Spaced filler (fun index => place index + 1) items (item :: wider)

/-- The second list is the first with fillers put in only directly behind other fillers. The flag
tells if a filler stands before both lists. -/
inductive Stretched {α : Type} (filler : α → Bool) :
    Bool → (Nat → Nat) → List α → List α → Prop
  | nil (fillerBefore : Bool) : Stretched filler fillerBefore id [] []
  | keep {fillerBefore : Bool} {place : Nat → Nat} {items wider : List α} (item : α)
      (h : Stretched filler (filler item) place items wider) :
      Stretched filler fillerBefore (behind place) (item :: items) (item :: wider)
  | fill {place : Nat → Nat} {items wider : List α} {item : α} (hf : filler item = true)
      (h : Stretched filler true place items wider) :
      Stretched filler true (fun index => place index + 1) items (item :: wider)

variable {α β : Type} {filler : α → Bool} {place : Nat → Nat} {items wider : List α}

private theorem behind_id : behind id = id := by
  funext index
  cases index <;> rfl

private theorem strictMono_behind (h : StrictMono place) : StrictMono (behind place) := by
  intro i j hlt
  cases j with
  | zero => omega
  | succ j =>
    cases i with
    | zero =>
      rw [behind, behind]
      omega
    | succ i =>
      have hplace : place i < place j := h (by omega)
      rw [behind, behind]
      omega

/-- Indices counted from the start of two longer lists, of which the items and the wider list are
later parts. -/
def Leads (line place : Nat → Nat) (first start : Nat) : Prop :=
  ∀ index, line (first + index) = start + place index

namespace Leads
variable {line : Nat → Nat} {first start : Nat}

theorem refl (place : Nat → Nat) : Leads place place 0 0 := by
  intro index
  rw [Nat.zero_add, Nat.zero_add]

theorem head (h : Leads line (behind place) first start) : line first = start :=
  h 0

theorem keep (h : Leads line (behind place) first start) :
    Leads line place (first + 1) (start + 1) := by
  intro index
  have hnext : line (first + (index + 1)) = start + (place index + 1) := h (index + 1)
  rw [Nat.add_assoc, Nat.add_comm 1 index, hnext]
  omega

theorem fill (h : Leads line (fun index => place index + 1) first start) :
    Leads line place first (start + 1) := by
  intro index
  have hnext : line (first + index) = start + (place index + 1) := h index
  omega

end Leads

namespace Spaced

theorem strictMono (h : Spaced filler place items wider) : StrictMono place := by
  induction h with
  | nil => exact strictMono_id
  | keep item h ih => exact strictMono_behind ih
  | fill hf h ih =>
    intro i j hlt
    exact Nat.succ_lt_succ (ih hlt)

theorem getElem?_place (h : Spaced filler place items wider) (i : Nat) :
    wider[place i]? = items[i]? := by
  induction h generalizing i with
  | nil => simp
  | keep item h ih =>
    cases i with
    | zero => rfl
    | succ i => simpa [behind] using ih i
  | fill hf h ih => simpa using ih i

theorem exists_place (h : Spaced filler place items wider) {j : Nat} {item : α}
    (hj : wider[j]? = some item) (hitem : filler item = false) : ∃ i, place i = j := by
  induction h generalizing j with
  | nil => simp at hj
  | keep first h ih =>
    cases j with
    | zero => exact ⟨0, rfl⟩
    | succ j =>
      obtain ⟨i, hi⟩ := ih (by simpa using hj)
      exact ⟨i + 1, by rw [behind, hi]⟩
  | fill hf h ih =>
    cases j with
    | zero =>
      have he := Option.some.inj hj
      rw [he, hitem] at hf
      exact absurd hf (by decide)
    | succ j =>
      obtain ⟨i, hi⟩ := ih (by simpa using hj)
      exact ⟨i, congrArg Nat.succ hi⟩

theorem map {also : β → Bool} {f : α → β} (hf : ∀ item, filler item = true → also (f item) = true)
    (h : Spaced filler place items wider) :
    Spaced also place (items.map f) (wider.map f) := by
  induction h with
  | nil => exact .nil
  | keep item h ih => exact ih.keep (f item)
  | fill hfill h ih => exact ih.fill (hf _ hfill)

/-- A list is its own items that are no fillers with the fillers put in. -/
theorem of_filter (filler : α → Bool) (items : List α) :
    ∃ place, Spaced filler place (items.filter fun item => !filler item) items := by
  induction items with
  | nil => exact ⟨id, .nil⟩
  | cons item rest ih =>
    obtain ⟨place, h⟩ := ih
    rw [List.filter_cons]
    cases hf : filler item with
    | true => exact ⟨_, h.fill hf⟩
    | false => exact ⟨_, h.keep item⟩

theorem filter_eq (h : Spaced filler place items wider) :
    items.filter (fun item => !filler item) = wider.filter fun item => !filler item := by
  induction h with
  | nil => rfl
  | keep item h ih => rw [List.filter_cons, List.filter_cons, ih]
  | fill hf h ih => simpa [hf] using ih

end Spaced

namespace Stretched
variable {fillerBefore : Bool}

theorem spaced (h : Stretched filler fillerBefore place items wider) :
    Spaced filler place items wider := by
  induction h with
  | nil => exact .nil
  | keep item h ih => exact ih.keep item
  | fill hf h ih => exact ih.fill hf

theorem map {also : β → Bool} {f : α → β} (hf : ∀ item, also (f item) = filler item)
    (h : Stretched filler fillerBefore place items wider) :
    Stretched also fillerBefore place (items.map f) (wider.map f) := by
  induction h with
  | nil => exact .nil _
  | keep item h ih =>
    rw [← hf] at ih
    exact ih.keep (f item)
  | fill hfill h ih => exact ih.fill ((hf _).trans hfill)

theorem refl (filler : α → Bool) (fillerBefore : Bool) (items : List α) :
    Stretched filler fillerBefore id items items := by
  induction items generalizing fillerBefore with
  | nil => exact .nil _
  | cons item rest ih =>
    rw [← behind_id]
    exact (ih (filler item)).keep item

theorem trans {also : Nat → Nat} {widest : List α}
    (h : Stretched filler fillerBefore place items wider)
    (h' : Stretched filler fillerBefore also wider widest) :
    ∃ place, Stretched filler fillerBefore place items widest := by
  induction h' generalizing place items with
  | nil fillerBefore => exact ⟨place, h⟩
  | keep item h' ih =>
    cases h with
    | keep item h =>
      obtain ⟨place, hplace⟩ := ih h
      exact ⟨behind place, hplace.keep item⟩
    | fill hf h =>
      rw [hf] at ih
      obtain ⟨place, hplace⟩ := ih h
      exact ⟨_, hplace.fill hf⟩
  | fill hf h' ih =>
    obtain ⟨place, hplace⟩ := ih h
    exact ⟨_, hplace.fill hf⟩

end Stretched
end DartSweep
