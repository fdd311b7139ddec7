import Mathlib.Data.List.Basic

/-!
# Admission against a load

Items come before a judge, one after the other. The judge sees the load there is, and refuses an
item or admits it at a charge; what is charged is added to the load before the next item comes.

Two judges who admit the same items under the same load need not admit the same items of a list:
once they charge differently they see different loads. They agree over a list exactly if they
charge the same, or find nothing to admit (`admitted_eq_iff`).
-/

set_option autoImplicit false

namespace Admission

variable {State Item Charge : Type*} (add : State → Charge → State)
  (judge : State → Item → Option Charge)

/-- What is charged for the items admitted. -/
def admitted : State → List Item → List Charge
  | _, [] => []
  | load, item :: rest =>
    match judge load item with
    | none => admitted load rest
    | some charge => charge :: admitted (add load charge) rest

variable {add judge} {judge' : State → Item → Option Charge} {load : State} {item : Item}
  {items : List Item}

theorem admitted_of_refused (h : judge load item = none) :
    admitted add judge load (item :: items) = admitted add judge load items := by
  simp only [admitted, h]

theorem admitted_of_charged {charge : Charge} (h : judge load item = some charge) :
    admitted add judge load (item :: items) =
      charge :: admitted add judge (add load charge) items := by
  simp only [admitted, h]

/-- Nothing is admitted if nothing is under the load there was at first. -/
theorem admitted_eq_nil_iff :
    admitted add judge load items = [] ↔ ∀ item ∈ items, judge load item = none := by
  induction items with
  | nil => simp [admitted]
  | cons item rest ih =>
    cases h : judge load item with
    | none => simp [admitted_of_refused h, ih, h]
    | some charge => simp [admitted_of_charged h, h]

theorem admitted_congr (h : ∀ load, ∀ item ∈ items, judge load item = judge' load item) :
    admitted add judge load items = admitted add judge' load items := by
  induction items generalizing load with
  | nil => rfl
  | cons item rest ih =>
    have hrest := fun load i hi => h load i (List.mem_cons_of_mem item hi)
    have hitem := h load item (List.mem_cons_self ..)
    cases hj : judge load item with
    | none => rw [admitted_of_refused hj, admitted_of_refused (hitem ▸ hj), ih hrest]
    | some charge => rw [admitted_of_charged hj, admitted_of_charged (hitem ▸ hj), ih hrest]

/-- A charge is one of an item that came. -/
theorem exists_of_mem_admitted {charge : Charge} (h : charge ∈ admitted add judge load items) :
    ∃ item ∈ items, ∃ seen, judge seen item = some charge := by
  induction items generalizing load with
  | nil => exact absurd h (List.not_mem_nil)
  | cons item rest ih =>
    have hrest : ∀ load', charge ∈ admitted add judge load' rest →
        ∃ i ∈ item :: rest, ∃ seen, judge seen i = some charge := by
      intro load' hmem
      obtain ⟨i, hi, hjudged⟩ := ih hmem
      exact ⟨i, List.mem_cons_of_mem _ hi, hjudged⟩
    cases hj : judge load item with
    | none => exact hrest load (admitted_of_refused hj ▸ h)
    | some first =>
      rw [admitted_of_charged hj] at h
      rcases List.mem_cons.mp h with rfl | h
      · exact ⟨item, List.mem_cons_self .., load, hj⟩
      · exact hrest _ h

/-- **Two judges of the same taste** agree over a list exactly if they charge the same, or find
    nothing in it to admit. -/
theorem admitted_eq_iff {same : Prop}
    (htaste : ∀ load, ∀ item ∈ items, (judge load item).isSome = (judge' load item).isSome)
    (hsame : ∀ load, ∀ item ∈ items, ∀ charge charge', judge load item = some charge →
      judge' load item = some charge' → (charge = charge' ↔ same)) :
    admitted add judge load items = admitted add judge' load items ↔
      same ∨ ∀ item ∈ items, judge load item = none := by
  constructor
  · intro heq
    rw [or_iff_not_imp_right]
    intro hsome
    -- Up to the first item that is admitted both see the load there was at first.
    induction items with
    | nil => exact absurd (by simp) hsome
    | cons item rest ih =>
      have hitem : item ∈ item :: rest := List.mem_cons_self ..
      have hrest : ∀ i ∈ rest, i ∈ item :: rest := fun i hi => List.mem_cons_of_mem _ hi
      have htook := htaste load item hitem
      cases hj : judge load item with
      | none =>
        have hj' : judge' load item = none := by simpa [hj] using htook
        rw [admitted_of_refused hj, admitted_of_refused hj'] at heq
        refine ih (fun l i hi => htaste l i (hrest i hi)) (fun l i hi => hsame l i (hrest i hi)) heq
          fun hnone => hsome fun i hi => ?_
        rcases List.mem_cons.mp hi with rfl | hi
        · exact hj
        · exact hnone i hi
      | some charge =>
        obtain ⟨charge', hj'⟩ := Option.isSome_iff_exists.mp (by simpa [hj] using htook.symm)
        rw [admitted_of_charged hj, admitted_of_charged hj', List.cons.injEq] at heq
        exact (hsame load item hitem charge charge' hj hj').mp heq.1
  · rintro (h | hnone)
    · refine admitted_congr fun load item hi => ?_
      have htook := htaste load item hi
      cases hj : judge load item with
      | none => exact (by simpa [hj] using htook : judge' load item = none).symm
      | some charge =>
        obtain ⟨charge', hj'⟩ := Option.isSome_iff_exists.mp (by simpa [hj] using htook.symm)
        rw [hj', (hsame load item hi charge charge' hj hj').mpr h]
    · have hnone' : ∀ item ∈ items, judge' load item = none := by
        intro item hi
        simpa [hnone item hi] using htaste load item hi
      rw [admitted_eq_nil_iff.mpr hnone, admitted_eq_nil_iff.mpr hnone']

end Admission
