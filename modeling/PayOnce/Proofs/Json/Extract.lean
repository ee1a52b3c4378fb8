import PayOnce.Json.Extract
import PayOnce.Proofs.Json.Record
import Mathlib.Data.List.Perm.Basic
/-!
A record is taken out of an object that has its members, in whatever order. What was found for a
name does not depend on the order either.
-/

namespace PayOnce.Json

variable {V : Type}

/-- A field of a record takes the value of a member. -/
def Takes (slots : List (Slot V)) (m : String × Value) (x : V) : Prop :=
  ∃ slot, slots.find? (·.name == m.1) = some slot ∧ slot.take m.2 = .ok x

theorem takeMembers_written {slots : List (Slot V)} {ms : List (String × Value)} {xs : Found V}
    (htakes : List.Forall₂ (fun m x => m.1 = x.1 ∧ Takes slots m x.2) ms xs)
    (hkeys : (ms.map (·.1)).Nodup) (found : Found V) (hnew : ∀ m ∈ ms, found.get? m.1 = none) :
    takeMembers slots found ms = .ok (xs.reverse ++ found) := by
  induction htakes generalizing found with
  | nil => rfl
  | @cons m x ms xs hmx _ ih =>
    obtain ⟨hk, slot, hslot, htake⟩ := hmx
    have hnew' := get?_eq_none_of_nodup hkeys
      (fun m' hm' => hnew m' (List.mem_cons_of_mem _ hm')) x.2
    have hrest := ih (List.nodup_cons.1 hkeys).2 ((m.1, x.2) :: found) hnew'
    have hxm : x = (m.1, x.2) := Prod.ext hk.symm rfl
    simp only [takeMembers, hslot, hnew m List.mem_cons_self, Option.isSome_none,
      Bool.false_eq_true, if_false, htake, hrest]
    rw [List.reverse_cons, List.append_assoc, List.singleton_append, ← hxm]

/-- A record is taken out of the object that it is written as. -/
theorem takeRecord_object (shape : String) {slots : List (Slot V)} {ms : List (String × Value)}
    {xs : Found V} (htakes : List.Forall₂ (fun m x => m.1 = x.1 ∧ Takes slots m x.2) ms xs)
    (hkeys : (ms.map (·.1)).Nodup) : takeRecord shape slots (.object ms) = .ok xs.reverse := by
  rw [takeRecord, takeMembers_written htakes hkeys [] (fun _ _ => rfl), List.append_nil]

/-- What was found for a name does not depend on the order in which it was found. -/
theorem Found.get?_perm {found found' : Found V} (h : found.Perm found')
    (hkeys : (found.map (·.1)).Nodup) (name : String) : found.get? name = found'.get? name := by
  induction h with
  | nil => rfl
  | cons x _ ih =>
    obtain ⟨k, v⟩ := x
    have hrest := ih (List.nodup_cons.1 hkeys).2
    simp only [Found.get?, List.lookup_cons] at hrest ⊢
    rw [hrest]
  | swap x y rest =>
    obtain ⟨k, v⟩ := x
    obtain ⟨k', v'⟩ := y
    have hne : k' ≠ k := by
      simp only [List.map_cons, List.nodup_cons, List.mem_cons, not_or] at hkeys
      exact hkeys.1.1
    simp only [Found.get?, List.lookup_cons]
    -- The name is at most one of the two.
    by_cases hname : name = k
    · have hother : (name == k') = false := beq_eq_false_iff_ne.2 (hname ▸ hne.symm)
      rw [hother]
    · rw [beq_eq_false_iff_ne.2 hname]
  | trans h _ ih ih' =>
    rw [ih hkeys, ih' ((h.map _).nodup_iff.1 hkeys)]

end PayOnce.Json
