import Mathlib.Data.List.Perm.Basic

set_option autoImplicit false

namespace ThinScan

open scoped List

variable {α β : Type} {items : List α} {index : Nat} {old : α}

theorem map_set_same (view : α → β) (fresh : α) (held : items[index]? = some old) (same : view fresh = view old) :
    (items.set index fresh).map view = items.map view := by
  apply List.ext_getElem?
  intro position
  rw [List.getElem?_map, List.getElem?_map, List.getElem?_set]
  split
  · rename_i here
    subst here
    obtain ⟨bound, _⟩ := List.getElem?_eq_some_iff.mp held
    rw [if_pos bound, held]
    exact congrArg some same
  · rfl

theorem perm_at (held : items[index]? = some old) : items.Perm (old :: items.eraseIdx index) := by
  obtain ⟨bound, rfl⟩ := List.getElem?_eq_some_iff.mp held
  exact (List.getElem_cons_eraseIdx_perm bound).symm

theorem set_perm_at (fresh : α) (held : items[index]? = some old) :
    (items.set index fresh).Perm (fresh :: items.eraseIdx index) := by
  obtain ⟨bound, _⟩ := List.getElem?_eq_some_iff.mp held
  exact List.set_perm_cons_eraseIdx bound fresh

theorem flatMap_set_perm (view : α → List β) (fresh : α) (held : items[index]? = some old) :
    ((items.set index fresh).flatMap view ++ view old).Perm (items.flatMap view ++ view fresh) := by
  have before := (perm_at held).flatMap_right view
  have after := (set_perm_at fresh held).flatMap_right view
  rw [List.flatMap_cons] at before after
  refine (after.append_right _).trans (.trans ?_ (before.append_right _).symm)
  rw [List.append_assoc]
  exact List.perm_append_comm.trans ((List.perm_append_comm.append_right _))

theorem forall_set {kept : α → Prop} {fresh : α} (all : ∀ item ∈ items, kept item) (new : kept fresh) :
    ∀ item ∈ items.set index fresh, kept item := by
  intro item member
  rcases List.mem_or_eq_of_mem_set member with before | same
  · exact all item before
  · exact same ▸ new

theorem set_at (fresh : α) (held : items[index]? = some old) (place : Nat) :
    (items.set index fresh)[place]? = if index = place then some fresh else items[place]? := by
  rw [List.getElem?_set]
  split
  · rename_i here
    obtain ⟨bound, _⟩ := List.getElem?_eq_some_iff.mp held
    rw [if_pos (here ▸ bound)]
  · rfl

theorem set_cases {fresh now : α} {place : Nat} (held : items[index]? = some old)
    (stands : (items.set index fresh)[place]? = some now) :
    (index = place ∧ now = fresh) ∨ (index ≠ place ∧ items[place]? = some now) := by
  rw [set_at fresh held] at stands
  split at stands
  · rename_i here
    cases stands
    exact .inl ⟨here, rfl⟩
  · rename_i elsewhere
    exact .inr ⟨elsewhere, stands⟩

theorem filterMap_at (view : α → Option β) (held : items[index]? = some old) :
    (items.filterMap view).Perm ((items.eraseIdx index).filterMap view ++ (view old).toList) := by
  have split := (perm_at held).filterMap view
  cases shown : view old with
  | none =>
      rw [List.filterMap_cons_none shown] at split
      rwa [Option.toList_none, List.append_nil]
  | some value =>
      rw [List.filterMap_cons_some shown] at split
      exact split.trans (List.perm_append_singleton _ _).symm

-- Of `whole`, which is `rest` and `part`, the part is exchanged for `fresh`, and all else that stands by moves on.
theorem exchange_perm {next stood whole rest part fresh stands gone : List α} (split : whole.Perm (rest ++ part))
    (moved : (next ++ part ++ stood).Perm (fresh ++ stands ++ gone)) :
    (next ++ (stood ++ whole)).Perm (stands ++ (rest ++ fresh) ++ gone) :=
  calc next ++ (stood ++ whole)
    _ ~ next ++ (stood ++ (rest ++ part)) := (split.append_left stood).append_left next
    _ ~ next ++ (rest ++ (stood ++ part)) := (List.perm_append_comm_assoc stood rest part).append_left next
    _ ~ rest ++ (next ++ (stood ++ part)) := List.perm_append_comm_assoc next rest _
    _ ~ rest ++ (next ++ (part ++ stood)) := (List.perm_append_comm.append_left next).append_left rest
    _ ~ rest ++ (fresh ++ stands ++ gone) := (List.append_assoc next part stood ▸ moved).append_left rest
    _ ~ stands ++ (rest ++ fresh) ++ gone := by
      rw [← List.append_assoc, ← List.append_assoc]
      exact List.perm_append_comm.append_right gone

end ThinScan
