import ThinScan.Table

set_option autoImplicit false

namespace ThinScan.Table

variable {κ ν : Type}

def Ascending [LT κ] (table : Table κ ν) : Prop := table.entries.Pairwise (fun left right => left.1 < right.1)

theorem ascending_empty [LT κ] : (empty : Table κ ν).Ascending := List.Pairwise.nil

section Lookup

variable [DecidableEq κ]

theorem mem_of_valueOf {key : κ} {value : ν} {entries : List (κ × ν)} (found : valueOf key entries = some value) :
    (key, value) ∈ entries := by
  induction entries with
  | nil => cases found
  | cons entry rest step =>
      obtain ⟨held, old⟩ := entry
      rw [valueOf] at found
      split at found
      · rename_i same
        cases found
        subst same
        exact List.mem_cons_self
      · exact List.mem_cons_of_mem _ (step found)

theorem key_of_find {table : Table κ ν} {key : κ} {value : ν} (found : table.find? key = some value) :
    key ∈ table.keys :=
  List.mem_map.mpr ⟨(key, value), mem_of_valueOf found, rfl⟩

theorem ascending_erase [LT κ] {table : Table κ ν} (ascending : table.Ascending) (key : κ) :
    (table.erase key).Ascending :=
  ascending.filter _

theorem insertEntry_keys [LT κ] [DecidableLT κ] (key : κ) (value : ν) (entries : List (κ × ν)) :
    ∀ entry ∈ insertEntry key value entries, entry = (key, value) ∨ entry ∈ entries := by
  induction entries with
  | nil => intro entry member; exact .inl (List.mem_singleton.mp member)
  | cons head rest step =>
      obtain ⟨held, old⟩ := head
      intro entry member
      rw [insertEntry] at member
      split at member
      · rcases List.mem_cons.mp member with fresh | later
        · exact .inl fresh
        · exact .inr (List.mem_cons_of_mem _ later)
      · split at member
        · rcases List.mem_cons.mp member with fresh | later
          · exact .inl fresh
          · exact .inr later
        · rcases List.mem_cons.mp member with first | later
          · exact .inr (first ▸ List.mem_cons_self)
          · exact (step entry later).imp_right (List.mem_cons_of_mem _)

end Lookup

section Found

variable [DecidableEq κ] [LE κ] [LT κ] [Std.LawfulOrderLT κ]

theorem filter_above {key : κ} {entries : List (κ × ν)} (above : ∀ entry ∈ entries, key < entry.1) :
    entries.filter (fun entry => entry.1 ≠ key) = entries := by
  apply List.filter_eq_self.mpr
  intro entry member
  have different : entry.1 ≠ key := fun same => Std.lt_irrefl (same ▸ above entry member)
  simpa using different

theorem valueOf_perm (key : κ) (entries : List (κ × ν))
    (ascending : entries.Pairwise (fun left right => left.1 < right.1)) :
    entries.Perm
      (((valueOf key entries).map (key, ·)).toList ++ entries.filter (fun entry => entry.1 ≠ key)) := by
  induction entries with
  | nil => exact .refl _
  | cons head rest step =>
      obtain ⟨held, old⟩ := head
      obtain ⟨above, ordered⟩ := List.pairwise_cons.mp ascending
      rw [valueOf]
      split
      · rename_i same
        subst same
        rw [List.filter_cons_of_neg (by simp), filter_above above]
        exact .refl _
      · rename_i different
        rw [List.filter_cons_of_pos (by simpa using different)]
        exact ((step ordered).cons _).trans List.perm_middle.symm

theorem valueOf_of_mem {key : κ} {value : ν} {entries : List (κ × ν)}
    (ascending : entries.Pairwise (fun left right => left.1 < right.1)) (member : (key, value) ∈ entries) :
    valueOf key entries = some value := by
  induction entries with
  | nil => cases member
  | cons head rest step =>
      obtain ⟨held, old⟩ := head
      obtain ⟨above, ordered⟩ := List.pairwise_cons.mp ascending
      rw [valueOf]
      rcases List.mem_cons.mp member with first | later
      · cases first
        exact if_pos rfl
      · have different : held ≠ key := fun same => Std.lt_irrefl (same ▸ above _ later)
        rw [if_neg different]
        exact step ordered later

theorem find_of_mem {table : Table κ ν} {key : κ} {value : ν} (ascending : table.Ascending)
    (member : (key, value) ∈ table.entries) : table.find? key = some value :=
  valueOf_of_mem ascending member

theorem find_perm {table : Table κ ν} (ascending : table.Ascending) (key : κ) :
    table.entries.Perm (((table.find? key).map (key, ·)).toList ++ (table.erase key).entries) :=
  valueOf_perm key table.entries ascending

end Found

variable [DecidableEq κ] [LE κ] [LT κ] [DecidableLT κ] [Std.LawfulOrderLT κ] [Std.IsLinearOrder κ]

theorem ascending_insertEntry (key : κ) (value : ν) (entries : List (κ × ν))
    (ascending : entries.Pairwise (fun left right => left.1 < right.1)) :
    (insertEntry key value entries).Pairwise (fun left right => left.1 < right.1) := by
  induction entries with
  | nil => exact List.pairwise_singleton _ _
  | cons head rest step =>
      obtain ⟨held, old⟩ := head
      obtain ⟨above, ordered⟩ := List.pairwise_cons.mp ascending
      rw [insertEntry]
      split
      · rename_i same
        subst same
        exact List.pairwise_cons.mpr ⟨above, ordered⟩
      · rename_i different
        split
        · rename_i before
          refine List.pairwise_cons.mpr ⟨?_, ascending⟩
          intro entry member
          rcases List.mem_cons.mp member with first | later
          · exact first ▸ before
          · exact Std.lt_trans before (above entry later)
        · rename_i notBefore
          have after : held < key := Std.lt_of_le_of_ne (Std.not_lt.mp notBefore) different
          refine List.pairwise_cons.mpr ⟨?_, step ordered⟩
          intro entry member
          rcases insertEntry_keys key value rest entry member with fresh | later
          · exact fresh ▸ after
          · exact above entry later

theorem ascending_insert {table : Table κ ν} (ascending : table.Ascending) (key : κ) (value : ν) :
    (table.insert key value).Ascending :=
  ascending_insertEntry key value table.entries ascending

theorem insertEntry_perm (key : κ) (value : ν) (entries : List (κ × ν))
    (ascending : entries.Pairwise (fun left right => left.1 < right.1)) :
    (insertEntry key value entries).Perm ((key, value) :: entries.filter (fun entry => entry.1 ≠ key)) := by
  induction entries with
  | nil => exact .refl _
  | cons head rest step =>
      obtain ⟨held, old⟩ := head
      obtain ⟨above, ordered⟩ := List.pairwise_cons.mp ascending
      rw [insertEntry]
      split
      · rename_i same
        subst same
        rw [List.filter_cons_of_neg (by simp), filter_above above]
      · rename_i different
        rw [List.filter_cons_of_pos (by simpa using different)]
        split
        · rename_i before
          have rest_above : ∀ entry ∈ rest, key < entry.1 := fun entry member =>
            Std.lt_trans before (above entry member)
          rw [filter_above rest_above]
        · exact ((step ordered).cons _).trans (List.Perm.swap _ _ _)

theorem insert_perm {table : Table κ ν} (ascending : table.Ascending) (key : κ) (value : ν) :
    (table.insert key value).entries.Perm ((key, value) :: (table.erase key).entries) :=
  insertEntry_perm key value table.entries ascending

end ThinScan.Table
