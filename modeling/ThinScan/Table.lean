set_option autoImplicit false

namespace ThinScan

structure Table (κ ν : Type) where
  entries : List (κ × ν)

namespace Table

variable {κ ν : Type}

def empty : Table κ ν := ⟨[]⟩

def keys (table : Table κ ν) : List κ := table.entries.map (·.1)

def size (table : Table κ ν) : Nat := table.entries.length

variable [DecidableEq κ]

def valueOf (key : κ) : List (κ × ν) → Option ν
  | [] => none
  | (held, value) :: rest => if held = key then some value else valueOf key rest

def find? (table : Table κ ν) (key : κ) : Option ν := valueOf key table.entries

def erase (table : Table κ ν) (key : κ) : Table κ ν :=
  ⟨table.entries.filter (fun entry => entry.1 ≠ key)⟩

variable [LT κ] [DecidableLT κ]

def insertEntry (key : κ) (value : ν) : List (κ × ν) → List (κ × ν)
  | [] => [(key, value)]
  | (held, old) :: rest =>
      if held = key then (key, value) :: rest
      else if key < held then (key, value) :: (held, old) :: rest
      else (held, old) :: insertEntry key value rest

def insert (table : Table κ ν) (key : κ) (value : ν) : Table κ ν :=
  ⟨insertEntry key value table.entries⟩

theorem valueOf_insertEntry (key wanted : κ) (value : ν) (entries : List (κ × ν)) :
    valueOf wanted (insertEntry key value entries)
      = if key = wanted then some value else valueOf wanted entries := by
  induction entries with
  | nil => simp [insertEntry, valueOf]
  | cons entry rest step =>
      obtain ⟨held, old⟩ := entry
      by_cases same : held = key
      · subst same
        by_cases hit : held = wanted <;> simp [insertEntry, valueOf, hit]
      · by_cases before : key < held
        · simp [insertEntry, valueOf, same, before]
        · by_cases hit : held = wanted
          · subst hit
            simp [insertEntry, valueOf, same, before, Ne.symm same]
          · simp [insertEntry, valueOf, same, before, hit, step]

theorem find_insert (table : Table κ ν) (key wanted : κ) (value : ν) :
    (table.insert key value).find? wanted
      = if key = wanted then some value else table.find? wanted :=
  valueOf_insertEntry key wanted value table.entries

omit [LT κ] [DecidableLT κ] in
theorem valueOf_filter_ne (key wanted : κ) (entries : List (κ × ν)) :
    valueOf wanted (entries.filter (fun entry => entry.1 ≠ key))
      = if key = wanted then none else valueOf wanted entries := by
  induction entries with
  | nil => simp [valueOf]
  | cons entry rest step =>
      obtain ⟨held, old⟩ := entry
      rw [List.filter_cons]
      by_cases dropped : held = key
      · subst dropped
        by_cases hit : held = wanted <;> simp_all [valueOf]
      · by_cases hit : held = wanted
        · subst hit
          simp [valueOf, dropped, Ne.symm dropped]
        · simp_all [valueOf]

omit [LT κ] [DecidableLT κ] in
theorem find_erase (table : Table κ ν) (key wanted : κ) :
    (table.erase key).find? wanted = if key = wanted then none else table.find? wanted :=
  valueOf_filter_ne key wanted table.entries

end Table

end ThinScan
