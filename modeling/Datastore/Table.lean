/-!
# Tables keyed by text

A table maps names to values and keeps the names in the order in which they were first inserted.
No name occurs twice; the type carries the proof. Main statements: `find?_insert_self`,
`find?_insert_of_ne`.
-/

namespace Datastore

/-- Entries with distinct names, oldest first. -/
structure Table (α : Type) where
  entries : List (String × α)
  distinct : (entries.map Prod.fst).Nodup
deriving DecidableEq

namespace Table

variable {α : Type}

/-- Replaces the value of a known name in place and appends a new name. -/
def put (name : String) (value : α) : List (String × α) → List (String × α)
  | [] => [(name, value)]
  | entry :: rest =>
    if entry.1 = name then (name, value) :: rest else entry :: put name value rest

theorem names_put_of_mem {name : String} {value : α} (entries : List (String × α))
    (known : name ∈ entries.map Prod.fst) :
    (put name value entries).map Prod.fst = entries.map Prod.fst := by
  induction entries with
  | nil => simp at known
  | cons entry rest ih =>
    by_cases h : entry.1 = name
    · simp [put, h]
    · have later : name ∈ rest.map Prod.fst := by
        rcases List.mem_cons.mp known with first | later
        · exact absurd first.symm h
        · exact later
      simp [put, h, ih later]

theorem put_of_not_mem {name : String} {value : α} (entries : List (String × α))
    (fresh : name ∉ entries.map Prod.fst) :
    put name value entries = entries ++ [(name, value)] := by
  induction entries with
  | nil => rfl
  | cons entry rest ih =>
    have apart : entry.1 ≠ name := fun h => fresh (by simp [h])
    have later : name ∉ rest.map Prod.fst := fun h => fresh (List.mem_cons_of_mem _ h)
    simp [put, apart, ih later]

theorem put_distinct {name : String} {value : α} {entries : List (String × α)}
    (distinct : (entries.map Prod.fst).Nodup) :
    ((put name value entries).map Prod.fst).Nodup := by
  by_cases known : name ∈ entries.map Prod.fst
  · rw [names_put_of_mem entries known]
    exact distinct
  · rw [put_of_not_mem entries known, List.map_append]
    refine List.nodup_append.mpr ⟨distinct, by simp, ?_⟩
    intro a ha b hb
    simp only [List.map_cons, List.map_nil, List.mem_singleton] at hb
    subst hb
    exact fun h => known (h ▸ ha)

def empty : Table α := ⟨[], by simp⟩

/-- Sets the value of a name. -/
def insert (t : Table α) (name : String) (value : α) : Table α :=
  ⟨put name value t.entries, put_distinct t.distinct⟩

/-- Inserts in order, so the last value of a repeated name stays. -/
def ofList (entries : List (String × α)) : Table α :=
  entries.foldl (fun t entry => t.insert entry.1 entry.2) empty

def find? (t : Table α) (name : String) : Option α := t.entries.lookup name

def contains (t : Table α) (name : String) : Bool := (t.find? name).isSome

def names (t : Table α) : List String := t.entries.map Prod.fst

/-- Forgets a name. -/
def erase (t : Table α) (name : String) : Table α :=
  ⟨t.entries.filter (·.1 ≠ name), t.distinct.sublist (List.filter_sublist.map _)⟩

theorem lookup_put_self (name : String) (value : α) (entries : List (String × α)) :
    (put name value entries).lookup name = some value := by
  induction entries with
  | nil => simp [put]
  | cons entry rest ih =>
    by_cases h : entry.1 = name
    · simp [put, h]
    · have apart : (name == entry.1) = false := by simpa using fun h' => h h'.symm
      simp only [put, if_neg h]
      rw [List.lookup_cons, apart]
      exact ih

theorem lookup_put_of_ne {name other : String} (value : α) (entries : List (String × α))
    (apart : other ≠ name) : (put name value entries).lookup other = entries.lookup other := by
  have hne : (other == name) = false := by simpa using apart
  induction entries with
  | nil => simp [put, List.lookup_cons, hne]
  | cons entry rest ih =>
    by_cases h : entry.1 = name
    · have skip : (other == entry.1) = false := h ▸ hne
      rw [put, if_pos h, List.lookup_cons, hne, List.lookup_cons, skip]
    · rw [put, if_neg h, List.lookup_cons, List.lookup_cons, ih]

@[simp] theorem find?_empty (name : String) : (empty : Table α).find? name = none := rfl

@[simp] theorem find?_insert_self (t : Table α) (name : String) (value : α) :
    (t.insert name value).find? name = some value := lookup_put_self name value t.entries

theorem find?_insert_of_ne (t : Table α) {name other : String} (value : α)
    (apart : other ≠ name) : (t.insert name value).find? other = t.find? other :=
  lookup_put_of_ne value t.entries apart

end Table
end Datastore
