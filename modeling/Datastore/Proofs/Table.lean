import Datastore.Proofs.Weigh
import Datastore.Table
import Mathlib.Data.List.Induction

/-!
# Sums over tables

What the values of a table weigh together, and how `insert` and `erase` change that. Neither this
nor a look-up depends on the order of the entries. Main statements: `total_insert_of_find?`,
`total_erase`, `find?_of_perm`, `perm_of_find?`, `ofList_entries`, `find?_ofList`.
-/

namespace Datastore.Table

variable {α : Type}

/-- The sum of a measure over all values. -/
def total (t : Table α) (μ : α → Nat) : Nat := weigh (fun entry => μ entry.2) t.entries

@[simp] theorem total_empty (μ : α → Nat) : (empty : Table α).total μ = 0 := rfl

theorem lookup_eq_none_iff (entries : List (String × α)) (name : String) :
    entries.lookup name = none ↔ name ∉ entries.map Prod.fst := by
  induction entries with
  | nil => simp
  | cons entry rest ih =>
    by_cases h : name = entry.1
    · simp [h]
    · have apart : (name == entry.1) = false := by simpa using h
      rw [List.lookup_cons, apart]
      simp [ih, h]

theorem weigh_put_of_lookup (μ : α → Nat) {entries : List (String × α)} {name : String}
    {old : α} (new : α) (known : entries.lookup name = some old) :
    weigh (fun entry => μ entry.2) (put name new entries) + μ old =
      weigh (fun entry => μ entry.2) entries + μ new := by
  induction entries with
  | nil => simp at known
  | cons entry rest ih =>
    by_cases h : entry.1 = name
    · rw [List.lookup_cons, h, beq_self_eq_true] at known
      have same : entry.2 = old := Option.some.inj known
      simp only [put, if_pos h, weigh_cons, same]
      omega
    · have apart : (name == entry.1) = false := by simpa using fun h' => h h'.symm
      rw [List.lookup_cons, apart] at known
      have later := ih known
      simp only [put, if_neg h, weigh_cons]
      omega

/-- A new name adds what its value weighs. -/
theorem total_insert_of_none (μ : α → Nat) {t : Table α} {name : String} (value : α)
    (fresh : t.find? name = none) : (t.insert name value).total μ = t.total μ + μ value := by
  have absent := (lookup_eq_none_iff t.entries name).mp fresh
  simp only [total, insert, put_of_not_mem t.entries absent, weigh_append, weigh_cons, weigh_nil]
  omega

/-- A known name gets the new value in exchange for the old one. -/
theorem total_insert_of_find? (μ : α → Nat) {t : Table α} {name : String} {old : α} (new : α)
    (known : t.find? name = some old) :
    (t.insert name new).total μ + μ old = t.total μ + μ new :=
  weigh_put_of_lookup μ new known

theorem filter_names_of_not_mem {entries : List (String × α)} {name : String}
    (absent : name ∉ entries.map Prod.fst) : entries.filter (·.1 ≠ name) = entries := by
  apply List.filter_eq_self.mpr
  intro entry here
  have apart : entry.1 ≠ name := fun h => absent (h ▸ List.mem_map_of_mem here)
  simpa using apart

theorem weigh_filter_of_lookup (μ : α → Nat) {entries : List (String × α)} {name : String}
    {old : α} (distinct : (entries.map Prod.fst).Nodup)
    (known : entries.lookup name = some old) :
    weigh (fun entry => μ entry.2) (entries.filter (·.1 ≠ name)) + μ old =
      weigh (fun entry => μ entry.2) entries := by
  induction entries with
  | nil => simp at known
  | cons entry rest ih =>
    rw [List.map_cons, List.nodup_cons] at distinct
    by_cases h : entry.1 = name
    · rw [List.lookup_cons, h, beq_self_eq_true] at known
      have same : entry.2 = old := Option.some.inj known
      have others := filter_names_of_not_mem (h ▸ distinct.1)
      rw [List.filter_cons_of_neg (by simpa using h), others, weigh_cons, same]
      omega
    · have apart : (name == entry.1) = false := by simpa using fun h' => h h'.symm
      rw [List.lookup_cons, apart] at known
      have later := ih distinct.2 known
      rw [List.filter_cons_of_pos (by simpa using h), weigh_cons, weigh_cons]
      omega

/-- A forgotten name takes with it what its value weighs. -/
theorem total_erase (μ : α → Nat) {t : Table α} {name : String} {old : α}
    (known : t.find? name = some old) : (t.erase name).total μ + μ old = t.total μ :=
  weigh_filter_of_lookup μ t.distinct known

theorem lookup_filter (entries : List (String × α)) (name other : String) :
    (entries.filter (·.1 ≠ name)).lookup other =
      if other = name then none else entries.lookup other := by
  induction entries with
  | nil => simp
  | cons entry rest ih =>
    by_cases h : entry.1 = name
    · rw [List.filter_cons_of_neg (by simpa using h), ih]
      by_cases same : other = name
      · simp [same]
      · have skip : (other == entry.1) = false := by simpa using fun h' => same (h'.trans h)
        rw [if_neg same, if_neg same, List.lookup_cons, skip]
    · rw [List.filter_cons_of_pos (by simpa using h), List.lookup_cons, ih, List.lookup_cons]
      by_cases same : other = name
      · have skip : (other == entry.1) = false := by simpa using fun h' => h (h'.symm.trans same)
        simp [same, same ▸ skip]
      · simp [same]

theorem find?_erase (t : Table α) (name other : String) :
    (t.erase name).find? other = if other = name then none else t.find? other :=
  lookup_filter t.entries name other

theorem find?_insert (t : Table α) (name other : String) (value : α) :
    (t.insert name value).find? other = if other = name then some value else t.find? other := by
  by_cases same : other = name
  · subst same
    simp
  · rw [if_neg same, find?_insert_of_ne t value same]

theorem put_put (name : String) (first second : α) (entries : List (String × α)) :
    put name second (put name first entries) = put name second entries := by
  induction entries with
  | nil => simp [put]
  | cons entry rest ih =>
    by_cases h : entry.1 = name
    · simp [put, h]
    · simp [put, h, ih]

/-- The last value of a name counts. -/
theorem insert_insert (t : Table α) (name : String) (first second : α) :
    (t.insert name first).insert name second = t.insert name second := by
  simp only [insert, put_put]

theorem put_of_lookup {name : String} {value : α} {entries : List (String × α)}
    (known : entries.lookup name = some value) : put name value entries = entries := by
  induction entries with
  | nil => cases known
  | cons entry rest ih =>
    by_cases h : entry.1 = name
    · rw [List.lookup_cons, h, beq_self_eq_true] at known
      have same : entry.2 = value := Option.some.inj known
      rw [put, if_pos h, ← h, ← same]
    · have apart : (name == entry.1) = false := by simpa using fun h' => h h'.symm
      rw [List.lookup_cons, apart] at known
      rw [put, if_neg h, ih known]

/-- To set a name to the value that it has changes nothing. -/
theorem insert_of_find? {t : Table α} {name : String} {value : α}
    (known : t.find? name = some value) : t.insert name value = t := by
  cases t
  simp only [insert, put_of_lookup known]

theorem filter_put_self (name : String) (value : α) (entries : List (String × α)) :
    (put name value entries).filter (·.1 ≠ name) = entries.filter (·.1 ≠ name) := by
  induction entries with
  | nil => simp [put]
  | cons entry rest ih =>
    by_cases h : entry.1 = name
    · simp [put, h]
    · rw [put, if_neg h, List.filter_cons_of_pos (by simpa using h),
        List.filter_cons_of_pos (by simpa using h), ih]

theorem filter_put_of_ne {name other : String} (apart : other ≠ name) (value : α)
    (entries : List (String × α)) : (put other value entries).filter (·.1 ≠ name) =
      put other value (entries.filter (·.1 ≠ name)) := by
  induction entries with
  | nil => simp [put, apart]
  | cons entry rest ih =>
    by_cases h : entry.1 = other
    · simp [put, h, apart]
    · rw [put, if_neg h]
      by_cases gone : entry.1 = name
      · rw [List.filter_cons_of_neg (by simpa using gone),
          List.filter_cons_of_neg (by simpa using gone), ih]
      · rw [List.filter_cons_of_pos (by simpa using gone),
          List.filter_cons_of_pos (by simpa using gone), put, if_neg h, ih]

/-- A name that is forgotten might as well not have been set. -/
theorem erase_insert_self (t : Table α) (name : String) (value : α) :
    (t.insert name value).erase name = t.erase name := by
  simp only [insert, erase, filter_put_self]

theorem erase_insert_of_ne (t : Table α) {name other : String} (apart : other ≠ name)
    (value : α) : (t.insert other value).erase name = (t.erase name).insert other value := by
  simp only [insert, erase, filter_put_of_ne apart]

theorem erase_comm (t : Table α) (name other : String) :
    (t.erase name).erase other = (t.erase other).erase name := by
  simp only [erase, List.filter_filter, Bool.and_comm]

theorem erase_of_none {t : Table α} {name : String} (fresh : t.find? name = none) :
    t.erase name = t := by
  have absent := (lookup_eq_none_iff t.entries name).mp fresh
  cases t
  simp only [erase, filter_names_of_not_mem absent]

/-- A value weighs no more than all values together. -/
theorem le_total (μ : α → Nat) {t : Table α} {name : String} {value : α}
    (known : t.find? name = some value) : μ value ≤ t.total μ := by
  have split := total_erase μ known
  omega

theorem total_add (t : Table α) (μ ν : α → Nat) :
    t.total (fun value => μ value + ν value) = t.total μ + t.total ν :=
  weigh_add _ _ _

theorem total_mono {t : Table α} {μ ν : α → Nat} (less : ∀ value, μ value ≤ ν value) :
    t.total μ ≤ t.total ν := by
  apply weigh_mono
  intro entry
  exact less entry.2

/-! ### Entries -/

theorem lookup_eq_some_iff {entries : List (String × α)} (distinct : (entries.map Prod.fst).Nodup)
    (name : String) (value : α) : entries.lookup name = some value ↔ (name, value) ∈ entries := by
  induction entries with
  | nil => simp
  | cons entry rest ih =>
    obtain ⟨first, old⟩ := entry
    rw [List.map_cons, List.nodup_cons] at distinct
    rw [List.lookup_cons, List.mem_cons, Prod.mk.injEq]
    by_cases same : name = first
    · subst same
      have elsewhere : (name, value) ∉ rest := fun here =>
        distinct.1 (List.mem_map.mpr ⟨_, here, rfl⟩)
      simp [elsewhere, eq_comm]
    · have apart : (name == first) = false := by simpa using same
      simp [apart, same, ih distinct.2]

theorem find?_eq_some_iff (t : Table α) (name : String) (value : α) :
    t.find? name = some value ↔ (name, value) ∈ t.entries :=
  lookup_eq_some_iff t.distinct name value

/-- A look-up does not depend on the order of the entries. -/
theorem find?_of_perm {t t' : Table α} (reordered : t'.entries.Perm t.entries) (name : String) :
    t'.find? name = t.find? name := by
  apply Option.ext
  intro value
  rw [find?_eq_some_iff, find?_eq_some_iff, reordered.mem_iff]

theorem ofList_concat (before : List (String × α)) (last : String × α) :
    ofList (before ++ [last]) = (ofList before).insert last.1 last.2 := by
  simp only [ofList, List.foldl_append, List.foldl_cons, List.foldl_nil]

/-- Distinct names stay in the order in which they are inserted. -/
theorem entries_ofList {entries : List (String × α)} (distinct : (entries.map Prod.fst).Nodup) :
    (ofList entries).entries = entries := by
  induction entries using List.reverseRecOn with
  | nil => rfl
  | append_singleton before last ih =>
    rw [List.map_append, List.nodup_append] at distinct
    obtain ⟨early, -, apart⟩ := distinct
    have new : last.1 ∉ before.map Prod.fst := fun here =>
      apart _ here _ (List.mem_singleton_self _) rfl
    rw [← ih early] at new
    rw [ofList_concat]
    exact (put_of_not_mem _ new).trans (congrArg (· ++ [last]) (ih early))

/-- Every table comes of insertions. -/
theorem ofList_entries (t : Table α) : ofList t.entries = t := by
  have same := entries_ofList t.distinct
  generalize ofList t.entries = t' at same
  cases t
  cases t'
  cases same
  rfl

theorem find?_foldl_insert (t : Table α) (entries : List (String × α)) (name : String) :
    (entries.foldl (fun t entry => t.insert entry.1 entry.2) t).find? name =
      (entries.reverse.lookup name).or (t.find? name) := by
  induction entries generalizing t with
  | nil => rfl
  | cons entry rest ih =>
    have one : (t.insert entry.1 entry.2).find? name =
        ([entry].lookup name).or (t.find? name) := by
      rw [find?_insert, List.lookup_cons]
      by_cases same : name = entry.1
      · simp [same]
      · have apart : (name == entry.1) = false := by simpa using same
        rw [if_neg same, apart]
        rfl
    rw [List.foldl_cons, ih, one, List.reverse_cons, List.lookup_append, Option.or_assoc]

/-- The last value of a name counts. -/
theorem find?_ofList (entries : List (String × α)) (name : String) :
    (ofList entries).find? name = entries.reverse.lookup name := by
  rw [ofList, find?_foldl_insert, find?_empty, Option.or_none]

/-- Tables with the same look-ups differ at most in the order of their entries. -/
theorem perm_of_find? {t t' : Table α} (same : ∀ name, t'.find? name = t.find? name) :
    t'.entries.Perm t.entries := by
  have nodup (t : Table α) : t.entries.Nodup :=
    List.Pairwise.of_map Prod.fst (fun _ _ apart same => apart (congrArg Prod.fst same)) t.distinct
  apply (List.perm_ext_iff_of_nodup (nodup t') (nodup t)).mpr
  rintro ⟨name, value⟩
  rw [← find?_eq_some_iff, ← find?_eq_some_iff, same]

/-- An entry that no later one replaces might as well come last. -/
theorem insert_ofList_perm {name : String} (value : α) (before : List (String × α))
    {after : List (String × α)} (last : name ∉ after.map Prod.fst) :
    (ofList (before ++ (name, value) :: after)).entries.Perm
      ((ofList (before ++ after)).insert name value).entries := by
  apply perm_of_find?
  intro other
  rw [find?_insert, find?_ofList, find?_ofList, List.reverse_append, List.reverse_append,
    List.reverse_cons, List.append_assoc, List.lookup_append, List.lookup_append,
    List.lookup_append]
  by_cases same : other = name
  · subst same
    have absent : after.reverse.lookup other = none := by
      rw [lookup_eq_none_iff, List.map_reverse, List.mem_reverse]
      exact last
    simp [absent]
  · have apart : (other == name) = false := by simpa using same
    rw [if_neg same, List.lookup_cons, apart]
    rfl

end Datastore.Table
