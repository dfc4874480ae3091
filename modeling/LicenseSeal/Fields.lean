import LicenseSeal.Text

/-!
# Named fields

Fields are entries with distinct names in a fixed order.  Putting a field whose name is already
there keeps the name's place and replaces the value.  Main statements: `get?_put` says what a name
reads after a put, `names_put` what the names are.
-/

namespace LicenseSeal

/-- Named values in order, every name once. -/
structure Fields (ν : Type) where
  entries : List (Text × ν)
  distinct : (entries.map Prod.fst).Nodup

namespace Fields

variable {ν μ : Type}

/-- No field. -/
def empty : Fields ν := ⟨[], List.nodup_nil⟩

instance : EmptyCollection (Fields ν) := ⟨empty⟩

instance : Inhabited (Fields ν) := ⟨empty⟩

/-- The names in order. -/
def names (fields : Fields ν) : List Text :=
  fields.entries.map Prod.fst

/-- The number of fields. -/
def size (fields : Fields ν) : Nat :=
  fields.entries.length

/-- Whether there is no field. -/
def isEmpty (fields : Fields ν) : Bool :=
  fields.entries.isEmpty

/-- The value of a name in a list of entries. -/
def lookup (name : Text) : List (Text × ν) → Option ν
  | [] => none
  | (first, value) :: rest => if first = name then some value else lookup name rest

/-- The value of a name. -/
def get? (fields : Fields ν) (name : Text) : Option ν :=
  lookup name fields.entries

/-- Whether there is a field of a name. -/
def contains (fields : Fields ν) (name : Text) : Bool :=
  fields.names.contains name

/-- Puts an entry into a list of entries, at the name's place if it has one. -/
def putEntry (name : Text) (value : ν) : List (Text × ν) → List (Text × ν)
  | [] => [(name, value)]
  | (first, content) :: rest =>
      if first = name then (name, value) :: rest else (first, content) :: putEntry name value rest

/-- The names after a put: the same if the name was there, one more at the end if not. -/
theorem map_fst_putEntry (name : Text) (value : ν) (entries : List (Text × ν)) :
    (putEntry name value entries).map Prod.fst =
      if name ∈ entries.map Prod.fst then entries.map Prod.fst
      else entries.map Prod.fst ++ [name] := by
  induction entries with
  | nil => simp [putEntry]
  | cons entry rest ih =>
      obtain ⟨first, content⟩ := entry
      by_cases same : first = name
      · simp [putEntry, same]
      · have other : ¬ name = first := fun equal => same equal.symm
        simp only [putEntry, if_neg same, List.map_cons, ih, List.mem_cons, other, false_or]
        split <;> simp

private theorem nodup_putEntry (name : Text) (value : ν) {entries : List (Text × ν)}
    (distinct : (entries.map Prod.fst).Nodup) :
    ((putEntry name value entries).map Prod.fst).Nodup := by
  rw [map_fst_putEntry]
  split
  · exact distinct
  · next absent =>
      rw [List.nodup_append]
      refine ⟨distinct, by simp, ?_⟩
      intro first member second last
      simp only [List.mem_cons, List.not_mem_nil, or_false] at last
      subst last
      intro equal
      exact absent (equal ▸ member)

/-- The fields with one value put under a name. -/
def put (fields : Fields ν) (name : Text) (value : ν) : Fields ν :=
  ⟨putEntry name value fields.entries, nodup_putEntry name value fields.distinct⟩

/-- The fields that a sequence of entries builds. -/
def ofList (entries : List (Text × ν)) : Fields ν :=
  entries.foldl (fun fields entry => fields.put entry.1 entry.2) empty

/-- The fields that pass a test on their name. -/
def filterNames (fields : Fields ν) (keeps : Text → Bool) : Fields ν :=
  ⟨fields.entries.filter fun entry => keeps entry.1,
    (List.Sublist.map Prod.fst List.filter_sublist).nodup fields.distinct⟩

/-- The fields without the one of a name. -/
def erase (fields : Fields ν) (name : Text) : Fields ν :=
  fields.filterNames fun other => other ≠ name

/-- The fields with every value replaced by its image. -/
def map (image : ν → μ) (fields : Fields ν) : Fields μ :=
  ⟨fields.entries.map fun entry => (entry.1, image entry.2), by
    simpa only [List.map_map, Function.comp_def] using fields.distinct⟩

theorem names_put (fields : Fields ν) (name : Text) (value : ν) :
    (fields.put name value).names =
      if name ∈ fields.names then fields.names else fields.names ++ [name] :=
  map_fst_putEntry name value fields.entries

theorem lookup_putEntry (name other : Text) (value : ν) (entries : List (Text × ν)) :
    lookup other (putEntry name value entries) =
      if name = other then some value else lookup other entries := by
  induction entries with
  | nil => simp [putEntry, lookup]
  | cons entry rest ih =>
      obtain ⟨first, content⟩ := entry
      by_cases same : first = name
      · subst same
        simp only [putEntry, if_true, lookup]
        split <;> rfl
      · simp only [putEntry, if_neg same, lookup, ih]
        split
        · next found =>
            have distinctName : ¬ name = other := fun equal => same (found.trans equal.symm)
            rw [if_neg distinctName]
        · rfl

/-- A put changes what its own name reads and nothing else. -/
theorem get?_put (fields : Fields ν) (name other : Text) (value : ν) :
    (fields.put name value).get? other = if name = other then some value else fields.get? other :=
  lookup_putEntry name other value fields.entries

end Fields

end LicenseSeal
