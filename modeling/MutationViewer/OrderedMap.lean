/-!
# Maps that keep their order

An entry stays where its key was first put; putting the key again replaces the
value only.  Keys never repeat, so an entry is found by its key alone.
-/

namespace MutationViewer

/-- Values under texts, in the order in which the keys were first put. -/
structure OrderedMap (Value : Type) where
  entries : List (String × Value)
  nodup : (entries.map Prod.fst).Nodup

namespace OrderedMap

variable {Value : Type}

def empty : OrderedMap Value where
  entries := []
  nodup := List.nodup_nil

/-- Replace the value of a key where it stands, or add the key at the end. -/
def putEntry (key : String) (value : Value) :
    List (String × Value) -> List (String × Value)
  | [] => [(key, value)]
  | entry :: rest =>
      if entry.1 = key then (key, value) :: rest else entry :: putEntry key value rest

theorem keys_putEntry (key : String) (value : Value) (entries : List (String × Value)) :
    (putEntry key value entries).map Prod.fst =
      if key ∈ entries.map Prod.fst then entries.map Prod.fst
      else entries.map Prod.fst ++ [key] := by
  induction entries with
  | nil => simp [putEntry]
  | cons entry rest ih =>
      by_cases same : entry.1 = key
      · simp [putEntry, same]
      · have other : ¬ key = entry.1 := fun equal => same equal.symm
        simp only [putEntry, if_neg same, List.map_cons, ih, List.mem_cons, other, false_or]
        split <;> simp

private theorem nodup_putEntry (key : String) (value : Value)
    (entries : List (String × Value)) (nodup : (entries.map Prod.fst).Nodup) :
    ((putEntry key value entries).map Prod.fst).Nodup := by
  rw [keys_putEntry]
  split
  · exact nodup
  · next fresh =>
      rw [List.nodup_append]
      refine ⟨nodup, by simp, ?_⟩
      intro first firstIn second secondIn same
      rw [List.mem_singleton] at secondIn
      exact fresh (secondIn ▸ same ▸ firstIn)

def put (map : OrderedMap Value) (key : String) (value : Value) : OrderedMap Value where
  entries := putEntry key value map.entries
  nodup := nodup_putEntry key value map.entries map.nodup

def ofList (pairs : List (String × Value)) : OrderedMap Value :=
  pairs.foldl (fun map pair => map.put pair.1 pair.2) empty

def get? (map : OrderedMap Value) (key : String) : Option Value :=
  (map.entries.find? fun entry => entry.1 == key).map Prod.snd

def contains (map : OrderedMap Value) (key : String) : Bool :=
  (map.get? key).isSome

def values (map : OrderedMap Value) : List Value :=
  map.entries.map Prod.snd

theorem get?_put (map : OrderedMap Value) (key other : String) (value : Value) :
    (map.put key value).get? other = if key = other then some value else map.get? other := by
  have general : forall entries : List (String × Value),
      ((putEntry key value entries).find? fun entry => entry.1 == other).map Prod.snd =
        if key = other then some value
        else (entries.find? fun entry => entry.1 == other).map Prod.snd := by
    intro entries
    induction entries with
    | nil => by_cases same : key = other <;> simp [putEntry, same]
    | cons entry rest ih =>
        by_cases stands : entry.1 = key
        · subst stands
          by_cases same : entry.1 = other <;> simp [putEntry, same]
        · by_cases hit : entry.1 = other
          · subst hit
            have different : ¬ key = entry.1 := fun equal => stands equal.symm
            simp [putEntry, stands, different]
          · simp only [putEntry, if_neg stands]
            rw [List.find?_cons_of_neg (by simpa using hit), ih,
              List.find?_cons_of_neg (by simpa using hit)]
  exact general map.entries

/-- An entry is found by its key alone, since no key repeats. -/
theorem get?_eq_some_iff (map : OrderedMap Value) (key : String) (value : Value) :
    map.get? key = some value ↔ (key, value) ∈ map.entries := by
  obtain ⟨entries, nodup⟩ := map
  change (entries.find? fun entry => entry.1 == key).map Prod.snd = some value ↔
    (key, value) ∈ entries
  induction entries with
  | nil => simp
  | cons entry rest ih =>
      rw [List.map_cons, List.nodup_cons] at nodup
      obtain ⟨first, held⟩ := entry
      by_cases same : first = key
      · subst same
        have alone : (first, value) ∉ rest := fun member =>
          nodup.1 (List.mem_map.mpr ⟨_, member, rfl⟩)
        simp [alone, eq_comm]
      · have other : ¬ key = first := fun equal => same equal.symm
        rw [List.find?_cons_of_neg (by simpa using same), ih nodup.2]
        simp [other]

end OrderedMap
end MutationViewer
