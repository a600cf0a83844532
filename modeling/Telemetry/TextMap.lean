/-!
# Maps with text keys

A finite map from texts to values, kept as a list of entries whose keys ascend. The order is that
of code points, so a map has exactly one representation and two maps are equal when their entries
are. Tags are such a map, and so are the attributes of an event.

## Main definitions

* `TextMap`: the type, with its entries in `toList`.
* `TextMap.get?`: the value of a key.
* `TextMap.insert`, `TextMap.insertNew`: a new value wins, or the old one does.
* `TextMap.ofList`, `TextMap.union`: of several values for a key the last one wins.
* `TextMap.filter`: the entries whose key and value satisfy a condition.
-/

namespace Telemetry

/-- A finite map from texts to values, with its entries in ascending order of their keys. -/
structure TextMap (α : Type) where
  toList : List (String × α)
  sorted : toList.Pairwise fun a b => a.1 < b.1
deriving DecidableEq

namespace TextMap

variable {α : Type}

/-- The map without entries. -/
def empty : TextMap α := ⟨[], List.Pairwise.nil⟩

instance : Inhabited (TextMap α) := ⟨empty⟩

/-- Puts a value under a key in a list with ascending keys. -/
def insertEntry (key : String) (value : α) : List (String × α) → List (String × α)
  | [] => [(key, value)]
  | (k, v) :: rest =>
    if key = k then (key, value) :: rest
    else if key < k then (key, value) :: (k, v) :: rest
    else (k, v) :: insertEntry key value rest

/-- The keys after putting in a value are the new one and the old ones. -/
theorem mem_insertEntry {key : String} {value : α} {entries : List (String × α)}
    {e : String × α} (h : e ∈ insertEntry key value entries) :
    e = (key, value) ∨ e ∈ entries := by
  induction entries with
  | nil => simpa [insertEntry] using h
  | cons head rest ih =>
    obtain ⟨k, v⟩ := head
    simp only [insertEntry] at h
    split at h
    · rcases List.mem_cons.1 h with h | h
      · exact .inl h
      · exact .inr (List.mem_cons_of_mem _ h)
    · split at h
      · rcases List.mem_cons.1 h with h | h
        · exact .inl h
        · exact .inr h
      · rcases List.mem_cons.1 h with h | h
        · exact .inr (h ▸ List.mem_cons_self)
        · rcases ih h with h | h
          · exact .inl h
          · exact .inr (List.mem_cons_of_mem _ h)

/-- Putting in a value keeps the keys ascending. -/
theorem sorted_insertEntry {key : String} {value : α} {entries : List (String × α)}
    (h : entries.Pairwise fun a b => a.1 < b.1) :
    (insertEntry key value entries).Pairwise fun a b => a.1 < b.1 := by
  induction entries with
  | nil => exact List.pairwise_singleton _ _
  | cons head rest ih =>
    obtain ⟨k, v⟩ := head
    obtain ⟨hhead, hrest⟩ := List.pairwise_cons.1 h
    simp only [insertEntry]
    split
    · next heq => exact List.pairwise_cons.2 ⟨fun e he => heq ▸ hhead e he, hrest⟩
    · next hne =>
      split
      · next hlt =>
        refine List.pairwise_cons.2 ⟨fun e he => ?_, h⟩
        rcases List.mem_cons.1 he with he | he
        · exact he ▸ hlt
        · exact String.lt_trans hlt (hhead e he)
      · next hge =>
        refine List.pairwise_cons.2 ⟨fun e he => ?_, ih hrest⟩
        rcases mem_insertEntry he with he | he
        · subst he
          exact Decidable.byContradiction fun hkk =>
            hne (String.le_antisymm (String.not_lt.1 hkk) (String.not_lt.1 hge))
        · exact hhead e he

/-- Puts a value under a key; a value that was there before is lost. -/
def insert (m : TextMap α) (key : String) (value : α) : TextMap α :=
  ⟨insertEntry key value m.toList, sorted_insertEntry m.sorted⟩

/-- The value under a key, if there is one. -/
def get? (m : TextMap α) (key : String) : Option α :=
  (m.toList.find? fun e => e.1 == key).map (·.2)

/-- Whether there is a value under a key. -/
def contains (m : TextMap α) (key : String) : Bool := (m.get? key).isSome

/-- Puts a value under a key unless there is one already. -/
def insertNew (m : TextMap α) (key : String) (value : α) : TextMap α :=
  if m.contains key then m else m.insert key value

/-- Puts in a list of entries, one after another. -/
def insertAll (m : TextMap α) (entries : List (String × α)) : TextMap α :=
  entries.foldl (fun m e => m.insert e.1 e.2) m

/-- The map of a list of entries; of several values for a key the last one wins. -/
def ofList (entries : List (String × α)) : TextMap α := empty.insertAll entries

/-- All entries of two maps; the second one's value wins. -/
def union (a b : TextMap α) : TextMap α := a.insertAll b.toList

/-- The entries that satisfy a condition. -/
def filter (m : TextMap α) (keep : String → α → Bool) : TextMap α :=
  ⟨m.toList.filter fun e => keep e.1 e.2, m.sorted.filter _⟩

/-- The number of entries. -/
def size (m : TextMap α) : Nat := m.toList.length

/-- Whether there are no entries. -/
def isEmpty (m : TextMap α) : Bool := m.toList.isEmpty

end TextMap

end Telemetry
