import Mathlib.Data.List.Nodup
import Telemetry.TextMap

/-!
# What a text map holds

A text map is known by its values: what is under a key after an entry was put in, after a list of
entries was put in one by one, and after entries were left out. As its keys ascend, two maps with the
same values are equal, however they were made.

## Main definitions

- `TextMap.lastFor` — the last value for a key in a list of entries

## Main statements

- `TextMap.get?_insertAll`, `TextMap.get?_ofList`, `TextMap.get?_union`, `TextMap.get?_filter` — the
  values of a map that was made of others
- `TextMap.ext_get?` — maps with the same values are equal
- `TextMap.ofList_toList` — a map is made of its own entries
-/

namespace Telemetry

/-- Where no two entries have the same key, looking for the key of an entry finds that entry. -/
theorem find?_key_eq_some {α κ : Type} [DecidableEq κ] {key : α → κ} {entries : List α}
    (h : (entries.map key).Nodup) {e : α} (he : e ∈ entries) :
    (entries.find? fun other => key other == key e) = some e := by
  have hsome : (entries.find? fun other => key other == key e).isSome = true :=
    List.find?_isSome.2 ⟨e, he, beq_self_eq_true (key e)⟩
  obtain ⟨other, hother⟩ := Option.isSome_iff_exists.1 hsome
  have hkey : key other = key e := by simpa using List.find?_some hother
  rw [hother, List.inj_on_of_nodup_map h (List.mem_of_find?_eq_some hother) he hkey]

namespace TextMap

variable {α : Type}

/-- The last value for a key in a list of entries. -/
def lastFor (entries : List (String × α)) (key : String) : Option α :=
  (entries.reverse.find? fun e => e.1 == key).map (·.2)

@[simp] theorem lastFor_nil (key : String) : lastFor ([] : List (String × α)) key = none := rfl

theorem lastFor_cons (e : String × α) (entries : List (String × α)) (key : String) :
    lastFor (e :: entries) key =
      (lastFor entries key).or (if e.1 = key then some e.2 else none) := by
  unfold lastFor
  rw [List.reverse_cons, List.find?_append, Option.map_or]
  by_cases h : e.1 = key <;> simp [h]

theorem lastFor_append (entries more : List (String × α)) (key : String) :
    lastFor (entries ++ more) key = (lastFor more key).or (lastFor entries key) := by
  unfold lastFor
  rw [List.reverse_append, List.find?_append, Option.map_or]

theorem lastFor_eq_none_iff {entries : List (String × α)} {key : String} :
    lastFor entries key = none ↔ key ∉ entries.map (·.1) := by
  rw [lastFor, Option.map_eq_none_iff, List.find?_eq_none, List.mem_map]
  constructor
  · rintro h ⟨e, he, rfl⟩
    exact h e (List.mem_reverse.2 he) (beq_self_eq_true e.1)
  · intro h e he hkey
    exact h ⟨e, List.mem_reverse.1 he, beq_iff_eq.1 hkey⟩

/-- The last value for a key is that of an entry behind which no other one has the key. -/
theorem lastFor_eq_some_iff {entries : List (String × α)} {key : String} {value : α} :
    lastFor entries key = some value ↔
      ∃ before after, entries = before ++ (key, value) :: after ∧ key ∉ after.map (·.1) := by
  constructor
  · intro h
    obtain ⟨⟨k, v⟩, hfind, rfl⟩ := Option.map_eq_some_iff.1 h
    obtain ⟨hkey, front, back, hreverse, hfront⟩ := List.find?_eq_some_iff_append.1 hfind
    obtain rfl : k = key := by simpa using hkey
    refine ⟨back.reverse, front.reverse, ?_, ?_⟩
    · rw [← List.reverse_reverse entries, hreverse]
      simp
    · rw [← lastFor_eq_none_iff, lastFor, List.reverse_reverse, Option.map_eq_none_iff,
        List.find?_eq_none]
      exact fun e he => by simpa using hfront e he
  · rintro ⟨before, after, rfl, hafter⟩
    rw [lastFor_append, lastFor_cons, lastFor_eq_none_iff.2 hafter]
    simp

/-! ## Values that were put in -/

@[simp] theorem get?_empty (key : String) : (empty : TextMap α).get? key = none := rfl

theorem find?_insertEntry (k : String) (value : α) (entries : List (String × α)) (key : String) :
    (insertEntry k value entries).find? (fun e => e.1 == key) =
      if k = key then some (k, value) else entries.find? fun e => e.1 == key := by
  induction entries with
  | nil => by_cases h : k = key <;> simp [insertEntry, h]
  | cons e rest ih =>
    obtain ⟨k', v'⟩ := e
    unfold insertEntry
    by_cases hsame : k = k'
    · subst hsame
      by_cases h : k = key <;> simp [h]
    · rw [if_neg hsame]
      by_cases hlt : k < k'
      · rw [if_pos hlt]
        by_cases h : k = key <;> simp [h]
      · rw [if_neg hlt]
        by_cases h' : k' = key
        · have hne : k ≠ key := h' ▸ hsame
          simp [h', hne]
        · simp [h', ih]

theorem get?_insert (m : TextMap α) (k : String) (value : α) (key : String) :
    (m.insert k value).get? key = if k = key then some value else m.get? key := by
  rw [get?, insert, find?_insertEntry]
  by_cases h : k = key <;> simp [h, get?]

/-- Of the values that were put in for a key the last one counts, and the old one if there is none. -/
theorem get?_insertAll (m : TextMap α) (entries : List (String × α)) (key : String) :
    (m.insertAll entries).get? key = (lastFor entries key).or (m.get? key) := by
  induction entries generalizing m with
  | nil => rfl
  | cons e rest ih =>
    have hnext : m.insertAll (e :: rest) = (m.insert e.1 e.2).insertAll rest := rfl
    rw [hnext, ih, get?_insert, lastFor_cons, Option.or_assoc]
    by_cases h : e.1 = key <;> simp [h]

theorem get?_insertNew (m : TextMap α) (k : String) (value : α) (key : String) :
    (m.insertNew k value).get? key = (m.get? key).or (if k = key then some value else none) := by
  unfold insertNew contains
  by_cases hk : k = key
  · subst hk
    cases h : m.get? k <;> simp [get?_insert, h]
  · cases m.get? k <;> simp [get?_insert, hk]

/-- Of entries that are put in where nothing was, the first one for a key counts, unless there was a
value before. -/
theorem get?_foldl_insertNew (m : TextMap α) (entries : List (String × α)) (key : String) :
    (entries.foldl (fun m e => m.insertNew e.1 e.2) m).get? key =
      (m.get? key).or ((entries.find? fun e => e.1 == key).map (·.2)) := by
  induction entries generalizing m with
  | nil => simp
  | cons e rest ih =>
    rw [List.foldl_cons, ih, get?_insertNew, Option.or_assoc]
    by_cases h : e.1 = key
    · simp [h]
    · rw [List.find?_cons_of_neg (by simpa using h), if_neg h, Option.none_or]

theorem get?_ofList (entries : List (String × α)) (key : String) :
    (ofList entries).get? key = lastFor entries key := by
  rw [ofList, get?_insertAll, get?_empty, Option.or_none]

/-! ## Entries and values -/

theorem nodup_keys (m : TextMap α) : (m.toList.map (·.1)).Nodup :=
  List.pairwise_map.2 (m.sorted.imp fun h => String.ne_of_lt h)

/-- Where no key occurs twice, looking for a key finds its only entry. -/
theorem find?_eq_some_iff_mem {entries : List (String × α)} (h : (entries.map (·.1)).Nodup)
    {key : String} {value : α} :
    (entries.find? fun e => e.1 == key).map (·.2) = some value ↔ (key, value) ∈ entries := by
  constructor
  · intro hfind
    obtain ⟨⟨k, v⟩, he, rfl⟩ := Option.map_eq_some_iff.1 hfind
    obtain rfl : k = key := by simpa using List.find?_some he
    exact List.mem_of_find?_eq_some he
  · intro hmem
    rw [find?_key_eq_some h hmem]
    rfl

theorem get?_eq_some_iff {m : TextMap α} {key : String} {value : α} :
    m.get? key = some value ↔ (key, value) ∈ m.toList :=
  find?_eq_some_iff_mem m.nodup_keys

theorem lastFor_eq_some_iff_mem {entries : List (String × α)} (h : (entries.map (·.1)).Nodup)
    {key : String} {value : α} : lastFor entries key = some value ↔ (key, value) ∈ entries := by
  have hnodup : (entries.reverse.map (·.1)).Nodup := by
    rw [List.map_reverse]
    exact List.nodup_reverse.2 h
  rw [lastFor, find?_eq_some_iff_mem hnodup, List.mem_reverse]

theorem lastFor_eq_some {entries : List (String × α)} (h : (entries.map (·.1)).Nodup)
    {key : String} {value : α} (hmem : (key, value) ∈ entries) :
    lastFor entries key = some value :=
  (lastFor_eq_some_iff_mem h).2 hmem

theorem lastFor_toList (m : TextMap α) (key : String) : lastFor m.toList key = m.get? key :=
  Option.ext fun _ => (lastFor_eq_some_iff_mem m.nodup_keys).trans get?_eq_some_iff.symm

theorem get?_union (a b : TextMap α) (key : String) :
    (a.union b).get? key = (b.get? key).or (a.get? key) := by
  rw [union, get?_insertAll, lastFor_toList]

theorem get?_filter (m : TextMap α) (keep : String → α → Bool) (key : String) :
    (m.filter keep).get? key = (m.get? key).filter (keep key) := by
  refine Option.ext fun value => ?_
  rw [get?_eq_some_iff, filter, List.mem_filter, ← get?_eq_some_iff, Option.filter_eq_some_iff]

/-- Maps with the same values are equal. -/
theorem ext_get? {a b : TextMap α} (h : ∀ key, a.get? key = b.get? key) : a = b := by
  have hmem : ∀ e, e ∈ a.toList ↔ e ∈ b.toList := by
    rintro ⟨key, value⟩
    rw [← get?_eq_some_iff, ← get?_eq_some_iff, h]
  have hperm : a.toList.Perm b.toList :=
    (List.perm_ext_iff_of_nodup a.nodup_keys.of_map b.nodup_keys.of_map).2 hmem
  have hlist : a.toList = b.toList :=
    hperm.eq_of_pairwise (fun _ _ _ _ hab hba => absurd (String.lt_trans hab hba) (String.lt_irrefl _))
      a.sorted b.sorted
  cases a
  cases b
  simpa using hlist

theorem ofList_toList (m : TextMap α) : ofList m.toList = m :=
  ext_get? fun key => by rw [get?_ofList, lastFor_toList]

end TextMap

end Telemetry
