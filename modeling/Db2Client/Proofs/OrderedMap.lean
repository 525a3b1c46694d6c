import Mathlib.Data.List.Induction
import Mathlib.Data.List.Nodup
import Db2Client.OrderedMap

/-!
# What an ordered map holds

A map is looked at in two ways: by its look-ups and by the order of its keys. One change moves
each of them as little as it can.

* `get?_insert`, `get?_erase`: look-ups under the other keys stay as they were.
* `keys_insert_of_mem`, `keys_insert_of_notMem`: a new key goes to the end, a present one stays.

What a whole list of insertions leaves follows by induction from the last one.

* `get?_ofList`: under each key the last value that was inserted.
* `keys_ofList`: each key once, in the order of the first insertions.
* `ofList_entries`: inserting the entries of such a map one after another gives the map again.

The last one asks nothing of the test by which keys are compared, so that it holds for keys that are
not equal to themselves.
-/

namespace Db2Client.OrderedMap

variable {α β : Type} [BEq α]

/-! ## Entries under different keys -/

/-- No key is equal to one that stands before it. -/
def Distinct (l : List (α × β)) : Prop := l.Pairwise fun e f => (e.1 == f.1) = false

theorem put_of_absent {a : α} {l : List (α × β)} (h : ∀ e ∈ l, (e.1 == a) = false) (v : β) :
    put a v l = l ++ [(a, v)] := by
  induction l with
  | nil => rfl
  | cons e l ih =>
    obtain ⟨k, w⟩ := e
    obtain ⟨hkey, hrest⟩ := List.forall_mem_cons.1 h
    have hkey : (k == a) = false := hkey
    rw [put, hkey, ih hrest]
    rfl

theorem key_of_mem_put {a : α} {v : β} {l : List (α × β)} {e : α × β} (h : e ∈ put a v l) :
    e.1 = a ∨ ∃ f ∈ l, f.1 = e.1 := by
  induction l with
  | nil =>
    rw [put, List.mem_singleton] at h
    exact .inl (by rw [h])
  | cons f l ih =>
    obtain ⟨k, w⟩ := f
    rw [put] at h
    split at h
    · obtain rfl | hmem := List.mem_cons.1 h
      · exact .inr ⟨(k, w), List.mem_cons_self, rfl⟩
      · exact .inr ⟨e, List.mem_cons_of_mem _ hmem, rfl⟩
    · obtain rfl | hmem := List.mem_cons.1 h
      · exact .inr ⟨(k, w), List.mem_cons_self, rfl⟩
      · obtain hkey | ⟨f, hf, hkey⟩ := ih hmem
        · exact .inl hkey
        · exact .inr ⟨f, List.mem_cons_of_mem _ hf, hkey⟩

theorem distinct_put {l : List (α × β)} (h : Distinct l) (a : α) (v : β) :
    Distinct (put a v l) := by
  induction l with
  | nil => exact List.pairwise_singleton _ _
  | cons e l ih =>
    obtain ⟨k, w⟩ := e
    obtain ⟨hfirst, hrest⟩ := List.pairwise_cons.1 h
    rw [put]
    split
    · exact List.pairwise_cons.2 ⟨hfirst, hrest⟩
    · rename_i hk
      refine List.pairwise_cons.2 ⟨fun f hf => ?_, ih hrest⟩
      obtain hkey | ⟨g, hg, hkey⟩ := key_of_mem_put hf
      · rw [hkey]
        exact eq_false_of_ne_true hk
      · rw [← hkey]
        exact hfirst g hg

theorem ofList_concat (pairs : List (α × β)) (p : α × β) :
    ofList (pairs ++ [p]) = (ofList pairs).insert p.1 p.2 := by
  rw [ofList, List.foldl_append]
  rfl

theorem distinct_ofList (pairs : List (α × β)) : Distinct (ofList pairs).entries := by
  induction pairs using List.reverseRecOn with
  | nil => exact List.Pairwise.nil
  | append_singleton pairs p ih =>
    rw [ofList_concat]
    exact distinct_put ih p.1 p.2

theorem ofList_of_distinct {pairs : List (α × β)} (h : Distinct pairs) :
    ofList pairs = ⟨pairs⟩ := by
  induction pairs using List.reverseRecOn with
  | nil => rfl
  | append_singleton pairs p ih =>
    obtain ⟨hpairs, -, hnew⟩ := List.pairwise_append.1 h
    have habsent : ∀ e ∈ pairs, (e.1 == p.1) = false := by
      intro e he
      exact hnew e he p (List.mem_singleton_self p)
    rw [ofList_concat, ih hpairs, insert, put_of_absent habsent]

theorem ofList_entries {m : OrderedMap α β} (h : Distinct m.entries) : ofList m.entries = m :=
  ofList_of_distinct h

/-! ## One change -/

variable [LawfulBEq α]

theorem find_put (a b : α) (v : β) (l : List (α × β)) :
    find b (put a v l) = if a == b then some v else find b l := by
  induction l with
  | nil => rfl
  | cons e l ih =>
    obtain ⟨k, w⟩ := e
    by_cases hk : k = a
    · subst hk
      by_cases hb : k = b <;> simp [put, find, hb]
    · by_cases hb : k = b
      · subst hb
        simp [put, find, hk, Ne.symm hk]
      · simp [put, find, hk, hb, ih]

theorem get?_insert (m : OrderedMap α β) (a b : α) (v : β) :
    (m.insert a v).get? b = if a == b then some v else m.get? b := find_put a b v m.entries

theorem find_filter_ne (a b : α) (l : List (α × β)) :
    find b (l.filter fun e => !(e.1 == a)) = if a == b then none else find b l := by
  induction l with
  | nil => simp [find]
  | cons e l ih =>
    obtain ⟨k, w⟩ := e
    by_cases hk : k = a
    · subst hk
      simp only [beq_self_eq_true, Bool.not_true, Bool.false_eq_true, not_false_eq_true,
        List.filter_cons_of_neg, ih, find]
      by_cases hb : k = b <;> simp [hb]
    · by_cases hb : k = b
      · subst hb
        simp [find, hk, Ne.symm hk]
      · simp [find, hk, hb, ih]

theorem get?_erase (m : OrderedMap α β) (a b : α) :
    (m.erase a).get? b = if a == b then none else m.get? b := find_filter_ne a b m.entries

theorem find_eq_none_iff (a : α) (l : List (α × β)) :
    find a l = none ↔ a ∉ l.map Prod.fst := by
  induction l with
  | nil => simp [find]
  | cons e l ih =>
    obtain ⟨k, w⟩ := e
    by_cases hk : k = a
    · simp [find, hk]
    · simp [find, hk, ih, Ne.symm hk]

theorem get?_eq_none_iff {m : OrderedMap α β} {a : α} : m.get? a = none ↔ a ∉ m.keys :=
  find_eq_none_iff a m.entries

theorem contains_iff {m : OrderedMap α β} {a : α} : m.contains a = true ↔ a ∈ m.keys := by
  rw [contains, Option.isSome_iff_ne_none, ne_eq, get?_eq_none_iff, not_not]

/-! ## The order of the keys -/

theorem map_fst_put_of_mem {a : α} {l : List (α × β)} (h : a ∈ l.map Prod.fst) (v : β) :
    (put a v l).map Prod.fst = l.map Prod.fst := by
  induction l with
  | nil => cases h
  | cons e l ih =>
    obtain ⟨k, w⟩ := e
    by_cases hk : k = a
    · simp [put, hk]
    · have hrest : a ∈ l.map Prod.fst := by simpa [Ne.symm hk] using h
      simp [put, hk, ih hrest]

theorem put_of_notMem {a : α} {l : List (α × β)} (h : a ∉ l.map Prod.fst) (v : β) :
    put a v l = l ++ [(a, v)] := by
  refine put_of_absent (fun e he => beq_false_of_ne ?_) v
  rintro rfl
  exact h (List.mem_map_of_mem he)

/-- A key that is present keeps its place. -/
theorem keys_insert_of_mem {m : OrderedMap α β} {a : α} (h : a ∈ m.keys) (v : β) :
    (m.insert a v).keys = m.keys := map_fst_put_of_mem h v

/-- A new entry goes to the end. -/
theorem entries_insert_of_notMem {m : OrderedMap α β} {a : α} (h : a ∉ m.keys) (v : β) :
    (m.insert a v).entries = m.entries ++ [(a, v)] := put_of_notMem h v

theorem keys_insert_of_notMem {m : OrderedMap α β} {a : α} (h : a ∉ m.keys) (v : β) :
    (m.insert a v).keys = m.keys ++ [a] := by
  rw [keys, entries_insert_of_notMem h, List.map_append]
  rfl

/-! ## Insertions one after another -/

/-- **The last insertion counts.** -/
theorem get?_ofList (pairs : List (α × β)) (a : α) :
    (ofList pairs).get? a = ((pairs.filter fun p => p.1 == a).getLast?).map Prod.snd := by
  induction pairs using List.reverseRecOn with
  | nil => rfl
  | append_singleton pairs p ih =>
    rw [ofList_concat, get?_insert, List.filter_append, ih]
    by_cases hp : p.1 = a
    · simp [hp]
    · simp [hp]

theorem eraseDups_concat (l : List α) (a : α) :
    (l ++ [a]).eraseDups = if l.contains a then l.eraseDups else l.eraseDups ++ [a] := by
  rw [List.eraseDups_append, List.removeAll]
  by_cases h : a ∈ l <;> simp [h, List.eraseDups_cons]

/-- **The first insertion gives the place.** -/
theorem keys_ofList (pairs : List (α × β)) :
    (ofList pairs).keys = (pairs.map Prod.fst).eraseDups := by
  induction pairs using List.reverseRecOn with
  | nil => rfl
  | append_singleton pairs p ih =>
    rw [ofList_concat, List.map_append, List.map_singleton, eraseDups_concat, ← ih]
    by_cases hp : p.1 ∈ pairs.map Prod.fst
    · have hkey : p.1 ∈ (ofList pairs).keys := by rwa [ih, List.mem_eraseDups]
      rw [keys_insert_of_mem hkey, if_pos (List.contains_iff_mem.2 hp)]
    · have hkey : p.1 ∉ (ofList pairs).keys := by rwa [ih, List.mem_eraseDups]
      rw [keys_insert_of_notMem hkey, if_neg (mt List.contains_iff_mem.1 hp)]

theorem nodup_keys_ofList (pairs : List (α × β)) : (ofList pairs).keys.Nodup := by
  rw [keys]
  exact List.pairwise_map.2 ((distinct_ofList pairs).imp ne_of_beq_false)

theorem entries_ofList {pairs : List (α × β)} (h : (pairs.map Prod.fst).Nodup) :
    (ofList pairs).entries = pairs := by
  have hdistinct : Distinct pairs := (List.pairwise_map.1 h).imp beq_false_of_ne
  rw [ofList_of_distinct hdistinct]

end Db2Client.OrderedMap
