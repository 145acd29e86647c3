import Mathlib.Data.List.Basic
import Mathlib.Data.List.Nodup
/-
# Python dictionaries

A `dict` with string keys is an association list in insertion order.  `d[k] = v` overwrites
a bound key IN PLACE and appends a new one, so the order of `d.items()` is Python's.  Both the
weigher's request and usage records and the orchestrator's `groups` are such dictionaries.

* `get?_set`, `get?_erase`: what a lookup sees after a write or a `del`;
* `mem_set`, `mem_erase`: every entry after a write is an old entry or the written one, so
  a property of all entries is kept by writing a value that has it;
* `nodup_keys_set`, `nodup_keys_erase`: a dictionary built by writes binds each key once.
-/

namespace OpenKCloud

/-- A Python `dict` with string keys, in insertion order. -/
abbrev Dict (α : Type) := List (String × α)

namespace Dict

variable {α : Type}

/-- `d.get(k)`: the first binding of `k`. -/
def get? : Dict α → String → Option α
  | [], _ => none
  | (k, v) :: d, k' => if k = k' then some v else get? d k'

/-- `d.get(k, default)`. -/
def getD (d : Dict α) (k : String) (dflt : α) : α := (d.get? k).getD dflt

/-- `d[k] = v`: overwrite in place when `k` is bound, append otherwise. -/
def set (d : Dict α) (k : String) (v : α) : Dict α :=
  if (d.get? k).isSome then d.map (fun e => if e.1 = k then (k, v) else e) else d ++ [(k, v)]

/-- The keys, in insertion order. -/
def keys (d : Dict α) : List String := d.map Prod.fst

@[simp] theorem get?_nil (k : String) : get? ([] : Dict α) k = none := rfl

@[simp] theorem getD_nil (k : String) (dflt : α) : getD ([] : Dict α) k dflt = dflt := rfl

theorem get?_cons (k k' : String) (v : α) (d : Dict α) :
    get? ((k, v) :: d) k' = if k = k' then some v else get? d k' := rfl

theorem get?_isSome_iff {d : Dict α} {k : String} : (d.get? k).isSome ↔ k ∈ d.keys := by
  induction d with
  | nil => simp [keys]
  | cons e d ih =>
    obtain ⟨k₀, v⟩ := e
    by_cases h : k₀ = k
    · simp [get?_cons, h, keys]
    · rw [get?_cons, if_neg h, ih]; simp [keys, Ne.symm h]

theorem get?_map_set (d : Dict α) (k k' : String) (v : α) :
    get? (d.map (fun e => if e.1 = k then (k, v) else e)) k' =
      if (d.get? k').isSome ∧ k' = k then some v else d.get? k' := by
  induction d with
  | nil => simp
  | cons e d ih =>
    obtain ⟨k₀, w⟩ := e
    by_cases h₀ : k₀ = k <;> by_cases h₁ : k₀ = k' <;> simp_all [get?_cons]

theorem get?_append (d e : Dict α) (k : String) :
    get? (d ++ e) k = (d.get? k).or (e.get? k) := by
  induction d with
  | nil => simp
  | cons x d ih => obtain ⟨k₀, v⟩ := x; by_cases h : k₀ = k <;> simp [get?_cons, h, ih]

@[simp] theorem get?_set (d : Dict α) (k k' : String) (v : α) :
    (d.set k v).get? k' = if k' = k then some v else d.get? k' := by
  unfold set
  split
  · rw [get?_map_set]; by_cases h : k' = k <;> simp_all
  · rw [get?_append]
    by_cases h : k' = k
    · subst h; simp_all [get?_cons]
    · simp [h, get?_cons, Ne.symm h]

/-- `del d[k]`: every binding of `k` goes; a dictionary built by `set` has at most one. -/
def erase (d : Dict α) (k : String) : Dict α := d.filter fun e => e.1 != k

@[simp] theorem get?_erase (d : Dict α) (k k' : String) :
    (d.erase k).get? k' = if k' = k then none else d.get? k' := by
  induction d with
  | nil => simp [erase]
  | cons e d ih =>
    obtain ⟨k₀, v⟩ := e
    by_cases h₀ : k₀ = k <;> by_cases h₁ : k₀ = k' <;>
      simp_all [erase, get?_cons, List.filter_cons]

/-- An entry after `d[k] = v` is the written one or an old entry of another key: the write
replaces every binding of `k`. -/
theorem mem_set {d : Dict α} {k : String} {v : α} {e : String × α} (h : e ∈ d.set k v) :
    (e ∈ d ∧ e.1 ≠ k) ∨ e = (k, v) := by
  unfold set at h
  split at h
  · obtain ⟨e₀, he₀, rfl⟩ := List.mem_map.1 h
    split
    · exact .inr rfl
    · exact .inl ⟨he₀, by assumption⟩
  · rcases List.mem_append.1 h with h' | h'
    · refine .inl ⟨h', fun hk => ?_⟩
      have : (d.get? k).isSome := get?_isSome_iff.2 (hk ▸ List.mem_map_of_mem Prod.fst h')
      contradiction
    · exact .inr (List.mem_singleton.1 h')

theorem mem_erase {d : Dict α} {k : String} {e : String × α} (h : e ∈ d.erase k) : e ∈ d :=
  List.mem_of_mem_filter h

theorem mem_of_get?_eq_some {d : Dict α} {k : String} {v : α} (h : d.get? k = some v) :
    (k, v) ∈ d := by
  induction d with
  | nil => cases h
  | cons e d ih =>
    obtain ⟨k₀, w⟩ := e
    rw [get?_cons] at h
    split at h
    · cases h; subst_vars; exact List.mem_cons_self _ _
    · exact List.mem_cons_of_mem _ (ih h)

/-- A write keeps the keys of a bound key in place, and appends a new one. -/
theorem keys_set (d : Dict α) (k : String) (v : α) :
    (d.set k v).keys = if k ∈ d.keys then d.keys else d.keys ++ [k] := by
  unfold set
  split
  · rw [if_pos (get?_isSome_iff.1 ‹_›), keys, List.map_map]
    exact List.map_congr_left fun e _ => by dsimp only [Function.comp]; split <;> simp_all
  · rw [if_neg (mt get?_isSome_iff.2 ‹_›), keys, List.map_append]; rfl

theorem nodup_keys_set {d : Dict α} (h : d.keys.Nodup) (k : String) (v : α) :
    (d.set k v).keys.Nodup := by
  rw [keys_set]
  split
  · exact h
  · exact List.nodup_append.2 ⟨h, List.nodup_singleton k, by simpa [List.disjoint_singleton]⟩

theorem nodup_keys_erase {d : Dict α} (h : d.keys.Nodup) (k : String) : (d.erase k).keys.Nodup :=
  h.sublist (List.filter_sublist d |>.map Prod.fst)

/-- A new key goes at the end. -/
theorem set_of_not_mem {d : Dict α} {k : String} (h : k ∉ d.keys) (v : α) :
    d.set k v = d ++ [(k, v)] := by
  rw [set, if_neg (mt get?_isSome_iff.1 h)]

theorem keys_append (d e : Dict α) : (d ++ e).keys = d.keys ++ e.keys := List.map_append _ _ _

end Dict

end OpenKCloud
