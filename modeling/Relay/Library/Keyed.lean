import Mathlib.Data.List.Nodup
import Mathlib.Tactic.Common

/-!
# Keyed lists

A list of rows in which no two rows have the same key. This is a table with its
primary key, and, for rows that are pairs, a map that remembers the order in
which its keys were first set. The key discipline is a field, so a list with two
rows under one key cannot be built. Every operation is described by what
`find` reads afterwards; clients never look at the row list to reason about one key.
-/

/-- Rows listed in order, at most one for each key. -/
structure Keyed {R K : Type*} (key : R → K) where
  rows : List R
  nodup : (rows.map key).Nodup

namespace Keyed

variable {R K : Type*} {key : R → K}

theorem ext {t u : Keyed key} (h : t.rows = u.rows) : t = u := by
  cases t; cases u; cases h; rfl

def empty : Keyed key := ⟨[], List.nodup_nil⟩

/-- The rows that satisfy `p`, in order. -/
def filter (t : Keyed key) (p : R → Bool) : Keyed key :=
  ⟨t.rows.filter p, t.nodup.sublist (List.filter_sublist.map key)⟩

/-- Rewrite every row; the rewrite may not move a row to another key. -/
def update (t : Keyed key) (f : R → R) (hf : ∀ r, key (f r) = key r) : Keyed key :=
  ⟨t.rows.map f, by
    have same : key ∘ f = key := funext hf
    rw [List.map_map, same]
    exact t.nodup⟩

section Find

variable [DecidableEq K]

/-- The row under key `k`. -/
def find (t : Keyed key) (k : K) : Option R := t.rows.find? fun r => key r = k

/-- Add a row at the end, unless its key is taken. -/
def insert (t : Keyed key) (r : R) : Keyed key :=
  if h : key r ∈ t.rows.map key then t
  else ⟨t.rows ++ [r], by
    rw [List.map_append, List.nodup_append]
    refine ⟨t.nodup, List.nodup_singleton _, ?_⟩
    intro a ha b hb e
    rw [List.map_singleton, List.mem_singleton] at hb
    exact h (hb ▸ e ▸ ha)⟩

theorem find_eq_some_iff {t : Keyed key} {k : K} {r : R} :
    t.find k = some r ↔ r ∈ t.rows ∧ key r = k := by
  constructor
  · intro h
    exact ⟨List.mem_of_find?_eq_some h, by simpa using List.find?_some h⟩
  · rintro ⟨hr, rfl⟩
    cases h : t.find (key r) with
    | none => exact absurd (List.find?_eq_none.1 h r hr) (by simp)
    | some r' =>
      have hr' := List.mem_of_find?_eq_some h
      have hk : key r' = key r := by simpa using List.find?_some h
      rw [List.inj_on_of_nodup_map t.nodup hr' hr hk]

theorem find_eq_none_iff {t : Keyed key} {k : K} :
    t.find k = none ↔ ∀ r ∈ t.rows, key r ≠ k := by
  simp [find, List.find?_eq_none]

theorem key_of_find {t : Keyed key} {k : K} {r : R} (h : t.find k = some r) : key r = k :=
  (find_eq_some_iff.1 h).2

theorem mem_of_find {t : Keyed key} {k : K} {r : R} (h : t.find k = some r) : r ∈ t.rows :=
  (find_eq_some_iff.1 h).1

theorem find_of_mem {t : Keyed key} {r : R} (h : r ∈ t.rows) : t.find (key r) = some r :=
  find_eq_some_iff.2 ⟨h, rfl⟩

@[simp] theorem find_empty (k : K) : (empty : Keyed key).find k = none := rfl

@[simp] theorem find_update (t : Keyed key) (f : R → R) (hf : ∀ r, key (f r) = key r) (k : K) :
    (t.update f hf).find k = (t.find k).map f := by
  have same : ((fun r => decide (key r = k)) ∘ f) = fun r => decide (key r = k) := by
    funext r; simp [hf r]
  rw [find, update, List.find?_map, same, find]

theorem mem_keys_iff {t : Keyed key} {k : K} : k ∈ t.rows.map key ↔ t.find k ≠ none := by
  rw [Ne, find_eq_none_iff, List.mem_map]
  push Not
  rfl

theorem rows_insert_of_new {t : Keyed key} {r : R} (h : t.find (key r) = none) :
    (t.insert r).rows = t.rows ++ [r] := by
  have new : key r ∉ t.rows.map key := fun hm => mem_keys_iff.1 hm h
  rw [insert, dif_neg new]

theorem find_insert_of_new {t : Keyed key} {r : R} (h : t.find (key r) = none) (k : K) :
    (t.insert r).find k = if k = key r then some r else t.find k := by
  split
  · next e =>
    exact find_eq_some_iff.2 ⟨by rw [rows_insert_of_new h]; simp, e.symm⟩
  · next e =>
    have away : ¬ key r = k := fun e' => e e'.symm
    rw [find, rows_insert_of_new h, List.find?_append, find]
    simp [away]

@[simp] theorem find_filter_key (t : Keyed key) (k k' : K) :
    (t.filter fun r => key r ≠ k).find k' = if k' = k then none else t.find k' := by
  split
  · next e =>
    rw [find_eq_none_iff]
    intro r hr
    simp only [filter, List.mem_filter, decide_eq_true_eq] at hr
    exact e ▸ hr.2
  · next e =>
    apply Option.ext
    intro r
    rw [find_eq_some_iff, find_eq_some_iff]
    simp only [filter, List.mem_filter, decide_eq_true_eq]
    constructor
    · rintro ⟨⟨hr, -⟩, hk⟩
      exact ⟨hr, hk⟩
    · rintro ⟨hr, hk⟩
      exact ⟨⟨hr, hk ▸ e⟩, hk⟩

end Find

end Keyed

/-- A map that remembers the order in which its keys were first set. -/
abbrev OrderedMap (K V : Type*) := Keyed (Prod.fst : K × V → K)

namespace OrderedMap

variable {K V : Type*} [DecidableEq K]

def get (m : OrderedMap K V) (k : K) : Option V := (m.find k).map Prod.snd

/-- Setting a present key keeps its place; a new key goes to the end. -/
def set (m : OrderedMap K V) (k : K) (v : V) : OrderedMap K V :=
  if m.find k = none then m.insert (k, v)
  else m.update (fun p => if p.1 = k then (k, v) else p) (by intro p; split <;> simp_all)

def delete (m : OrderedMap K V) (k : K) : OrderedMap K V := m.filter fun p => p.1 ≠ k

/-- The values in the order of their keys. -/
def values (m : OrderedMap K V) : List V := m.rows.map Prod.snd

instance : EmptyCollection (OrderedMap K V) := ⟨Keyed.empty⟩

@[simp] theorem get_empty (k : K) : (∅ : OrderedMap K V).get k = none := rfl

@[simp] theorem get_set (m : OrderedMap K V) (k k' : K) (v : V) :
    (m.set k v).get k' = if k' = k then some v else m.get k' := by
  unfold get set
  split
  · next h =>
    rw [Keyed.find_insert_of_new (r := (k, v)) h]
    split <;> rfl
  · next h =>
    rw [Keyed.find_update]
    obtain ⟨p, hp⟩ := Option.ne_none_iff_exists'.1 h
    by_cases e : k' = k
    · subst e
      simp [hp, Keyed.key_of_find hp]
    · cases hk : m.find k' with
      | none => simp [e]
      | some q => simp [e, Keyed.key_of_find hk]

@[simp] theorem get_delete (m : OrderedMap K V) (k k' : K) :
    (m.delete k).get k' = if k' = k then none else m.get k' := by
  unfold get delete
  rw [Keyed.find_filter_key]
  split <;> rfl

theorem mem_values_iff {m : OrderedMap K V} {v : V} : v ∈ m.values ↔ ∃ k, m.get k = some v := by
  simp only [values, List.mem_map, get, Option.map_eq_some_iff]
  constructor
  · rintro ⟨p, hp, rfl⟩
    exact ⟨p.1, p, Keyed.find_of_mem hp, rfl⟩
  · rintro ⟨k, p, hp, rfl⟩
    exact ⟨p, Keyed.mem_of_find hp, rfl⟩

/-- When every value carries its own key, the values have distinct keys. -/
theorem values_nodup {m : OrderedMap K V} {f : V → K} (h : ∀ k v, m.get k = some v → f v = k) :
    (m.values.map f).Nodup := by
  have same : m.values.map f = m.rows.map Prod.fst := by
    rw [values, List.map_map]
    apply List.map_congr_left
    intro p hp
    exact h p.1 p.2 (by rw [get, Keyed.find_of_mem hp]; rfl)
  rw [same]
  exact m.nodup

end OrderedMap
