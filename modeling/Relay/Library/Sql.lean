import Relay.Library.Keyed
import Mathlib.Data.List.Sort

/-!
# SQL conditions and statements over keyed tables

A condition has three truth values: `some true`, `some false`, and `none` for
unknown, which any comparison with a null operand yields. A row is selected by
`WHERE` when the condition is true and admitted by `CHECK` unless it is false,
so unknown fails the first and passes the second.

`Keyed.updateWhere` is `UPDATE … SET … WHERE … RETURNING`: the new table and the
rewritten rows. When the condition pins the key to one value, at most the row
under that key is touched (`find_updateWhere_pinned`).
-/

namespace Sql

/-- A truth value of SQL; `none` is unknown. -/
abbrev Truth := Option Bool

/-- Why the analysis of a statement found no meaning for it. -/
inductive Unresolved where
  | ambiguousFunction
  | undefinedFunction
  | datatypeMismatch
  | ambiguousColumn (column : String)
  | undefinedColumn (column : String)
deriving DecidableEq

/-- Why a statement aborted; constraints are given by name. -/
inductive Error where
  | unresolved (reason : Unresolved)
  | check (constraint : String)
  | unique (constraint : String)
  | foreignKey (constraint : String)
  | invalidInput
deriving DecidableEq

namespace Truth

def and : Truth → Truth → Truth
  | some false, _ => some false
  | _, some false => some false
  | some true, some true => some true
  | _, _ => none

def or : Truth → Truth → Truth
  | some true, _ => some true
  | _, some true => some true
  | some false, some false => some false
  | _, _ => none

/-- What `WHERE` and `WHEN` ask of a condition. -/
def holds (t : Truth) : Bool := t = some true

/-- What `CHECK` asks of a condition. -/
def admits (t : Truth) : Bool := t ≠ some false

@[simp] theorem holds_and (a b : Truth) : (a.and b).holds = (a.holds && b.holds) := by
  rcases a with _ | _ | _ <;> rcases b with _ | _ | _ <;> rfl

@[simp] theorem holds_or (a b : Truth) : (a.or b).holds = (a.holds || b.holds) := by
  rcases a with _ | _ | _ <;> rcases b with _ | _ | _ <;> rfl

@[simp] theorem admits_and (a b : Truth) : (a.and b).admits = (a.admits && b.admits) := by
  rcases a with _ | _ | _ <;> rcases b with _ | _ | _ <;> rfl

@[simp] theorem admits_or (a b : Truth) : (a.or b).admits = (a.admits || b.admits) := by
  rcases a with _ | _ | _ <;> rcases b with _ | _ | _ <;> rfl

@[simp] theorem holds_none : holds none = false := rfl

@[simp] theorem admits_none : admits none = true := rfl

@[simp] theorem holds_some (b : Bool) : holds (some b) = b := by
  cases b <;> rfl

@[simp] theorem admits_some (b : Bool) : admits (some b) = b := by
  cases b <;> rfl

end Truth

variable {α : Type*}

/-- A comparison of two nullable operands. -/
def compare (p : α → α → Bool) : Option α → Option α → Truth
  | some a, some b => some (p a b)
  | _, _ => none

def eq [DecidableEq α] : Option α → Option α → Truth := compare fun a b => a = b

def ne [DecidableEq α] : Option α → Option α → Truth := compare fun a b => a ≠ b

def lt [LT α] [DecidableLT α] : Option α → Option α → Truth := compare fun a b => a < b

def le [LE α] [DecidableLE α] : Option α → Option α → Truth := compare fun a b => a ≤ b

def isNull (a : Option α) : Truth := some a.isNone

def isNotNull (a : Option α) : Truth := some a.isSome

/-- `IN` with a list of literals. -/
def isIn [DecidableEq α] : Option α → List α → Truth
  | some a, l => some (a ∈ l)
  | none, _ => none

/-- A predicate, such as a text pattern, on a nullable operand. -/
def test (p : α → Bool) (a : Option α) : Truth := a.map p

@[simp] theorem test_some (p : α → Bool) (a : α) : test p (some a) = some (p a) := rfl
@[simp] theorem test_none (p : α → Bool) : test p none = none := rfl
@[simp] theorem eq_some_some [DecidableEq α] (a b : α) : eq (some a) (some b) = some (decide (a = b)) := rfl
@[simp] theorem eq_none_left [DecidableEq α] (b : Option α) : eq none b = none := rfl
@[simp] theorem eq_none_right [DecidableEq α] (a : Option α) : eq a none = none := by cases a <;> rfl
@[simp] theorem ne_some_some [DecidableEq α] (a b : α) : ne (some a) (some b) = some (decide (a ≠ b)) := rfl
@[simp] theorem lt_some_some [LT α] [DecidableLT α] (a b : α) : lt (some a) (some b) = some (decide (a < b)) := rfl
@[simp] theorem lt_none_right [LT α] [DecidableLT α] (a : Option α) : lt a none = none := by cases a <;> rfl
@[simp] theorem le_some_some [LE α] [DecidableLE α] (a b : α) : le (some a) (some b) = some (decide (a ≤ b)) := rfl
@[simp] theorem le_none_left [LE α] [DecidableLE α] (b : Option α) : le none b = none := rfl
@[simp] theorem le_none_right [LE α] [DecidableLE α] (a : Option α) : le a none = none := by cases a <;> rfl
@[simp] theorem isNull_some (a : α) : isNull (some a) = some false := rfl
@[simp] theorem isNull_none : isNull (none : Option α) = some true := rfl
@[simp] theorem isNotNull_some (a : α) : isNotNull (some a) = some true := rfl
@[simp] theorem isNotNull_none : isNotNull (none : Option α) = some false := rfl
@[simp] theorem isIn_some [DecidableEq α] (a : α) (l : List α) : isIn (some a) l = some (decide (a ∈ l)) := rfl

/-! ## ORDER BY and LIMIT -/

section Order

variable {R : Type*} (r : R → R → Prop) [DecidableRel r] [Std.Total r] [IsTrans R r] [Std.Antisymm r]

theorem insertionSort_eq_of_perm {l l' : List R} (perm : l.Perm l') : l.insertionSort r = l'.insertionSort r :=
  (((List.perm_insertionSort r l).trans perm).trans (List.perm_insertionSort r l').symm).eq_of_pairwise'
    (List.pairwise_insertionSort r l) (List.pairwise_insertionSort r l')

end Order

end Sql

namespace Keyed

open Sql

variable {R K : Type*} {key : R → K}

/-- The rows a condition selects, in table order. -/
def select (t : Keyed key) (cond : R → Truth) : List R := t.rows.filter fun r => (cond r).holds

/-- `UPDATE … SET … WHERE … RETURNING`. -/
def updateWhere (t : Keyed key) (cond : R → Truth) (set : R → R) (hset : ∀ r, key (set r) = key r) :
    Keyed key × List R :=
  (t.update (fun r => if (cond r).holds then set r else r) (by intro r; split; exacts [hset r, rfl]),
    (t.select cond).map set)

variable [DecidableEq K] {t : Keyed key} {cond : R → Truth} {set : R → R} {h : ∀ r, key (set r) = key r}

theorem find_updateWhere (k : K) : (t.updateWhere cond set h).1.find k =
    (t.find k).map fun r => if (cond r).holds then set r else r :=
  find_update t _ (by intro r; split; exacts [h r, rfl]) k

/-- Only the row under the pinned key can be selected. -/
theorem select_pinned {k : K} (pin : ∀ r ∈ t.rows, (cond r).holds → key r = k) :
    t.select cond = match t.find k with
      | some r => if (cond r).holds then [r] else []
      | none => [] := by
  obtain ⟨rows, nodup⟩ := t
  induction rows with
  | nil => rfl
  | cons r rows ih =>
    rw [List.map_cons, List.nodup_cons] at nodup
    have tail := ih nodup.2 fun r' hr' => pin r' (List.mem_cons_of_mem _ hr')
    simp only [select, find, List.filter_cons, List.find?_cons] at tail ⊢
    by_cases hr : key r = k
    · have empty : (rows.filter fun r => (cond r).holds) = [] := by
        rw [List.filter_eq_nil_iff]
        intro r' hr' hc
        exact nodup.1 (List.mem_map.2 ⟨r', hr', (pin r' (List.mem_cons_of_mem _ hr') hc).trans hr.symm⟩)
      simp only [hr, decide_true, empty]
    · have skip : (cond r).holds = false := by
        cases h : (cond r).holds with
        | false => rfl
        | true => exact absurd (pin r List.mem_cons_self h) hr
      simp only [hr, decide_false, skip]
      exact tail

/-- An update whose condition pins the key leaves every other key alone. -/
theorem find_updateWhere_pinned {k : K} (pin : ∀ r, (cond r).holds → key r = k) (k' : K) :
    (t.updateWhere cond set h).1.find k' =
      if k' = k then (t.find k).map fun r => if (cond r).holds then set r else r else t.find k' := by
  rw [find_updateWhere]
  split
  · next e => rw [e]
  · next e =>
    cases h : t.find k' with
    | none => rfl
    | some r =>
      have skip : ¬ (cond r).holds := fun hc => e ((key_of_find h).symm.trans (pin r hc))
      simp [skip]

end Keyed
