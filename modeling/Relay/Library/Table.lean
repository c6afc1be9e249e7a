import Relay.Library.Sql

/-!
# Tables with check constraints

A table has a primary key and named constraints, and every row in it satisfies
both, so a statement that would write another row aborts instead. `Table.update`
is described by what it does to the row under a pinned key: nothing when the
condition does not select it, an abort when the new row violates a constraint,
the new row otherwise.
-/

namespace Sql

structure Check (R : Type*) where
  name : String
  condition : R → Truth

/-- The name of the first constraint the row violates. -/
def violation {R : Type*} (checks : List (Check R)) (r : R) : Option String :=
  (checks.find? fun c => !(c.condition r).admits).map (·.name)

theorem violation_eq_none {R : Type*} {checks : List (Check R)} {r : R} :
    violation checks r = none ↔ ∀ c ∈ checks, (c.condition r).admits = true := by
  simp [violation, List.find?_eq_none]

structure Table {R K : Type*} (key : R → K) (checks : List (Check R)) extends Keyed key where
  checked : ∀ r ∈ rows, violation checks r = none

namespace Table

variable {R K : Type*} {key : R → K} {checks : List (Check R)}

def empty : Table key checks := ⟨Keyed.empty, nofun⟩

section Write

variable [DecidableEq K] (t : Table key checks)

/-- `INSERT … VALUES`; `primaryKey` names the key constraint. -/
def insert (primaryKey : String) (r : R) : Except Error (Table key checks) :=
  match h : violation checks r with
  | some name => .error (.check name)
  | none =>
    if t.find (key r) = none then
      .ok ⟨t.toKeyed.insert r, by
        intro r' hr'
        unfold Keyed.insert at hr'
        split at hr'
        · exact t.checked r' hr'
        · obtain hr' | hr' := List.mem_append.1 hr'
          · exact t.checked r' hr'
          · rw [List.mem_singleton] at hr'; rw [hr']; exact h⟩
    else .error (.unique primaryKey)

/-- `INSERT … VALUES … ON CONFLICT (primary key) DO NOTHING`. -/
def insertOrIgnore (primaryKey : String) (r : R) : Except Error (Table key checks) :=
  match violation checks r with
  | some name => .error (.check name)
  | none => if t.find (key r) = none then t.insert primaryKey r else .ok t

/-- `UPDATE … SET … WHERE … RETURNING`. -/
def update (condition : R → Truth) (set : R → R) (hset : ∀ r, key (set r) = key r) :
    Except Error (Table key checks × List R) :=
  match h : ((t.select condition).map set).findSome? (violation checks) with
  | some name => .error (.check name)
  | none =>
    .ok
      (⟨(t.toKeyed.updateWhere condition set hset).1, by
        intro r hr
        obtain ⟨r₀, hr₀, rfl⟩ := List.mem_map.1 hr
        split
        · next selected =>
          exact List.findSome?_eq_none_iff.1 h _
            (List.mem_map.2 ⟨r₀, List.mem_filter.2 ⟨hr₀, selected⟩, rfl⟩)
        · exact t.checked r₀ hr₀⟩,
        (t.toKeyed.updateWhere condition set hset).2)

end Write

section Spec

variable [DecidableEq K] {t : Table key checks} {p : String} {condition : R → Truth} {set : R → R}
  {h : ∀ r, key (set r) = key r}

theorem insert_new {r : R} (ok : violation checks r = none) (new : t.find (key r) = none) :
    ∃ t', t.insert p r = .ok t' ∧ t'.rows = t.rows ++ [r] ∧
      ∀ k, t'.find k = if k = key r then some r else t.find k := by
  unfold insert
  split
  · next name h => rw [ok] at h; cases h
  · rw [if_pos new]
    exact ⟨_, rfl, Keyed.rows_insert_of_new new, Keyed.find_insert_of_new new⟩

/-- What a successful insert says. -/
theorem insert_eq_ok {r : R} {t' : Table key checks} (run : t.insert p r = .ok t') :
    violation checks r = none ∧ t.find (key r) = none ∧ t'.rows = t.rows ++ [r] ∧
      ∀ k, t'.find k = if k = key r then some r else t.find k := by
  have accepted : violation checks r = none ∧ t.find (key r) = none := by
    unfold insert at run
    split at run
    · cases run
    · next ok =>
      by_cases new : t.find (key r) = none
      · exact ⟨ok, new⟩
      · rw [if_neg new] at run
        cases run
  obtain ⟨t'', run', rows, find⟩ := insert_new (p := p) accepted.1 accepted.2
  rw [run, Except.ok.injEq] at run'
  subst run'
  exact ⟨accepted.1, accepted.2, rows, find⟩

theorem insert_taken {r : R} (ok : violation checks r = none) (taken : t.find (key r) ≠ none) :
    t.insert p r = .error (.unique p) := by
  unfold insert
  split
  · next name h => rw [ok] at h; cases h
  · rw [if_neg taken]

/-- An insert fails on a constraint and on nothing else. -/
theorem insert_error {r : R} {error : Error} (failed : t.insert p r = .error error) : error ≠ .invalidInput := by
  unfold insert at failed
  split at failed
  · cases failed
    rintro ⟨⟩
  · split at failed
    · cases failed
    · cases failed
      rintro ⟨⟩

variable (t condition set h) in
/-- An update whose selected rows all pass the constraints. -/
theorem update_ok (ok : ∀ r ∈ t.rows, (condition r).holds = true → violation checks (set r) = none) :
    ∃ t', t.update condition set h = .ok (t', (t.select condition).map set) ∧
      t'.rows = t.rows.map (fun r => if (condition r).holds then set r else r) ∧
      ∀ k, t'.find k = (t.find k).map fun r => if (condition r).holds then set r else r := by
  have clean : ((t.select condition).map set).findSome? (violation checks) = none := by
    rw [List.findSome?_eq_none_iff]
    intro r hr
    obtain ⟨r₀, hr₀, rfl⟩ := List.mem_map.1 hr
    obtain ⟨member, selected⟩ := List.mem_filter.1 hr₀
    exact ok r₀ member selected
  unfold update
  split
  · next name violated => rw [clean] at violated; cases violated
  · exact ⟨_, rfl, rfl, fun k => Keyed.find_updateWhere (h := h) k⟩

/-- No row under the pinned key is selected: nothing happens. -/
theorem update_skip {k : K} (pin : ∀ r, (condition r).holds = true → key r = k)
    (skip : ∀ r, t.find k = some r → (condition r).holds = false) :
    ∃ t', t.update condition set h = .ok (t', []) ∧ t'.rows = t.rows ∧ ∀ k', t'.find k' = t.find k' := by
  have unselected : ∀ r ∈ t.rows, (condition r).holds = false := by
    intro r hr
    cases h : (condition r).holds with
    | false => rfl
    | true => rw [← h, ← skip r (by rw [← pin r h]; exact Keyed.find_of_mem hr)]
  have none : t.select condition = [] := by
    rw [Keyed.select, List.filter_eq_nil_iff]
    intro r hr
    rw [unselected r hr]
    exact Bool.false_ne_true
  have same : t.rows.map (fun r => if (condition r).holds then set r else r) = t.rows := by
    conv_rhs => rw [← List.map_id t.rows]
    apply List.map_congr_left
    intro r hr
    rw [unselected r hr]
    rfl
  obtain ⟨t', run, rows, find⟩ := update_ok t condition set h
    (by intro r hr h; rw [unselected r hr] at h; cases h)
  refine ⟨t', by rw [run, none]; rfl, by rw [rows, same], ?_⟩
  intro k'
  unfold Keyed.find
  rw [rows, same]

/-- The row under the pinned key is selected and the new row passes. -/
theorem update_hit {k : K} {r : R} (pin : ∀ r, (condition r).holds = true → key r = k)
    (found : t.find k = some r) (selected : (condition r).holds = true) (ok : violation checks (set r) = none) :
    ∃ t', t.update condition set h = .ok (t', [set r]) ∧
      ∀ k', t'.find k' = if k' = k then some (set r) else t.find k' := by
  obtain ⟨t', run, -, find⟩ := update_ok t condition set h (by
    intro r' member h
    have here := Keyed.find_of_mem member
    rw [pin r' h, found, Option.some.injEq] at here
    rw [← here]
    exact ok)
  refine ⟨t', ?_, ?_⟩
  · rw [run, Keyed.select_pinned fun r _ => pin r, found]
    simp only [selected, if_true, List.map_cons, List.map_nil]
  · intro k'
    have pinned := Keyed.find_updateWhere_pinned (t := t.toKeyed) (h := h) pin k'
    rw [Keyed.find_updateWhere] at pinned
    rw [find, pinned, found]
    simp only [Option.map_some, selected, if_true]

/-! ## Statements that violate no constraint -/

/-- The statement does not abort on a check constraint. -/
def Passes {α : Type*} (statement : Except Error α) : Prop := ∀ name, statement ≠ .error (.check name)

theorem passes_ok {α : Type*} (a : α) : Passes (.ok a : Except Error α) := by
  intro name failed
  cases failed

theorem Passes.bind.{u} {α β : Type u} {statement : Except Error α} {next : α → Except Error β} (first : Passes statement)
    (rest : ∀ a, statement = .ok a → Passes (next a)) : Passes (statement >>= next) := by
  cases statement with
  | error error =>
    intro name failed
    exact first name (by cases failed; rfl)
  | ok a => exact rest a rfl

theorem insert_passes {r : R} (ok : violation checks r = none) : Passes (t.insert p r) := by
  by_cases taken : t.find (key r) = none
  · obtain ⟨t', run, -⟩ := insert_new (p := p) ok taken
    rw [run]
    exact passes_ok t'
  · rw [insert_taken ok taken]
    intro name failed
    cases failed

theorem insertOrIgnore_passes {r : R} (ok : violation checks r = none) : Passes (t.insertOrIgnore p r) := by
  unfold insertOrIgnore
  rw [ok]
  simp only
  split
  · exact insert_passes ok
  · exact passes_ok t

theorem update_passes (ok : ∀ r ∈ t.rows, (condition r).holds = true → violation checks (set r) = none) :
    Passes (t.update condition set h) := by
  obtain ⟨t', run, -⟩ := update_ok t condition set h ok
  rw [run]
  exact passes_ok _

end Spec

end Table

/-! ## Decoding rows -/

theorem mapM_cons_eq_some {α β : Type} {f : α → Option β} {a : α} {l : List α} {bs : List β}
    (run : (a :: l).mapM f = some bs) : ∃ b bs', f a = some b ∧ l.mapM f = some bs' ∧ bs = b :: bs' := by
  rw [List.mapM_cons, Option.bind_eq_bind, Option.bind_eq_some_iff] at run
  obtain ⟨b, first, run⟩ := run
  rw [Option.bind_eq_bind, Option.bind_eq_some_iff] at run
  obtain ⟨bs', rest, same⟩ := run
  exact ⟨b, bs', first, rest, (Option.some.inj same).symm⟩

/-- What was decoded came from a row. -/
theorem mapM_mem {α β : Type} {f : α → Option β} {l : List α} {bs : List β} (run : l.mapM f = some bs) {b : β}
    (member : b ∈ bs) : ∃ a ∈ l, f a = some b := by
  induction l generalizing bs with
  | nil =>
    cases run
    cases member
  | cons a l ih =>
    obtain ⟨b', bs', first, rest, rfl⟩ := mapM_cons_eq_some run
    obtain rfl | member := List.mem_cons.1 member
    · exact ⟨a, List.mem_cons_self, first⟩
    · obtain ⟨a', among, found⟩ := ih rest member
      exact ⟨a', List.mem_cons_of_mem _ among, found⟩

/-- What decoding keeps of a row, in the order of the rows. -/
theorem mapM_map {α β γ : Type} {f : α → Option β} {g : α → γ} {h : β → γ} (keeps : ∀ a b, f a = some b → h b = g a)
    {l : List α} {bs : List β} (run : l.mapM f = some bs) : bs.map h = l.map g := by
  induction l generalizing bs with
  | nil =>
    cases run
    rfl
  | cons a l ih =>
    obtain ⟨b, bs', first, rest, rfl⟩ := mapM_cons_eq_some run
    rw [List.map_cons, List.map_cons, keeps a b first, ih rest]

theorem mapM_decodes {α β : Type} {f : α → Option β} {l : List α} (each : ∀ a ∈ l, ∃ b, f a = some b) :
    ∃ bs, l.mapM f = some bs := by
  induction l with
  | nil => exact ⟨[], rfl⟩
  | cons a l ih =>
    obtain ⟨b, first⟩ := each a List.mem_cons_self
    obtain ⟨bs, rest⟩ := ih fun a' member => each a' (List.mem_cons_of_mem _ member)
    exact ⟨b :: bs, by rw [List.mapM_cons, first, rest]; rfl⟩

end Sql
