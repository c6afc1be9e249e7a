import Relay.Library.Ddl
import Mathlib.Data.Fintype.Basic

/-!
# Migrations

Statements that define tables, run one after the other on a database that holds rows.
A statement that succeeds leaves a database that is valid again, references included,
and every table keeps its rows outside the columns the statement touches
(`Database.run_valid`, `Database.run_kept`).
-/

namespace Ddl

structure Index (τ κ : Type) where
  name : String
  table : τ
  columns : List κ
  /-- A partial index covers the rows the condition holds of. -/
  condition : Condition κ

inductive Statement (τ κ : Type) where
  | createTable (table : τ) (schema : Schema τ κ)
  | alterTable (table : τ) (clauses : List (Alteration κ))
  | createIndex (index : Index τ κ)
  | dropIndex (name : String)

structure Database (τ κ : Type) where
  schemas : τ → Option (Schema τ κ)
  rows : τ → List (Row κ)
  indexes : List (Index τ κ)

namespace Database

variable {τ κ : Type}

def empty : Database τ κ := ⟨fun _ => none, fun _ => [], []⟩

/-- The table and the column a reference points to are there. -/
def Points (schemas : τ → Option (Schema τ κ)) (ref : Reference τ κ) : Prop :=
  ∃ schema, schemas ref.table = some schema ∧ ref.target ∈ schema.names

structure Valid (db : Database τ κ) : Prop where
  holds : ∀ t schema, db.schemas t = some schema → schema.Scoped ∧ schema.Holds (db.rows t)
  absent : ∀ t, db.schemas t = none → db.rows t = []
  points : ∀ t schema, db.schemas t = some schema → ∀ ref ∈ schema.references,
    ref.column ∈ schema.names ∧ Points db.schemas ref
  references : ∀ t schema, db.schemas t = some schema → ∀ ref ∈ schema.references, ∀ r ∈ db.rows t, ∀ v,
    r ref.column = some v → ∃ r' ∈ db.rows ref.table, r' ref.target = some v

section Create

variable [DecidableEq τ] {db : Database τ κ} {t : τ} {schema : Schema τ κ} (valid : db.Valid) (absent : db.schemas t = none)
include valid absent

theorem createTable_rows : Function.update db.rows t [] = db.rows := by
  rw [← valid.absent t absent, Function.update_eq_self]

theorem createTable_valid (closed : schema.Scoped)
    (points : ∀ ref ∈ schema.references, ref.column ∈ schema.names ∧ Points db.schemas ref) :
    Valid { db with schemas := Function.update db.schemas t (some schema), rows := Function.update db.rows t [] } := by
  rw [createTable_rows valid absent]
  have grows : ∀ ref, Points db.schemas ref → Points (Function.update db.schemas t (some schema)) ref := by
    rintro ref ⟨s, there, named⟩
    refine ⟨s, ?_, named⟩
    rw [Function.update_of_ne, there]
    intro here
    rw [here, absent] at there
    cases there
  have cases : ∀ {t' s}, Function.update db.schemas t (some schema) t' = some s →
      (t' = t ∧ s = schema) ∨ t' ≠ t ∧ db.schemas t' = some s := by
    intro t' s there
    by_cases here : t' = t
    · rw [here, Function.update_self, Option.some.injEq] at there
      exact .inl ⟨here, there.symm⟩
    · rw [Function.update_of_ne here] at there
      exact .inr ⟨here, there⟩
  refine ⟨?_, ?_, ?_, ?_⟩
  · intro t' s there
    obtain ⟨rfl, rfl⟩ | ⟨-, old⟩ := cases there
    · show s.Scoped ∧ s.Holds (db.rows t')
      rw [valid.absent t' absent]
      exact ⟨closed, fun r member => (by cases member), fun key _ => List.Pairwise.nil⟩
    · exact valid.holds t' s old
  · intro t' (gone : Function.update db.schemas t (some schema) t' = none)
    by_cases here : t' = t
    · rw [here, Function.update_self] at gone
      cases gone
    · rw [Function.update_of_ne here] at gone
      exact valid.absent t' gone
  · intro t' s there ref member
    obtain ⟨rfl, rfl⟩ | ⟨-, old⟩ := cases there
    · exact ⟨(points ref member).1, grows ref (points ref member).2⟩
    · obtain ⟨column, target⟩ := valid.points t' s old ref member
      exact ⟨column, grows ref target⟩
  · intro t' s there ref member r (among : r ∈ db.rows t') v value
    obtain ⟨rfl, rfl⟩ | ⟨-, old⟩ := cases there
    · rw [valid.absent t' absent] at among
      cases among
    · exact valid.references t' s old ref member r among v value

end Create

variable [Fintype τ] [DecidableEq τ] [DecidableEq κ]

instance (schema : Schema τ κ) : Decidable schema.Scoped :=
  decidable_of_iff ((∀ check ∈ schema.checks, ∀ c ∈ check.2.mentions, c ∈ schema.names) ∧
    ∀ key ∈ schema.uniques, ∀ c ∈ key.2, c ∈ schema.names) ⟨fun ⟨checks, uniques⟩ => ⟨checks, uniques⟩,
      fun closed => ⟨closed.checks, closed.uniques⟩⟩

instance (schemas : τ → Option (Schema τ κ)) (ref : Reference τ κ) : Decidable (Points schemas ref) :=
  match h : schemas ref.table with
  | none => .isFalse fun ⟨_, there, _⟩ => by rw [h] at there; cases there
  | some schema => decidable_of_iff (ref.target ∈ schema.names) ⟨fun named => ⟨schema, h, named⟩, fun ⟨schema', there, named⟩ => by
      rw [h, Option.some.injEq] at there
      exact there ▸ named⟩

variable (db : Database τ κ)

/-- Another table, or the table itself, refers to the column. -/
def isTarget (t : τ) (c : κ) : Bool :=
  decide (∃ t', (db.schemas t').any fun schema => schema.references.any fun ref => ref.table = t && ref.target = c)

/-- One clause of `ALTER TABLE`. An index goes with a column it is over. -/
def alterClause (clock : ℕ → ℤ) (t : τ) (db : Database τ κ) (a : Alteration κ) : Except Error (Database τ κ) :=
  match db.schemas t with
  | none => .error .undefined
  | some schema =>
    if a.drops && a.touched.any (db.isTarget t) then .error .dependent
    else
      match a.run clock (schema, db.rows t) with
      | .error error => .error error
      | .ok (schema', rows') => .ok {
          schemas := Function.update db.schemas t (some schema')
          rows := Function.update db.rows t rows'
          indexes := db.indexes.filter fun index =>
            !(a.drops && index.table = t && a.touched.any fun c => c ∈ index.columns ++ index.condition.mentions) }

def run (clock : ℕ → ℤ) (db : Database τ κ) : Statement τ κ → Except Error (Database τ κ)
  | .createTable t schema =>
    match db.schemas t, schema.repeated? with
    | some _, _ => .error .duplicate
    | none, some constraint => .error (.duplicateConstraint constraint)
    | none, none =>
      if schema.Scoped ∧ ∀ ref ∈ schema.references, ref.column ∈ schema.names ∧ Points db.schemas ref then
        .ok { db with schemas := Function.update db.schemas t (some schema), rows := Function.update db.rows t [] }
      else .error .undefined
  | .alterTable t clauses => clauses.foldlM (alterClause clock t) db
  | .createIndex index =>
    if (db.indexes.map (·.name)).contains index.name then .error .duplicate
    else if (db.schemas index.table).isSome then .ok { db with indexes := db.indexes ++ [index] }
    else .error .undefined
  | .dropIndex name =>
    if (db.indexes.map (·.name)).contains name then .ok { db with indexes := db.indexes.filter (·.name ≠ name) }
    else .error .undefined

/-- A migration is the statements it makes. -/
def migrate (clock : ℕ → ℤ) (db : Database τ κ) (migration : List (Statement τ κ)) : Except Error (Database τ κ) :=
  migration.foldlM (run clock) db

end Database

/-- The columns of a table a statement touches. -/
def Statement.touched {τ κ : Type} [DecidableEq τ] (t : τ) : Statement τ κ → List κ
  | .alterTable t' clauses => if t' = t then clauses.flatMap (·.touched) else []
  | .createTable .. | .createIndex _ | .dropIndex _ => []

/-! ## What a statement leaves -/

namespace Database

variable {τ κ : Type} [Fintype τ] [DecidableEq τ] [DecidableEq κ] {db db' : Database τ κ} {clock : ℕ → ℤ} {t : τ} {schema : Schema τ κ}

section Clause

variable {a : Alteration κ}

/-- A clause that succeeded. -/
structure Altered (clock : ℕ → ℤ) (t : τ) (db : Database τ κ) (a : Alteration κ) (schema schema' : Schema τ κ) (rows' : List (Row κ))
    (db' : Database τ κ) : Prop where
  there : db.schemas t = some schema
  free : a.drops = true → ∀ c ∈ a.touched, db.isTarget t c = false
  ran : a.run clock (schema, db.rows t) = .ok (schema', rows')
  schemas : db'.schemas = Function.update db.schemas t (some schema')
  rows : db'.rows = Function.update db.rows t rows'

theorem alterClause_eq_ok (ran : alterClause clock t db a = .ok db') :
    ∃ schema schema' rows', Altered clock t db a schema schema' rows' db' := by
  unfold alterClause at ran
  split at ran
  · cases ran
  · next schema there =>
    split at ran
    · cases ran
    · next free =>
      split at ran
      · cases ran
      · next schema' rows' altered =>
        cases ran
        refine ⟨schema, schema', rows', there, ?_, altered, rfl, rfl⟩
        intro drops c touched
        rw [drops, Bool.true_and, List.any_eq_true] at free
        cases target : db.isTarget t c with
        | false => rfl
        | true => exact absurd ⟨c, touched, target⟩ free

theorem Altered.kept {schema' : Schema τ κ} {rows' : List (Row κ)} (altered : Altered clock t db a schema schema' rows' db') (t' : τ) :
    Kept (if t = t' then a.touched else []) (db.rows t') (db'.rows t') := by
  rw [altered.rows]
  by_cases here : t = t'
  · subst here
    rw [if_pos rfl, Function.update_self, (Alteration.run_eq_ok altered.ran).2.2]
    exact Alteration.fill_kept clock _ a
  · rw [if_neg here, Function.update_of_ne (Ne.symm here)]
    exact Kept.refl _ _

theorem isTarget_of {t' : τ} {schema' : Schema τ κ} (there : db.schemas t' = some schema') {ref : Reference τ κ}
    (member : ref ∈ schema'.references) : db.isTarget ref.table ref.target = true := by
  refine decide_eq_true ⟨t', ?_⟩
  rw [there, Option.any_some, List.any_eq_true]
  exact ⟨ref, member, by simp⟩

/-- A reference of a table, after a clause on some table. -/
theorem Altered.reference {schema' : Schema τ κ} {rows' : List (Row κ)} (altered : Altered clock t db a schema schema' rows' db')
    {t' : τ} {s : Schema τ κ} (there : db'.schemas t' = some s) {ref : Reference τ κ} (member : ref ∈ s.references) :
    ∃ s₀, db.schemas t' = some s₀ ∧ ref ∈ s₀.references ∧ (t = t' → a.drops = true → ref.column ∉ a.touched) ∧
      ∀ c, c ∈ s₀.names → (t = t' → a.drops = true → c ∉ a.touched) → c ∈ s.names ∧ (t = t' → c ∉ a.touched) := by
  rw [altered.schemas] at there
  by_cases here : t = t'
  · subst here
    rw [Function.update_self, Option.some.injEq] at there
    subst there
    have run := (Alteration.run_eq_ok altered.ran).1
    obtain ⟨old, stays⟩ := Alteration.alter_references run member
    refine ⟨schema, altered.there, old, fun _ => stays, ?_⟩
    intro c named free
    obtain ⟨named', untouched⟩ := Alteration.alter_stays run named (free rfl)
    exact ⟨named', fun _ => untouched⟩
  · rw [Function.update_of_ne (Ne.symm here)] at there
    exact ⟨s, there, member, fun same => absurd same here, fun c named _ => ⟨named, fun same => absurd same here⟩⟩

theorem Altered.valid {schema' : Schema τ κ} {rows' : List (Row κ)} (valid : db.Valid)
    (altered : Altered clock t db a schema schema' rows' db') : db'.Valid := by
  have target : ∀ {t' : τ} {s : Schema τ κ}, db.schemas t' = some s → ∀ ref ∈ s.references, t = ref.table → a.drops = true →
      ref.target ∉ a.touched := by
    intro t' s there ref member here drops touched
    have free := altered.free drops _ touched
    rw [here, isTarget_of there member] at free
    cases free
  have named : ∀ {t' : τ} {s : Schema τ κ}, db.schemas t' = some s → ∀ ref ∈ s.references, Points db.schemas ref →
      Points db'.schemas ref ∧ (t = ref.table → ref.target ∉ a.touched) := by
    rintro t' s there ref member ⟨s', there', names⟩
    by_cases here : t = ref.table
    · obtain ⟨names', untouched⟩ := Alteration.alter_stays (Alteration.run_eq_ok altered.ran).1
        (by rw [← here, altered.there, Option.some.injEq] at there'; rw [there']; exact names) (target there ref member here)
      refine ⟨⟨schema', ?_, names'⟩, fun _ => untouched⟩
      rw [altered.schemas, ← here, Function.update_self]
    · refine ⟨⟨s', ?_, names⟩, fun same => absurd same here⟩
      rw [altered.schemas, Function.update_of_ne (Ne.symm here), there']
  refine ⟨?_, ?_, ?_, ?_⟩
  · intro t' s there
    by_cases here : t' = t
    · subst here
      rw [altered.schemas, Function.update_self, Option.some.injEq] at there
      subst there
      rw [altered.rows, Function.update_self]
      obtain ⟨closed, holds⟩ := valid.holds t' schema altered.there
      exact Alteration.run_holds closed holds altered.ran
    · rw [altered.schemas, Function.update_of_ne here] at there
      rw [altered.rows, Function.update_of_ne here]
      exact valid.holds t' s there
  · intro t' absent
    by_cases here : t' = t
    · subst here
      rw [altered.schemas, Function.update_self] at absent
      cases absent
    · rw [altered.schemas, Function.update_of_ne here] at absent
      rw [altered.rows, Function.update_of_ne here]
      exact valid.absent t' absent
  · intro t' s there ref member
    obtain ⟨s₀, there₀, old, stays, names⟩ := altered.reference there member
    obtain ⟨column, points⟩ := valid.points t' s₀ there₀ ref old
    exact ⟨(names ref.column column stays).1, (named there₀ ref old points).1⟩
  · intro t' s there ref member r' among v held
    obtain ⟨s₀, there₀, old, stays, names⟩ := altered.reference there member
    obtain ⟨column, points⟩ := valid.points t' s₀ there₀ ref old
    have untouched := (names ref.column column stays).2
    have untouched' := (named there₀ ref old points).2
    obtain ⟨r, amongr, same⟩ := (altered.kept t').source among
    rw [same ref.column (by split <;> simp_all)] at held
    obtain ⟨x, amongx, value⟩ := valid.references t' s₀ there₀ ref old r amongr v held
    obtain ⟨x', amongx', same'⟩ := (altered.kept ref.table).target amongx
    exact ⟨x', amongx', by rw [same' ref.target (by split <;> simp_all), value]⟩

theorem alterClause_valid (valid : db.Valid) (ran : alterClause clock t db a = .ok db') : db'.Valid := by
  obtain ⟨schema, schema', rows', altered⟩ := alterClause_eq_ok ran
  exact altered.valid valid

end Clause

/-- What holds of a list of steps, one by one. -/
theorem foldlM_ok {α σ ε : Type} {step : σ → α → Except ε σ} {P : σ → Prop} {Q : List α → σ → σ → Prop}
    (each : ∀ s a s', P s → step s a = .ok s' → P s' ∧ Q [a] s s') (nothing : ∀ s, Q [] s s)
    (join : ∀ a as s₁ s₂ s₃, Q [a] s₁ s₂ → Q as s₂ s₃ → Q (a :: as) s₁ s₃) {as : List α} {s s' : σ} (start : P s)
    (ran : as.foldlM step s = .ok s') : P s' ∧ Q as s s' := by
  induction as generalizing s with
  | nil =>
    cases ran
    exact ⟨start, nothing _⟩
  | cons a as ih =>
    obtain ⟨middle, first, rest⟩ := bind_eq_ok.1 ((List.foldlM_cons ..).symm.trans ran)
    obtain ⟨there, begun⟩ := each s a middle start first
    obtain ⟨last, done⟩ := ih there rest
    exact ⟨last, join a as s middle s' begun done⟩

/-- The clauses of one statement keep the rows outside the columns they touch. -/
theorem clauses_kept {clauses : List (Alteration κ)} (ran : clauses.foldlM (alterClause clock t) db = .ok db') (t' : τ) :
    Kept (Statement.touched t' (.alterTable t clauses)) (db.rows t') (db'.rows t') := by
  refine (foldlM_ok (P := fun _ => True) (Q := fun clauses db db' =>
    Kept (Statement.touched t' (.alterTable t clauses)) (db.rows t') (db'.rows t')) ?_ ?_ ?_ trivial ran).2
  · intro db a db' _ ran
    obtain ⟨schema, schema', rows', altered⟩ := alterClause_eq_ok ran
    rw [Statement.touched, List.flatMap_singleton]
    exact ⟨trivial, altered.kept t'⟩
  · exact fun db => Kept.refl _ _
  · intro a as db db' db'' first rest
    refine (first.trans rest).mono ?_
    intro c touched
    simp only [Statement.touched, List.flatMap_cons, List.flatMap_nil, List.append_nil] at touched ⊢
    split
    · next here => simpa only [here, if_true] using touched
    · next other => simpa only [other, if_false, List.append_nil] using touched

theorem clauses_valid {clauses : List (Alteration κ)} (valid : db.Valid) (ran : clauses.foldlM (alterClause clock t) db = .ok db') :
    db'.Valid ∧ ∀ t', Kept (Statement.touched t' (.alterTable t clauses)) (db.rows t') (db'.rows t') := by
  refine ⟨?_, clauses_kept ran⟩
  exact (foldlM_ok (P := Valid) (Q := fun _ _ _ => True) (fun _ _ _ valid ran => ⟨alterClause_valid valid ran, trivial⟩)
    (fun _ => trivial) (fun _ _ _ _ _ _ _ => trivial) valid ran).1

/-- **A statement that succeeds leaves a valid database**, with the rows of every table kept. -/
theorem run_valid {statement : Statement τ κ} (valid : db.Valid) (ran : db.run clock statement = .ok db') :
    db'.Valid ∧ ∀ t, Kept (statement.touched t) (db.rows t) (db'.rows t) := by
  cases statement with
  | createTable t schema =>
    simp only [run] at ran
    split at ran
    · cases ran
    · cases ran
    · next absent _ =>
      split at ran
      · next conditions =>
        cases ran
        obtain ⟨closed, points⟩ := conditions
        exact ⟨createTable_valid valid absent closed points, fun t' => by rw [createTable_rows valid absent]; exact Kept.refl _ _⟩
      · cases ran
  | alterTable t clauses => exact clauses_valid valid ran
  | createIndex index =>
    simp only [run] at ran
    split at ran
    · cases ran
    · split at ran <;> cases ran
      exact ⟨⟨valid.holds, valid.absent, valid.points, valid.references⟩, fun t => Kept.refl _ _⟩
  | dropIndex name =>
    simp only [run] at ran
    split at ran <;> cases ran
    exact ⟨⟨valid.holds, valid.absent, valid.points, valid.references⟩, fun t => Kept.refl _ _⟩

/-- **A migration that succeeds leaves a valid database**, with the rows of every table kept. -/
theorem migrate_valid {migration : List (Statement τ κ)} (valid : db.Valid) (ran : db.migrate clock migration = .ok db') :
    db'.Valid ∧ ∀ t, Kept (migration.flatMap (·.touched t)) (db.rows t) (db'.rows t) := by
  refine foldlM_ok (P := Valid) (Q := fun migration db db' => ∀ t,
    Kept (migration.flatMap (·.touched t)) (db.rows t) (db'.rows t)) ?_ ?_ ?_ valid ran
  · intro db statement db' valid ran
    obtain ⟨valid', kept⟩ := run_valid valid ran
    exact ⟨valid', fun t => by rw [List.flatMap_singleton]; exact kept t⟩
  · exact fun db t => Kept.refl _ _
  · intro statement migration db db' db'' first rest t
    rw [List.flatMap_cons]
    have begun := first t
    rw [List.flatMap_singleton] at begun
    exact begun.trans (rest t)

/-- A column that one clause adds holds its default. -/
theorem clauses_default {clauses : List (Alteration κ)} {column : Column κ} (once : (clauses.flatMap (·.touched)).Nodup)
    (added : .addColumn column ∈ clauses) (ran : clauses.foldlM (alterClause clock t) db = .ok db') {r : Row κ}
    (member : r ∈ db'.rows t) : ∃ k, r column.name = column.default.value clock k := by
  induction clauses generalizing db with
  | nil => cases added
  | cons a clauses ih =>
    rw [List.flatMap_cons, List.nodup_append] at once
    obtain ⟨middle, first, rest⟩ := bind_eq_ok.1 ((List.foldlM_cons ..).symm.trans ran)
    obtain rfl | later := List.mem_cons.1 added
    · obtain ⟨r₁, there, same⟩ := (clauses_kept rest t).source member
      have apart : column.name ∉ clauses.flatMap (·.touched) :=
        fun again => once.2.2 _ (List.mem_singleton_self column.name) _ again rfl
      obtain ⟨schema, schema', rows', altered⟩ := alterClause_eq_ok first
      rw [altered.rows, Function.update_self, (Alteration.run_eq_ok altered.ran).2.2] at there
      obtain ⟨k, inside, here⟩ := List.mem_mapIdx.1 there
      exact ⟨k, by rw [same _ (by rw [Statement.touched, if_pos rfl]; exact apart), ← here, Function.update_self]⟩
    · exact ih once.2.1 later rest

/-- **A column that a migration adds holds its default.** -/
theorem migrate_default {migration : List (Statement τ κ)} {clauses : List (Alteration κ)} (column : Column κ) (valid : db.Valid)
    (once : (migration.flatMap (·.touched t)).Nodup) (among : .alterTable t clauses ∈ migration)
    (added : .addColumn column ∈ clauses) (ran : db.migrate clock migration = .ok db') {r : Row κ} (member : r ∈ db'.rows t) :
    ∃ k, r column.name = column.default.value clock k := by
  induction migration generalizing db with
  | nil => cases among
  | cons statement migration ih =>
    rw [List.flatMap_cons, List.nodup_append] at once
    obtain ⟨middle, first, rest⟩ := bind_eq_ok.1 ((List.foldlM_cons ..).symm.trans ran)
    obtain ⟨valid', -⟩ := run_valid valid first
    obtain rfl | later := List.mem_cons.1 among
    · obtain ⟨r₁, there, same⟩ := ((migrate_valid valid' rest).2 t).source member
      rw [Statement.touched, if_pos rfl] at once
      obtain ⟨k, held⟩ := clauses_default once.1 added first there
      have touched : column.name ∈ clauses.flatMap (·.touched) := List.mem_flatMap.2 ⟨_, added, List.mem_singleton_self _⟩
      exact ⟨k, by rw [same _ fun again => once.2.2 _ touched _ again rfl, held]⟩
    · exact ih valid' once.2.1 later rest

/-- **Clauses that drop no column succeed** when the rows of their table, filled in, violate none of them. -/
theorem alterTable_ok (clock : ℕ → ℤ) (db : Database τ κ) (t : τ) {clauses : List (Alteration κ)} {schema' : Schema τ κ}
    (there : db.schemas t = some schema) (altered : schema.alters clauses = .ok schema') (stays : ∀ a ∈ clauses, a.drops = false)
    (clean : ∀ a ∈ clauses, a.violated (clauses.foldl (Alteration.fill clock) (db.rows t)) = none) :
    db.run clock (.alterTable t clauses) = .ok { db with
      schemas := Function.update db.schemas t (some schema')
      rows := Function.update db.rows t (clauses.foldl (Alteration.fill clock) (db.rows t)) } := by
  have ran := Alteration.runs_ok (τ := τ) altered stays clean
  clear altered clean
  show clauses.foldlM (alterClause clock t) db = _
  induction clauses generalizing db schema with
  | nil =>
    cases ran
    simp only [List.foldlM_nil, List.foldl_nil, ← there, Function.update_eq_self]
    rfl
  | cons a clauses ih =>
    obtain ⟨⟨middle, rows⟩, first, rest⟩ := bind_eq_ok.1 ((List.foldlM_cons ..).symm.trans ran)
    have stays' := stays a List.mem_cons_self
    have clause : alterClause clock t db a = .ok { db with
        schemas := Function.update db.schemas t (some middle), rows := Function.update db.rows t rows } := by
      simp [alterClause, there, stays', first]
    obtain ⟨-, -, rfl⟩ := Alteration.run_eq_ok first
    rw [List.foldlM_cons, clause]
    have done := @ih middle { db with
      schemas := Function.update db.schemas t (some middle), rows := Function.update db.rows t (a.fill clock (db.rows t)) }
      (Function.update_self ..) (fun a' member => stays a' (List.mem_cons_of_mem a member))
      (by simp only [Function.update_self]; exact rest)
    simp only [Function.update_self, Function.update_idem] at done
    exact done

/-- A column that nothing refers to is dropped. -/
theorem dropColumn_ok (clock : ℕ → ℤ) (db : Database τ κ) (t : τ) (c : κ) (there : db.schemas t = some schema)
    (named : c ∈ schema.names) (free : db.isTarget t c = false) :
    db.run clock (.alterTable t [.dropColumn c]) = .ok {
      schemas := Function.update db.schemas t (some (schema.dropColumn c))
      rows := Function.update db.rows t ((db.rows t).map fun r => Function.update r c none)
      indexes := db.indexes.filter fun index => !(index.table = t && (c ∈ index.columns ++ index.condition.mentions)) } := by
  have altered : schema.alter (.dropColumn c) = .ok (schema.dropColumn c) := if_pos named
  have ran : Alteration.run clock (schema, db.rows t) (.dropColumn c) =
      .ok (schema.dropColumn c, (db.rows t).map fun r => Function.update r c none) := by
    simp only [Alteration.run, altered, Alteration.violated, Alteration.fill]
  have clause : alterClause clock t db (.dropColumn c) = .ok {
      schemas := Function.update db.schemas t (some (schema.dropColumn c))
      rows := Function.update db.rows t ((db.rows t).map fun r => Function.update r c none)
      indexes := db.indexes.filter fun index => !(index.table = t && (c ∈ index.columns ++ index.condition.mentions)) } := by
    simp [alterClause, there, Alteration.drops, Alteration.touched, free, ran]
  show [Alteration.dropColumn c].foldlM (alterClause clock t) db = _
  rw [List.foldlM_cons, clause]
  rfl

/-- A table is not made with two constraints of one name. -/
theorem createTable_repeated (clock : ℕ → ℤ) (db : Database τ κ) {constraint : String} (absent : db.schemas t = none)
    (repeated : schema.repeated? = some constraint) :
    db.run clock (.createTable t schema) = .error (.duplicateConstraint constraint) := by
  rw [run, absent, repeated]

/-- The statements after one that is refused are not run. -/
theorem migrate_refused {statement : Statement τ κ} (migration : List (Statement τ κ)) {error : Error}
    (first : db.run clock statement = .error error) : db.migrate clock (statement :: migration) = .error error := by
  rw [migrate, List.foldlM_cons, first]
  rfl

theorem migrate_cons {statement : Statement τ κ} {migration : List (Statement τ κ)} (first : db.run clock statement = .ok db') :
    db.migrate clock (statement :: migration) = db'.migrate clock migration := by
  rw [migrate, List.foldlM_cons, first]
  rfl

end Database

end Ddl
