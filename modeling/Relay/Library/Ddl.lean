import Relay.Library.Sql
import Mathlib.Algebra.Order.Ring.Int
import Mathlib.Data.List.Indexes

/-!
# Statements that define tables

Tables are created and altered while they hold rows. An added column is filled with its
default, a dropped one takes the constraints that mention it along, and an added
constraint is validated on the rows that are there. A statement that succeeds leaves
rows that meet every constraint, and keeps of each row what it does not drop
(`Alteration.run_holds`, `alter_keeps`).
-/

namespace Ddl

open Sql (Truth)

theorem bind_eq_ok {ε α β : Type} {x : Except ε α} {f : α → Except ε β} {b : β} :
    (x >>= f) = .ok b ↔ ∃ a, x = .ok a ∧ f a = .ok b := by
  cases x with
  | error error =>
    constructor
    · intro failed
      cases failed
    · rintro ⟨a, failed, -⟩
      cases failed
  | ok a =>
    constructor
    · exact fun run => ⟨a, rfl, run⟩
    · rintro ⟨a', same, run⟩
      cases same
      exact run

/-! ## Values, conditions and columns -/

inductive Value where
  | text (t : String)
  | int (n : ℤ)
  | bool (b : Bool)
deriving DecidableEq

inductive ColumnType where
  | text
  | integer
  | bigint
  | boolean
deriving DecidableEq

def ColumnType.holds : ColumnType → Value → Bool
  | .text, .text _ => true
  | .integer, .int n => -2 ^ 31 ≤ n && n < 2 ^ 31
  | .bigint, .int n => -2 ^ 63 ≤ n && n < 2 ^ 63
  | .boolean, .bool _ => true
  | _, _ => false

/-- Null where the row has no value, also in columns its table does not have. -/
abbrev Row (κ : Type) := κ → Option Value

def Value.int? : Value → Option ℤ
  | .int n => some n
  | _ => none

def Value.text? : Value → Option String
  | .text t => some t
  | _ => none

inductive Operand (κ : Type) where
  | column (c : κ)
  | literal (n : ℤ)

inductive Condition (κ : Type) where
  | isNull (c : κ)
  | isNotNull (c : κ)
  | eq (c : κ) (v : Value)
  | ne (c : κ) (v : Value)
  | isIn (c : κ) (vs : List Value)
  | le (a b : Operand κ)
  | lt (a b : Operand κ)
  /-- A text pattern. -/
  | like (c : κ) (pattern : String → Bool)
  | and (p q : Condition κ)
  | or (p q : Condition κ)

/-- When the value of a column is filled in: nothing, a constant, or a clock that is read for each row. -/
inductive Default where
  | null
  | constant (v : Value)
  | clock

def Default.value (clock : ℕ → ℤ) (k : ℕ) : Default → Option Value
  | .null => none
  | .constant v => some v
  | .clock => some (.int (clock k))

structure Column (κ : Type) where
  name : κ
  type : ColumnType
  notNull : Bool
  default : Default

/-- The column may hold the value. -/
def Column.admits {κ : Type} (column : Column κ) : Option Value → Bool
  | none => !column.notNull
  | some v => column.type.holds v

section Evaluation

variable {κ : Type}

def Operand.value (r : Row κ) : Operand κ → Option ℤ
  | .column c => (r c).bind Value.int?
  | .literal n => some n

@[simp] theorem Operand.value_literal (n : ℤ) (r : Row κ) : (Operand.literal n).value r = some n := rfl

def Operand.mentions : Operand κ → List κ
  | .column c => [c]
  | .literal _ => []

namespace Condition

def eval (r : Row κ) : Condition κ → Truth
  | .isNull c => Sql.isNull (r c)
  | .isNotNull c => Sql.isNotNull (r c)
  | .eq c v => Sql.eq (r c) (some v)
  | .ne c v => Sql.ne (r c) (some v)
  | .isIn c vs => Sql.isIn (r c) vs
  | .le a b => Sql.le (a.value r) (b.value r)
  | .lt a b => Sql.lt (a.value r) (b.value r)
  | .like c pattern => Sql.test pattern ((r c).bind Value.text?)
  | .and p q => (p.eval r).and (q.eval r)
  | .or p q => (p.eval r).or (q.eval r)

def mentions : Condition κ → List κ
  | .isNull c | .isNotNull c | .eq c _ | .ne c _ | .isIn c _ | .like c _ => [c]
  | .le a b | .lt a b => a.mentions ++ b.mentions
  | .and p q | .or p q => p.mentions ++ q.mentions

@[simp] theorem eval_and (p q : Condition κ) (r : Row κ) : (Condition.and p q).eval r = (p.eval r).and (q.eval r) := rfl

@[simp] theorem eval_or (p q : Condition κ) (r : Row κ) : (Condition.or p q).eval r = (p.eval r).or (q.eval r) := rfl

@[simp] theorem eval_le (a b : Operand κ) (r : Row κ) : (Condition.le a b).eval r = Sql.le (a.value r) (b.value r) := rfl

@[simp] theorem eval_lt (a b : Operand κ) (r : Row κ) : (Condition.lt a b).eval r = Sql.lt (a.value r) (b.value r) := rfl

/-- A condition reads the columns it mentions. -/
theorem eval_congr {p : Condition κ} {r r' : Row κ} (same : ∀ c ∈ p.mentions, r' c = r c) : p.eval r' = p.eval r := by
  have operand : ∀ a : Operand κ, (∀ c ∈ a.mentions, r' c = r c) → a.value r' = a.value r := by
    intro a same
    cases a with
    | column c => rw [Operand.value, same c (List.mem_singleton_self c), Operand.value]
    | literal n => rfl
  induction p with
  | isNull c | isNotNull c | eq c v | ne c v | isIn c vs | like c pattern =>
    rw [eval, eval, same c (List.mem_singleton_self c)]
  | le a b | lt a b =>
    rw [eval, eval, operand a fun c member => same c (List.mem_append_left _ member),
      operand b fun c member => same c (List.mem_append_right _ member)]
  | and p q ihp ihq | or p q ihp ihq =>
    rw [eval, eval, ihp fun c member => same c (List.mem_append_left _ member),
      ihq fun c member => same c (List.mem_append_right _ member)]

end Condition

end Evaluation

/-! ## Tables and their alteration -/

inductive Error where
  | duplicate
  | duplicateConstraint (constraint : String)
  | undefined
  /-- A value that its column does not admit. -/
  | value
  | check (constraint : String)
  | unique (constraint : String)
  /-- Another table refers to the column. -/
  | dependent
deriving DecidableEq

structure Reference (τ κ : Type) where
  name : String
  column : κ
  table : τ
  target : κ

structure Schema (τ κ : Type) where
  columns : List (Column κ)
  checks : List (String × Condition κ)
  /-- The primary key among them. -/
  uniques : List (String × List κ)
  references : List (Reference τ κ)

/-- A clause of `ALTER TABLE`. -/
inductive Alteration (κ : Type) where
  | addColumn (column : Column κ)
  | dropColumn (name : κ)
  | addCheck (name : String) (condition : Condition κ)
  | addUnique (name : String) (columns : List κ)
  | dropConstraint (name : String)

/-- The values of a row under a unique constraint; a null makes it equal to no other. -/
def keyOf {κ : Type} (columns : List κ) (r : Row κ) : Option (List Value) := columns.mapM r

/-- No two rows have the same values there. -/
def Distinct {κ : Type} (columns : List κ) (rows : List (Row κ)) : Prop :=
  rows.Pairwise fun r r' => keyOf columns r = none ∨ keyOf columns r ≠ keyOf columns r'

instance {κ : Type} (columns : List κ) (rows : List (Row κ)) : Decidable (Distinct columns rows) :=
  inferInstanceAs (Decidable (List.Pairwise _ _))

namespace Schema

variable {τ κ : Type} (schema : Schema τ κ)

def names : List κ := schema.columns.map (·.name)

def constraints : List String :=
  schema.checks.map (·.1) ++ schema.uniques.map (·.1) ++ schema.references.map (·.name)

/-- A name that two constraints have. -/
def repeated? : Option String := schema.constraints.find? fun name => 1 < schema.constraints.count name

def dropConstraint (name : String) : Schema τ κ where
  columns := schema.columns
  checks := schema.checks.filter (·.1 ≠ name)
  uniques := schema.uniques.filter (·.1 ≠ name)
  references := schema.references.filter (·.name ≠ name)

/-- A row the table may hold. -/
structure Fits (r : Row κ) : Prop where
  columns : ∀ column ∈ schema.columns, column.admits (r column.name) = true
  others : ∀ c, c ∉ schema.names → r c = none
  checks : ∀ check ∈ schema.checks, (check.2.eval r).admits = true

/-- The rows meet every constraint of their table. -/
structure Holds (rows : List (Row κ)) : Prop where
  fits : ∀ r ∈ rows, schema.Fits r
  distinct : ∀ unique ∈ schema.uniques, Distinct unique.2 rows

/-- The constraints mention columns of the table. -/
structure Scoped : Prop where
  checks : ∀ check ∈ schema.checks, ∀ c ∈ check.2.mentions, c ∈ schema.names
  uniques : ∀ unique ∈ schema.uniques, ∀ c ∈ unique.2, c ∈ schema.names

end Schema

namespace Schema

variable {τ κ : Type} [DecidableEq κ] (schema : Schema τ κ)

def dropColumn (c : κ) : Schema τ κ where
  columns := schema.columns.filter (·.name ≠ c)
  checks := schema.checks.filter fun check => c ∉ check.2.mentions
  uniques := schema.uniques.filter fun unique => c ∉ unique.2
  references := schema.references.filter (·.column ≠ c)

/-- What a clause makes of the schema, whatever the rows. -/
def alter : Alteration κ → Except Error (Schema τ κ)
  | .addColumn column =>
    if column.name ∈ schema.names then .error .duplicate else .ok { schema with columns := schema.columns ++ [column] }
  | .dropColumn c => if c ∈ schema.names then .ok (schema.dropColumn c) else .error .undefined
  | .addCheck name condition =>
    if name ∈ schema.constraints then .error (.duplicateConstraint name)
    else if ∀ c ∈ condition.mentions, c ∈ schema.names then .ok { schema with checks := schema.checks ++ [(name, condition)] }
    else .error .undefined
  | .addUnique name columns =>
    if name ∈ schema.constraints then .error (.duplicateConstraint name)
    else if ∀ c ∈ columns, c ∈ schema.names then .ok { schema with uniques := schema.uniques ++ [(name, columns)] }
    else .error .undefined
  | .dropConstraint name => if name ∈ schema.constraints then .ok (schema.dropConstraint name) else .error .undefined

/-- What the clauses of one statement make of it. -/
def alters (as : List (Alteration κ)) : Except Error (Schema τ κ) := as.foldlM alter schema

end Schema

namespace Alteration

variable {τ κ : Type} [DecidableEq κ]

/-- What a clause makes of the rows. -/
def fill (clock : ℕ → ℤ) (rows : List (Row κ)) : Alteration κ → List (Row κ)
  | .addColumn column => rows.mapIdx fun k r => Function.update r column.name (column.default.value clock k)
  | .dropColumn c => rows.map fun r => Function.update r c none
  | .addCheck .. | .addUnique .. | .dropConstraint _ => rows

/-- What the rows violate of the clause. -/
def violated (rows : List (Row κ)) : Alteration κ → Option Error
  | .addColumn column => if ∀ r ∈ rows, column.admits (r column.name) = true then none else some .value
  | .addCheck name condition => if ∀ r ∈ rows, (condition.eval r).admits = true then none else some (.check name)
  | .addUnique name columns => if Distinct columns rows then none else some (.unique name)
  | .dropColumn _ | .dropConstraint _ => none

def run (clock : ℕ → ℤ) (table : Schema τ κ × List (Row κ)) (a : Alteration κ) : Except Error (Schema τ κ × List (Row κ)) :=
  match table.1.alter a with
  | .error error => .error error
  | .ok schema =>
    match a.violated (a.fill clock table.2) with
    | some error => .error error
    | none => .ok (schema, a.fill clock table.2)

end Alteration

/-! ## What stays of the rows -/

/-- The rows one by one, each with what it had outside the columns `touched`. -/
structure Kept {κ : Type} (touched : List κ) (rows rows' : List (Row κ)) : Prop where
  length : rows'.length = rows.length
  same : ∀ (k : ℕ) (r r' : Row κ), rows[k]? = some r → rows'[k]? = some r' → ∀ c ∉ touched, r' c = r c

section Kept

variable {κ : Type} {touched touched' columns : List κ} {rows rows' rows'' : List (Row κ)}

theorem Kept.refl (touched : List κ) (rows : List (Row κ)) : Kept touched rows rows where
  length := rfl
  same := by
    intro k r r' here here' c _
    rw [here, Option.some.injEq] at here'
    rw [here']

theorem Kept.symm (kept : Kept touched rows rows') : Kept touched rows' rows where
  length := kept.length.symm
  same := fun k r' r there here c outside => (kept.same k r r' here there c outside).symm

theorem Kept.trans (first : Kept touched rows rows') (next : Kept touched' rows' rows'') :
    Kept (touched ++ touched') rows rows'' where
  length := next.length.trans first.length
  same := by
    intro k r r'' here there c outside
    rw [List.mem_append, not_or] at outside
    have inside : k < rows'.length := by rw [first.length]; exact (List.getElem?_eq_some_iff.1 here).1
    have middle := List.getElem?_eq_getElem inside
    rw [next.same k _ r'' middle there c outside.2, first.same k r _ here middle c outside.1]

theorem Kept.mono (kept : Kept touched rows rows') (sub : ∀ c ∈ touched, c ∈ touched') : Kept touched' rows rows' where
  length := kept.length
  same := fun k r r' here there c outside => kept.same k r r' here there c fun inside => outside (sub c inside)

/-- The row a row comes from. -/
theorem Kept.source (kept : Kept touched rows rows') {r' : Row κ} (member : r' ∈ rows') :
    ∃ r ∈ rows, ∀ c ∉ touched, r' c = r c := by
  obtain ⟨k, inside, here⟩ := List.getElem_of_mem member
  have inside' : k < rows.length := by rw [← kept.length]; exact inside
  exact ⟨rows[k], List.getElem_mem inside', kept.same k _ _ (List.getElem?_eq_getElem inside')
    (by rw [List.getElem?_eq_getElem inside, here])⟩

/-- The row a row becomes. -/
theorem Kept.target (kept : Kept touched rows rows') {r : Row κ} (member : r ∈ rows) :
    ∃ r' ∈ rows', ∀ c ∉ touched, r' c = r c := by
  obtain ⟨k, inside, here⟩ := List.getElem_of_mem member
  have inside' : k < rows'.length := by rw [kept.length]; exact inside
  exact ⟨rows'[k], List.getElem_mem inside', kept.same k _ _ (by rw [List.getElem?_eq_getElem inside, here])
    (List.getElem?_eq_getElem inside')⟩

theorem keyOf_congr {r r' : Row κ} (same : ∀ c ∈ columns, r' c = r c) : keyOf columns r' = keyOf columns r := by
  unfold keyOf
  induction columns with
  | nil => rfl
  | cons c columns ih =>
    rw [List.mapM_cons, List.mapM_cons, same c List.mem_cons_self, ih fun c' member => same c' (List.mem_cons_of_mem c member)]

theorem Kept.distinct (kept : Kept touched rows rows') (apart : ∀ c ∈ columns, c ∉ touched) (distinct : Distinct columns rows) :
    Distinct columns rows' := by
  rw [Distinct, List.pairwise_iff_getElem] at distinct ⊢
  intro i j hi hj order
  have key : ∀ (k : ℕ) (h : k < rows'.length) (h' : k < rows.length), keyOf columns rows'[k] = keyOf columns rows[k] := by
    intro k h h'
    refine keyOf_congr fun c member => ?_
    exact kept.same k _ _ (List.getElem?_eq_getElem h') (List.getElem?_eq_getElem h) c (apart c member)
  have hi' : i < rows.length := by rw [← kept.length]; exact hi
  have hj' : j < rows.length := by rw [← kept.length]; exact hj
  rw [key i hi hi', key j hj hj']
  exact distinct i j hi' hj' order

end Kept

namespace Alteration

variable {τ κ : Type} [DecidableEq κ] {clock : ℕ → ℤ} {rows rows' : List (Row κ)} {schema schema' : Schema τ κ} {a : Alteration κ}

def touched : Alteration κ → List κ
  | .addColumn column => [column.name]
  | .dropColumn c => [c]
  | .addCheck .. | .addUnique .. | .dropConstraint _ => []

theorem fill_kept (clock : ℕ → ℤ) (rows : List (Row κ)) (a : Alteration κ) : Kept a.touched rows (a.fill clock rows) := by
  cases a with
  | addColumn column =>
    refine ⟨List.length_mapIdx, ?_⟩
    intro k r r' here there c outside
    rw [fill, List.getElem?_mapIdx, here, Option.map_some, Option.some.injEq] at there
    rw [← there, Function.update_of_ne fun same => outside (List.mem_singleton.2 same)]
  | dropColumn c =>
    refine ⟨List.length_map _, ?_⟩
    intro k r r' here there c' outside
    rw [fill, List.getElem?_map, here, Option.map_some, Option.some.injEq] at there
    rw [← there, Function.update_of_ne fun same => outside (List.mem_singleton.2 same)]
  | addCheck name condition | addUnique name columns | dropConstraint name => exact Kept.refl _ rows

theorem run_eq_ok (ran : a.run clock (schema, rows) = .ok (schema', rows')) :
    schema.alter a = .ok schema' ∧ a.violated rows' = none ∧ rows' = a.fill clock rows := by
  unfold run at ran
  split at ran
  · cases ran
  · next altered =>
    split at ran
    · cases ran
    · next clean =>
      cases ran
      exact ⟨altered, clean, rfl⟩

end Alteration

section Clauses

variable {τ κ : Type} {rows rows' : List (Row κ)} {schema : Schema τ κ} (closed : schema.Scoped) (holds : schema.Holds rows)
include closed holds

theorem addColumn_holds {column : Column κ} (new : column.name ∉ schema.names) (kept : Kept [column.name] rows rows')
    (admitted : ∀ r ∈ rows', column.admits (r column.name) = true) :
    Schema.Scoped { schema with columns := schema.columns ++ [column] } ∧
      Schema.Holds { schema with columns := schema.columns ++ [column] } rows' := by
  have names : ∀ c, c ∈ Schema.names { schema with columns := schema.columns ++ [column] } ↔ c ∈ schema.names ∨ c = column.name := by
    intro c
    simp [Schema.names]
  have apart : ∀ c ∈ schema.names, c ∉ [column.name] := by
    intro c inside same
    rw [List.mem_singleton.1 same] at inside
    exact new inside
  refine ⟨⟨?_, ?_⟩, ⟨?_, ?_⟩⟩
  · exact fun check member c mentioned => (names c).2 (.inl (closed.checks check member c mentioned))
  · exact fun key member c mentioned => (names c).2 (.inl (closed.uniques key member c mentioned))
  · intro r' member
    obtain ⟨r, there, same⟩ := kept.source member
    have fits := holds.fits r there
    refine ⟨?_, ?_, ?_⟩
    · intro column' among
      obtain old | new := List.mem_append.1 among
      · rw [same _ (apart _ (List.mem_map_of_mem old))]
        exact fits.columns column' old
      · rw [List.mem_singleton.1 new]
        exact admitted r' member
    · intro c outside
      rw [names, not_or] at outside
      rw [same c fun touched => outside.2 (List.mem_singleton.1 touched)]
      exact fits.others c outside.1
    · intro check among
      rw [Condition.eval_congr fun c mentioned => same c (apart c (closed.checks check among c mentioned))]
      exact fits.checks check among
  · intro key among
    exact kept.distinct (fun c mentioned => apart c (closed.uniques key among c mentioned)) (holds.distinct key among)

theorem dropColumn_holds [DecidableEq κ] {c : κ} (kept : Kept [c] rows rows') (cleared : ∀ r ∈ rows', r c = none) :
    (schema.dropColumn c).Scoped ∧ (schema.dropColumn c).Holds rows' := by
  have names : ∀ c', c' ∈ (schema.dropColumn c).names ↔ c' ∈ schema.names ∧ c' ≠ c := by
    intro c'
    simp only [Schema.names, Schema.dropColumn, List.mem_map, List.mem_filter, decide_eq_true_eq]
    constructor
    · rintro ⟨column, ⟨among, other⟩, rfl⟩
      exact ⟨⟨column, among, rfl⟩, other⟩
    · rintro ⟨⟨column, among, rfl⟩, other⟩
      exact ⟨column, ⟨among, other⟩, rfl⟩
  have apart : ∀ c', c' ≠ c → c' ∉ [c] := fun c' other same => other (List.mem_singleton.1 same)
  refine ⟨⟨?_, ?_⟩, ⟨?_, ?_⟩⟩
  · intro check member c' mentioned
    obtain ⟨among, free⟩ := List.mem_filter.1 member
    refine (names c').2 ⟨closed.checks check among c' mentioned, ?_⟩
    rintro rfl
    exact of_decide_eq_true free mentioned
  · intro key member c' mentioned
    obtain ⟨among, free⟩ := List.mem_filter.1 member
    refine (names c').2 ⟨closed.uniques key among c' mentioned, ?_⟩
    rintro rfl
    exact of_decide_eq_true free mentioned
  · intro r' member
    obtain ⟨r, there, same⟩ := kept.source member
    have fits := holds.fits r there
    refine ⟨?_, ?_, ?_⟩
    · intro column among
      obtain ⟨old, other⟩ := List.mem_filter.1 among
      rw [same _ (apart _ (of_decide_eq_true other))]
      exact fits.columns column old
    · intro c' outside
      by_cases dropped : c' = c
      · rw [dropped]
        exact cleared r' member
      · rw [same c' (apart c' dropped)]
        exact fits.others c' fun inside => outside ((names c').2 ⟨inside, dropped⟩)
    · intro check among
      obtain ⟨old, free⟩ := List.mem_filter.1 among
      rw [Condition.eval_congr fun c' mentioned => same c' (apart c' ?_)]
      · exact fits.checks check old
      · rintro rfl
        exact of_decide_eq_true free mentioned
  · intro key among
    obtain ⟨old, free⟩ := List.mem_filter.1 among
    refine kept.distinct (fun c' mentioned => apart c' ?_) (holds.distinct key old)
    rintro rfl
    exact of_decide_eq_true free mentioned

theorem addCheck_holds {name : String} {condition : Condition κ} (mentions : ∀ c ∈ condition.mentions, c ∈ schema.names)
    (admitted : ∀ r ∈ rows, (condition.eval r).admits = true) :
    Schema.Scoped { schema with checks := schema.checks ++ [(name, condition)] } ∧
      Schema.Holds { schema with checks := schema.checks ++ [(name, condition)] } rows := by
  refine ⟨⟨?_, closed.uniques⟩, ⟨?_, holds.distinct⟩⟩
  · intro check member c mentioned
    obtain old | new := List.mem_append.1 member
    · exact closed.checks check old c mentioned
    · rw [List.mem_singleton.1 new] at mentioned
      exact mentions c mentioned
  · intro r member
    have fits := holds.fits r member
    refine ⟨fits.columns, fits.others, ?_⟩
    intro check among
    obtain old | new := List.mem_append.1 among
    · exact fits.checks check old
    · rw [List.mem_singleton.1 new]
      exact admitted r member

theorem addUnique_holds {name : String} {columns : List κ} (mentions : ∀ c ∈ columns, c ∈ schema.names)
    (distinct : Distinct columns rows) :
    Schema.Scoped { schema with uniques := schema.uniques ++ [(name, columns)] } ∧
      Schema.Holds { schema with uniques := schema.uniques ++ [(name, columns)] } rows := by
  refine ⟨⟨closed.checks, ?_⟩, ⟨?_, ?_⟩⟩
  · intro key member c mentioned
    obtain old | new := List.mem_append.1 member
    · exact closed.uniques key old c mentioned
    · rw [List.mem_singleton.1 new] at mentioned
      exact mentions c mentioned
  · intro r member
    have fits := holds.fits r member
    exact ⟨fits.columns, fits.others, fits.checks⟩
  · intro key member
    obtain old | new := List.mem_append.1 member
    · exact holds.distinct key old
    · rw [List.mem_singleton.1 new]
      exact distinct

theorem dropConstraint_holds (name : String) : (schema.dropConstraint name).Scoped ∧ (schema.dropConstraint name).Holds rows := by
  refine ⟨⟨?_, ?_⟩, ⟨?_, ?_⟩⟩
  · exact fun check member => closed.checks check (List.mem_filter.1 member).1
  · exact fun key member => closed.uniques key (List.mem_filter.1 member).1
  · intro r member
    have fits := holds.fits r member
    exact ⟨fits.columns, fits.others, fun check among => fits.checks check (List.mem_filter.1 among).1⟩
  · exact fun key member => holds.distinct key (List.mem_filter.1 member).1

end Clauses

/-! ### The clauses of one statement -/

namespace Alteration

section

variable {κ : Type} {rows rows' : List (Row κ)} {a : Alteration κ} {columns : List κ}

def reads : Alteration κ → List κ
  | .addColumn column => [column.name]
  | .addCheck _ condition => condition.mentions
  | .addUnique _ columns => columns
  | .dropColumn _ | .dropConstraint _ => []

def drops : Alteration κ → Bool
  | .dropColumn _ => true
  | _ => false

theorem violated_congr (kept : Kept columns rows rows') (apart : ∀ c ∈ a.reads, c ∉ columns) (clean : a.violated rows' = none) :
    a.violated rows = none := by
  cases a with
  | addColumn column =>
    simp only [violated, ite_eq_left_iff, reduceCtorEq, imp_false, not_not] at clean ⊢
    intro r member
    obtain ⟨r', there, same⟩ := kept.target member
    rw [← same _ (apart _ (List.mem_singleton_self _))]
    exact clean r' there
  | addCheck name condition =>
    simp only [violated, ite_eq_left_iff, reduceCtorEq, imp_false, not_not] at clean ⊢
    intro r member
    obtain ⟨r', there, same⟩ := kept.target member
    rw [← Condition.eval_congr fun c mentioned => same c (apart c mentioned)]
    exact clean r' there
  | addUnique name keys =>
    simp only [violated, ite_eq_left_iff, reduceCtorEq, imp_false, not_not] at clean ⊢
    exact kept.symm.distinct apart clean
  | dropColumn c | dropConstraint name => rfl

end

variable {τ κ : Type} [DecidableEq κ] {clock : ℕ → ℤ} {rows rows' rows'' : List (Row κ)} {schema schema' schema'' : Schema τ κ}
  {a : Alteration κ} {as : List (Alteration κ)} {columns : List κ}

/-- **A clause that succeeds leaves rows that meet every constraint.** -/
theorem run_holds (closed : schema.Scoped) (holds : schema.Holds rows) (ran : a.run clock (schema, rows) = .ok (schema', rows')) : schema'.Scoped ∧ schema'.Holds rows' := by
  obtain ⟨altered, clean, rfl⟩ := run_eq_ok ran
  have kept := fill_kept clock rows a
  cases a with
  | addColumn column =>
    simp only [Schema.alter] at altered
    split at altered <;> cases altered
    simp only [violated, ite_eq_left_iff, reduceCtorEq, imp_false, not_not] at clean
    exact addColumn_holds closed holds ‹_› kept clean
  | dropColumn c =>
    simp only [Schema.alter] at altered
    split at altered <;> cases altered
    refine dropColumn_holds closed holds kept ?_
    intro r member
    obtain ⟨r₀, -, rfl⟩ := List.mem_map.1 member
    exact Function.update_self ..
  | addCheck name condition =>
    simp only [Schema.alter] at altered
    split at altered
    · cases altered
    · split at altered <;> cases altered
      simp only [violated, ite_eq_left_iff, reduceCtorEq, imp_false, not_not] at clean
      exact addCheck_holds closed holds ‹_› clean
  | addUnique name columns =>
    simp only [Schema.alter] at altered
    split at altered
    · cases altered
    · split at altered <;> cases altered
      simp only [violated, ite_eq_left_iff, reduceCtorEq, imp_false, not_not] at clean
      exact addUnique_holds closed holds ‹_› clean
  | dropConstraint name =>
    simp only [Schema.alter] at altered
    split at altered <;> cases altered
    exact dropConstraint_holds closed holds name

/-- What a clause that drops no column reads is there afterwards, and so is what was there before. -/
theorem alter_names (altered : schema.alter a = .ok schema') (stays : a.drops = false) :
    (∀ c ∈ a.reads, c ∈ schema'.names) ∧ (∀ c ∈ schema.names, c ∈ schema'.names) ∧ ∀ c ∈ a.touched, c ∉ schema.names := by
  cases a with
  | addColumn column =>
    simp only [Schema.alter] at altered
    split at altered <;> cases altered
    refine ⟨?_, ?_, ?_⟩
    · intro c read
      rw [List.mem_singleton.1 read]
      simp [Schema.names]
    · intro c there
      rw [Schema.names, List.map_append]
      exact List.mem_append_left _ there
    · intro c touched
      rw [List.mem_singleton.1 touched]
      assumption
  | dropColumn c => cases stays
  | addCheck name condition =>
    simp only [Schema.alter] at altered
    split at altered
    · cases altered
    · split at altered <;> cases altered
      exact ⟨‹_›, fun _ there => there, fun _ touched => by cases touched⟩
  | addUnique name columns =>
    simp only [Schema.alter] at altered
    split at altered
    · cases altered
    · split at altered <;> cases altered
      exact ⟨‹_›, fun _ there => there, fun _ touched => by cases touched⟩
  | dropConstraint name =>
    simp only [Schema.alter] at altered
    split at altered <;> cases altered
    exact ⟨fun _ read => (by cases read), fun _ there => there, fun _ touched => by cases touched⟩

/-- A clause adds no reference, and leaves the columns of those that stay. -/
theorem alter_references (altered : schema.alter a = .ok schema') {ref : Reference τ κ}
    (member : ref ∈ schema'.references) : ref ∈ schema.references ∧ (a.drops = true → ref.column ∉ a.touched) := by
  cases a with
  | addColumn column | dropConstraint name =>
    simp only [Schema.alter] at altered
    split at altered <;> cases altered
    all_goals first
      | exact ⟨member, fun drops => by cases drops⟩
      | exact ⟨(List.mem_filter.1 member).1, fun drops => by cases drops⟩
  | dropColumn c =>
    simp only [Schema.alter] at altered
    split at altered <;> cases altered
    obtain ⟨old, other⟩ := List.mem_filter.1 member
    refine ⟨old, fun _ touched => ?_⟩
    exact of_decide_eq_true other (List.mem_singleton.1 touched)
  | addCheck name condition | addUnique name columns =>
    simp only [Schema.alter] at altered
    split at altered
    · cases altered
    · split at altered <;> cases altered
      exact ⟨member, fun drops => by cases drops⟩

/-- A column that was there and is not dropped is there, and what it held. -/
theorem alter_stays (altered : schema.alter a = .ok schema') {c : κ} (named : c ∈ schema.names)
    (stays : a.drops = true → c ∉ a.touched) : c ∈ schema'.names ∧ c ∉ a.touched := by
  cases drops : a.drops with
  | false =>
    obtain ⟨-, grows, new⟩ := alter_names altered drops
    exact ⟨grows c named, fun touched => new c touched named⟩
  | true =>
    refine ⟨?_, stays drops⟩
    cases a with
    | dropColumn c' =>
      have other := stays rfl
      simp only [Schema.alter] at altered
      split at altered <;> cases altered
      obtain ⟨column, among, rfl⟩ := List.mem_map.1 named
      refine List.mem_map.2 ⟨column, List.mem_filter.2 ⟨among, ?_⟩, rfl⟩
      exact decide_eq_true fun same => other (List.mem_singleton.2 same)
    | _ => cases drops

/-- Columns that are added are new. -/
theorem alters_new (altered : schema.alters as = .ok schema') (stays : ∀ a ∈ as, a.drops = false) :
    ∀ c ∈ as.flatMap touched, c ∉ schema.names := by
  induction as generalizing schema with
  | nil => exact fun c touched => by cases touched
  | cons a as ih =>
    obtain ⟨middle, first, rest⟩ := bind_eq_ok.1 ((List.foldlM_cons ..).symm.trans altered)
    obtain ⟨-, grows, new⟩ := alter_names first (stays a List.mem_cons_self)
    intro c touched
    obtain here | later := List.mem_append.1 (List.flatMap_cons ▸ touched)
    · exact new c here
    · exact fun there => ih rest (fun a' member => stays a' (List.mem_cons_of_mem a member)) c later (grows c there)

theorem fills_kept (clock : ℕ → ℤ) (rows : List (Row κ)) (as : List (Alteration κ)) :
    Kept (as.flatMap touched) rows (as.foldl (fill clock) rows) := by
  induction as generalizing rows with
  | nil => exact Kept.refl _ rows
  | cons a as ih =>
    rw [List.flatMap_cons]
    exact (fill_kept clock rows a).trans (ih (a.fill clock rows))

/-- **Clauses that drop no column succeed together** when their rows, filled in, violate none of them. -/
theorem runs_ok (altered : schema.alters as = .ok schema') (stays : ∀ a ∈ as, a.drops = false)
    (clean : ∀ a ∈ as, a.violated (as.foldl (fill clock) rows) = none) :
    as.foldlM (run clock) (schema, rows) = .ok (schema', as.foldl (fill clock) rows) := by
  induction as generalizing schema rows with
  | nil =>
    cases altered
    rfl
  | cons a as ih =>
    obtain ⟨middle, first, rest⟩ := bind_eq_ok.1 ((List.foldlM_cons ..).symm.trans altered)
    have later : ∀ a' ∈ as, a'.drops = false := fun a' member => stays a' (List.mem_cons_of_mem a member)
    have own : a.violated (a.fill clock rows) = none := by
      refine violated_congr (fills_kept clock (a.fill clock rows) as) ?_ (clean a List.mem_cons_self)
      intro c read touched
      obtain ⟨names, -, -⟩ := alter_names first (stays a List.mem_cons_self)
      exact alters_new rest later c touched (names c read)
    have ran : a.run clock (schema, rows) = .ok (middle, a.fill clock rows) := by
      simp only [run, first, own]
    rw [List.foldlM_cons, ran]
    exact ih rest later fun a' member => clean a' (List.mem_cons_of_mem a member)

/-- An added column holds its default. -/
theorem fills_default (column : Column κ) (added : .addColumn column ∈ as) (once : (as.flatMap touched).Nodup) {r : Row κ}
    (member : r ∈ as.foldl (fill clock) rows) : ∃ k, r column.name = column.default.value clock k := by
  induction as generalizing rows with
  | nil => cases added
  | cons a as ih =>
    rw [List.flatMap_cons, List.nodup_append] at once
    obtain rfl | later := List.mem_cons.1 added
    · obtain ⟨r₁, there, same⟩ := (fills_kept clock (fill clock rows (.addColumn column)) as).source member
      have apart : column.name ∉ as.flatMap touched :=
        fun again => once.2.2 _ (List.mem_singleton_self column.name) _ again rfl
      obtain ⟨k, inside, here⟩ := List.mem_mapIdx.1 there
      exact ⟨k, by rw [same _ apart, ← here, Function.update_self]⟩
    · exact ih later once.2.1 member

theorem clean_column {column : Column κ} (added : .addColumn column ∈ as) (once : (as.flatMap touched).Nodup)
    (admits : ∀ k, column.admits (column.default.value clock k) = true) :
    violated (as.foldl (fill clock) rows) (.addColumn column) = none := by
  refine if_pos fun r member => ?_
  obtain ⟨k, value⟩ := fills_default _ added once member
  rw [value]
  exact admits k

end Alteration

end Ddl
