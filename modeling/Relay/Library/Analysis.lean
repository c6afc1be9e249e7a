import Relay.Library.Sql

/-!
# The analysis of a statement

Before a statement runs, PostgreSQL finds a type for each of its expressions and
a column for each name of its `FROM` clauses, or refuses it. A parameter that
comes without a type is of unknown type, as a quoted literal is, and takes the
type of the operand it meets; an arithmetic operator between two of them has no
best candidate. A column joined by `USING` must be named once on either side,
and the two become one.
-/

namespace Sql

/-! ## Types of expressions -/

inductive SqlType where
  | boolean
  | integer
  | bigint
  | text
deriving DecidableEq

/-- The wider of two integer types. -/
def SqlType.widen : SqlType → SqlType → Option SqlType
  | .integer, .integer => some .integer
  | .integer, .bigint | .bigint, .integer | .bigint, .bigint => some .bigint
  | _, _ => none

/-- An expression as far as its type goes. A `CASE` with several branches goes on in `otherwise`. -/
inductive Expr where
  | parameter
  | literal
  | typed (type : SqlType)
  | arithmetic (left right : Expr)
  | comparison (left right : Expr)
  | both (left right : Expr)
  | either (left right : Expr)
  | cases (condition result otherwise : Expr)

/-- The type of an arithmetic operator; `none` is the unknown type. -/
def arithmeticType : Option SqlType → Option SqlType → Except Unresolved (Option SqlType)
  | none, none => .error .ambiguousFunction
  | some type, none | none, some type =>
    match type.widen type with
    | some wide => .ok (some wide)
    | none => .error .undefinedFunction
  | some left, some right =>
    match left.widen right with
    | some wide => .ok (some wide)
    | none => .error .undefinedFunction

/-- The type both operands of a comparison, or both branches of a `CASE`, are read at. -/
def commonType (mismatch : Unresolved) : Option SqlType → Option SqlType → Except Unresolved (Option SqlType)
  | none, type | type, none => .ok type
  | some left, some right =>
    if left = right then .ok (some left)
    else match left.widen right with
      | some wide => .ok (some wide)
      | none => .error mismatch

/-- What a condition asks of the type of its operand. -/
def condition : Option SqlType → Except Unresolved Unit
  | none | some .boolean => .ok ()
  | some _ => .error .datatypeMismatch

namespace Expr

def type : Expr → Except Unresolved (Option SqlType)
  | parameter | literal => .ok none
  | typed type => .ok (some type)
  | arithmetic left right => do arithmeticType (← left.type) (← right.type)
  | comparison left right => do
    let _ ← commonType .undefinedFunction (← left.type) (← right.type)
    pure (some .boolean)
  | both left right | either left right => do
    condition (← left.type)
    condition (← right.type)
    pure (some .boolean)
  | cases test result otherwise => do
    condition (← test.type)
    commonType .datatypeMismatch (← result.type) (← otherwise.type)

variable {test result otherwise left right : Expr}

/-- **The sum of two parameters is refused**, wherever their values come from. -/
theorem type_arithmetic_unknown (unknown : left.type = .ok none) (unknown' : right.type = .ok none) :
    (arithmetic left right).type = .error .ambiguousFunction := by
  simp only [type, unknown, unknown', bind, Except.bind, arithmeticType]

/-- A branch that is refused refuses the `CASE` it stands in. -/
theorem type_cases_refused {reason : Unresolved} (boolean : test.type = .ok (some .boolean))
    (refused : result.type = .error reason) : (cases test result otherwise).type = .error reason := by
  simp only [type, boolean, refused, bind, Except.bind, condition]

end Expr

/-! ## Columns of a `FROM` clause -/

inductive Source where
  | relation (columns : List String)
  | joinOn (left right : Source)
  | joinUsing (left right : Source) (column : String)

/-- One column among those of a side of a join. -/
def single (column : String) (columns : List String) : Except Unresolved Unit :=
  match columns.count column with
  | 0 => .error (.undefinedColumn column)
  | 1 => .ok ()
  | _ => .error (.ambiguousColumn column)

namespace Source

def columns : Source → Except Unresolved (List String)
  | relation columns => .ok columns
  | joinOn left right => do pure ((← left.columns) ++ (← right.columns))
  | joinUsing left right column => do
    let lefts ← left.columns
    let rights ← right.columns
    single column lefts
    single column rights
    pure (column :: (lefts.erase column ++ rights.erase column))

variable {left right : Source} {column : String} {lefts rights joined : List String}

theorem columns_joinUsing (left_columns : left.columns = .ok lefts) (right_columns : right.columns = .ok rights)
    (resolved : (joinUsing left right column).columns = .ok joined) :
    joined = column :: (lefts.erase column ++ rights.erase column) := by
  simp only [columns, left_columns, right_columns, bind, Except.bind, pure, Except.pure] at resolved
  cases one : single column lefts with
  | error reason => rw [one] at resolved; cases resolved
  | ok _ =>
    cases other : single column rights with
    | error reason => rw [one, other] at resolved; cases resolved
    | ok _ =>
      rw [one, other, Except.ok.injEq] at resolved
      exact resolved.symm

/-- **A column that both sides of a join bring along is ambiguous to the next one**: only the columns a
join is made on become one. -/
theorem columns_joinUsing_ambiguous {shared : String} {third : Source} {thirds : List String}
    (left_columns : left.columns = .ok lefts) (right_columns : right.columns = .ok rights)
    (third_columns : third.columns = .ok thirds)
    (resolved : (joinUsing left right column).columns = .ok joined) (other : shared ≠ column)
    (here : shared ∈ lefts) (there : shared ∈ rights) :
    (joinUsing (joinUsing left right column) third shared).columns = .error (.ambiguousColumn shared) := by
  have twice : 2 ≤ joined.count shared := by
    rw [columns_joinUsing left_columns right_columns resolved, List.count_cons_of_ne other.symm, List.count_append,
      List.count_erase_of_ne other, List.count_erase_of_ne other]
    have once := List.count_pos_iff.2 here
    have again := List.count_pos_iff.2 there
    omega
  have refused : single shared joined = .error (.ambiguousColumn shared) := by
    unfold single
    split
    · omega
    · omega
    · rfl
  rw [columns]
  simp only [resolved, third_columns, refused, bind, Except.bind]

end Source

/-! ## Statements -/

/-- The parts of a statement that need a meaning. -/
structure Query where
  sources : List Source
  expressions : List Expr

namespace Query

/-- A statement runs when this finds no fault with it. -/
def analyse (q : Query) : Except Error Unit :=
  match q.sources.mapM Source.columns, q.expressions.mapM Expr.type with
  | .error reason, _ | .ok _, .error reason => .error (.unresolved reason)
  | .ok _, .ok _ => .ok ()

variable {q : Query} {reason : Unresolved}

/-- The first expression without a type refuses the statement. -/
theorem analyse_expression (before : List Expr) {after : List Expr} {e : Expr} {columns : List (List String)}
    {types : List (Option SqlType)} (sources : q.sources.mapM Source.columns = .ok columns)
    (split : q.expressions = before ++ e :: after) (fine : before.mapM Expr.type = .ok types)
    (refused : e.type = .error reason) : q.analyse = .error (.unresolved reason) := by
  have stops : q.expressions.mapM Expr.type = .error reason := by
    rw [split, List.mapM_append, fine, List.mapM_cons, refused]
    rfl
  rw [analyse, sources, stops]

/-- The first source without columns refuses the statement. -/
theorem analyse_source (before : List Source) {after : List Source} {source : Source} {columns : List (List String)}
    (split : q.sources = before ++ source :: after) (fine : before.mapM Source.columns = .ok columns)
    (refused : source.columns = .error reason) : q.analyse = .error (.unresolved reason) := by
  have stops : q.sources.mapM Source.columns = .error reason := by
    rw [split, List.mapM_append, fine, List.mapM_cons, refused]
    rfl
  rw [analyse, stops]

end Query

end Sql
