/-
**Wanted columns: the part of a rule that reaches the database.**
-/

import Conform.Definition.Basic

set_option relaxedAutoImplicit false
set_option autoImplicit false

namespace Conform

/-! ### Physical types -/

/-- **The physical types that columns are declared with.** -/
inductive Storage
  | varchar
  | text
  | bigint
  | integer
  deriving DecidableEq, Repr

def Storage.keyword : Storage → String
  | varchar => "VARCHAR"
  | text => "TEXT"
  | bigint => "BIGINT"
  | integer => "INTEGER"

def Kind.storage (d : Dialect) : Kind → Storage
  | .string | .arrayString => .varchar
  | .text | .arrayText => .text
  | .number => match d with
    | .mysql | .postgres => .bigint
    | .sqlite => .integer

structure ColumnType where
  storage : Storage
  length : Option Nat
  deriving DecidableEq, Repr

/-- The type of a column of a kind; only bounded kinds are declared with a length. -/
def Kind.columnType (d : Dialect) (k : Kind) (length : Option Nat) : ColumnType :=
  ⟨k.storage d, if k.isBounded then length else none⟩

/-! ### Columns -/

/-- **A wanted column.** -/
structure Column where
  key : String
  type : ColumnType
  default : Default
  label : String
  indexed : Bool
  deriving DecidableEq, Repr

/-- **The column that a field stands for in a dialect.** -/
def Field.column (d : Dialect) (f : Field) : Column :=
  ⟨f.key, f.rule.kind.columnType d f.rule.length, f.rule.default, f.rule.label, f.rule.indexed⟩

@[simp] theorem Field.key_column (d : Dialect) (f : Field) : (f.column d).key = f.key := rfl

/-! ### The columns that every table has -/

/-- **A column that every table has.** -/
inductive SystemColumn
  | id
  | createdAt
  | updatedAt
  | deletedAt
  | state
  deriving DecidableEq, Repr

namespace SystemColumn

def key : SystemColumn → String
  | id => "id"
  | createdAt => "created_at"
  | updatedAt => "updated_at"
  | deletedAt => "deleted_at"
  | state => "state"

def label : SystemColumn → String
  | id => "主键ID"
  | createdAt => "创建时间"
  | updatedAt => "更新时间"
  | deletedAt => "删除时间"
  | state => "状态"

end SystemColumn

def systemColumns : List SystemColumn := [.id, .createdAt, .updatedAt, .deletedAt, .state]

theorem systemColumns_keys : systemColumns.map (·.key) = reservedKeys := rfl

/-- **The system columns that are always indexed.** -/
def systemIndexKeys : List String := ["created_at", "updated_at", "state"]

end Conform
