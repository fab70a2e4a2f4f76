/-
**The schema of a SQLite database.**

A database has tables, which have columns in order, and indexes.  Names are compared without regard
to ASCII letter case.  The names of tables and indexes are pairwise different, so are the names of
the columns of a table, and every index belongs to one of the tables; all three facts are part of
the types.  Names that begin with `sqlite_` are for the database itself: it makes a table of
sequences when a table first numbers its rows, and that table cannot be changed.

Main definitions:

* `Sqlite.Column`, `Sqlite.Table`, `Sqlite.Index`, `Sqlite.Database` — the schema;
* `Sqlite.isReserved` — the names that the database keeps for itself;
* `Sqlite.SchemaError` — why a change of the schema fails;
* `Database.createTable`, `Database.addColumn`, `Database.createIndex`, `Database.dropIndex`,
  `Database.dropTable` — **the changes**.

Main results:

* `Database.table?_eq_some_iff` — **the table that has a name is the only one that has it**.
-/

import Conform.Text.Blank
import Conform.Text.Cut

set_option relaxedAutoImplicit false
set_option autoImplicit false

namespace Conform

namespace Sqlite

/-! ### Names -/

/-- What names have in common that differ in letter case only. -/
def foldName (name : String) : String := Text.lowercase name

/-- **Whether two names are the same to the database.** -/
def sameName (a b : String) : Bool := foldName a == foldName b

@[simp] theorem sameName_self (a : String) : sameName a a = true := by simp [sameName]

theorem sameName_iff {a b : String} : sameName a b = true ↔ foldName a = foldName b := by
  simp [sameName]

/-- **Whether a name is one that the database keeps for itself.** -/
def isReserved (name : String) : Bool := "sqlite_".toList.isPrefixOf (foldName name).toList

/-- Whether a text holds a NUL.  A statement ends at its first NUL, in the middle of a name or of a
value, so that it cannot be read. -/
def hasNul (s : String) : Bool := s.toList.contains '\x00'

/-! ### The schema -/

/-- **A column**, with its type and its default as they were written. -/
structure Column where
  name : String
  /-- The type; none if what is kept of it ends inside a character, so that it is no text. -/
  type : Option String
  notNull : Bool := false
  default : Option String := none
  /-- Whether the values of the column are computed from those of others. -/
  computed : Bool := false
  deriving DecidableEq, Repr

def Column.ofType (type name : String) : Column := { name := name, type := some type }

def Column.texts (c : Column) : List String := c.name :: (c.type.toList ++ c.default.toList)

/-- The types that a database has a short form for. -/
def standardTypes : List String := ["ANY", "BLOB", "INT", "INTEGER", "REAL", "TEXT"]

def DistinctColumns (columns : List Column) : Prop :=
  (columns.map fun c => foldName c.name).Nodup

instance (columns : List Column) : Decidable (DistinctColumns columns) :=
  inferInstanceAs (Decidable (List.Nodup _))

/-- **Which columns can be added to a table.** -/
inductive Growth
  | free
  /-- Only columns of standard types. -/
  | standard
  /-- None: the conditions on the rows of the table have no values. -/
  | barred
  deriving DecidableEq, Repr

def Growth.admits (c : Column) : Growth → Bool
  | free => true
  | standard => c.type.any standardTypes.contains
  | barred => false

/-- **A table.** -/
structure Table where
  name : String
  columns : List Column
  growth : Growth
  distinct : DistinctColumns columns
  named : hasNul name = false

/-- The most columns that a table, or an index, can have. -/
def columnLimit : Nat := 2000

/-- **The table of sequences**, in which the database keeps the numbers of rows. -/
def sequences : Table :=
  ⟨"sqlite_sequence", [.ofType "" "name", .ofType "" "seq"], .free, by decide, by decide⟩

/-- What an index is ordered by. -/
inductive KeyPart
  | column (name : String)
  /-- The small letters of a column. -/
  | lowered (column : String)
  deriving DecidableEq, Repr

def KeyPart.source : KeyPart → String
  | column name => name
  | lowered name => name

/-- **An index** of a table. -/
structure Index where
  name : String
  table : String
  unique : Bool
  parts : List KeyPart
  deriving DecidableEq, Repr

/-- The names of tables and indexes, without regard to letter case. -/
def namesOf (tables : List Table) (indexes : List Index) : List String :=
  tables.map (fun t => foldName t.name) ++ indexes.map fun i => foldName i.name

/-- **That an index belongs to a table**: it is an index of that table, and each of its parts reads
a column there. -/
def Index.BelongsTo (i : Index) (t : Table) : Prop :=
  i.table = t.name ∧ ∀ p ∈ i.parts, p.source ∈ t.columns.map (·.name)

/-- **A database**: tables and indexes with pairwise different names, newest first. -/
structure Database where
  tables : List Table
  indexes : List Index
  distinct : (namesOf tables indexes).Nodup
  rooted : ∀ i ∈ indexes, ∃ t ∈ tables, i.BelongsTo t

inductive SchemaError
  | nameTaken (name : String)
  | repeatedColumn (table : String)
  | noTable (name : String)
  | noColumn (table column : String)
  | noIndex (name : String)
  | withoutColumns (name : String)
  | tooManyColumns (table : String)
  | tooManyParts (index : String)
  | notAdmitted (table column : String)
  /-- The name, or the table, is one that the database keeps for itself. -/
  | reserved (name : String)
  | unreadable
  deriving DecidableEq, Repr

def SchemaError.text : SchemaError → String
  | nameTaken name => s!"there is already a table or index named {name}"
  | repeatedColumn table => s!"duplicate column name in {table}"
  | noTable name => s!"no such table: {name}"
  | noColumn table column => s!"table {table} has no column named {column}"
  | noIndex name => s!"no such index: {name}"
  | withoutColumns name => s!"no columns given for {name}"
  | tooManyColumns table => s!"too many columns on {table}"
  | tooManyParts index => s!"too many columns in {index}"
  | notAdmitted table column => s!"column {column} cannot be added to {table}"
  | reserved name => s!"name reserved for internal use: {name}"
  | unreadable => "syntax error"

/-! ### Looking up -/

def column? (columns : List Column) (name : String) : Option Column :=
  columns.find? fun c => sameName c.name name

theorem mem_of_column? {columns : List Column} {name : String} {c : Column}
    (h : column? columns name = some c) : c ∈ columns := List.mem_of_find?_eq_some h

/-- Of two things with the same key in a list of different keys there is only one. -/
theorem eq_of_key {α κ : Type} {key : α → κ} {as : List α} (h : (as.map key).Nodup) {a b : α}
    (ha : a ∈ as) (hb : b ∈ as) (hkey : key a = key b) : a = b := by
  induction as with
  | nil => simp at ha
  | cons c cs ih =>
      simp only [List.map_cons, List.nodup_cons, List.mem_map, not_exists, not_and] at h
      rcases List.mem_cons.1 ha with rfl | ha' <;> rcases List.mem_cons.1 hb with rfl | hb'
      · rfl
      · exact absurd hkey.symm (h.1 b hb')
      · exact absurd hkey (h.1 a ha')
      · exact ih h.2 ha' hb'

namespace Database

def empty : Database := ⟨[], [], List.nodup_nil, by simp⟩

def table? (db : Database) (name : String) : Option Table :=
  db.tables.find? fun t => sameName t.name name

theorem tables_nodup (db : Database) : (db.tables.map fun t => foldName t.name).Nodup :=
  (List.nodup_append.1 db.distinct).1

theorem mem_of_table? {db : Database} {name : String} {t : Table}
    (h : db.table? name = some t) : t ∈ db.tables := by
  rw [table?] at h
  exact List.mem_of_find?_eq_some h

theorem sameName_of_table? {db : Database} {name : String} {t : Table}
    (h : db.table? name = some t) : sameName t.name name = true := by
  rw [table?] at h
  have hfound := List.find?_some h
  exact hfound

/-- **The table that has a name is the only one that has it.** -/
theorem table?_eq_some_iff {db : Database} {name : String} {t : Table} :
    db.table? name = some t ↔ t ∈ db.tables ∧ sameName t.name name = true := by
  constructor
  · intro h
    exact ⟨mem_of_table? h, sameName_of_table? h⟩
  · intro ⟨ht, hname⟩
    cases h : db.table? name with
    | none =>
        rw [table?, List.find?_eq_none] at h
        exact absurd hname (h t ht)
    | some u =>
        have hkey : foldName u.name = foldName t.name := by
          rw [sameName_iff.1 (sameName_of_table? h), sameName_iff.1 hname]
        have hsame : u = t := eq_of_key db.tables_nodup (mem_of_table? h) ht hkey
        rw [hsame]

def index? (db : Database) (name : String) : Option Index :=
  db.indexes.find? fun i => sameName i.name name

def indexesOf (db : Database) (table : String) : List Index :=
  db.indexes.filter fun i => sameName i.table table

/-- **Whether a table or an index has a name.** -/
def isTaken (db : Database) (name : String) : Bool :=
  foldName name ∈ namesOf db.tables db.indexes

/-! ### Changes -/

def insertTable (db : Database) (name : String) (columns : List Column) (growth : Growth) :
    Except SchemaError Database :=
  if hname : db.isTaken name = true then .error (.nameTaken name)
  else if hcolumns : DistinctColumns columns then
    if hnul : hasNul name = false then
      .ok ⟨⟨name, columns, growth, hcolumns, hnul⟩ :: db.tables, db.indexes, by
          have hnot : foldName name ∉ namesOf db.tables db.indexes := by
            simpa [isTaken] using hname
          exact List.nodup_cons.2 ⟨hnot, db.distinct⟩, by
          intro i hi
          obtain ⟨t, ht, h⟩ := db.rooted i hi
          exact ⟨t, List.mem_cons_of_mem _ ht, h⟩⟩
    else .error .unreadable
  else .error (.repeatedColumn name)

def withSequences (db : Database) : Database :=
  match db.insertTable sequences.name sequences.columns sequences.growth with
  | .ok db' => db'
  | .error _ => db

/-- **A new table**, which may number its rows. -/
def createTable (db : Database) (name : String) (columns : List Column) (numbered : Bool)
    (growth : Growth) : Except SchemaError Database :=
  if columns.isEmpty then .error (.withoutColumns name)
  else if columnLimit < columns.length then .error (.tooManyColumns name)
  else if isReserved name then .error (.reserved name)
  else if columns.any (·.texts.any hasNul) then .error .unreadable
  else (db.insertTable name columns growth).map fun db => if numbered then db.withSequences else db

/-- A table with one column more, if its name is new there. -/
def appendColumn (t : Table) (c : Column) : Table :=
  if h : DistinctColumns (t.columns ++ [c]) then ⟨t.name, t.columns ++ [c], t.growth, h, t.named⟩
  else t

@[simp] theorem name_appendColumn (t : Table) (c : Column) : (appendColumn t c).name = t.name := by
  unfold appendColumn; split <;> rfl

theorem columns_appendColumn (t : Table) (c : Column) :
    t.columns <+: (appendColumn t c).columns := by
  unfold appendColumn
  split
  · exact List.prefix_append ..
  · exact List.prefix_refl _

def withColumn (tables : List Table) (table : String) (c : Column) : List Table :=
  tables.map fun t => if sameName t.name table then appendColumn t c else t

theorem names_withColumn (tables : List Table) (table : String) (c : Column) :
    (withColumn tables table c).map (fun t => foldName t.name) =
      tables.map fun t => foldName t.name := by
  rw [withColumn, List.map_map]
  apply List.map_congr_left
  intro t _
  by_cases h : sameName t.name table <;> simp [h]

theorem belongsTo_appendColumn {i : Index} {t : Table} (c : Column) (h : i.BelongsTo t) :
    i.BelongsTo (appendColumn t c) :=
  ⟨by simpa using h.1, fun p hp =>
    ((columns_appendColumn t c).map (·.name)).subset (h.2 p hp)⟩

/-- **A new last column of a table.** -/
def addColumn (db : Database) (table : String) (c : Column) : Except SchemaError Database :=
  match db.table? table with
  | none => .error (.noTable table)
  | some t =>
      if isReserved table then .error (.reserved table)
      else if (column? t.columns c.name).isSome then .error (.repeatedColumn table)
      else if columnLimit ≤ t.columns.length then .error (.tooManyColumns table)
      else if c.texts.any hasNul then .error .unreadable
      else if !t.growth.admits c then .error (.notAdmitted table c.name)
      else .ok ⟨withColumn db.tables table c, db.indexes, by
        rw [namesOf, names_withColumn]; exact db.distinct, by
        intro i hi
        obtain ⟨t, ht, h⟩ := db.rooted i hi
        refine ⟨_, List.mem_map_of_mem ht, ?_⟩
        split
        · exact belongsTo_appendColumn c h
        · exact h⟩

def resolvePart? (t : Table) : KeyPart → Option KeyPart
  | .column name => (column? t.columns name).map fun c => .column c.name
  | .lowered name => (column? t.columns name).map fun c => .lowered c.name

theorem source_of_resolvePart? {t : Table} {p q : KeyPart} (h : resolvePart? t p = some q) :
    q.source ∈ t.columns.map (·.name) := by
  cases p <;>
    · obtain ⟨c, hc, rfl⟩ := Option.map_eq_some_iff.1 h
      exact List.mem_map_of_mem (mem_of_column? hc)

/-- **A new index of a table.** -/
def createIndex (db : Database) (name : String) (unique : Bool) (table : String)
    (parts : List KeyPart) : Except SchemaError Database :=
  if parts.isEmpty then .error (.withoutColumns name)
  else if columnLimit < parts.length then .error (.tooManyParts name)
  else if isReserved name then .error (.reserved name)
  else if isReserved table then .error (.reserved table)
  else if hasNul name then .error .unreadable
  else match htable : db.table? table with
  | none => .error (.noTable table)
  | some t =>
      match parts.find? fun p => (resolvePart? t p).isNone with
      | some p => .error (.noColumn table p.source)
      | none =>
          if hname : db.isTaken name = true then .error (.nameTaken name)
          else .ok ⟨db.tables,
            ⟨name, t.name, unique, parts.filterMap (resolvePart? t)⟩ :: db.indexes,
            by
              have hnot : foldName name ∉ namesOf db.tables db.indexes := by
                simpa [isTaken] using hname
              exact (List.perm_middle.nodup_iff).2 (List.nodup_cons.2 ⟨hnot, db.distinct⟩),
            by
              intro i hi
              rcases List.mem_cons.1 hi with rfl | hi
              · refine ⟨t, mem_of_table? htable, rfl, fun q hq => ?_⟩
                obtain ⟨p, _, hp⟩ := List.mem_filterMap.1 hq
                exact source_of_resolvePart? hp
              · exact db.rooted i hi⟩

/-- **An index is dropped.** -/
def dropIndex (db : Database) (name : String) : Except SchemaError Database :=
  if (db.index? name).isNone then .error (.noIndex name)
  else .ok ⟨db.tables, db.indexes.filter fun i => !sameName i.name name,
    db.distinct.sublist ((List.Sublist.refl _).append (List.filter_sublist.map _)),
    fun i hi => db.rooted i (List.mem_filter.1 hi).1⟩

/-- **A table is dropped, and its indexes with it.** -/
def dropTable (db : Database) (name : String) : Except SchemaError Database :=
  if (db.table? name).isNone then .error (.noTable name)
  else if isReserved name then .error (.reserved name)
  else .ok ⟨db.tables.filter fun t => !sameName t.name name,
    db.indexes.filter fun i => !sameName i.table name,
    db.distinct.sublist ((List.filter_sublist.map _).append (List.filter_sublist.map _)), by
      intro i hi
      obtain ⟨t, ht, h⟩ := db.rooted i (List.mem_filter.1 hi).1
      exact ⟨t, List.mem_filter.2 ⟨ht, h.1 ▸ (List.mem_filter.1 hi).2⟩, h⟩⟩

end Database

end Sqlite

end Conform
