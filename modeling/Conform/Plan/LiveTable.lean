/-
**Plans for tables that exist.**

Each declared field is planned on its own against the snapshot.  A missing column is added.  A
column that is there is reviewed: its type may change only where every value is kept, a shorter
length needs the switch for it, and what the dialect cannot change in place is skipped with a
warning.  Indexes are planned last.

Main definitions:

* `Gate`, `gate` — whether a change of type is admissible;
* `Review`, `review` — what is done about each difference of a live column;
* `Draft` — the contribution of fields to a plan;
* `draftField`, `draftFields` — the contribution of one field and of a list of fields, or the
  first refusal;
* `draftIndexes` — the contribution of indexes for a snapshot;
* `planLiveTable` — **the plan for an existing table**, with its log.

Main results:

* `Draft.append_assoc`, `Draft.nil_append` — contributions are put one after the other.
-/

import Conform.Plan.NewTable

set_option relaxedAutoImplicit false
set_option autoImplicit false

namespace Conform

/-! ### Changes of type -/

/-- **Whether a change of type is admissible, and why.** -/
inductive Gate
  | unchanged
  /-- Both types are bounded strings. -/
  | strings
  /-- PostgreSQL changes the type in place and keeps every value. -/
  | widening
  | refused
  deriving DecidableEq, Repr

/-- **The gate for a live type and the wanted one.** -/
def gate (d : Dialect) (liveType : String) (wanted : Storage) : Gate :=
  if TypeName.same liveType wanted.keyword then .unchanged
  else if TypeName.isString liveType && TypeName.isString wanted.keyword then .strings
  else if d = .postgres && TypeName.widens liveType wanted.keyword then .widening
  else .refused

/-- **A refused change of type.** -/
structure TypeRefusal where
  table : String
  column : String
  live : String
  wanted : String
  deriving DecidableEq, Repr

def TypeRefusal.message (r : TypeRefusal) : String :=
  s!"Refusing to change type of column `{r.column}` in table `{r.table}` " ++
    s!"from {r.live} to {r.wanted}"

/-! ### The review of a live column -/

/-- What is done about a difference in type or length. -/
inductive ShapeStep
  | keep
  | alter (clause : Clause)
  /-- The wanted length is shorter, and columns may not shrink. -/
  | skipShrink (live wanted : Nat)
  /-- The dialect cannot change the type of a column in place. -/
  | skipUnsupported
  deriving DecidableEq, Repr

/-- What is done about a difference in the default. -/
inductive DefaultStep
  | keep
  | alter (clause : Clause)
  /-- The clause that changes the column states the default again. -/
  | restated
  /-- Long texts have no defaults in the dialect. -/
  | unavailable
  /-- The dialect cannot change the default of a column in place. -/
  | skipUnsupported
  deriving DecidableEq, Repr

/-- **What is done about the differences between a live column and the wanted one.** -/
structure Review where
  changes : List Change
  gate : Gate
  shape : ShapeStep
  default : DefaultStep
  /-- The comment that is stated, if it differs. -/
  comment : Option String
  deriving DecidableEq, Repr

/-- The lengths of a live column and of the wanted one, if the second is shorter. -/
def shrinking? (live : LiveColumn) (c : Column) : Option (Nat × Nat) :=
  match live.length, c.type.length with
  | some now, some wanted => if wanted < now then some (now, wanted) else none
  | _, _ => none

def shapeStep (d : Dialect) (allowShrink : Bool) (live : LiveColumn) (c : Column) : ShapeStep :=
  if (typeChange? live c).isNone && (lengthChange? live c).isNone then .keep
  else
    let alter := match Clause.retype? d c with
      | some clause => ShapeStep.alter clause
      | none => .skipUnsupported
    match shrinking? live c with
    | some (now, wanted) => if allowShrink then alter else .skipShrink now wanted
    | none => alter

def ShapeStep.alters : ShapeStep → Bool
  | alter _ => true
  | keep | skipShrink _ _ | skipUnsupported => false

def defaultStep (d : Dialect) (shape : ShapeStep) (live : LiveColumn) (c : Column) :
    DefaultStep :=
  if (defaultChange? live c).isNone then .keep
  else if shape.alters && d.restatesDefault then .restated
  else match Clause.redefault? d c live.type with
    | some clause => .alter clause
    | none => if d = .sqlite then .skipUnsupported else .unavailable

/-- **The review of a live column.** -/
def review (d : Dialect) (o : Options) (live : LiveColumn) (c : Column) : Review :=
  let shape := shapeStep d o.allowShrink live c
  { changes := changes (o.statesComments d) live c
    gate := gate d live.type c.type.storage
    shape := shape
    default := defaultStep d shape live c
    comment := (commentChange? (o.statesComments d) live c).map (·.wanted) }

/-! ### Contributions to a plan -/

/-- **The contribution of fields to a plan.** -/
structure Draft where
  adds : List Clause := []
  modifies : List Clause := []
  defaults : List Clause := []
  comments : List Statement := []
  counters : Counters := 0
  deriving DecidableEq, Repr

namespace Draft

instance : Append Draft where
  append a b :=
    ⟨a.adds ++ b.adds, a.modifies ++ b.modifies, a.defaults ++ b.defaults,
      a.comments ++ b.comments, a.counters + b.counters⟩

theorem append_def (a b : Draft) :
    a ++ b = ⟨a.adds ++ b.adds, a.modifies ++ b.modifies, a.defaults ++ b.defaults,
      a.comments ++ b.comments, a.counters + b.counters⟩ := rfl

@[simp] theorem nil_append (a : Draft) : ({} : Draft) ++ a = a := by
  simp [append_def, Counters.zero_add]

theorem append_assoc (a b c : Draft) : a ++ b ++ c = a ++ (b ++ c) := by
  simp [append_def, List.append_assoc, Counters.add_assoc]

end Draft

def ShapeStep.clauses : ShapeStep → List Clause
  | alter clause => [clause]
  | keep | skipShrink _ _ | skipUnsupported => []

def DefaultStep.clauses : DefaultStep → List Clause
  | alter clause => [clause]
  | keep | restated | unavailable | skipUnsupported => []

def Review.draft (table key : String) (r : Review) : Draft :=
  { modifies := r.shape.clauses
    defaults := r.default.clauses
    comments := (r.comment.map (Statement.commentColumn table key)).toList
    counters := Counters.ofChanges r.changes }

def draftMissing (d : Dialect) (o : Options) (table : String) (c : Column) : Draft :=
  { adds := [.addColumn c]
    comments := if o.statesComments d then (labelStatement? table c).toList else []
    counters := { columnsAdded := 1 } }

/-- **The contribution of one field**, or the refusal of its change of type. -/
def draftField (d : Dialect) (o : Options) (table : String) (s : Snapshot) (f : Field) :
    Except TypeRefusal Draft :=
  let c := f.column d
  match s.columns[c.key]? with
  | none => .ok (draftMissing d o table c)
  | some live =>
      let r := review d o live c
      if r.gate = .refused then .error ⟨table, c.key, live.type, c.type.storage.keyword⟩
      else .ok (r.draft table c.key)

/-- **The contributions of a list of fields**, or the first refusal. -/
def draftFields (d : Dialect) (o : Options) (table : String) (s : Snapshot) :
    List Field → Except TypeRefusal Draft
  | [] => .ok {}
  | f :: fs =>
      match draftField d o table s f with
      | .error e => .error e
      | .ok a =>
          match draftFields d o table s fs with
          | .error e => .error e
          | .ok b => .ok (a ++ b)

/-! ### What is logged -/

def Change.entry (table key : String) (c : Change) : Entry :=
  ⟨.info, .planning, s!"{table}.{key} {c.aspect.label}: {c.live} -> {c.wanted}"⟩

def Gate.entries (table key liveType wanted : String) : Gate → Log
  | unchanged | refused => []
  | strings =>
      [⟨.info, .planning,
        s!"{table}.{key}: string/array type change {liveType} -> {wanted} allowed"⟩]
  | widening =>
      [⟨.info, .planning,
        s!"{table}.{key}: compatible type change {liveType} -> {wanted} allowed"⟩]

def ShapeStep.warnings (d : Dialect) (table key : String) : ShapeStep → Log
  | keep | alter _ => []
  | skipShrink now wanted =>
      [⟨.warn, .planning, s!"{table}.{key}: shrinking length from {now} to {wanted} skipped, " ++
        "set SYNC_ALLOW_SHRINK=1 to apply it"⟩]
  | skipUnsupported =>
      [⟨.warn, .planning,
        s!"{table}.{key}: {d.name} cannot alter an existing column in place, " ++
        "type/length change skipped"⟩]

def DefaultStep.warnings (table key : String) : DefaultStep → Log
  | keep | alter _ | restated | unavailable => []
  | skipUnsupported =>
      [⟨.warn, .planning, s!"{table}.{key}: sqlite cannot alter a column default in place, " ++
        "default change skipped"⟩]

/-- The entries of a reviewed column; a refused one is not planned any further. -/
def Review.log (d : Dialect) (table : String) (live : LiveColumn) (c : Column) (r : Review) :
    Log :=
  r.changes.map (·.entry table c.key) ++
    if r.gate = .refused then []
    else r.gate.entries table c.key live.type c.type.storage.keyword ++
      r.shape.warnings d table c.key ++ r.default.warnings table c.key

def fieldLog (d : Dialect) (o : Options) (table : String) (s : Snapshot) (f : Field) : Log :=
  let c := f.column d
  match s.columns[c.key]? with
  | none => [⟨.info, .planning, s!"{table}.{c.key}: new field ({f.rule.kind.label})"⟩]
  | some live => (review d o live c).log d table live c

/-- The entries of a list of fields, up to the first refusal. -/
def fieldsLog (d : Dialect) (o : Options) (table : String) (s : Snapshot) : List Field → Log
  | [] => []
  | f :: fs =>
      fieldLog d o table s f ++
        match draftField d o table s f with
        | .error _ => []
        | .ok _ => fieldsLog d o table s fs

/-! ### Indexes -/

/-- The index of a system column is missing, while the column is there. -/
def missesIndex (table : String) (s : Snapshot) (key : String) : Bool :=
  s.columns.contains key && !s.indexes.contains (indexName table key)

/-- What is done with the index of a wanted column, if anything is.  Only an index of exactly this
column is dropped. -/
def indexVerb? (table : String) (s : Snapshot) (c : Column) : Option IndexVerb :=
  if c.indexed && !s.indexes.contains (indexName table c.key) then some .create
  else if !c.indexed && Snapshot.coversOnly s.indexes (indexName table c.key) c.key then
    some .drop
  else none

namespace IndexDraft

def addSystem (table : String) (s : Snapshot) (a : IndexDraft) (key : String) : IndexDraft :=
  if missesIndex table s key then a.create table key else a

def addField (table : String) (s : Snapshot) (a : IndexDraft) (c : Column) : IndexDraft :=
  match indexVerb? table s c with
  | some .create => a.create table c.key
  | some .drop => a.drop table c.key
  | none => a

end IndexDraft

/-- **The contribution of indexes for a snapshot**: those of system columns first. -/
def draftIndexes (table : String) (s : Snapshot) (columns : List Column) : IndexDraft :=
  columns.foldl (IndexDraft.addField table s)
    (systemIndexKeys.foldl (IndexDraft.addSystem table s) {})

def systemIndexChanges (table : String) (s : Snapshot) : List IndexChange :=
  (systemIndexKeys.filter (missesIndex table s)).map (createIndexOf table)

def fieldIndexChange? (table : String) (s : Snapshot) (c : Column) : Option IndexChange :=
  (indexVerb? table s c).map (⟨·, indexName table c.key, c.key⟩)

def fieldIndexChanges (table : String) (s : Snapshot) (columns : List Column) :
    List IndexChange :=
  columns.filterMap (fieldIndexChange? table s)

def IndexChange.entry (table : String) (a : IndexChange) : Entry :=
  match a.verb with
  | .create => ⟨.info, .planning, s!"{table}.{a.key}: creating index {a.index}"⟩
  | .drop => ⟨.info, .planning, s!"{table}.{a.key}: dropping index {a.index}"⟩

def indexLog (table : String) (s : Snapshot) (columns : List Column) : Log :=
  (systemIndexChanges table s).map
    (fun a => ⟨.info, .planning, s!"{table}.{a.key}: creating system index"⟩) ++
  (fieldIndexChanges table s columns).map (·.entry table)

/-! ### The plan -/

/-- The plan of two contributions, that of the fields and that of the indexes. -/
def Draft.planned (table : String) (a : Draft) (indexes : IndexDraft) : Planned :=
  { plan := Plan.settle
      { table := table, adds := a.adds, modifies := a.modifies, defaults := a.defaults,
        indexes := indexes.changes, comments := a.comments }
    counters := a.counters + indexes.counters }

/-- **The plan for an existing table**, or the first refused change of type. -/
def planLiveTable (d : Dialect) (o : Options) (table : String) (fields : List Field)
    (s : Snapshot) : Except TypeRefusal Planned :=
  match draftFields d o table s fields with
  | .error e => .error e
  | .ok a => .ok (a.planned table (draftIndexes table s (fields.map (·.column d))))

def liveTableLog (d : Dialect) (o : Options) (table : String) (fields : List Field)
    (s : Snapshot) : Log :=
  fieldsLog d o table s fields ++
    match draftFields d o table s fields with
    | .error _ => []
    | .ok _ => indexLog table s (fields.map (·.column d))

end Conform
