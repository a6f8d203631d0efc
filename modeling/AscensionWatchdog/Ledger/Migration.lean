import Mathlib.Data.List.Infix
import Mathlib.Data.List.Sort
import AscensionWatchdog.Foundation.Programs
import AscensionWatchdog.Foundation.Runs
import AscensionWatchdog.Foundation.Text
import AscensionWatchdog.Storage.Schema

/-!
# Migration of the operator ledger

The ledger of version 1 has a table whose constraint does not know `job_submit`. It is migrated
by a copy: a table with the constraint of version 2 is created beside it, gets all its rows, and
takes its place, in one transaction.

The sequence numbers of the table are assigned by `AUTOINCREMENT`: SQLite keeps the largest
number that it ever assigned to a table in `sqlite_sequence`, under the name of the table, and
assigns the next one. The entry goes away with the table, and the one of the copy only knows the
rows that are still there, so the migration carries the old number over.

The database is modelled as far as the migration reads and writes it. A transaction works on a
copy of what is durable, which the commit replaces; every statement may fail, and the machine
may stop at any of them. `migrated_receipts` is the statement for every ledger with any history
of assignments.
-/

namespace AscensionWatchdog.Migration

open Foundation

/-! ### The database -/

/-- A row of `operator_commands`, as SQLite stores it. -/
structure LedgerRow where
  sequence : Int
  requestId : String
  idempotencyKey : String
  principal : String
  capability : String
  command : String
  commandFingerprint : String
  desiredMode : Option String
  responseJson : String
  recordedAtMs : Int
  deriving DecidableEq, Repr

/-- A column in `PRAGMA table_info`. -/
structure ColumnInfo where
  name : String
  kind : String
  notNull : Int
  primaryKey : Int
  deriving DecidableEq, Repr

/-- A table of receipts, with the statement that created it. Its `sequence` is the number of the
row, assigned by `AUTOINCREMENT`. -/
structure OperatorTable where
  sql : List Char
  columns : List ColumnInfo
  rows : List LedgerRow
  deriving DecidableEq, Repr

structure LedgerDb where
  /-- `schema_version` and `operator_ledger_schema_version` of the metadata -/
  schemaVersion : Option String
  ledgerVersion : Option String
  operatorCommands : Option OperatorTable
  operatorCommandsV2 : Option OperatorTable
  sqliteSequence : List (String × Int)
  deriving DecidableEq, Repr

/-! ### Assigned numbers -/

/-- The largest number of the rows and the recorded one. -/
def largest (rows : List LedgerRow) (mark : Option Int) : Int :=
  (rows.map LedgerRow.sequence).foldl max (mark.getD 0)

/-- `sqlite_sequence` after the numbers up to `n` were used in a table. -/
def recordMark (name : String) (n : Int) : List (String × Int) → List (String × Int)
  | [] => [(name, n)]
  | (name', seq) :: rest =>
    if name' = name then (name', max seq n) :: rest else (name', seq) :: recordMark name n rest

/-- The recorded number of the ledger. -/
def LedgerDb.mark (db : LedgerDb) : Option Int :=
  db.sqliteSequence.lookup "operator_commands"

/-- The receipts. -/
def LedgerDb.rows (db : LedgerDb) : List LedgerRow :=
  (db.operatorCommands.map OperatorTable.rows).getD []

/-- The number that the next receipt gets; SQLite refuses the insert when there is none left. -/
def LedgerDb.nextSequence (db : LedgerDb) : Option Int :=
  if largest db.rows db.mark < 2 ^ 63 - 1 then some (largest db.rows db.mark + 1) else none

/-! ### The migration -/

/-- A migration works on `working` until the commit; each statement is answered. -/
structure MigrationState where
  durable : LedgerDb
  working : LedgerDb
  answers : List (Except WatchdogError Unit)

abbrev MigrationM (α : Type) : Type :=
  Program MigrationState WatchdogError α

/-- A statement, or another call of the system, that may fail. -/
def statement : MigrationM Unit := fun s =>
  match s.answers with
  | [] => (none, s)
  | .ok () :: rest => (some (.ok ()), { s with answers := rest })
  | .error e :: rest => (some (.error e), { s with answers := rest })

def check (c : Prop) [Decidable c] (e : WatchdogError) : MigrationM Unit :=
  .ofExcept (ensure c e)

/-- A statement that reads. -/
def query {α : Type} (f : LedgerDb → α) : MigrationM α := do
  statement
  .gets (f ·.working)

/-- A statement that writes. -/
def execute (f : LedgerDb → LedgerDb) : MigrationM Unit := do
  statement
  .modify fun s => { s with working := f s.working }

def beginTx : MigrationM Unit := do
  statement
  .modify fun s => { s with working := s.durable }

def commitTx : MigrationM Unit := do
  statement
  .modify fun s => { s with durable := s.working }

/-- `split_whitespace().collect().join(" ")`. -/
def joinWords (cs : List Char) : List Char :=
  [' '].intercalate ((cs.splitOnP isWhitespace).filter (· ≠ []))

def containsText (text : List Char) (part : String) : Bool :=
  text.tails.any part.toList.isPrefixOf

def expectedColumns : List ColumnInfo :=
  [⟨"sequence", "INTEGER", 0, 1⟩, ⟨"request_id", "TEXT", 1, 0⟩, ⟨"idempotency_key", "TEXT", 1, 0⟩,
    ⟨"principal", "TEXT", 1, 0⟩, ⟨"capability", "TEXT", 1, 0⟩, ⟨"command", "TEXT", 1, 0⟩,
    ⟨"command_fingerprint", "TEXT", 1, 0⟩, ⟨"desired_mode", "TEXT", 0, 0⟩,
    ⟨"response_json", "TEXT", 1, 0⟩, ⟨"recorded_at_ms", "INTEGER", 1, 0⟩]

def ColumnInfo.agrees (column expected : ColumnInfo) : Bool :=
  column.name == expected.name &&
    column.kind.toList.map Char.toLower == expected.kind.toList.map Char.toLower &&
    column.notNull == expected.notNull && column.primaryKey == expected.primaryKey

def requiredConstraints : List String :=
  ["request_id text not null unique", "idempotency_key text not null unique",
    "capability text not null check", "command text not null check",
    "response_json text not null"]

def validateOperatorTable (table : OperatorTable) : MigrationM Unit := do
  statement
  check (table.columns.length = expectedColumns.length ∧
      (table.columns.zip expectedColumns).all (fun pair => pair.1.agrees pair.2) = true)
    (.conflict "operator_commands table has an incompatible schema")
  statement
  let normalized := (joinWords table.sql).map Char.toLower
  check (∀ required ∈ requiredConstraints, containsText normalized required = true)
    (.conflict "operator_commands table constraints are incomplete")

def operatorTableSupportsJobSubmit (table : OperatorTable) : Bool :=
  containsText (table.sql.map Char.toLower) "'job_submit'"

/-- The statement that creates a table with the constraint of version 2, up to the command that
is new in it, and from there on. -/
def operatorTableHead (name : String) : String :=
  "CREATE TABLE " ++ name ++ " (
        sequence INTEGER PRIMARY KEY AUTOINCREMENT,
        request_id TEXT NOT NULL UNIQUE,
        idempotency_key TEXT NOT NULL UNIQUE,
        principal TEXT NOT NULL,
        capability TEXT NOT NULL CHECK(capability IN ('read','admin')),
        command TEXT NOT NULL CHECK(command IN (
            'status','jobs','attempt','release_inspect','start','pause',
            'resume','drain','stop','quarantine','retry','reconcile',
            'backup','restore','release_activate',"

def operatorTableTail : String :=
  "
        )),
        command_fingerprint TEXT NOT NULL,
        desired_mode TEXT CHECK(desired_mode IS NULL OR desired_mode IN " ++
    "('stopped','paused','running','draining')),
        response_json TEXT NOT NULL,
        recorded_at_ms INTEGER NOT NULL
    )"

def operatorTableV2Sql (name : String) : String :=
  operatorTableHead name ++ ("'job_submit'" ++ operatorTableTail)

def emptyTableV2 (name : String) : OperatorTable where
  sql := (operatorTableV2Sql name).toList
  columns := expectedColumns
  rows := []

def commandsV2 : List String :=
  ["status", "jobs", "attempt", "release_inspect", "start", "pause", "resume", "drain", "stop",
    "quarantine", "retry", "reconcile", "backup", "restore", "release_activate", "job_submit"]

/-- The checks of the constraint of version 2 on a row. -/
def LedgerRow.fitsV2 (row : LedgerRow) : Prop :=
  row.capability ∈ ["read", "admin"] ∧ row.command ∈ commandsV2 ∧
    ∀ mode ∈ row.desiredMode, mode ∈ ["stopped", "paused", "running", "draining"]

instance (row : LedgerRow) : Decidable row.fitsV2 :=
  inferInstanceAs (Decidable (_ ∧ _))

/-- The rows fit the constraint of version 2, with its unique columns. -/
def FitV2 (rows : List LedgerRow) : Prop :=
  (∀ row ∈ rows, row.fitsV2) ∧ (rows.map LedgerRow.sequence).Nodup ∧
    (rows.map LedgerRow.requestId).Nodup ∧ (rows.map LedgerRow.idempotencyKey).Nodup

instance (rows : List LedgerRow) : Decidable (FitV2 rows) :=
  inferInstanceAs (Decidable (_ ∧ _))

def orderBySequence (rows : List LedgerRow) : List LedgerRow :=
  rows.mergeSort fun row row' => row.sequence ≤ row'.sequence

/-- `COALESCE(MAX(sequence), 0)`. -/
def retainedMax (rows : List LedgerRow) : Int :=
  (rows.map LedgerRow.sequence).max?.getD 0

/-- The copy of the rows, which uses their numbers in the new table. -/
def LedgerDb.copyRows (db : LedgerDb) : LedgerDb :=
  let rows := orderBySequence db.rows
  { db with
    operatorCommandsV2 := db.operatorCommandsV2.map fun copy => { copy with rows := rows }
    sqliteSequence := recordMark "operator_commands_v2" (largest rows none) db.sqliteSequence }

/-- The old table goes, with its entry, and the copy takes its name, with its entry. -/
def LedgerDb.replaceTable (db : LedgerDb) : LedgerDb :=
  { db with
    operatorCommands := db.operatorCommandsV2.map fun copy =>
      { copy with sql := (operatorTableV2Sql "\x22operator_commands\x22").toList }
    operatorCommandsV2 := none
    sqliteSequence := (db.sqliteSequence.filter fun entry => entry.1 ≠ "operator_commands").map
      fun entry => if entry.1 = "operator_commands_v2" then ("operator_commands", entry.2)
        else entry }

/-- `UPDATE sqlite_sequence SET seq=MAX(seq, ?) WHERE name='operator_commands'`. -/
def LedgerDb.raiseMark (db : LedgerDb) (highWater : Int) : LedgerDb :=
  { db with
    sqliteSequence := db.sqliteSequence.map fun entry =>
      if entry.1 = "operator_commands" then (entry.1, max entry.2 highWater) else entry }

def migrateOperatorTableV1ToV2 : MigrationM Unit := do
  let highWater ← query LedgerDb.mark
  let retained ← query fun db => retainedMax db.rows
  check (¬ (highWater.getD 0 < retained ∨ ∃ value ∈ highWater, value < 0))
    (.conflict "operator sequence high-water mark is inconsistent with retained receipts")
  let copy ← .gets (·.working.operatorCommandsV2)
  check (copy = none) (.sqlite "table operator_commands_v2 already exists")
  execute fun db => { db with operatorCommandsV2 := some (emptyTableV2 "operator_commands_v2") }
  let rows ← .gets (·.working.rows)
  check (FitV2 rows) (.sqlite "constraint failed: operator_commands_v2")
  execute LedgerDb.copyRows
  execute LedgerDb.replaceTable
  statement
  match highWater with
  | none => pure ()
  | some highWater => do
    let updated ← .gets fun s =>
      s.working.sqliteSequence.countP fun entry => entry.1 = "operator_commands"
    execute fun db => db.raiseMark highWater
    if updated = 0 then
      execute fun db =>
        { db with sqliteSequence := db.sqliteSequence ++ [("operator_commands", highWater)] }
    else pure ()

/-- The version that the marker of the ledger says. -/
def readLedgerVersion : MigrationM (Option Int) := do
  let text ← query LedgerDb.ledgerVersion
  match text with
  | none => pure none
  | some text => do
    let version ← .ofExcept (orError (parseI64 text)
      (.conflict "operator ledger schema version metadata is invalid"))
    pure (some version)

/-- The checks of the marker against the table. -/
def checkLedgerVersion (version : Option Int) (tablePresent supportsJobSubmit : Bool) :
    MigrationM Unit := do
  check (∀ v ∈ version, 1 ≤ v ∧ v ≤ (operatorLedgerSchemaVersion : Int))
    (.unsupported s!"operator ledger schema {version.getD 0} requires an explicit migration")
  check (¬ (version = some (operatorLedgerSchemaVersion : Int) ∧ tablePresent = false))
    (.conflict "operator ledger schema marker exists but operator_commands is missing")
  check (¬ (version = some 1 ∧ tablePresent = false))
    (.conflict "operator ledger schema v1 marker exists but operator_commands is missing")
  check (¬ (version = some (operatorLedgerSchemaVersion : Int) ∧ supportsJobSubmit = false))
    (.conflict "operator ledger schema v2 marker is paired with a v1 command constraint")

def writeLedgerVersion : MigrationM Unit := do
  let text ← query LedgerDb.ledgerVersion
  match text with
  | some text =>
    check (text = "1" ∨ text = "2")
      (.unsupported s!"operator ledger schema {text} requires an explicit migration")
  | none => pure ()
  execute fun db => { db with ledgerVersion := some (toString operatorLedgerSchemaVersion) }

/-- The statements of the transaction. -/
def migrateTx (tablePresent supportsJobSubmit : Bool) : MigrationM Unit := do
  beginTx
  if tablePresent = false then
    execute fun db => { db with operatorCommands := some (emptyTableV2 "operator_commands") }
  else if supportsJobSubmit = false then migrateOperatorTableV1ToV2
  else statement
  writeLedgerVersion

/-- What is read and checked before the transaction: whether there is a table, and whether its
constraint knows `job_submit`. The lock, the path and the connection are the first three calls. -/
def inspectLedger : MigrationM (Bool × Bool) := do
  statement
  statement
  statement
  let schemaText ← query LedgerDb.schemaVersion
  let schemaText ← .ofExcept (orError schemaText
    (.conflict "watchdog schema_version metadata is missing"))
  let schema ← .ofExcept (orError (parseI64 schemaText)
    (.conflict "watchdog schema_version metadata is invalid"))
  check (schema = 2) (.unsupported s!"store schema {schema} requires an explicit migration")
  let table ← query LedgerDb.operatorCommands
  .forSome validateOperatorTable table
  let supportsJobSubmit ← query fun _ => table.any operatorTableSupportsJobSubmit
  let version ← readLedgerVersion
  checkLedgerVersion version table.isSome supportsJobSubmit
  pure (table.isSome, supportsJobSubmit)

def migrateOperatorLedgerForOwner : MigrationM Unit := do
  let (tablePresent, supportsJobSubmit) ← inspectLedger
  migrateTx tablePresent supportsJobSubmit
  commitTx

/-! ### Histories of a ledger -/

/-- A ledger, with all numbers that were ever assigned in it. -/
structure Ledger where
  db : LedgerDb
  assigned : List Int

inductive LedgerOp where
  /-- a receipt, which gets its number -/
  | insert (row : LedgerRow)
  /-- an insert that is ignored after it got a number -/
  | ignore
  | delete (sequence : Int)
  | respond (sequence : Int) (responseJson : String)

/-- The rows of the ledger change. -/
def LedgerDb.updateRows (db : LedgerDb) (f : List LedgerRow → List LedgerRow) : LedgerDb :=
  { db with operatorCommands := db.operatorCommands.map fun table =>
    { table with rows := f table.rows } }

/-- The number is used. -/
def LedgerDb.useNumber (db : LedgerDb) (n : Int) : LedgerDb :=
  { db with sqliteSequence := recordMark "operator_commands" n db.sqliteSequence }

def Ledger.step : LedgerOp → Ledger → Ledger
  | .insert row, ledger =>
    match ledger.db.nextSequence with
    | none => ledger
    | some n =>
      { db := (ledger.db.updateRows (· ++ [{ row with sequence := n }])).useNumber n
        assigned := ledger.assigned ++ [n] }
  | .ignore, ledger =>
    match ledger.db.nextSequence with
    | none => ledger
    | some n => { db := ledger.db.useNumber n, assigned := ledger.assigned ++ [n] }
  | .delete sequence, ledger =>
    { ledger with db := ledger.db.updateRows (·.filter (·.sequence ≠ sequence)) }
  | .respond sequence responseJson, ledger =>
    { ledger with db := ledger.db.updateRows (·.map fun row =>
      if row.sequence = sequence then { row with responseJson } else row) }

/-- The recorded number is at least every number that was assigned. -/
def Tracked (ledger : Ledger) : Prop :=
  ∀ n ∈ ledger.assigned, ∃ mark, ledger.db.mark = some mark ∧ n ≤ mark

theorem lookup_recordMark (name : String) (n : Int) (marks : List (String × Int)) :
    ∃ mark, (recordMark name n marks).lookup name = some mark ∧ n ≤ mark ∧
      ∀ old, marks.lookup name = some old → old ≤ mark := by
  induction marks with
  | nil => exact ⟨n, by simp [recordMark], le_refl n, fun _ h => by simp at h⟩
  | cons entry rest ih =>
    obtain ⟨name', seq⟩ := entry
    by_cases hname : name' = name
    · subst hname
      refine ⟨max seq n, by simp [recordMark], le_max_right _ _, fun old hold => ?_⟩
      have hseq : seq = old := by simpa [List.lookup_cons] using hold
      exact hseq ▸ le_max_left _ _
    · have hne : (name == name') = false := by simpa using fun h => hname h.symm
      simpa [recordMark, hname, List.lookup_cons, hne] using ih

theorem Tracked.useNumber {ledger : Ledger} {db : LedgerDb} {n : Int} (h : Tracked ledger)
    (hdb : db.sqliteSequence = ledger.db.sqliteSequence) :
    Tracked { db := db.useNumber n, assigned := ledger.assigned ++ [n] } := by
  obtain ⟨mark, hmark, hn, hold⟩ := lookup_recordMark "operator_commands" n db.sqliteSequence
  intro a ha
  refine ⟨mark, hmark, ?_⟩
  obtain ha | ha := List.mem_append.mp ha
  · obtain ⟨old, hlookup, hle⟩ := h a ha
    rw [LedgerDb.mark, ← hdb] at hlookup
    exact le_trans hle (hold old hlookup)
  · obtain rfl := List.mem_singleton.mp ha
    exact hn

theorem Tracked.step {ledger : Ledger} (op : LedgerOp) (h : Tracked ledger) :
    Tracked (ledger.step op) := by
  cases op with
  | insert row =>
    simp only [Ledger.step]
    split
    · exact h
    · exact h.useNumber rfl
  | ignore =>
    simp only [Ledger.step]
    split
    · exact h
    · exact h.useNumber rfl
  | delete sequence => exact h
  | respond sequence responseJson => exact h

/-- In every history the recorded number is at least every number that was assigned. -/
theorem tracked_run {db : LedgerDb} (ops : List LedgerOp) :
    Tracked (run Ledger.step { db := db, assigned := [] } ops) := by
  refine run_invariant (fun op ledger => Tracked.step op) ?_ ops
  exact fun n hn => absurd hn List.not_mem_nil

theorem le_foldl_max (l : List Int) : ∀ n : Int, n ≤ l.foldl max n := by
  induction l with
  | nil => exact fun n => le_refl n
  | cons a l ih => exact fun n => le_trans (le_max_left n a) (ih (max n a))

/-- The next number is above the recorded one. -/
theorem mark_lt_nextSequence {db : LedgerDb} {mark n : Int} (hmark : db.mark = some mark)
    (hn : db.nextSequence = some n) : mark < n := by
  have hle : mark ≤ largest db.rows db.mark := by
    rw [hmark]
    exact le_foldl_max _ _
  unfold LedgerDb.nextSequence at hn
  split at hn
  · cases hn
    omega
  · cases hn

/-! ### What the statements leave -/

section Statements

variable {α : Type} {s s' : MigrationState} {f : LedgerDb → LedgerDb}

/-- Nothing was written. -/
def Unwritten (s s' : MigrationState) : Prop :=
  s'.durable = s.durable ∧ s'.working = s.working

instance : Std.Refl Unwritten where
  refl _ := ⟨rfl, rfl⟩

instance : IsTrans MigrationState Unwritten where
  trans _ _ _ h h' := ⟨h'.1.trans h.1, h'.2.trans h.2⟩

/-- What is durable is as it was. -/
def SameDurable (s s' : MigrationState) : Prop :=
  s'.durable = s.durable

instance : Std.Refl SameDurable where
  refl _ := rfl

instance : IsTrans MigrationState SameDurable where
  trans _ _ _ h h' := h'.trans h

theorem statement_unwritten : Program.Keeps Unwritten statement := by
  intro s
  unfold statement
  split <;> exact ⟨rfl, rfl⟩

theorem statement_sameDurable : Program.Keeps SameDurable statement :=
  fun s => (statement_unwritten s).1

theorem query_unwritten {g : LedgerDb → α} : Program.Keeps Unwritten (query g) :=
  .bind statement_unwritten fun _ => .gets

theorem query_sameDurable {g : LedgerDb → α} : Program.Keeps SameDurable (query g) :=
  .bind statement_sameDurable fun _ => .gets

theorem execute_sameDurable : Program.Keeps SameDurable (execute f) :=
  .bind statement_sameDurable fun _ => .modify fun _ => rfl

theorem check_sameDurable {c : Prop} [Decidable c] {e : WatchdogError} :
    Program.Keeps SameDurable (check c e) :=
  .ofExcept

theorem query_eq_ok {g : LedgerDb → α} {a : α} (h : query g s = (some (.ok a), s')) :
    a = g s.working ∧ s'.working = s.working := by
  obtain ⟨_, t, hstatement, h⟩ := Program.bind_eq_ok.mp h
  obtain ⟨rfl, rfl⟩ := Program.gets_eq_ok.mp h
  have hsame := (statement_unwritten.of_run hstatement).2
  exact ⟨by rw [hsame], hsame⟩

theorem execute_eq_ok (h : execute f s = (some (.ok ()), s')) : s'.working = f s.working := by
  obtain ⟨_, t, hstatement, h⟩ := Program.bind_eq_ok.mp h
  obtain rfl := Program.modify_eq_ok.mp h
  rw [(statement_unwritten.of_run hstatement).2]

theorem check_eq_ok {c : Prop} [Decidable c] {e : WatchdogError}
    (h : check c e s = (some (.ok ()), s')) : c ∧ s = s' := by
  obtain ⟨hc, rfl⟩ := Program.ofExcept_eq_ok.mp h
  exact ⟨ensure_eq_ok.mp hc, rfl⟩

end Statements

/-! ### What is read before the transaction -/

theorem inspectLedger_unwritten : Program.Keeps Unwritten inspectLedger := by
  have hvalidate (table : OperatorTable) :
      Program.Keeps Unwritten (validateOperatorTable table) :=
    .bind statement_unwritten fun _ => .bind .ofExcept fun _ =>
      .bind statement_unwritten fun _ => .ofExcept
  have hversion : Program.Keeps Unwritten readLedgerVersion := by
    refine .bind query_unwritten fun text => ?_
    cases text with
    | none => exact .pure
    | some text => exact .bind .ofExcept fun _ => .pure
  have hcheck (version : Option Int) (present supports : Bool) :
      Program.Keeps Unwritten (checkLedgerVersion version present supports) :=
    .bind .ofExcept fun _ => .bind .ofExcept fun _ => .bind .ofExcept fun _ => .ofExcept
  exact .bind statement_unwritten fun _ => .bind statement_unwritten fun _ =>
    .bind statement_unwritten fun _ => .bind query_unwritten fun _ => .bind .ofExcept fun _ =>
    .bind .ofExcept fun _ => .bind .ofExcept fun _ => .bind query_unwritten fun table =>
    .bind (.forSome hvalidate) fun _ => .bind query_unwritten fun _ => .bind hversion fun _ =>
    .bind (hcheck _ _ _) fun _ => .pure

theorem inspectLedger_eq_ok {s s' : MigrationState} {present supports : Bool}
    (h : inspectLedger s = (some (.ok (present, supports)), s')) :
    present = s.working.operatorCommands.isSome ∧
      supports = s.working.operatorCommands.any operatorTableSupportsJobSubmit := by
  obtain ⟨_, s₁, hcall, h⟩ := Program.bind_eq_ok.mp h
  have hw₁ := (statement_unwritten.of_run hcall).2
  obtain ⟨_, s₂, hcall, h⟩ := Program.bind_eq_ok.mp h
  have hw₂ := (statement_unwritten.of_run hcall).2
  obtain ⟨_, s₃, hcall, h⟩ := Program.bind_eq_ok.mp h
  have hw₃ := (statement_unwritten.of_run hcall).2
  obtain ⟨_, s₄, hquery, h⟩ := Program.bind_eq_ok.mp h
  have hw₄ := (query_eq_ok hquery).2
  obtain ⟨_, _, hschema, h⟩ := Program.bind_eq_ok.mp h
  obtain ⟨-, rfl⟩ := Program.ofExcept_eq_ok.mp hschema
  obtain ⟨_, _, hschema, h⟩ := Program.bind_eq_ok.mp h
  obtain ⟨-, rfl⟩ := Program.ofExcept_eq_ok.mp hschema
  obtain ⟨_, _, hcheck, h⟩ := Program.bind_eq_ok.mp h
  obtain ⟨-, rfl⟩ := check_eq_ok hcheck
  obtain ⟨table, s₅, hquery, h⟩ := Program.bind_eq_ok.mp h
  obtain ⟨htable, -⟩ := query_eq_ok hquery
  rw [hw₄, hw₃, hw₂, hw₁] at htable
  obtain ⟨_, s₆, -, h⟩ := Program.bind_eq_ok.mp h
  obtain ⟨supports', s₇, hquery, h⟩ := Program.bind_eq_ok.mp h
  obtain ⟨hsupports, -⟩ := query_eq_ok hquery
  obtain ⟨_, s₈, -, h⟩ := Program.bind_eq_ok.mp h
  obtain ⟨_, s₉, -, h⟩ := Program.bind_eq_ok.mp h
  obtain ⟨hresult, -⟩ := Program.pure_eq_ok.mp h
  obtain ⟨rfl, rfl⟩ := Prod.mk.inj hresult
  exact ⟨by rw [htable], by rw [hsupports, htable]⟩

/-! ### Nothing is durable before the commit -/

theorem migrateOperatorTableV1ToV2_sameDurable :
    Program.Keeps SameDurable migrateOperatorTableV1ToV2 := by
  refine .bind query_sameDurable fun highWater => .bind query_sameDurable fun _ =>
    .bind check_sameDurable fun _ => .bind .gets fun _ => .bind check_sameDurable fun _ =>
    .bind execute_sameDurable fun _ => .bind .gets fun _ => .bind check_sameDurable fun _ =>
    .bind execute_sameDurable fun _ => .bind execute_sameDurable fun _ =>
    .bind statement_sameDurable fun _ => ?_
  cases highWater with
  | none => exact .pure
  | some highWater =>
    refine .bind .gets fun updated => .bind execute_sameDurable fun _ => ?_
    split
    · exact execute_sameDurable
    · exact .pure

theorem writeLedgerVersion_sameDurable : Program.Keeps SameDurable writeLedgerVersion := by
  refine .bind query_sameDurable fun text => ?_
  cases text with
  | none => exact execute_sameDurable
  | some text => exact .bind check_sameDurable fun _ => execute_sameDurable

theorem migrateTx_sameDurable {tablePresent supportsJobSubmit : Bool} :
    Program.Keeps SameDurable (migrateTx tablePresent supportsJobSubmit) := by
  refine .bind (.bind statement_sameDurable fun _ => .modify fun _ => rfl) fun _ => ?_
  split
  · exact .bind execute_sameDurable fun _ => writeLedgerVersion_sameDurable
  · split
    · exact .bind migrateOperatorTableV1ToV2_sameDurable fun _ => writeLedgerVersion_sameDurable
    · exact .bind statement_sameDurable fun _ => writeLedgerVersion_sameDurable

/-- A migration that does not succeed, also one that the machine interrupts, leaves the ledger
as it was. -/
theorem migrate_keepsUnlessOk :
    Program.KeepsUnlessOk SameDurable migrateOperatorLedgerForOwner :=
  .bind (fun s => (inspectLedger_unwritten s).1) fun (_, _) => .bind migrateTx_sameDurable fun _ =>
    .bind statement_sameDurable fun _ => .modify

/-! ### The copy -/

theorem lookup_raised {name : String} {n : Int} {marks : List (String × Int)}
    (h : marks.countP (fun entry => entry.1 = name) ≠ 0) :
    ∃ mark, (marks.map fun entry => if entry.1 = name then (entry.1, max entry.2 n)
      else entry).lookup name = some mark ∧ n ≤ mark := by
  induction marks with
  | nil => exact absurd rfl h
  | cons entry rest ih =>
    obtain ⟨name', seq⟩ := entry
    by_cases hname : name' = name
    · subst hname
      exact ⟨max seq n, by simp, le_max_right _ _⟩
    · have hne : (name == name') = false := by simpa using fun h => hname h.symm
      have hrest := ih (by simpa [List.countP_cons, hname] using h)
      simpa [hname, List.lookup_cons, hne] using hrest

theorem lookup_appended {name : String} {n : Int} {marks : List (String × Int)}
    (h : marks.countP (fun entry => entry.1 = name) = 0) :
    ((marks.map fun entry => if entry.1 = name then (entry.1, max entry.2 n) else entry) ++
      [(name, n)]).lookup name = some n := by
  induction marks with
  | nil => simp
  | cons entry rest ih =>
    obtain ⟨name', seq⟩ := entry
    have hname : name' ≠ name := by
      rintro rfl
      simp at h
    have hne : (name == name') = false := by simpa using fun h => hname h.symm
    have hrest := ih (by simpa [List.countP_cons, hname] using h)
    simpa [hname, List.lookup_cons, hne] using hrest

theorem containsText_append (before after : List Char) (part : String) :
    containsText (before ++ (part.toList ++ after)) part = true := by
  rw [containsText, List.any_eq_true]
  refine ⟨part.toList ++ after, ?_, ?_⟩
  · exact (List.mem_tails _ _).mpr (List.suffix_append before _)
  · exact List.isPrefixOf_iff_prefix.mpr (List.prefix_append _ _)

/-- A table of version 2 knows `job_submit`. -/
theorem supports_tableV2 (name : String) (columns : List ColumnInfo) (rows : List LedgerRow) :
    operatorTableSupportsJobSubmit { sql := (operatorTableV2Sql name).toList, columns, rows } =
      true := by
  have hlower : "'job_submit'".toList.map Char.toLower = "'job_submit'".toList := by decide +kernel
  rw [operatorTableSupportsJobSubmit, operatorTableV2Sql, String.toList_append,
    String.toList_append, List.map_append, List.map_append, hlower]
  exact containsText_append _ _ _

/-- A ledger after the copy: the same receipts under the new constraint, and a recorded number
that is not smaller. -/
structure Copied (db db' : LedgerDb) : Prop where
  table : ∃ table, db'.operatorCommands = some table ∧
    operatorTableSupportsJobSubmit table = true
  rows : db'.rows.Perm db.rows
  mark : ∀ old, db.mark = some old → ∃ mark, db'.mark = some mark ∧ old ≤ mark

theorem migrateOperatorTableV1ToV2_eq_ok {s s' : MigrationState}
    (h : migrateOperatorTableV1ToV2 s = (some (.ok ()), s')) : Copied s.working s'.working := by
  obtain ⟨highWater, s₁, hquery, h⟩ := Program.bind_eq_ok.mp h
  obtain ⟨hhigh, hw₁⟩ := query_eq_ok hquery
  obtain ⟨_, s₂, hquery, h⟩ := Program.bind_eq_ok.mp h
  obtain ⟨-, hw₂⟩ := query_eq_ok hquery
  obtain ⟨_, _, hcheck, h⟩ := Program.bind_eq_ok.mp h
  obtain ⟨-, rfl⟩ := check_eq_ok hcheck
  obtain ⟨_, _, hget, h⟩ := Program.bind_eq_ok.mp h
  obtain ⟨-, rfl⟩ := Program.gets_eq_ok.mp hget
  obtain ⟨_, _, hcheck, h⟩ := Program.bind_eq_ok.mp h
  obtain ⟨-, rfl⟩ := check_eq_ok hcheck
  obtain ⟨_, s₃, hcreate, h⟩ := Program.bind_eq_ok.mp h
  have hw₃ := execute_eq_ok hcreate
  obtain ⟨_, _, hget, h⟩ := Program.bind_eq_ok.mp h
  obtain ⟨-, rfl⟩ := Program.gets_eq_ok.mp hget
  obtain ⟨_, _, hcheck, h⟩ := Program.bind_eq_ok.mp h
  obtain ⟨-, rfl⟩ := check_eq_ok hcheck
  obtain ⟨_, s₄, hcopy, h⟩ := Program.bind_eq_ok.mp h
  have hw₄ := execute_eq_ok hcopy
  obtain ⟨_, s₅, hreplace, h⟩ := Program.bind_eq_ok.mp h
  have hw₅ := execute_eq_ok hreplace
  obtain ⟨_, s₆, hindex, h⟩ := Program.bind_eq_ok.mp h
  have hw₆ := (statement_unwritten.of_run hindex).2
  -- the table after the replacement, whatever becomes of the recorded number
  have htable : s₆.working.operatorCommands = some
      { sql := (operatorTableV2Sql "\x22operator_commands\x22").toList
        columns := expectedColumns
        rows := orderBySequence s.working.rows } := by
    rw [hw₆, hw₅, hw₄, hw₃, hw₂, hw₁]
    rfl
  have hcopied {db : LedgerDb} (hdb : db.operatorCommands = s₆.working.operatorCommands)
      (hmark : ∀ old, s.working.mark = some old → ∃ mark, db.mark = some mark ∧ old ≤ mark) :
      Copied s.working db := by
    rw [htable] at hdb
    refine ⟨⟨_, hdb, supports_tableV2 _ _ _⟩, ?_, hmark⟩
    rw [LedgerDb.rows, hdb]
    exact List.mergeSort_perm _ _
  cases highWater with
  | none =>
    obtain ⟨-, rfl⟩ := Program.pure_eq_ok.mp h
    refine hcopied rfl fun old hold => ?_
    rw [hold] at hhigh
    cases hhigh
  | some highWater =>
    obtain ⟨updated, _, hget, h⟩ := Program.bind_eq_ok.mp h
    obtain ⟨rfl, rfl⟩ := Program.gets_eq_ok.mp hget
    obtain ⟨_, s₇, hraise, h⟩ := Program.bind_eq_ok.mp h
    have hw₇ := execute_eq_ok hraise
    have hold {old : Int} (hold : s.working.mark = some old) : old = highWater := by
      rw [hold] at hhigh
      exact (Option.some.inj hhigh).symm
    split at h
    next hzero =>
      have hw' := execute_eq_ok h
      rw [hw', hw₇]
      refine hcopied rfl fun old hmark => ⟨highWater, ?_, (hold hmark).le⟩
      exact lookup_appended hzero
    next hpos =>
      obtain ⟨-, rfl⟩ := Program.pure_eq_ok.mp h
      rw [hw₇]
      obtain ⟨mark, hlookup, hle⟩ := lookup_raised (n := highWater) hpos
      exact hcopied rfl fun old hmark => ⟨mark, hlookup, hold hmark ▸ hle⟩

/-! ### The migrated ledger -/

theorem Copied.refl {db : LedgerDb} {table : OperatorTable}
    (htable : db.operatorCommands = some table)
    (hsupports : operatorTableSupportsJobSubmit table = true) : Copied db db :=
  ⟨⟨table, htable, hsupports⟩, .refl _, fun old hold => ⟨old, hold, le_refl old⟩⟩

theorem writeLedgerVersion_eq_ok {s s' : MigrationState}
    (h : writeLedgerVersion s = (some (.ok ()), s')) :
    s'.working = { s.working with ledgerVersion := some "2" } := by
  obtain ⟨text, s₁, hquery, h⟩ := Program.bind_eq_ok.mp h
  have hw₁ := (query_eq_ok hquery).2
  cases text with
  | none => rw [execute_eq_ok h, hw₁]; rfl
  | some text =>
    obtain ⟨_, _, hcheck, h⟩ := Program.bind_eq_ok.mp h
    obtain ⟨-, rfl⟩ := check_eq_ok hcheck
    rw [execute_eq_ok h, hw₁]
    rfl

/-- A migration of a ledger that has a table: it holds the same receipts under the constraint of
version 2, is marked as such, and records a number that is not smaller. -/
theorem migrate_eq_ok {s s' : MigrationState} (hstart : s.working = s.durable)
    (htable : s.durable.operatorCommands.isSome = true)
    (h : migrateOperatorLedgerForOwner s = (some (.ok ()), s')) :
    Copied s.durable s'.durable ∧ s'.durable.ledgerVersion = some "2" := by
  obtain ⟨⟨present, supports⟩, s₁, hinspect, h⟩ := Program.bind_eq_ok.mp h
  obtain ⟨hpresent, hsupports⟩ := inspectLedger_eq_ok hinspect
  have hs₁ := inspectLedger_unwritten.of_run hinspect
  obtain ⟨_, s₂, htx, hcommit⟩ := Program.bind_eq_ok.mp h
  obtain ⟨_, s₃, hcall, hcommit⟩ := Program.bind_eq_ok.mp hcommit
  obtain rfl := Program.modify_eq_ok.mp hcommit
  have hs₃ := (statement_unwritten.of_run hcall).2
  obtain ⟨_, s₄, hbegin, htx⟩ := Program.bind_eq_ok.mp htx
  obtain ⟨_, s₅, hcall, hbegin⟩ := Program.bind_eq_ok.mp hbegin
  obtain rfl := Program.modify_eq_ok.mp hbegin
  have hs₅ := (statement_unwritten.of_run hcall).1
  -- the transaction starts from what is durable
  have hdurable : s₅.durable = s.durable := hs₅.trans hs₁.1
  rw [hstart] at hpresent hsupports
  rw [if_neg (by rw [hpresent, htable]; simp)] at htx
  have hbody : ∃ t, Copied s.durable t.working ∧ writeLedgerVersion t = (some (.ok ()), s₂) := by
    split at htx
    next hv1 =>
      obtain ⟨_, t, hcopy, hwrite⟩ := Program.bind_eq_ok.mp htx
      have hcopied := migrateOperatorTableV1ToV2_eq_ok hcopy
      exact ⟨t, hdurable ▸ hcopied, hwrite⟩
    next hv2 =>
      obtain ⟨_, t, hcall, hwrite⟩ := Program.bind_eq_ok.mp htx
      have ht := (statement_unwritten.of_run hcall).2
      refine ⟨t, ?_, hwrite⟩
      obtain ⟨table, hsome⟩ := Option.isSome_iff_exists.mp htable
      rw [ht, hdurable]
      refine .refl hsome ?_
      rw [hsome] at hsupports
      rw [Bool.not_eq_false, hsupports] at hv2
      exact hv2
  obtain ⟨t, hcopied, hwrite⟩ := hbody
  have hw₂ := writeLedgerVersion_eq_ok hwrite
  simp only [hs₃, hw₂]
  exact ⟨⟨hcopied.table, hcopied.rows, hcopied.mark⟩, trivial⟩

/-- The connection of a migration, before it does anything. -/
def MigrationState.start (db : LedgerDb) (answers : List (Except WatchdogError Unit)) :
    MigrationState where
  durable := db
  working := db
  answers := answers

theorem step_isSome {ledger : Ledger} (op : LedgerOp)
    (h : ledger.db.operatorCommands.isSome = true) :
    (ledger.step op).db.operatorCommands.isSome = true := by
  cases op with
  | insert row =>
    simp only [Ledger.step]
    split
    · exact h
    · simpa [LedgerDb.updateRows, LedgerDb.useNumber] using h
  | ignore =>
    simp only [Ledger.step]
    split
    · exact h
    · exact h
  | delete sequence => simpa [Ledger.step, LedgerDb.updateRows] using h
  | respond sequence responseJson => simpa [Ledger.step, LedgerDb.updateRows] using h

/-- For every ledger, after any history of receipts, deleted ones among them: a migration that
succeeds keeps exactly the receipts, the next number is above every number ever assigned, and a
migration that does not succeed leaves the ledger as it was. -/
theorem migrated_receipts (db : LedgerDb) (hdb : db.operatorCommands.isSome = true)
    (ops : List LedgerOp) (answers : List (Except WatchdogError Unit)) :
    let ledger := run Ledger.step { db := db, assigned := [] } ops
    let after := migrateOperatorLedgerForOwner (.start ledger.db answers)
    (after.1 ≠ some (.ok ()) → after.2.durable = ledger.db) ∧
      (after.1 = some (.ok ()) →
        after.2.durable.rows.Perm ledger.db.rows ∧
        (∃ table, after.2.durable.operatorCommands = some table ∧
          operatorTableSupportsJobSubmit table = true) ∧
        after.2.durable.ledgerVersion = some "2" ∧
        ∀ n, after.2.durable.nextSequence = some n → ∀ a ∈ ledger.assigned, a < n) := by
  intro ledger after
  have htable : ledger.db.operatorCommands.isSome = true :=
    run_invariant (P := fun ledger : Ledger => ledger.db.operatorCommands.isSome = true)
      (fun op _ => step_isSome op) hdb ops
  constructor
  · intro hfail
    exact migrate_keepsUnlessOk (.start ledger.db answers) fun _ => hfail
  · intro hok
    obtain ⟨hcopied, hversion⟩ := migrate_eq_ok (s := .start ledger.db answers) rfl htable
      (Prod.ext hok rfl)
    refine ⟨hcopied.rows, hcopied.table, hversion, fun n hn a ha => ?_⟩
    obtain ⟨old, hold, hle⟩ := tracked_run ops a ha
    obtain ⟨mark, hmark, hle'⟩ := hcopied.mark old hold
    have hlt := mark_lt_nextSequence hmark hn
    omega

/-! ### A ledger whose last receipt is gone -/

/-- The statement of a table of version 1. -/
def sampleSql : List Char :=
  ["CREATE TABLE operator_commands (", "sequence INTEGER PRIMARY KEY AUTOINCREMENT, ",
    "request_id TEXT NOT NULL UNIQUE, ", "idempotency_key TEXT NOT NULL UNIQUE, ",
    "principal TEXT NOT NULL, ", "capability TEXT NOT NULL CHECK",
    "(capability IN ('read','admin')), ", "command TEXT NOT NULL CHECK",
    "(command IN ('start','stop')), ", "command_fingerprint TEXT NOT NULL, ",
    "desired_mode TEXT, ", "response_json TEXT NOT NULL, ",
    "recorded_at_ms INTEGER NOT NULL)"].flatMap String.toList

def sampleRow (key command : String) : LedgerRow where
  sequence := 0
  requestId := key
  idempotencyKey := key
  principal := "operator"
  capability := "admin"
  command := command
  commandFingerprint := "fingerprint"
  desiredMode := none
  responseJson := "\x7b\x7d"
  recordedAtMs := 1

def sampleDb : LedgerDb where
  schemaVersion := some "2"
  ledgerVersion := some "1"
  operatorCommands := some { sql := sampleSql, columns := expectedColumns, rows := [] }
  operatorCommandsV2 := none
  sqliteSequence := [("audit", 7)]

/-- Two receipts get the numbers 1 and 2, and the second one is deleted. -/
def sampleLedger : Ledger :=
  run Ledger.step { db := sampleDb, assigned := [] }
    [.insert (sampleRow "a" "start"), .insert (sampleRow "b" "stop"), .delete 2]

def sampleMigration : Option (Except WatchdogError Unit) × MigrationState :=
  migrateOperatorLedgerForOwner (.start sampleLedger.db (List.replicate 24 (.ok ())))

theorem sampleMigration_evaluated :
    sampleLedger.assigned = [1, 2] ∧ sampleLedger.db.rows.map LedgerRow.sequence = [1] ∧
      sampleMigration.1.bind Except.toOption = some () ∧
      sampleMigration.2.durable.nextSequence = some 3 := by
  decide +kernel

theorem migrated_receipts_deleted :
    sampleLedger.assigned = [1, 2] ∧ sampleMigration.1 = some (.ok ()) ∧
      sampleMigration.2.durable.rows.Perm sampleLedger.db.rows ∧
      sampleMigration.2.durable.nextSequence = some 3 ∧ ∀ a ∈ sampleLedger.assigned, a < 3 := by
  obtain ⟨hassigned, -, hanswer, hnext⟩ := sampleMigration_evaluated
  have hok : sampleMigration.1 = some (.ok ()) := by
    obtain ⟨result, hresult, hok⟩ := Option.bind_eq_some_iff.mp hanswer
    cases result with
    | error e => cases hok
    | ok u => exact hresult
  have hmigrated := (migrated_receipts sampleDb rfl
    [.insert (sampleRow "a" "start"), .insert (sampleRow "b" "stop"), .delete 2]
    (List.replicate 24 (.ok ()))).2
  simp only [← sampleLedger.eq_1, ← sampleMigration.eq_1] at hmigrated
  obtain ⟨hrows, -, -, hlt⟩ := hmigrated hok
  exact ⟨hassigned, hok, hrows, hnext, hlt 3 hnext⟩

end AscensionWatchdog.Migration
