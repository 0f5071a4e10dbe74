import Checkup.Binding.Basic
import Checkup.Script
import Checkup.Text.Quoted

/-!
# The check of a relational database

The script opens a connection, creates a table, inserts a record, finds it again and deletes it. The
first step that fails ends the script; a connection that was opened is closed in any case, and an error
of closing it is no step.

**Names.** The settings are the program's `SqlSettings`, `script` and `exercise` are `run` and `exercise`
of its `SqlProbe`.
-/
namespace Checkup.Database

/-- The two dialects differ in the name of the column type and in the placeholder of a parameter. -/
inductive Dialect where
  | postgres
  | mySql
  deriving DecidableEq, Repr

namespace Dialect

def text : Dialect → String
  | postgres => "Postgres"
  | mySql => "MySql"

def placeholder : Dialect → String
  | postgres => "$1"
  | mySql => "?"

def columnType : Dialect → String
  | postgres => "integer"
  | mySql => "INT"

def createTable (d : Dialect) : String :=
  s!"CREATE TABLE IF NOT EXISTS deepthought(theanswertoeverything {d.columnType})"

def insert (d : Dialect) : String :=
  s!"INSERT INTO deepthought(theanswertoeverything) VALUES({d.placeholder})"

def selectCount (d : Dialect) : String :=
  s!"SELECT COUNT(*) FROM deepthought WHERE theanswertoeverything = {d.placeholder}"

def delete (d : Dialect) : String :=
  s!"DELETE FROM deepthought WHERE theanswertoeverything = {d.placeholder}"

end Dialect

/-- The value that is inserted. -/
def answer : Int := 42

inductive Target where
  | uri (uri : String)
  | parts (host : String) (port : UInt16) (database username password : String)
  deriving DecidableEq, Repr

structure Settings where
  dialect : Dialect
  target : Target
  deriving DecidableEq, Repr

namespace Settings

/-- A Postgres binding has a connection URI. -/
def postgres (b : Binding) : Except BindingError Settings := do
  return ⟨.postgres, .uri (← b.text "uri")⟩

/-- A MySQL binding has the parts of an address and an account. -/
def mySql (b : Binding) : Except BindingError Settings := do
  let host ← b.text "hostname"
  let port ← b.port "port"
  let database ← b.text "name"
  let username ← b.text "username"
  let password ← b.text "password"
  return ⟨.mySql, .parts host port database username password⟩

/-- A text that tells no secret. -/
def summary (s : Settings) : String :=
  let target := match s.target with
    | .uri _ => "Uri(<redacted>)"
    | .parts host port database _ _ =>
      Text.summary "Parts" [("host", Text.quoted host), ("port", Text.natText port.toNat),
        ("database", Text.quoted database)] false
  Text.summary "SqlSettings" [("dialect", s.dialect.text), ("target", target)] true

end Settings

inductive Call where
  | connect (dialect : Dialect)
  | execute (statement : String) (parameters : List Int)
  | count (query : String) (parameters : List Int)
  | close
  deriving DecidableEq, Repr

/-- How a database replies: to a connection attempt, to the `n`-th statement with the number of rows it
touched, to the query, and to closing. -/
structure Service where
  connect : Reply Unit
  execute : Nat → Reply Nat
  count : Reply Int
  close : Reply Unit

def connectTimeout : Span := Span.ofSeconds 30

def connectTimedOut : Fault := .context "Timed out opening connection" .deadlineElapsed

/-- At least one record must be found. -/
def atLeastOne : Except Fault Int → Except Fault Int
  | .ok rows => if rows < 1 then .error (.message "Inserted record not found") else .ok rows
  | .error e => .error e

/-- The steps on an open connection. -/
def exercise (d : Dialect) (db : Service) : Script Call Unit := do
  let _ ← Script.step "Create table" (Timed.call (.execute d.createTable []) (db.execute 0))
  let _ ← Script.step "Insert record" (Timed.call (.execute d.insert [answer]) (db.execute 1))
  let _ ← Script.step "Select records"
    (atLeastOne <$> Timed.call (.count d.selectCount [answer]) db.count)
  let _ ← Script.step "Delete record" (Timed.call (.execute d.delete [answer]) (db.execute 2))

def script (d : Dialect) (limit : Span) (db : Service) : Script Call Unit := do
  Script.step "Open connection"
    (Timed.connecting limit connectTimedOut (Timed.call (.connect d) db.connect))
  let _ ← Script.attempt (exercise d db)
  let _ ← Script.act (Timed.call .close db.close)

def probe (key name : String) (d : Dialect) (limit : Span) (db : Service) : Probe Call :=
  .deaf key name ((script d limit db).node key name)

end Checkup.Database
