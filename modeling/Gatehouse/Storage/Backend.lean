import Gatehouse.Encoding.Query
import Gatehouse.Storage.Fault

/-!
# Kinds of databases and their drivers

The kind of a database may name a driver behind a plus sign. Only the drivers that come
along, for databases in files, can be used; the others are known by name but are not
there.
-/

namespace Gatehouse.Backend

/-- The drivers of databases in files that come along; the usual one is the base. -/
def ownDrivers : List String := ["base", "pysqlite"]

/-- What databases in files have names for beside their drivers. -/
def ownNames : List String :=
  ["dialect", "dml", "json", "insert", "Insert", "BLOB", "BOOLEAN", "CHAR", "DATE", "DATETIME",
    "DECIMAL", "FLOAT", "INTEGER", "JSON", "NUMERIC", "REAL", "SMALLINT", "TEXT", "TIME",
    "TIMESTAMP", "VARCHAR"]

/-- The drivers that are not there, by kind of database. -/
def absentDrivers : List (String × List String) :=
  let mysql := ["base", "aiomysql", "asyncmy", "cymysql", "mariadbconnector", "mysqlconnector",
    "mysqldb", "pymysql", "pyodbc"]
  [("sqlite", ["aiosqlite", "pysqlcipher"]),
    ("postgresql", ["base", "asyncpg", "pg8000", "psycopg", "psycopg_async", "psycopg2",
      "psycopg2cffi"]),
    ("mysql", mysql), ("mariadb", mysql),
    ("oracle", ["base", "cx_oracle", "oracledb", "oracledb_async"]),
    ("mssql", ["base", "aioodbc", "pymssql", "pyodbc"])]

/-- Whether the driver of a kind of database can be used. -/
def checkDriver (family driver : String) : Except StorageFault Unit :=
  if family = "sqlite" && ownDrivers.contains driver then .ok ()
  else match absentDrivers.lookup family with
    | none => .error .unknownKind
    | some drivers =>
      if drivers.contains driver then .error .missingDriver
      else if driver = "dialect" || (family = "sqlite" && ownNames.contains driver) then
        .error .noDriver
      else .error .unknownKind

/-- Whether a database of a kind can be used. -/
def check (kind : String) : Except StorageFault Unit :=
  match (Query.split '+' kind.toList).map String.ofList with
  | [family] => checkDriver family "base"
  | [family, driver] => checkDriver family driver
  | _ => .error .unreadable

end Gatehouse.Backend
