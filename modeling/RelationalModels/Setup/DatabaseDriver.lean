import RelationalModels.Setup.DatabaseUrl

/-!
# Database drivers

The scheme of an address names a backend and a driver for it; without a driver the backend's own
choice is taken. `DatabaseDriver.ofScheme` looks it up among the known ones, of which some need a
package that is not installed.
-/

namespace RelationalModels

open Text

inductive DatabaseDriver where
  | aiosqlite
  | pysqlite
  | asyncpg
  | uninstalled (package : String)
  deriving DecidableEq, Inhabited

inductive DriverError where
  | severalDrivers
  | unknown (name : String)
  deriving DecidableEq

def DriverError.message : DriverError → String
  | severalDrivers => "too many values to unpack (expected 2)"
  | unknown name => "Can't load plugin: sqlalchemy.dialects:" ++ name

namespace DatabaseDriver

def forMysql : List (String × DatabaseDriver) :=
  [("base", uninstalled "MySQLdb"), ("mysqldb", uninstalled "MySQLdb"),
   ("aiomysql", uninstalled "aiomysql"), ("asyncmy", uninstalled "asyncmy"),
   ("cymysql", uninstalled "cymysql"), ("mariadbconnector", uninstalled "mariadb"),
   ("mysqlconnector", uninstalled "mysql"), ("pymysql", uninstalled "pymysql"),
   ("pyodbc", uninstalled "pyodbc")]

/-- The drivers of every backend; `base` is the one taken when none is named. -/
def byBackend : List (String × List (String × DatabaseDriver)) :=
  [("sqlite",
    [("base", pysqlite), ("pysqlite", pysqlite), ("aiosqlite", aiosqlite),
     ("pysqlcipher", uninstalled "pysqlcipher3")]),
   ("postgresql",
    [("base", uninstalled "psycopg"), ("psycopg", uninstalled "psycopg"),
     ("psycopg_async", uninstalled "psycopg"), ("asyncpg", asyncpg),
     ("psycopg2", uninstalled "psycopg2"), ("psycopg2cffi", uninstalled "psycopg2cffi"),
     ("pg8000", uninstalled "pg8000")]),
   ("mysql", forMysql),
   ("mariadb", forMysql),
   ("oracle",
    [("base", uninstalled "oracledb"), ("oracledb", uninstalled "oracledb"),
     ("oracledb_async", uninstalled "oracledb"), ("cx_oracle", uninstalled "cx_Oracle")]),
   ("mssql",
    [("base", uninstalled "pyodbc"), ("pyodbc", uninstalled "pyodbc"),
     ("aioodbc", uninstalled "aioodbc"), ("pymssql", uninstalled "pymssql")])]

def ofScheme (scheme : String) : Except DriverError DatabaseDriver :=
  let parts := (splitOnChar '+' scheme.toList).map String.ofList
  let find (backend driver : String) : Except DriverError DatabaseDriver :=
    match (byBackend.lookup backend).bind fun drivers => drivers.lookup driver with
    | some d => .ok d
    | none => .error (.unknown (".".intercalate parts))
  match parts with
  | [backend] => find backend "base"
  | [backend, driver] => find backend driver
  | _ => .error .severalDrivers

def name : DatabaseDriver → String
  | aiosqlite => "aiosqlite"
  | pysqlite => "pysqlite"
  | asyncpg => "asyncpg"
  | uninstalled package => package

def dialectName : DatabaseDriver → String
  | aiosqlite => "SQLiteDialect_aiosqlite"
  | pysqlite => "SQLiteDialect_pysqlite"
  | asyncpg => "PGDialect_asyncpg"
  | uninstalled package => package

def isAsync : DatabaseDriver → Bool
  | aiosqlite => true
  | asyncpg => true
  | _ => false

def commonOptions : List String :=
  ["paramstyle", "isolation_level", "dbapi", "implicit_returning", "supports_native_boolean",
   "max_identifier_length", "label_length", "insertmanyvalues_page_size", "use_insertmanyvalues",
   "compiler_linting", "server_side_cursors", "skip_autocommit_rollback", "json_serializer",
   "json_deserializer"]

def options : DatabaseDriver → List String
  | asyncpg => commonOptions ++ ["native_inet_types"]
  | _ => commonOptions ++ ["native_datetime", "_json_serializer", "_json_deserializer"]

end DatabaseDriver

end RelationalModels
