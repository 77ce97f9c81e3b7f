import LlmMax.BenchMetrics

/-! The configuration read from the environment variables, and the storage it selects. -/
namespace LlmMax.Config
open BenchMetrics

/-- The process environment. -/
abbrev Environ := String → Option String

/-- `str.isspace` of one character. -/
def isSpace (c : Char) : Bool :=
  let n := c.toNat
  (9 ≤ n && n ≤ 13) || (28 ≤ n && n ≤ 32) || n == 0x85 || n == 0xa0 || n == 0x1680 ||
    (0x2000 ≤ n && n ≤ 0x200a) || n == 0x2028 || n == 0x2029 || n == 0x202f || n == 0x205f ||
    n == 0x3000

/-- `str.strip`. -/
def strip (text : List Char) : List Char :=
  ((text.dropWhile isSpace).reverse.dropWhile isSpace).reverse

/-- Digits with single underscores between them; the flag tells whether a digit came last. -/
def digits (afterDigit : Bool) (value : ℕ) : List Char → Option ℕ
  | [] => if afterDigit then some value else none
  | c :: text =>
    if c.isDigit then digits true (10 * value + (c.toNat - 48)) text
    else if c = '_' ∧ afterDigit then digits false value text
    else none

def signed : List Char → Option ℤ
  | '-' :: text => (digits false 0 text).map fun n : ℕ => -(n : ℤ)
  | '+' :: text => (digits false 0 text).map fun n : ℕ => (n : ℤ)
  | text => (digits false 0 text).map fun n : ℕ => (n : ℤ)

/-- `int(text)`, for decimal digits of the ASCII range. -/
def int (text : String) : Except Exn ℤ :=
  match signed (strip text.toList) with
  | some n => .ok n
  | none => .error (.exception ("invalid literal for int() with base 10: " ++ text))

structure MySqlConfig where
  host : String
  port : ℤ
  database : String
  user : String
  password : String
  deriving DecidableEq

structure RedisConfig where
  host : String
  port : ℤ
  password : Option String
  deriving DecidableEq

/-- `str.lower`; letters outside the ASCII range match no name that is asked for. -/
def lower (text : String) : String := String.ofList (text.toList.map Char.toLower)

def storageBackend (environ : Environ) : String :=
  lower ((environ "LLM_MAX_STORAGE_BACKEND").getD "sqlite")

def mysqlConfig (environ : Environ) : Except Exn MySqlConfig := do
  let host := (environ "MYSQL_HOST").getD "localhost"
  let port ← int ((environ "MYSQL_PORT").getD "3306")
  let database := (environ "MYSQL_DATABASE").getD "llm_max"
  let user := (environ "MYSQL_USER").getD "llm_max"
  let password := (environ "MYSQL_PASSWORD").getD "changeme"
  return ⟨host, port, database, user, password⟩

def redisConfig (environ : Environ) : Except Exn RedisConfig := do
  let host := (environ "REDIS_HOST").getD "localhost"
  let port ← int ((environ "REDIS_PORT").getD "6379")
  let password := (environ "REDIS_PASSWORD").filter fun text => text != ""
  return ⟨host, port, password⟩

def redisEnabled (environ : Environ) : Bool :=
  lower ((environ "LLM_MAX_REDIS_ENABLED").getD "false") ∈ ["1", "true", "yes"]

/-- Which store `get_storage` builds. -/
inductive Backend
  | sqlite
  | fallback (primary : MySqlConfig)
  deriving DecidableEq

/-- `get_storage`: the MySQL settings are read while the store is built. -/
def getStorage (environ : Environ) : Except Exn Backend :=
  if storageBackend environ = "mysql" then do
    let primary ← mysqlConfig environ
    return .fallback primary
  else return .sqlite

example : redisEnabled (fun _ => some "TRUE") = true ∧ redisEnabled (fun _ => none) = false := by
  decide +kernel

end LlmMax.Config
