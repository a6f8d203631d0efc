import AscensionWatchdog.Foundation.Checked
import AscensionWatchdog.Foundation.Json

/-!
# Values of the watchdog store and the checks on them

The durable store keeps text and integers, and every routine that reads or writes it first
checks what it is given: names are bounded and free of control characters, digests are 64
lowercase hexadecimal characters, identifiers of the worker protocol are canonical UUIDs of
version 4, and timestamps fit the signed 64-bit integers of SQLite. This file has those checks,
with the error each of them reports, and the enumerations that the store writes as text.

Code of other packages enters through `Crates`: SHA-256 as a function to 32 bytes and the JSON
parser as a partial function on text. The parser carries what its documentation promises and
the store relies on: it reads the empty object, and it accepts the compact text of every value
of bounded nesting. Everything else about JSON — what is written for a value — is computed.
-/

namespace AscensionWatchdog

open Foundation Foundation.Json

/-- The classified errors of the watchdog, each with its text. The variants that wrap an error
of another layer (`sqlite`, `json`) carry that layer's text. -/
inductive WatchdogError where
  | missingState (path : String)
  | busy (path : String)
  | invalidInput (message : String)
  | notFound (name : String)
  | conflict (message : String)
  | unauthorized (message : String)
  | identityMismatch (message : String)
  | timeout (message : String)
  | unsupported (message : String)
  | sqlite (message : String)
  | io (message : String)
  | json (message : String)
  deriving DecidableEq, Repr

/-- The text of an error. -/
def WatchdogError.display : WatchdogError → String
  | .missingState path => s!"watchdog state is not initialized: {path}"
  | .busy path => s!"watchdog store is already owned: {path}"
  | .invalidInput message => s!"invalid input: {message}"
  | .notFound name => s!"not found: {name}"
  | .conflict message => s!"conflict: {message}"
  | .unauthorized message => s!"unauthorized: {message}"
  | .identityMismatch message => s!"process identity mismatch: {message}"
  | .timeout message => s!"timed out: {message}"
  | .unsupported message => s!"unsupported: {message}"
  | .sqlite message => s!"sqlite error: {message}"
  | .io message => s!"io error: {message}"
  | .json message => s!"json error: {message}"

/-- The result type of the watchdog library. -/
abbrev Result (α : Type) : Type :=
  Except WatchdogError α

/-- A check made while a row is decoded: its error is reported through SQLite. -/
def toSqliteError {α : Type} (x : Result α) : Result α :=
  x.mapError fun error => .sqlite error.display

@[simp]
theorem toSqliteError_eq_ok {α : Type} {x : Result α} {a : α} :
    toSqliteError x = .ok a ↔ x = .ok a :=
  mapError_eq_ok

/-! ### Code of other packages -/

/-- The decimal lexeme of an unsigned 64-bit integer. -/
def isU64Lexeme (lexeme : String) : Bool :=
  let value := Nat.ofDigitChars 10 lexeme.toList 0
  value < 2 ^ 64 && lexeme == toString value

theorem isU64Lexeme_toString {n : Nat} (hn : n < 2 ^ 64) : isU64Lexeme (toString n) = true := by
  have htext : (toString n).toList = Nat.toDigits 10 n := Nat.toList_repr
  simp only [isU64Lexeme, htext, Nat.ofDigitChars_ten_toDigits, hn, BEq.rfl, decide_true,
    Bool.and_self]

mutual

/-- A value whose numbers are unsigned 64-bit integers written in decimal. -/
def plainValue : Value → Bool
  | .number lexeme => isU64Lexeme lexeme
  | .array items => plainItems items
  | .object fields => plainFields fields
  | _ => true

/-- Elementwise `plainValue`. -/
def plainItems : Items → Bool
  | .nil => true
  | .cons v rest => plainValue v && plainItems rest

/-- Fieldwise `plainValue`. -/
def plainFields : Fields → Bool
  | .nil => true
  | .cons _ v rest => plainValue v && plainFields rest

end

/-- The code of other packages that the store calls: `Sha256::digest` of the `sha2` crate and
`serde_json::from_str` at type `Value`. The two laws are what the store relies on: the parser
reads the empty object, and it accepts the compact text of every plain value that is not nested
deeper than its recursion limit. -/
structure Crates where
  sha256 : ByteArray → Vector UInt8 32
  fromStr : String → Option Value
  fromStr_empty : fromStr "\x7b\x7d" = some (Value.ofFields [])
  fromStr_render : ∀ v : Value, plainValue v = true → v.depth ≤ 127 →
    (fromStr v.render).isSome = true

/-- A parser that reads every text as the empty object, for instances that read none. -/
def Crates.constant (sha256 : ByteArray → Vector UInt8 32) : Crates where
  sha256
  fromStr _ := some (Value.ofFields [])
  fromStr_empty := rfl
  fromStr_render _ _ _ := rfl

/-- The two lowercase hexadecimal digits of a byte. -/
def byteHex (b : UInt8) : List Char :=
  [hexDigitChar (b.toNat / 16), hexDigitChar (b.toNat % 16)]

/-- The SHA-256 digest of a text in lowercase hexadecimal. -/
def hexDigest (crates : Crates) (text : String) : String :=
  String.ofList ((crates.sha256 text.toUTF8).toList.flatMap byteHex)

/-! ### Bounded text -/

/-- Unicode control characters (general category `Cc`). -/
def isControl (c : Char) : Bool :=
  c.toNat < 0x20 || (0x7f ≤ c.toNat && c.toNat ≤ 0x9f)

def containsNul (value : String) : Bool :=
  value.toList.any fun c => c.toNat == 0

/-- Non-empty, at most `maxBytes` bytes long, and free of control characters. -/
def isName (value : String) (maxBytes : Nat) : Bool :=
  !value.isEmpty && value.utf8ByteSize ≤ maxBytes && !containsNul value &&
    !value.toList.any isControl

def validateName (value name : String) (maxBytes : Nat) : Result Unit :=
  ensure (isName value maxBytes)
    (.invalidInput s!"{name} must be non-empty, bounded, and free of control characters")

theorem validateName_eq_ok {value name : String} {maxBytes : Nat} {u : Unit} :
    validateName value name maxBytes = .ok u ↔ isName value maxBytes = true :=
  ensure_eq_ok

def validateNameSqlite (value field : String) (bound : Nat) : Result Unit :=
  ensure (!value.isEmpty && value.utf8ByteSize ≤ bound && !value.toList.any isControl)
    (.sqlite s!"{field} is invalid or exceeds its bound")

def validateMetadataIdentifier (key value : String) : Result Unit :=
  ensure (isName value 128) (.conflict s!"{key} metadata is invalid")

def maxAuditDetailBytes : Nat :=
  16 * 1024

def validateDetail (value name : String) : Result Unit :=
  ensure (value.utf8ByteSize ≤ maxAuditDetailBytes && !containsNul value)
    (.invalidInput s!"{name} exceeds its size bound")

theorem validateDetail_eq_ok {value name : String} {u : Unit} :
    validateDetail value name = .ok u ↔
      value.utf8ByteSize ≤ maxAuditDetailBytes ∧ containsNul value = false := by
  simp [validateDetail]

/-! ### Digests and identifiers -/

def isLowerHex (c : Char) : Bool :=
  c.isDigit || ('a' ≤ c && c ≤ 'f')

/-- 64 lowercase hexadecimal characters. -/
def isDigest (value : String) : Bool :=
  value.utf8ByteSize == 64 && value.toList.all isLowerHex

def validateDigest (value : String) : Except String Unit :=
  ensure (isDigest value) "digest must be 64 lowercase hexadecimal characters"

/-- `validate_digest` under a caller's own error: the message is appended to `label`. -/
def validateDigestAs (error : String → WatchdogError) (label value : String) : Result Unit :=
  (validateDigest value).mapError fun message => error s!"{label}: {message}"

/-- The value of a hexadecimal digit of either case. -/
def hexVal? (c : Char) : Option Nat :=
  if c.isDigit then some (c.toNat - 48)
  else if 'a' ≤ c && c ≤ 'f' then some (c.toNat - 87)
  else if 'A' ≤ c && c ≤ 'F' then some (c.toNat - 55)
  else none

/-- The hexadecimal digits of a hyphenated UUID, without its hyphens; `none` when a hyphen is
missing. -/
def unhyphenate (cs : List Char) : Option (List Char) :=
  if cs.length = 36 ∧ cs[8]? = some '-' ∧ cs[13]? = some '-' ∧ cs[18]? = some '-' ∧
      cs[23]? = some '-' then
    some (cs.take 8 ++ (cs.drop 9).take 4 ++ (cs.drop 14).take 4 ++ (cs.drop 19).take 4 ++
      cs.drop 24)
  else none

/-- `Uuid::parse_str`: the 32 hexadecimal digits of a UUID in simple, hyphenated, braced or URN
form. -/
def Uuid.parseStr (value : String) : Option (List Nat) :=
  let cs := value.toList
  let digits :=
    if cs.length = 32 then some cs
    else if cs.length = 36 then unhyphenate cs
    else if cs.length = 38 ∧ cs.head? = some '\x7b' ∧ cs.getLast? = some '\x7d' then
      unhyphenate ((cs.drop 1).take 36)
    else if cs.length = 45 ∧ cs.take 9 = "urn:uuid:".toList then unhyphenate (cs.drop 9)
    else none
  digits.bind fun ds => ds.mapM hexVal?

/-- The hyphenated lowercase text of a parsed UUID. -/
def Uuid.toText (digits : List Nat) : String :=
  let hs := digits.map hexDigitChar
  String.ofList (hs.take 8 ++ '-' :: ((hs.drop 8).take 4 ++ '-' :: ((hs.drop 12).take 4 ++
    '-' :: ((hs.drop 16).take 4 ++ '-' :: hs.drop 20))))

/-- The version digit of a parsed UUID. -/
def Uuid.versionNum (digits : List Nat) : Nat :=
  digits[12]?.getD 0

/-- The variant bits of a parsed UUID are those of RFC 4122. -/
def Uuid.isRfc4122 (digits : List Nat) : Bool :=
  (digits[16]?.getD 0) / 4 == 2

/-- The text of a UUID of version 4 in canonical lowercase hyphenated form. -/
def isCanonicalUuid4 (value : String) : Bool :=
  match Uuid.parseStr value with
  | none => false
  | some digits =>
    Uuid.versionNum digits == 4 && Uuid.isRfc4122 digits && Uuid.toText digits == value

/-- A generated UUID: `Uuid::new_v4().to_string()`. -/
structure UuidV4 where
  text : String
  canonical : isCanonicalUuid4 text = true
  deriving DecidableEq, Repr

/-! ### SQLite integers -/

/-- A timestamp or counter as a signed 64-bit column. -/
def sqliteTimestamp (value : Nat) : Result Nat := do
  ensure (value < 2 ^ 63) (.invalidInput "timestamp exceeds SQLite integer range")
  return value

/-- A column read back as an unsigned 32-bit integer. -/
def sqliteU32 (value : Nat) (field : String) : Result Nat := do
  ensure (value < 2 ^ 32) (.sqlite s!"{field} contains a negative or out-of-range integer")
  return value

theorem sqliteTimestamp_eq_ok {value v : Nat} :
    sqliteTimestamp value = .ok v ↔ value < 2 ^ 63 ∧ value = v := by
  rw [sqliteTimestamp, ensure_bind_eq_ok, pure_eq_ok]

theorem sqliteU32_eq_ok {value v : Nat} {field : String} :
    sqliteU32 value field = .ok v ↔ value < 2 ^ 32 ∧ value = v := by
  rw [sqliteU32, ensure_bind_eq_ok, pure_eq_ok]

/-! ### Desired mode -/

/-- The mode an operator wants the deployment to be in. -/
inductive DesiredMode where
  | stopped
  | paused
  | running
  | draining
  deriving DecidableEq, Repr

def modeAsStr : DesiredMode → String
  | .stopped => "stopped"
  | .paused => "paused"
  | .running => "running"
  | .draining => "draining"

def parseMode (value : String) : Result DesiredMode :=
  if value = "stopped" then .ok .stopped
  else if value = "paused" then .ok .paused
  else if value = "running" then .ok .running
  else if value = "draining" then .ok .draining
  else .error (.conflict s!"unknown desired mode {value}")

/-- Every mode is read back from the text it is written as. -/
@[simp]
theorem parseMode_modeAsStr (mode : DesiredMode) : parseMode (modeAsStr mode) = .ok mode := by
  cases mode <;> rfl

end AscensionWatchdog
