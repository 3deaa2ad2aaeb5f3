import Lodging.Decimal.Text
import Lodging.Document.Basic
import Lodging.Text.Blank

/-! # Settings

What the program is told by its environment. Two settings must be there, the
others have defaults; they are read in a fixed order, and the first fault is the
one reported. Numbers may have blanks around them.
-/

namespace Lodging

/-- A look-up of the variables of an environment. -/
abbrev Environment := String → Option String

structure Settings where
  databaseUrl : String
  host : String
  port : Nat
  /-- The secret that seals tokens. -/
  secret : String
  maxConnections : Nat
  /-- The seconds after which a connection is given up. -/
  acquireTimeout : Nat
  taxRate : Decimal
  maxStayNights : Nat
deriving DecidableEq, Repr

namespace Settings

inductive Reason where
  | emptyNumber
  | invalidDigit
  | numberTooLarge
  | badDecimal (error : Decimal.TextError)
  | negative
  | zeroNights
deriving DecidableEq, Repr

def Reason.message : Reason → String
  | .emptyNumber => "cannot parse integer from empty string"
  | .invalidDigit => "invalid digit found in string"
  | .numberTooLarge => "number too large to fit in target type"
  | .badDecimal error => error.message
  | .negative => "must not be negative"
  | .zeroNights => "must be at least 1"

inductive Fault where
  /-- A variable is missing or blank. -/
  | missing (name : String)
  /-- The value of a variable is refused. -/
  | invalid (name value : String) (reason : Reason)
deriving DecidableEq, Repr

def Fault.message : Fault → String
  | .missing name => s!"{name} must be set in environment"
  | .invalid name value reason => s!"{name} has invalid value '{value}': {reason.message}"

/-- Reads digits as a number of at most `most`, continuing a value. The first
character that is no digit, or the first digit that leads beyond the limit,
decides. -/
def readDigits (most value : Nat) : List Char → Except Reason Nat
  | [] => .ok value
  | c :: rest =>
      match Text.digitValue? c with
      | none => .error .invalidDigit
      | some digit =>
          let next := 10 * value + digit
          if most < next then .error .numberTooLarge else readDigits most next rest

/-- Reads a natural number of at most `most`. -/
def readNumber (most : Nat) (chars : List Char) : Except Reason Nat :=
  match chars with
  | [] => .error .emptyNumber
  | ['+'] => .error .invalidDigit
  | '+' :: digits => readDigits most 0 digits
  | digits => readDigits most 0 digits

def required (environment : Environment) (name : String) : Except Fault String :=
  match environment name with
  | some value => if Text.isBlankText value then .error (.missing name) else .ok value
  | none => .error (.missing name)

def number (environment : Environment) (name : String) (default most : Nat) :
    Except Fault Nat :=
  match environment name with
  | none => .ok default
  | some value =>
      (readNumber most (Text.trimChars value.toList)).mapError (.invalid name value)

/-- The tax rate if none is set. -/
def defaultTaxRate : Decimal :=
  .ofHundredths 15

/-- A tax rate that is not negative. Nor may its digits be, even if the power of
ten behind them leaves nothing of the number. -/
def readTaxRate (environment : Environment) (name : String) : Except Fault Decimal :=
  match environment name with
  | none => .ok defaultTaxRate
  | some value =>
      let chars := Text.trimChars value.toList
      match Decimal.readChars chars with
      | .error error => .error (.invalid name value (.badDecimal error))
      | .ok rate =>
          if rate.isNegative || Decimal.readsNegative chars then
            .error (.invalid name value .negative)
          else .ok rate

/-- The longest stay, at least one night. -/
def readMaxStay (environment : Environment) (name : String) : Except Fault Nat := do
  let nights ← number environment name 365 (Nat.pow 2 32 - 1)
  if nights = 0 then .error (.invalid name "0" .zeroNights) else .ok nights

def read (environment : Environment) : Except Fault Settings := do
  let databaseUrl ← required environment "DATABASE_URL"
  let secret ← required environment "JWT_SECRET"
  let host := (environment "HOST").getD "0.0.0.0"
  let port ← number environment "PORT" 8080 (Nat.pow 2 16 - 1)
  let maxConnections ← number environment "DB_MAX_CONNECTIONS" 10 (Nat.pow 2 32 - 1)
  let acquireTimeout ← number environment "DB_ACQUIRE_TIMEOUT_SECS" 3 (Nat.pow 2 64 - 1)
  let taxRate ← readTaxRate environment "PRICING_TAX_RATE"
  let maxStayNights ← readMaxStay environment "MAX_STAY_NIGHTS"
  .ok
    { databaseUrl
      host
      port
      secret
      maxConnections
      acquireTimeout
      taxRate
      maxStayNights }

/-- The address at which the program listens. -/
def bindAddress (settings : Settings) : String :=
  s!"{settings.host}:{settings.port}"

end Settings

end Lodging
