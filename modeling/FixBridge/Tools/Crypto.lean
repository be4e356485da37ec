import FixBridge.Library.Overflow

/-! Validation of a logon's password, which is a shared secret or a signature made with one. -/

namespace FixBridge

/-- `Crypto::Method`. -/
inductive Crypto.Method where
  | undefined
  | hmacSha256
  | hmacSha256Ts
  deriving DecidableEq, Repr

/-- The members of `tools::Crypto` that outlive a call. -/
structure Crypto where
  method : Crypto.Method
  /-- `timestamp_tolerance_`, in nanoseconds. -/
  timestampTolerance : Int64
  deriving DecidableEq, Repr

namespace Crypto

/-- What `tools::Crypto` uses of other libraries. -/
structure Primitives where
  /-- `utils::charconv::from_chars<int64_t>`, unless it throws. -/
  fromChars : String → Option Int64
  /-- The digest of `utils::mac::HMAC<utils::hash::SHA256>` for a secret and some data. -/
  hmacSha256 : String → String → List UInt8
  /-- `utils::codec::Base64::encode`. -/
  base64 : List UInt8 → String

/-- The password that proves knowledge of the secret. -/
def Primitives.signature (primitives : Primitives) (secret rawData : String) : String :=
  primitives.base64 (primitives.hmacSha256 secret rawData)

/-- `parse_method`, where a name that is not known is fatal. -/
def parseMethod (authMethod : String) : Option Method :=
  if authMethod = "" then some .undefined
  else if authMethod = "hmac_sha256" then some .hmacSha256
  else if authMethod = "hmac_sha256_ts" then some .hmacSha256Ts
  else none

/-- The answer of `Crypto::validate`, and whether its arithmetic overflowed on the way. -/
structure Verdict where
  accepted : Bool
  overflow : Bool
  deriving DecidableEq, Repr

/-- What comes before the first period, if there is one. -/
def beforePeriod (rawData : String) : Option String :=
  if '.' ∈ rawData.toList then
    some (String.ofList (rawData.toList.takeWhile fun letter => letter ≠ '.'))
  else none

/-- `std::chrono::milliseconds` as `std::chrono::nanoseconds`. -/
def toNanoseconds (milliseconds : Int64) : Tracked :=
  (Tracked.exact milliseconds).mul (Tracked.exact 1000000)

/-- How far a timestamp in milliseconds is from a clock reading in nanoseconds. -/
def distance (sendingTimeUtc now : Int64) : Tracked :=
  -- Comparing durations of two units converts both to the finer unit, and so does subtracting.
  let converted := toNanoseconds sendingTimeUtc
  if converted.value < now then (Tracked.exact now).sub converted
  else converted.sub (Tracked.exact now)

/-- `Crypto::validate` at a clock reading, unless it throws. -/
def validate (primitives : Primitives) (crypto : Crypto) (now : Int64)
    (password secret rawData : String) : Option Verdict :=
  match crypto.method with
  | .undefined => some ⟨password = secret, false⟩
  | .hmacSha256 => some ⟨primitives.signature secret rawData = password, false⟩
  | .hmacSha256Ts =>
    match beforePeriod rawData with
    | none => some ⟨false, false⟩
    | some digits => do
      let sendingTimeUtc ← primitives.fromChars digits
      let diff := distance sendingTimeUtc now
      if diff.value > crypto.timestampTolerance then
        return ⟨false, diff.overflow⟩
      return ⟨primitives.signature secret rawData = password, diff.overflow⟩

end Crypto

end FixBridge
