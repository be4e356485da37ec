import FixBridge.Tools.Crypto
import Mathlib.Algebra.Order.Group.Unbundled.Int

/-! A timestamped signature is judged by exact arithmetic as long as its timestamp is moderate. -/

namespace FixBridge

namespace Crypto

/-- A timestamp whose distance from the clock reading can be computed in nanoseconds. -/
def Moderate (sendingTimeUtc now : Int64) : Prop :=
  sendingTimeUtc.toInt * 10 ^ 6 < 2 ^ 63 ∧ now.toInt - sendingTimeUtc.toInt * 10 ^ 6 < 2 ^ 63

/-- The conversion to nanoseconds overflows unless the exact product fits. -/
theorem overflow_toNanoseconds {milliseconds : Int64} :
    (toNanoseconds milliseconds).overflow = false ↔ Tracked.Fits (milliseconds.toInt * 10 ^ 6) := by
  -- The two factors are exact, so that only the product can overflow.
  rw [toNanoseconds, Tracked.overflow_mul]
  simp only [Tracked.overflow_exact, Tracked.value_exact, true_and]
  rfl

/-- A conversion that does not overflow multiplies by a million. -/
theorem toInt_toNanoseconds {milliseconds : Int64}
    (fits : Tracked.Fits (milliseconds.toInt * 10 ^ 6)) :
    (toNanoseconds milliseconds).value.toInt = milliseconds.toInt * 10 ^ 6 := by
  -- Without an overflow the product of the words is that of their values.
  have inRange := overflow_toNanoseconds.mpr fits
  rw [toNanoseconds] at inRange ⊢
  exact Tracked.toInt_mul inRange

/-- The distance from a nonnegative clock reading overflows unless the timestamp is moderate. -/
theorem overflow_distance {sendingTimeUtc now : Int64} (nonnegative : 0 ≤ now.toInt) :
    (distance sendingTimeUtc now).overflow = false ↔ Moderate sendingTimeUtc now := by
  have upper := now.toInt_lt
  unfold distance Moderate
  by_cases fits : Tracked.Fits (sendingTimeUtc.toInt * 10 ^ 6)
  · have converted := toInt_toNanoseconds fits
    have inRange := overflow_toNanoseconds.mpr fits
    -- The comparison is exact, and the smaller of the two is subtracted from the other.
    simp only [Int64.lt_iff_toInt_lt, converted]
    unfold Tracked.Fits at fits
    split
    · next earlier =>
      rw [Tracked.overflow_sub]
      simp only [Tracked.overflow_exact, Tracked.value_exact, inRange, converted, Tracked.Fits,
        true_and]
      omega
    · next later =>
      rw [Tracked.overflow_sub]
      simp only [Tracked.overflow_exact, Tracked.value_exact, inRange, converted, Tracked.Fits,
        true_and]
      omega
  · -- Both branches use the conversion, which has overflowed.
    have overflowed := overflow_toNanoseconds.not.mpr fits
    have large : ¬ (sendingTimeUtc.toInt * 10 ^ 6 < 2 ^ 63 ∧
        now.toInt - sendingTimeUtc.toInt * 10 ^ 6 < 2 ^ 63) := by
      unfold Tracked.Fits at fits
      omega
    dsimp only
    split
    · rw [Tracked.overflow_sub]
      exact iff_of_false (fun inRange => overflowed inRange.2.1) large
    · rw [Tracked.overflow_sub]
      exact iff_of_false (fun inRange => overflowed inRange.1) large

/-- The distance of a moderate timestamp is the exact one. -/
theorem toInt_distance {sendingTimeUtc now : Int64} (nonnegative : 0 ≤ now.toInt)
    (moderate : Moderate sendingTimeUtc now) :
    (distance sendingTimeUtc now).value.toInt =
      |now.toInt - sendingTimeUtc.toInt * 10 ^ 6| := by
  have inRange := (overflow_distance nonnegative).mpr moderate
  -- A moderate timestamp is one for which the conversion fits.
  have fits : Tracked.Fits (sendingTimeUtc.toInt * 10 ^ 6) := by
    unfold Moderate at moderate
    unfold Tracked.Fits
    omega
  have converted := toInt_toNanoseconds fits
  unfold distance at inRange ⊢
  simp only [Int64.lt_iff_toInt_lt, converted] at inRange ⊢
  split
  · next earlier =>
    rw [if_pos earlier] at inRange
    rw [Tracked.toInt_sub inRange, converted, Tracked.value_exact, abs_of_pos (by omega)]
  · next later =>
    rw [if_neg later] at inRange
    rw [Tracked.toInt_sub inRange, converted, Tracked.value_exact, abs_of_nonpos (by omega)]
    omega

/--
A timestamped signature is judged exactly, without any overflow, for the moderate timestamps.

The timestamp is chosen by the client, and nothing bounds it before it is converted.
-/
theorem validate_timestamp_iff (primitives : Primitives) (crypto : Crypto)
    (now sendingTimeUtc : Int64) (password secret rawData digits : String)
    (timestamped : crypto.method = .hmacSha256Ts)
    (split : beforePeriod rawData = some digits)
    (parsed : primitives.fromChars digits = some sendingTimeUtc)
    (nonnegative : 0 ≤ now.toInt) :
    (∃ verdict, validate primitives crypto now password secret rawData = some verdict ∧
      verdict.overflow = false ∧
      (verdict.accepted = true ↔
        |now.toInt - sendingTimeUtc.toInt * 10 ^ 6| ≤ crypto.timestampTolerance.toInt ∧
          password = primitives.signature secret rawData)) ↔
      sendingTimeUtc.toInt * 10 ^ 6 < 2 ^ 63 ∧
        now.toInt - sendingTimeUtc.toInt * 10 ^ 6 < 2 ^ 63 := by
  -- The verdict carries the overflow of the distance, whether or not the tolerance is exceeded.
  have answered : ∃ accepted, validate primitives crypto now password secret rawData =
      some ⟨accepted, (distance sendingTimeUtc now).overflow⟩ ∧
      (accepted = true ↔
        (distance sendingTimeUtc now).value.toInt ≤ crypto.timestampTolerance.toInt ∧
          password = primitives.signature secret rawData) := by
    simp only [validate, timestamped, split, parsed, Option.bind_eq_bind, Option.bind_some]
    by_cases late : (distance sendingTimeUtc now).value > crypto.timestampTolerance
    · rw [if_pos late]
      refine ⟨false, rfl, ?_⟩
      have exceeded := Int64.lt_iff_toInt_lt.mp late
      simp [not_le.mpr exceeded]
    · rw [if_neg late]
      refine ⟨_, rfl, ?_⟩
      have within : (distance sendingTimeUtc now).value.toInt ≤
          crypto.timestampTolerance.toInt :=
        not_lt.mp (mt Int64.lt_iff_toInt_lt.mpr late)
      simp [within, eq_comm]
  obtain ⟨accepted, verdict, judged⟩ := answered
  constructor
  · intro exact_
    obtain ⟨other, same, inRange, -⟩ := exact_
    rw [verdict, Option.some_inj] at same
    subst same
    exact (overflow_distance nonnegative).mp inRange
  · intro moderate
    refine ⟨_, verdict, (overflow_distance nonnegative).mpr moderate, ?_⟩
    rw [← toInt_distance nonnegative moderate]
    exact judged

/-- The functions that are used here, with a reader of the two timestamps that appear below. -/
def reading (hmacSha256 : String → String → List UInt8) (base64 : List UInt8 → String) :
    Primitives where
  fromChars digits :=
    if digits = "1700000000250" then some 1700000000250
    else if digits = "-9223372036854" then some (-9223372036854)
    else none
  hmacSha256
  base64

/-- The digest of `1700000000250.nonce` under the secret `secret`. -/
def recentDigest : List UInt8 :=
  [163, 60, 187, 145, 185, 91, 229, 30, 190, 29, 96, 20, 150, 188, 162, 220, 82, 187, 51, 71, 78,
    77, 205, 217, 174, 126, 233, 7, 57, 160, 205, 98]

/-- The functions as far as a signature of this message needs them. -/
def recent : Primitives :=
  reading
    (fun secret rawData =>
      if secret = "secret" ∧ rawData = "1700000000250.nonce" then recentDigest else [])
    (fun digest =>
      if digest = recentDigest then "ozy7kblb5R6+HWAUlryi3FK7M0dOTc3Zrn7pBzmgzWI" else "")

/-- A signature is accepted whose timestamp is a quarter of a second from the clock. -/
theorem validate_timestamp_iff_recent :
    ∃ verdict, validate recent ⟨.hmacSha256Ts, 1000000000⟩ 1700000000000000000
        "ozy7kblb5R6+HWAUlryi3FK7M0dOTc3Zrn7pBzmgzWI" "secret" "1700000000250.nonce" =
          some verdict ∧
      verdict.overflow = false ∧ verdict.accepted = true := by
  obtain ⟨verdict, answered, exact_, accepted⟩ := (validate_timestamp_iff recent
    ⟨.hmacSha256Ts, 1000000000⟩ 1700000000000000000 1700000000250
    "ozy7kblb5R6+HWAUlryi3FK7M0dOTc3Zrn7pBzmgzWI" "secret" "1700000000250.nonce" "1700000000250"
    rfl (by decide) rfl (by decide)).mpr (by decide)
  -- The timestamp is within the tolerance, and the password is the signature.
  exact ⟨verdict, answered, exact_, accepted.mpr ⟨by decide, by decide⟩⟩

/-- A timestamp more than three centuries from the clock is accepted: its distance wraps. -/
theorem validate_timestamp_wraps :
    beforePeriod "-9223372036854.nonce" = some "-9223372036854" ∧
    (∀ hmacSha256 base64,
      validate (reading hmacSha256 base64) ⟨.hmacSha256Ts, 1000000000⟩ 1700000000000000000
        ((reading hmacSha256 base64).signature "secret" "-9223372036854.nonce") "secret"
        "-9223372036854.nonce" = some ⟨true, true⟩) ∧
    ¬ |(1700000000000000000 : Int64).toInt - (-9223372036854 : Int64).toInt * 10 ^ 6| ≤
      (1000000000 : Int64).toInt := by
  have split : beforePeriod "-9223372036854.nonce" = some "-9223372036854" := by decide
  refine ⟨split, ?_, by decide⟩
  intro hmacSha256 base64
  -- The difference exceeds the range and comes out negative, which is within any tolerance.
  have wraps : distance (-9223372036854) 1700000000000000000 =
      ⟨-7523372036855551616, true⟩ := by decide
  have parsed : (reading hmacSha256 base64).fromChars "-9223372036854" =
      some (-9223372036854) := rfl
  have within : ¬ (-7523372036855551616 : Int64) > 1000000000 := by decide
  simp only [validate, split, parsed, Option.bind_eq_bind, Option.bind_some, wraps, within,
    if_false]
  simp

end Crypto

end FixBridge
