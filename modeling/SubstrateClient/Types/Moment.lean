import SubstrateClient.Types.ZeroValues

/-!
# Moments

`types.Moment` is sent as a number of milliseconds and kept as a `time.Time`, which counts seconds and
nanoseconds.  The two conversions use different units for the part below a second, and the second one goes
through a 64-bit number of nanoseconds.
-/

namespace SubstrateClient.Types

open ByteParser Scale

/-! ## `time.Time` -/

/-- The value an `int64` has after a computation that may overflow. -/
def int64 (number : Int) : Int := (number + 2 ^ 63) % 2 ^ 64 - 2 ^ 63

/-- `time.Time`, by its seconds since the Unix epoch.  The location plays no part. -/
structure Time where
  sec : Int
  nsec : Int
  nsec_nonneg : 0 ≤ nsec
  nsec_lt : nsec < 10 ^ 9

namespace Time

/-- `time.Unix`: whole seconds among the nanoseconds are carried over. -/
def unix (sec nsec : Int) : Time :=
  if outside : nsec < 0 ∨ 10 ^ 9 ≤ nsec then
    let n := nsec.tdiv (10 ^ 9)
    if below : nsec - n * 10 ^ 9 < 0 then
      { sec := int64 (int64 (sec + n) - 1)
        nsec := nsec - n * 10 ^ 9 + 10 ^ 9
        nsec_nonneg := by
          have lower := Int.lt_tmod_of_pos nsec (show (0 : Int) < 10 ^ 9 by norm_num)
          rw [Int.tmod_def] at lower
          omega
        nsec_lt := by omega }
    else
      { sec := int64 (sec + n)
        nsec := nsec - n * 10 ^ 9
        nsec_nonneg := not_lt.mp below
        nsec_lt := by
          have upper := Int.tmod_lt_of_pos nsec (show (0 : Int) < 10 ^ 9 by norm_num)
          rw [Int.tmod_def] at upper
          omega }
  else
    { sec := sec
      nsec := nsec
      nsec_nonneg := by omega
      nsec_lt := by omega }

/-- `Time.UnixNano`, which overflows far from the epoch. -/
def unixNano (time : Time) : Int := int64 (int64 (time.sec * 10 ^ 9) + time.nsec)

/-- Nanoseconds since the epoch, without a bound. -/
def nanoseconds (time : Time) : Int := time.sec * 10 ^ 9 + time.nsec

end Time

/-- `NanosInSecond`. -/
def nanosInSecond : Nat := 10 ^ 9

/-- `MillisInSecond`. -/
def millisInSecond : Nat := 10 ^ 3

/-- `types.Moment`. -/
abbrev Moment : Type := Time

namespace Moment

/-- `Moment.Decode`. -/
def decode : Decoder Moment := do
  let u ← decodeU64
  if maxInt < u.toNat then
    ByteParser.fail (.text "cannot decode a uint64 into a Moment if it overflows int64")
  else
    let secs : Nat := u.toNat / millisInSecond
    let nanos : Nat := u.toNat % millisInSecond * nanosInSecond % 2 ^ 64
    pure (Time.unix secs nanos)

/-- `Moment.Encode`. -/
def encode (moment : Moment) : Written :=
  encodeU64 (UInt64.ofInt (moment.unixNano.tdiv (nanosInSecond / millisInSecond : Nat)))

/-- A number of milliseconds that is accepted stands for the instant that many milliseconds after the epoch,
and is written again for it. -/
def Faithful (u : UInt64) : Prop :=
  ∀ bytes rest moment after, encodeU64 u = .ok bytes → decode (bytes ++ rest) = .ok (moment, after) →
    moment.nanoseconds = u.toNat * 10 ^ 6 ∧ moment.encode = encodeU64 u

/-! ## Machine arithmetic -/

theorem int64_of_fits {number : Int} (lower : -2 ^ 63 ≤ number) (upper : number < 2 ^ 63) :
    int64 number = number := by
  rw [int64, Int.emod_eq_of_lt (by omega) (by omega)]
  omega

theorem int64_bounds (number : Int) : -2 ^ 63 ≤ int64 number ∧ int64 number < 2 ^ 63 := by
  unfold int64
  omega

/-- The quotient of an `int64` by the nanoseconds of a millisecond, read as a `uint64`, is a number below
`2 ^ 63` only if nothing was negative. -/
theorem quotient_of_toNat_ofInt {nanos : Int} {u : Nat} (lower : -2 ^ 63 ≤ nanos) (upper : nanos < 2 ^ 63)
    (small : u < 2 ^ 63) (written : (UInt64.ofInt (nanos.tdiv (10 ^ 6))).toNat = u) :
    (u : Int) = nanos.tdiv (10 ^ 6) := by
  have split := Int.tmod_add_mul_tdiv nanos (10 ^ 6)
  have rest_lower := Int.lt_tmod_of_pos nanos (show (0 : Int) < 10 ^ 6 by norm_num)
  have rest_upper := Int.tmod_lt_of_pos nanos (show (0 : Int) < 10 ^ 6 by norm_num)
  rw [UInt64.ofInt, UInt64.toNat_ofNat'] at written
  generalize nanos.tdiv (10 ^ 6) = quotient at *
  generalize nanos.tmod (10 ^ 6) = remainder at *
  omega

/-! ## What is decoded -/

/-- Milliseconds beyond the last full second are taken for seconds. -/
theorem unix_millis {u : Nat} (small : u < 2 ^ 63) :
    (Time.unix (u / millisInSecond : Nat) (u % millisInSecond * nanosInSecond % 2 ^ 64 : Nat)).nanoseconds =
      (u / 1000 + u % 1000 : Nat) * 10 ^ 9 := by
  have nanos : ((u % millisInSecond * nanosInSecond % 2 ^ 64 : Nat) : Int) =
      (u % 1000 : Nat) * 10 ^ 9 := by
    unfold millisInSecond nanosInSecond
    omega
  have carried : ((u % 1000 : Nat) * 10 ^ 9 : Int).tdiv (10 ^ 9) = (u % 1000 : Nat) :=
    Int.mul_tdiv_cancel _ (by norm_num)
  have secs : u / millisInSecond = u / 1000 := rfl
  rw [nanos, secs]
  by_cases outside : ((u % 1000 : Nat) * 10 ^ 9 : Int) < 0 ∨ 10 ^ 9 ≤ ((u % 1000 : Nat) * 10 ^ 9 : Int)
  · have not_below : ¬ ((u % 1000 : Nat) * 10 ^ 9 : Int) - (u % 1000 : Nat) * 10 ^ 9 < 0 := by omega
    have fits : int64 ((u / 1000 : Nat) + (u % 1000 : Nat)) = (u / 1000 : Nat) + (u % 1000 : Nat) :=
      int64_of_fits (by omega) (by omega)
    simp only [Time.unix, dif_pos outside, carried, dif_neg not_below, Time.nanoseconds, fits]
    push_cast
    ring
  · simp only [Time.unix, dif_neg outside, Time.nanoseconds]
    push_cast
    ring

theorem decode_eq {u : UInt64} {bytes : List UInt8} (written : encodeU64 u = .ok bytes)
    (rest : List UInt8) :
    decode (bytes ++ rest) =
      if maxInt < u.toNat then
        .error (.text "cannot decode a uint64 into a Moment if it overflows int64")
      else
        .ok (Time.unix (u.toNat / millisInSecond : Nat)
          (u.toNat % millisInSecond * nanosInSecond % 2 ^ 64 : Nat), rest) := by
  obtain ⟨other, again, reads⟩ := restores_u64 u
  rw [written] at again
  cases again
  rw [decode, bind_apply, reads rest, Outcome.ok_bind]
  split_ifs <;> rfl

/-! ## What is encoded -/

theorem encodeU64_inj {first second : UInt64} : encodeU64 first = encodeU64 second ↔ first = second := by
  refine ⟨fun same => ?_, fun same => same ▸ rfl⟩
  obtain ⟨bytes, written, reads⟩ := restores_u64 first
  obtain ⟨other, other_written, other_reads⟩ := restores_u64 second
  rw [same, other_written] at written
  cases written
  have read_twice := reads.apply_self.symm.trans other_reads.apply_self
  exact (Prod.mk.inj (Outcome.ok.inj read_twice)).1

/-- An instant given in milliseconds is written as them exactly as far as its nanoseconds fit. -/
theorem encode_eq_iff {moment : Moment} {u : UInt64} (small : u.toNat < 2 ^ 63)
    (same : moment.nanoseconds = u.toNat * 10 ^ 6) :
    moment.encode = encodeU64 u ↔ u.toNat * 10 ^ 6 < 2 ^ 63 := by
  have wrapped : moment.unixNano = int64 (u.toNat * 10 ^ 6) := by
    rw [← same]
    unfold Time.unixNano Time.nanoseconds int64
    omega
  have unit : ((nanosInSecond / millisInSecond : Nat) : Int) = 10 ^ 6 := by decide
  rw [encode, encodeU64_inj, wrapped, unit, ← UInt64.toNat_inj]
  constructor
  · intro written
    obtain ⟨lower, upper⟩ := int64_bounds (u.toNat * 10 ^ 6)
    have quotient := quotient_of_toNat_ofInt lower upper small written
    have split := Int.tmod_add_mul_tdiv (int64 (u.toNat * 10 ^ 6)) (10 ^ 6)
    rcases le_or_gt 0 (int64 (u.toNat * 10 ^ 6)) with nonneg | negative
    · have remainder := Int.tmod_nonneg (10 ^ 6) nonneg
      omega
    · have remainder := Int.lt_tmod_of_pos (int64 (u.toNat * 10 ^ 6)) (show (0 : Int) < 10 ^ 6 by norm_num)
      omega
  · intro fits
    rw [int64_of_fits (by omega) (by omega), Int.mul_tdiv_cancel _ (by norm_num), UInt64.ofInt,
      UInt64.toNat_ofNat']
    omega

/-- Decoding and encoding agree on the milliseconds exactly for full seconds whose nanoseconds fit. -/
theorem faithful_iff_full_seconds (u : UInt64) :
    Faithful u ↔ (u.toNat < 2 ^ 63 → u.toNat % 1000 = 0 ∧ u.toNat * 10 ^ 6 < 2 ^ 63) := by
  obtain ⟨bytes, written, -⟩ := restores_u64 u
  have decoded := decode_eq written
  by_cases small : u.toNat < 2 ^ 63
  · have instant := unix_millis small
    have accepted : ¬ maxInt < u.toNat := by unfold maxInt; omega
    simp only [if_neg accepted] at decoded
    generalize Time.unix _ _ = moment at decoded instant
    have instant_iff : moment.nanoseconds = u.toNat * 10 ^ 6 ↔ u.toNat % 1000 = 0 := by
      rw [instant]
      omega
    constructor
    · intro faithful _
      obtain ⟨same, encoded⟩ := faithful bytes [] moment [] written (decoded [])
      exact ⟨instant_iff.mp same, (encode_eq_iff small same).mp encoded⟩
    · intro full other rest result after other_written run
      obtain ⟨seconds, fits⟩ := full small
      rw [written] at other_written
      cases other_written
      rw [decoded rest] at run
      cases run
      have same := instant_iff.mpr seconds
      exact ⟨same, (encode_eq_iff small same).mpr fits⟩
  · refine ⟨fun _ in_range => absurd in_range small, fun _ other rest result after other_written run => ?_⟩
    have refused : maxInt < u.toNat := by unfold maxInt; omega
    rw [written] at other_written
    cases other_written
    rw [decoded rest, if_pos refused] at run
    cases run

/-- One millisecond is decoded as one second. -/
theorem one_millisecond_not_faithful :
    (∃ moment, decode [1, 0, 0, 0, 0, 0, 0, 0] = .ok (moment, []) ∧ moment.nanoseconds = 10 ^ 9 ∧
      moment.encode = .ok [0xe8, 3, 0, 0, 0, 0, 0, 0]) ∧ ¬ ∀ u, Faithful u := by
  have decoded : decode [1, 0, 0, 0, 0, 0, 0, 0] = .ok (Time.unix 0 (10 ^ 9), []) := rfl
  refine ⟨⟨_, decoded, by decide, by decide⟩, fun all => ?_⟩
  obtain ⟨instant, -⟩ := all 1 [1, 0, 0, 0, 0, 0, 0, 0] [] _ [] rfl decoded
  exact absurd instant (by decide)

end Moment

end SubstrateClient.Types
