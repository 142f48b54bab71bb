import SubstrateClient.Scale.Compact

/-!
# Which byte strings are the compact form of the number they are read as

The table at `EncodeUintCompact` gives every number one form.  `DecodeUintCompact` does not look at
the ranges of the table: it also reads a number from a form with superfluous high zeros.  A form is
free of them when its top byte says so, which is a condition on the bytes alone.
-/

namespace SubstrateClient.Scale

open ByteParser

/-- The form at the front of the input has no superfluous high zeros: in mode one the second byte
is not zero, in mode two the upper two bytes are not both zero, and in mode three the last of the
announced bytes is not zero, and at least 64 when only four are announced.  An input that ends
before that byte, and one in mode zero, meets the condition. -/
def NoSuperfluousZeros : List UInt8 → Prop
  | [] => True
  | first :: payload =>
      if first.toNat % 4 = 0 then
        True
      else if first.toNat % 4 = 1 then
        payload[0]? ≠ some 0
      else if first.toNat % 4 = 2 then
        ¬ (payload[1]? = some 0 ∧ payload[2]? = some 0)
      else
        ∀ top, payload[first.toNat / 4 + 3]? = some top →
          top ≠ 0 ∧ (first.toNat / 4 = 0 → 64 ≤ top.toNat)

/-- What is read from the front of the input is what the encoder writes for it. -/
def ReadsOwnEncoding (input : List UInt8) : Prop :=
  ∀ (number : Nat) (rest : List UInt8), decodeUintCompact input = .ok (number, rest) →
    ∃ bytes, encodeUintCompact number = .ok bytes ∧ input = bytes ++ rest

/-- A form that is read from the front of the input is the encoder's own exactly when its bytes
are those of the number. -/
theorem readsOwnEncoding_iff (form : List UInt8) {rest : List UInt8} {number : Nat}
    (number_lt : number < 2 ^ 536)
    (decoded : decodeUintCompact (form ++ rest) = .ok (number, rest)) :
    ReadsOwnEncoding (form ++ rest) ↔ compactBytes number = form := by
  constructor
  · intro own
    obtain ⟨bytes, encoded, split⟩ := own number rest decoded
    rw [encodeUintCompact_eq number_lt] at encoded
    cases encoded
    exact (List.append_cancel_right split).symm
  · intro same number' rest' decoded'
    rw [decoded] at decoded'
    cases decoded'
    exact ⟨form, by rw [encodeUintCompact_eq number_lt, same], rfl⟩

/-- Nothing is asked of an input that lacks the last bytes of a form. -/
theorem readsOwnEncoding_of_cut {cut missing : List UInt8} {number : Nat}
    (reads : Reads decodeUintCompact (cut ++ missing) number) (proper : missing ≠ []) :
    ReadsOwnEncoding cut := by
  intro number' rest decoded
  have rejected := delimited_decodeUintCompact.rejects_cut reads rfl proper
  exact absurd ⟨_, decoded⟩ rejected

theorem compactBytes_mode0 {first : UInt8} (mode : first.toNat % 4 = 0) :
    compactBytes (first.toNat / 4) = [first] :=
  compactBytes_eq_singleton.mpr (by omega)

theorem compactBytes_mode1_iff {first second : UInt8} (mode : first.toNat % 4 = 1) :
    compactBytes (second.toNat * 64 + first.toNat / 4) = [first, second] ↔ second ≠ 0 := by
  have first_lt := first.toNat_lt
  have second_lt := second.toNat_lt
  constructor
  · rintro same rfl
    have width := congrArg List.length same
    rw [compactBytes, if_pos (by simp; omega)] at width
    simp at width
  · intro second_ne
    have second_pos : 1 ≤ second.toNat := by
      by_contra zero
      exact second_ne (UInt8.toNat_inj.mp (by simpa using zero))
    have word : 4 * (second.toNat * 64 + first.toNat / 4) + 1 =
        LittleEndian.toNat [first, second] := by
      simp only [LittleEndian.toNat]
      omega
    rw [compactBytes, if_neg (by omega), if_pos (by omega), word]
    exact LittleEndian.ofNat_toNat [first, second]

theorem compactBytes_mode2_iff {first second third fourth : UInt8} (mode : first.toNat % 4 = 2) :
    compactBytes (LittleEndian.toNat [first, second, third, fourth] / 4) =
        [first, second, third, fourth] ↔
      ¬ (third = 0 ∧ fourth = 0) := by
  have first_lt := first.toNat_lt
  have second_lt := second.toNat_lt
  have third_lt := third.toNat_lt
  have fourth_lt := fourth.toNat_lt
  have zero_iff : third = 0 ∧ fourth = 0 ↔ third.toNat = 0 ∧ fourth.toNat = 0 := by
    rw [← UInt8.toNat_inj, ← UInt8.toNat_inj]
    rfl
  have value : LittleEndian.toNat [first, second, third, fourth] =
      first.toNat + 256 * second.toNat + 65536 * third.toNat + 16777216 * fourth.toNat := by
    simp only [LittleEndian.toNat]
    omega
  rw [zero_iff]
  constructor
  · rintro same ⟨third_zero, fourth_zero⟩
    have width := congrArg List.length same
    rw [value, third_zero, fourth_zero] at width
    unfold compactBytes at width
    rw [if_pos (show (first.toNat + 256 * second.toNat + 65536 * 0 + 16777216 * 0) / 4 < 2 ^ 14 by
      omega)] at width
    split_ifs at width <;> simp at width
  · intro nonzero
    have word : 4 * (LittleEndian.toNat [first, second, third, fourth] / 4) + 2 =
        LittleEndian.toNat [first, second, third, fourth] := by omega
    rw [compactBytes, if_neg (by omega), if_neg (by omega), if_pos (by omega), word]
    exact LittleEndian.ofNat_toNat [first, second, third, fourth]

/-- Only four announced bytes can hold a number below the range of the mode. -/
theorem mode3_in_range_iff {announced : Nat} {top : UInt8} {low : List UInt8}
    (width : low.length = announced + 3) :
    2 ^ 30 ≤ LittleEndian.toNat (low ++ [top]) ∧ top ≠ 0 ↔
      top ≠ 0 ∧ (announced = 0 → 64 ≤ top.toNat) := by
  have low_lt := LittleEndian.toNat_lt low
  have value : LittleEndian.toNat (low ++ [top]) =
      LittleEndian.toNat low + 256 ^ low.length * top.toNat := by
    rw [LittleEndian.toNat_append]
    simp [LittleEndian.toNat]
  by_cases four : announced = 0
  · have three : low.length = 3 := by omega
    rw [three] at value low_lt
    have nonzero : 64 ≤ top.toNat → top ≠ 0 := by
      rintro large rfl
      simp at large
    have value_iff : 2 ^ 30 ≤ LittleEndian.toNat (low ++ [top]) ↔ 64 ≤ top.toNat := by omega
    simp only [value_iff, four, true_imp_iff]
    exact and_comm
  · simp only [four, false_imp_iff, and_true, and_iff_right_iff_imp]
    intro top_ne
    have top_pos : 1 ≤ top.toNat := by
      by_contra zero
      exact top_ne (UInt8.toNat_inj.mp (by simpa using zero))
    calc 2 ^ 30 ≤ 256 ^ 4 := by norm_num
      _ ≤ 256 ^ low.length := Nat.pow_le_pow_right (by norm_num) (by omega)
      _ ≤ 256 ^ low.length * top.toNat := Nat.le_mul_of_pos_right _ top_pos
      _ ≤ LittleEndian.toNat (low ++ [top]) := by omega

theorem compactBytes_mode3_iff {first top : UInt8} {low : List UInt8} (mode : first.toNat % 4 = 3)
    (width : low.length = first.toNat / 4 + 3) :
    compactBytes (LittleEndian.toNat (low ++ [top])) = first :: (low ++ [top]) ↔
      top ≠ 0 ∧ (first.toNat / 4 = 0 → 64 ≤ top.toNat) := by
  have first_lt := first.toNat_lt
  rw [← mode3_in_range_iff width]
  constructor
  · intro same
    have long := congrArg List.length same
    rw [List.length_cons, List.length_append, List.length_singleton, width] at long
    by_cases in_range : 2 ^ 30 ≤ LittleEndian.toNat (low ++ [top])
    · rw [compactBytes, if_neg (by omega), if_neg (by omega), if_neg (by omega)] at same
      exact ⟨in_range, (LittleEndian.shortest_toNat_snoc_eq_iff low).mp (List.cons.inj same).2⟩
    · rw [compactBytes] at long
      split_ifs at long with mode0 mode1 mode2
      · simp at long
      · simp at long
      · simp at long
      · omega
  · rintro ⟨in_range, top_ne⟩
    have shortest := (LittleEndian.shortest_toNat_snoc_eq_iff low).mpr top_ne
    rw [compactBytes, if_neg (by omega), if_neg (by omega), if_neg (by omega), shortest]
    congr 1
    apply UInt8.toNat_inj.mp
    rw [UInt8.toNat_ofNat', List.length_append, List.length_singleton, width]
    omega

/-! ## The condition for each mode -/

theorem readsOwnEncoding_mode0 {first : UInt8} (mode : first.toNat % 4 = 0)
    (payload : List UInt8) : ReadsOwnEncoding (first :: payload) := by
  have first_lt := first.toNat_lt
  have decoded := decodeUintCompact_mode0 mode payload
  exact (readsOwnEncoding_iff [first] (lt_compact_bound (by omega)) decoded).mpr
    (compactBytes_mode0 mode)

theorem readsOwnEncoding_mode1_iff {first : UInt8} (mode : first.toNat % 4 = 1)
    (payload : List UInt8) : ReadsOwnEncoding (first :: payload) ↔ payload[0]? ≠ some 0 := by
  have first_lt := first.toNat_lt
  cases payload with
  | nil =>
      have reads : Reads decodeUintCompact ([first] ++ [0]) _ := decodeUintCompact_mode1 mode 0
      simpa using readsOwnEncoding_of_cut reads (by simp)
  | cons second rest =>
      have second_lt := second.toNat_lt
      have decoded := decodeUintCompact_mode1 mode second rest
      have own := readsOwnEncoding_iff [first, second] (lt_compact_bound (by omega)) decoded
      simpa [compactBytes_mode1_iff mode] using own

theorem readsOwnEncoding_mode2_iff {first : UInt8} (mode : first.toNat % 4 = 2)
    (payload : List UInt8) :
    ReadsOwnEncoding (first :: payload) ↔ ¬ (payload[1]? = some 0 ∧ payload[2]? = some 0) := by
  by_cases short : payload.length < 3
  · have width : (payload ++ List.replicate (3 - payload.length) 0).length = 3 := by
      rw [List.length_append, List.length_replicate]
      omega
    have reads : Reads decodeUintCompact
        ((first :: payload) ++ List.replicate (3 - payload.length) 0) _ :=
      decodeUintCompact_mode2 mode width
    have missing : payload[2]? = none := List.getElem?_eq_none (by omega)
    simp only [missing, reduceCtorEq, and_false, not_false_eq_true, iff_true]
    exact readsOwnEncoding_of_cut reads (by simp; omega)
  · obtain ⟨second, third, fourth, rest, rfl⟩ : ∃ second third fourth rest,
        payload = second :: third :: fourth :: rest := by
      rcases payload with _ | ⟨second, _ | ⟨third, _ | ⟨fourth, rest⟩⟩⟩
      · simp at short
      · simp at short
      · simp at short
      · exact ⟨second, third, fourth, rest, rfl⟩
    have decoded := decodeUintCompact_mode2 mode
      (show [second, third, fourth].length = 3 from rfl) rest
    have bound := LittleEndian.toNat_lt [first, second, third, fourth]
    have own := readsOwnEncoding_iff [first, second, third, fourth]
      (lt_compact_bound (by simp at bound; omega)) decoded
    simpa [compactBytes_mode2_iff mode] using own

theorem readsOwnEncoding_mode3_iff {first : UInt8} (mode : first.toNat % 4 = 3)
    (payload : List UInt8) :
    ReadsOwnEncoding (first :: payload) ↔
      ∀ top, payload[first.toNat / 4 + 3]? = some top →
        top ≠ 0 ∧ (first.toNat / 4 = 0 → 64 ≤ top.toNat) := by
  have first_lt := first.toNat_lt
  by_cases short : payload.length < first.toNat / 4 + 4
  · have width : (payload ++ List.replicate (first.toNat / 4 + 4 - payload.length) 0).length =
        first.toNat / 4 + 4 := by
      rw [List.length_append, List.length_replicate]
      omega
    have reads : Reads decodeUintCompact
        ((first :: payload) ++ List.replicate (first.toNat / 4 + 4 - payload.length) 0) _ :=
      decodeUintCompact_mode3 mode width
    have missing : payload[first.toNat / 4 + 3]? = none := List.getElem?_eq_none (by omega)
    simp only [missing, reduceCtorEq, false_imp_iff, implies_true, iff_true]
    exact readsOwnEncoding_of_cut reads (by simp; omega)
  · obtain ⟨low, top, rest, rfl, width⟩ : ∃ low top rest, payload = low ++ [top] ++ rest ∧
        low.length = first.toNat / 4 + 3 := by
      have inside : first.toNat / 4 + 3 < payload.length := by omega
      refine ⟨payload.take (first.toNat / 4 + 3), payload[first.toNat / 4 + 3],
        payload.drop (first.toNat / 4 + 4), ?_, ?_⟩
      · rw [List.take_append_getElem inside]
        exact (List.take_append_drop (first.toNat / 4 + 4) payload).symm
      · rw [List.length_take]
        omega
    have count : (low ++ [top]).length = first.toNat / 4 + 4 := by
      rw [List.length_append, width, List.length_singleton]
    have decoded := decodeUintCompact_mode3 mode count rest
    have bound : LittleEndian.toNat (low ++ [top]) < 2 ^ 536 := by
      refine (LittleEndian.toNat_lt (low ++ [top])).trans_le ?_
      rw [show 256 = 2 ^ 8 from rfl, ← pow_mul, count]
      exact Nat.pow_le_pow_right (by norm_num) (by omega)
    have own := readsOwnEncoding_iff (first :: (low ++ [top])) bound decoded
    have at_top : (low ++ [top] ++ rest)[first.toNat / 4 + 3]? = some top := by
      rw [← width, List.append_assoc, List.getElem?_append_right (le_refl _)]
      simp
    rw [at_top]
    simpa [compactBytes_mode3_iff mode width] using own

/-- What `DecodeUintCompact` reads is what `EncodeUintCompact` writes for it exactly on the inputs
whose form has no superfluous zeros. -/
theorem readsOwnEncoding_iff_noSuperfluousZeros (input : List UInt8) :
    ReadsOwnEncoding input ↔ NoSuperfluousZeros input := by
  cases input with
  | nil =>
      simp only [NoSuperfluousZeros, iff_true]
      intro number rest decoded
      rw [decodeUintCompact_nil] at decoded
      cases decoded
  | cons first payload =>
      simp only [NoSuperfluousZeros]
      split_ifs with mode0 mode1 mode2
      · simpa using readsOwnEncoding_mode0 mode0 payload
      · exact readsOwnEncoding_mode1_iff mode1 payload
      · exact readsOwnEncoding_mode2_iff mode2 payload
      · exact readsOwnEncoding_mode3_iff (by omega) payload

/-- The number zero is also read from two bytes, and written as one. -/
theorem not_readsOwnEncoding_long_zero :
    ¬ ∀ (input : List UInt8) (number : Nat) (rest : List UInt8),
      decodeUintCompact input = .ok (number, rest) →
        ∃ bytes, encodeUintCompact number = .ok bytes ∧ input = bytes ++ rest := by
  intro canonical
  have decoded : decodeUintCompact [1, 0] = .ok (0, []) := by decide
  obtain ⟨bytes, encoded, split⟩ := canonical [1, 0] 0 [] decoded
  rw [encodeUintCompact_eq (lt_compact_bound (by norm_num))] at encoded
  cases encoded
  exact absurd split (by decide)

end SubstrateClient.Scale
