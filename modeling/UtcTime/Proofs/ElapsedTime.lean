/-
Module: UtcTime.Proofs.ElapsedTime
Purpose: Spans and lengths without sign, instants and readings of the system clock: each conversion
  undoes the other wherever it has a result, and it has one exactly for the values that both sides
  can hold. On the way a length goes through seconds and nanoseconds, through one word of 128 bits
  and through a count without sign, and none of these loses anything.
Trusted boundary: none
Main exports: Span.ofElapsed?_eq_ok_iff, Span.toElapsed?_eq_ok_iff, Instant.ofClockTime?_eq_ok_iff,
  Elapsed.toNat_totalWord, Elapsed.total_ofWord, Span.ofElapsedWord?_eq, Span.toElapsedWord?_eq,
  Instant.ofElapsedWord?_eq, Instant.toClockWord_eq, Elapsed.conversions_are_partial_inverses
-/
import UtcTime.ClockTime
import UtcTime.Proofs.SpanDigits

namespace UtcTime

/-- What fails only for want of a condition, and with one fault, has a result under it. -/
theorem exists_eq_ok_iff {ε α : Type} {result : Except ε α} {condition : Prop} {reason : ε}
    (h : ∀ fault, result = .error fault ↔ ¬ condition ∧ fault = reason) :
    (∃ value, result = .ok value) ↔ condition := by
  cases result with
  | ok value =>
      have hcondition : condition := by
        by_contra hnot
        exact nomatch (h reason).2 ⟨hnot, rfl⟩
      exact iff_of_true ⟨value, rfl⟩ hcondition
  | error fault => exact iff_of_false nofun ((h fault).1 rfl).1

/-! ### Lengths without sign

A length in seconds and nanoseconds is told by its number of nanoseconds alone, so that both
conversions are laws about that number. -/

namespace Elapsed

theorem ofParts?_eq_some_iff {seconds nanos : Nat} {elapsed : Elapsed} :
    ofParts? seconds nanos = some elapsed ↔
      elapsed.seconds = seconds ∧ elapsed.nanos = nanos := by
  constructor
  · intro h
    simp only [ofParts?] at h
    split at h
    · cases h; exact ⟨rfl, rfl⟩
    · contradiction
  · rintro ⟨rfl, rfl⟩
    simp [ofParts?, elapsed.seconds_lt, elapsed.nanos_lt]

/-- Seconds and nanoseconds are the quotient and the remainder of the whole length. -/
theorem total_eq_iff (elapsed : Elapsed) (n : Nat) :
    elapsed.total = n ↔ elapsed.seconds = n / 1000000000 ∧ elapsed.nanos = n % 1000000000 := by
  have hlt := elapsed.nanos_lt
  simp only [total]
  omega

end Elapsed

namespace Span

variable {elapsed : Elapsed} {span : Span} {fault : ArithmeticFault}

/-- A span that has a number of nanoseconds is finite. -/
theorem nanos?_eq_some_iff {n : Int} :
    span.nanos? = some n ↔ ∃ count : Count, count.val = n ∧ span = finite count := by
  cases span with
  | infinite negative => simp [nanos?]
  | finite count =>
      simp only [nanos?, Option.some.injEq, finite.injEq]
      constructor
      · intro h
        exact ⟨count, h, rfl⟩
      · rintro ⟨_, hval, rfl⟩
        exact hval

/-- A length becomes the span with as many nanoseconds. -/
theorem ofElapsed?_eq_ok_iff :
    ofElapsed? elapsed = .ok span ↔ span.nanos? = some (elapsed.total : Int) := by
  rw [ofElapsed?, ofNanos?_eq_ok_iff, nanos?_eq_some_iff]

/-- A length fails to be a span only if it is too long. -/
theorem ofElapsed?_eq_error_iff :
    ofElapsed? elapsed = .error fault ↔
      ¬ (elapsed.total : Int) ≤ Count.greatest ∧ fault = .overflow := by
  have hlow : Count.least ≤ (elapsed.total : Int) := by
    simp only [Count.least]
    omega
  rw [ofElapsed?, ofNanos?_eq_error_iff, Count.Fits, not_and, forall_prop_of_true hlow]

/-- A span becomes the length with as many nanoseconds. -/
theorem toElapsed?_eq_ok_iff :
    span.toElapsed? = .ok elapsed ↔ span.nanos? = some (elapsed.total : Int) := by
  cases span with
  | infinite negative => simp [toElapsed?, nanos?]
  | finite count =>
      simp only [toElapsed?, nanos?, Option.some.injEq]
      split
      next hpos =>
        rw [Except.ok.injEq, Elapsed.ext_iff]
        have htotal := elapsed.total_eq_iff count.val.toNat
        simp only
        omega
      next hneg =>
        simp only [reduceCtorEq, false_iff]
        omega

/-- A span fails to be a length only if it is infinite or negative. -/
theorem toElapsed?_eq_error_iff :
    span.toElapsed? = .error fault ↔
      ¬ (span.isFinite = true ∧ span.isNegative = false) ∧ fault = .outOfRange := by
  cases span with
  | infinite negative =>
      simp only [toElapsed?, isFinite, Except.error.injEq, Bool.false_eq_true, false_and,
        not_false_eq_true, true_and]
      exact eq_comm
  | finite count =>
      simp only [toElapsed?, isFinite, isNegative, decide_eq_false_iff_not, Int.not_lt, true_and]
      split
      next hpos => simp only [hpos, reduceCtorEq, not_true_eq_false, false_and]
      next hneg =>
        simp only [Except.error.injEq, hneg, not_false_eq_true, true_and]
        exact eq_comm

end Span

/-! ### Readings of the system clock

A reading is a distance from the epoch, which may be negative. The readings of instants are not. -/

namespace ClockTime

/-- The length from the epoch to a reading. There is none to a reading before the epoch. -/
def elapsed? (time : ClockTime) : Option Elapsed :=
  if 0 ≤ time.offset then Elapsed.ofParts? time.seconds.toNat time.nanos else none

/-- The length to a reading is the one that the reading lies after the epoch. -/
theorem elapsed?_eq_some_iff {time : ClockTime} {elapsed : Elapsed} :
    time.elapsed? = some elapsed ↔ after elapsed = time := by
  have htotal := elapsed.total_eq_iff time.offset.toNat
  rw [elapsed?, ClockTime.ext_iff]
  simp only [after]
  split
  next hpos =>
    rw [Elapsed.ofParts?_eq_some_iff, seconds, nanos]
    omega
  next hneg =>
    simp only [reduceCtorEq, false_iff]
    omega

end ClockTime

namespace Instant

variable {time : ClockTime} {t : Instant} {fault : ArithmeticFault}

theorem ofClockTime?_eq_ok_iff : ofClockTime? time = .ok t ↔ t.toClockTime = time := by
  rw [ofClockTime?, ofNanos?_eq_ok_iff, ClockTime.ext_iff, toClockTime]

/-- A reading is refused only before the epoch and past the greatest count. -/
theorem ofClockTime?_eq_error_iff :
    ofClockTime? time = .error fault ↔
      ¬ (0 ≤ time.offset ∧ time.offset ≤ Count.greatest) ∧ fault = .outOfRange :=
  ofNanos?_eq_error_iff

end Instant

/-! ### Conversions in machine words

The same conversions in the words that they are computed in. None of the words is left, so that the
results are those of the conversions on exact numbers. -/

namespace Elapsed

/-- The whole length in nanoseconds, computed in a word of 128 bits. -/
def totalWord (elapsed : Elapsed) : BitVec 128 :=
  BitVec.ofNat 128 elapsed.seconds * 1000000000#128 + BitVec.ofNat 128 elapsed.nanos

/-- Not even the longest length fills the word. -/
theorem toNat_totalWord (elapsed : Elapsed) : elapsed.totalWord.toNat = elapsed.total := by
  have hseconds := elapsed.seconds_lt
  have hnanos := elapsed.nanos_lt
  have hunit : (1000000000#128).toNat = 1000000000 := rfl
  rw [totalWord, total, BitVec.toNat_add, BitVec.toNat_mul, hunit, BitVec.toNat_ofNat,
    BitVec.toNat_ofNat]
  omega

/-- The length of as many nanoseconds as a word of 64 bits without sign says. -/
def ofWord (word : UInt64) : Elapsed where
  seconds := (word / 1000000000).toNat
  nanos := (word % 1000000000).toNat
  seconds_lt := UInt64.toNat_lt _
  nanos_lt := Nat.mod_lt _ (by decide)

/-- Splitting a word into seconds and nanoseconds keeps the whole length. -/
theorem total_ofWord (word : UInt64) : (ofWord word).total = word.toNat := by
  apply (total_eq_iff _ _).2
  exact ⟨UInt64.toNat_div word 1000000000, UInt64.toNat_mod word 1000000000⟩

/-- The 64 bits of a count that is not negative are that count without sign. -/
theorem total_ofWord_bits {n : Int} (hpos : 0 ≤ n) (hfits : Count.Fits n) :
    ((ofWord (UInt64.ofInt n)).total : Int) = n := by
  rw [total_ofWord, Span.toNat_bits]
  rw [Count.fits_iff] at hfits
  omega

end Elapsed

namespace Span

/-- The span of a length, by way of the word of 128 bits. -/
def ofElapsedWord? (elapsed : Elapsed) : Except ArithmeticFault Span :=
  ofNanos? elapsed.totalWord.toNat

/-- The length of a span, by way of the bits of its count. -/
def toElapsedWord? : Span → Except ArithmeticFault Elapsed
  | finite count =>
      if 0 ≤ count.val then .ok (Elapsed.ofWord (UInt64.ofInt count.val)) else .error .outOfRange
  | infinite _ => .error .outOfRange

theorem ofElapsedWord?_eq (elapsed : Elapsed) : ofElapsedWord? elapsed = ofElapsed? elapsed := by
  rw [ofElapsedWord?, elapsed.toNat_totalWord, ofElapsed?]

theorem toElapsedWord?_eq (span : Span) : span.toElapsedWord? = span.toElapsed? := by
  cases span with
  | infinite negative => rfl
  | finite count =>
      rw [toElapsedWord?]
      split
      next hpos =>
        symm
        rw [toElapsed?_eq_ok_iff, Elapsed.total_ofWord_bits hpos count.fits]
        rfl
      next hneg => rw [toElapsed?, if_neg hneg]

end Span

namespace Instant

/-- The instant of a reading, by way of the length since the epoch and its word of 128 bits. A
length that is too long for a count is out of range here, not an overflow. -/
def ofElapsedWord? (time : ClockTime) : Except ArithmeticFault Instant :=
  match time.elapsed? with
  | some elapsed => (Span.ofElapsedWord? elapsed).mapError (fun _ => .outOfRange) >>= ofSpan?
  | none => .error .outOfRange

/-- The reading of an instant, by way of the bits of its count. -/
def toClockWord (t : Instant) : ClockTime :=
  .after (Elapsed.ofWord (UInt64.ofInt t.count.val))

theorem toClockWord_eq (t : Instant) : t.toClockWord = t.toClockTime := by
  apply ClockTime.ext
  exact Elapsed.total_ofWord_bits (Int.natCast_nonneg t.nanos) t.count.fits

/-- A length that fits a count is the offset of the reading. Any other reading is too early or too
late. -/
theorem ofElapsedWord?_eq (time : ClockTime) : ofElapsedWord? time = ofClockTime? time := by
  rw [ofElapsedWord?]
  cases helapsed : time.elapsed? with
  | some elapsed =>
      obtain rfl := ClockTime.elapsed?_eq_some_iff.1 helapsed
      dsimp only
      rw [Span.ofElapsedWord?_eq]
      cases hspan : Span.ofElapsed? elapsed with
      | ok span =>
          obtain ⟨count, hval, rfl⟩ := Span.ofNanos?_eq_ok_iff.1 hspan
          change ofNanos? count.val = _
          rw [hval]
          rfl
      | error fault =>
          obtain ⟨hlarge, -⟩ := Span.ofElapsed?_eq_error_iff.1 hspan
          symm
          exact ofClockTime?_eq_error_iff.2 ⟨fun h => hlarge h.2, rfl⟩
  | none =>
      dsimp only
      symm
      refine ofClockTime?_eq_error_iff.2 ⟨?_, rfl⟩
      rintro ⟨hpos, hle⟩
      have hfits : Count.Fits time.offset := ⟨Int.le_trans (by decide) hpos, hle⟩
      have hafter : ClockTime.after (Elapsed.ofWord (UInt64.ofInt time.offset)) = time :=
        ClockTime.ext (Elapsed.total_ofWord_bits hpos hfits)
      rw [ClockTime.elapsed?_eq_some_iff.2 hafter] at helapsed
      cases helapsed

end Instant

/-- The conversions between spans and lengths without sign, and between instants and readings of the
system clock, are partial inverses. A length has a span exactly if its nanoseconds are at most the
greatest count, and the span then has that many; otherwise it is an overflow. A span has a length
exactly if it is finite and not negative, and is out of range otherwise. An instant is got back from
its reading; a reading leads to an instant exactly if its offset from the epoch is not negative and
at most the greatest count, and that instant then has the offset and leads back to the reading, and
every other reading is out of range. The same conversions in machine words, which split a count of
64 bits without sign into seconds and nanoseconds and put these together in 128 bits, have the same
results. -/
theorem Elapsed.conversions_are_partial_inverses :
    (∀ elapsed : Elapsed,
      ((∃ span, Span.ofElapsed? elapsed = .ok span) ↔ (elapsed.total : Int) ≤ Count.greatest) ∧
      (∀ span, Span.ofElapsed? elapsed = .ok span →
        span.nanos? = some (elapsed.total : Int) ∧ span.toElapsed? = .ok elapsed) ∧
      ∀ fault, Span.ofElapsed? elapsed = .error fault ↔
        ¬ (elapsed.total : Int) ≤ Count.greatest ∧ fault = .overflow) ∧
    (∀ span : Span,
      ((∃ elapsed, span.toElapsed? = .ok elapsed) ↔
        span.isFinite = true ∧ span.isNegative = false) ∧
      (∀ elapsed, span.toElapsed? = .ok elapsed → Span.ofElapsed? elapsed = .ok span) ∧
      ∀ fault, span.toElapsed? = .error fault ↔
        ¬ (span.isFinite = true ∧ span.isNegative = false) ∧ fault = .outOfRange) ∧
    (∀ t : Instant, Instant.ofClockTime? t.toClockTime = .ok t) ∧
    (∀ time : ClockTime,
      ((∃ t, Instant.ofClockTime? time = .ok t) ↔
        0 ≤ time.offset ∧ time.offset ≤ Count.greatest) ∧
      (∀ t, Instant.ofClockTime? time = .ok t →
        (t.nanos : Int) = time.offset ∧ t.toClockTime = time) ∧
      ∀ fault, Instant.ofClockTime? time = .error fault ↔
        ¬ (0 ≤ time.offset ∧ time.offset ≤ Count.greatest) ∧ fault = .outOfRange) ∧
    (∀ elapsed : Elapsed, Span.ofElapsedWord? elapsed = Span.ofElapsed? elapsed) ∧
    (∀ span : Span, span.toElapsedWord? = span.toElapsed?) ∧
    (∀ time : ClockTime, Instant.ofElapsedWord? time = Instant.ofClockTime? time) ∧
    ∀ t : Instant, t.toClockWord = t.toClockTime := by
  refine ⟨?_, ?_, ?_, ?_, Span.ofElapsedWord?_eq, Span.toElapsedWord?_eq,
    Instant.ofElapsedWord?_eq, Instant.toClockWord_eq⟩
  · intro elapsed
    have hfault := fun fault => @Span.ofElapsed?_eq_error_iff elapsed fault
    refine ⟨exists_eq_ok_iff hfault, ?_, hfault⟩
    intro span h
    have hnanos := Span.ofElapsed?_eq_ok_iff.1 h
    exact ⟨hnanos, Span.toElapsed?_eq_ok_iff.2 hnanos⟩
  · intro span
    have hfault := fun fault => @Span.toElapsed?_eq_error_iff span fault
    refine ⟨exists_eq_ok_iff hfault, ?_, hfault⟩
    intro elapsed h
    exact Span.ofElapsed?_eq_ok_iff.2 (Span.toElapsed?_eq_ok_iff.1 h)
  · intro t
    exact Instant.ofClockTime?_eq_ok_iff.2 rfl
  · intro time
    have hfault := fun fault => @Instant.ofClockTime?_eq_error_iff time fault
    refine ⟨exists_eq_ok_iff hfault, ?_, hfault⟩
    intro t h
    have htime := Instant.ofClockTime?_eq_ok_iff.1 h
    exact ⟨congrArg ClockTime.offset htime, htime⟩

/-- One nanosecond past the greatest count is an overflow as a length, and out of range as a
reading. -/
example : Span.ofElapsed? ⟨9223372036, 854775808, by decide, by decide⟩ = .error .overflow ∧
    Instant.ofClockTime? ⟨9223372036854775808⟩ = .error .outOfRange :=
  ⟨rfl, rfl⟩

end UtcTime
