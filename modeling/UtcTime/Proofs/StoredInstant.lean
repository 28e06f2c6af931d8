/-
Module: UtcTime.Proofs.StoredInstant
Purpose: An instant as it is stored: a span, with nothing that says it is finite and not negative. The
  constructors make sure of that, and everything that reads a stored instant relies on it, with a
  default for an infinite span, a change of sign and a difference that wraps around. The stored form of an
  instant is one on which all of this does what it does on the instant itself.
Trusted boundary: none
Main exports: StoredInstant, StoredInstant.Valid, Instant.stored, StoredInstant.valid_iff,
  StoredInstant.Reliable, StoredInstant.reliable_stored, and the operations on stored instants with the
  equations that give them by those on instants
-/
import UtcTime.ClockTime
import UtcTime.Json.Form
import UtcTime.Operation
import UtcTime.Proofs.EpochTime

namespace UtcTime

namespace Count

/-- The count that has the lowest 64 bits of an integer. -/
def wrap (n : Int) : Count :=
  ⟨n.bmod 18446744073709551616, by
    have hlow := Int.le_bmod (x := n) (m := 18446744073709551616) (by decide)
    have hhigh := Int.bmod_lt (x := n) (m := 18446744073709551616) (by decide)
    rw [fits_iff]
    omega⟩

/-- The number without sign that has the 64 bits of a count. -/
def unsigned (n : Int) : Int := n % 18446744073709551616

/-- A value that fits a word is not changed by wrapping around. -/
theorem wrap_val {n : Int} (h : Fits n) : (wrap n).val = n := by
  rw [fits_iff] at h
  refine Int.bmod_eq_of_le ?_ ?_ <;> omega

/-- A count that is not negative is the same number when its bits are read without a sign. -/
theorem unsigned_eq {n : Int} (hpos : 0 ≤ n) (hle : n ≤ greatest) : unsigned n = n := by
  simp only [greatest] at hle
  exact Int.emod_eq_of_lt hpos (by omega)

end Count

/-- The span from the epoch to an instant, as it is stored. -/
@[ext] structure StoredInstant where
  sinceEpoch : Span
deriving DecidableEq

namespace StoredInstant

/-- The span is finite, and leads to an instant at or after the epoch. -/
def Valid (t : StoredInstant) : Prop :=
  ∃ n ∈ t.sinceEpoch.nanos?, 0 ≤ n ∧ n ≤ Count.greatest

/-! ### Construction

The constructors check what they are given, each with a guard of its own, and wrap nothing around.
-/

def ofSpan? (span : Span) : Except ArithmeticFault StoredInstant :=
  match span.nanos? with
  | some n => if 0 ≤ n then .ok ⟨span⟩ else .error .outOfRange
  | none => .error .outOfRange

/-- An integer is first brought into 64 bits. -/
def ofNanos? (n : Int) : Except ArithmeticFault StoredInstant :=
  match Count.ofInt? n with
  | some count => ofSpan? (.finite count)
  | none => .error .outOfRange

def ofDateTime? (time : DateTime) : Except ArithmeticFault StoredInstant :=
  ofNanos? time.epochNanos

def ofClockTime? (time : ClockTime) : Except ArithmeticFault StoredInstant :=
  if time.offset < 0 then .error .outOfRange else ofNanos? time.offset

/-- The count of a text that follows the template. It must not be negative. -/
def readCount? (template : InstantTemplate) (input : String) : Except Fault Count :=
  match Token.read? template.tokens 0 input.toList {} with
  | .error fault => .error (.reading input fault)
  | .ok values =>
      match values.toDateTime? with
      | none => .error (.reading input (.noSuchDate values.year values.month values.day))
      | some time =>
          match (Count.ofInt? time.epochNanos).filter (0 ≤ ·.val) with
          | some count => .ok count
          | none => .error (.arithmetic .outOfRange)

def read? (template : InstantTemplate) (input : String) : Except Fault StoredInstant := do
  let count ← readCount? template input
  (ofSpan? (.finite count)).mapError .arithmetic

def ofText? (s : String) : Except Fault StoredInstant :=
  match read? .precise s with
  | .ok t => .ok t
  | .error _ => read? .standard s

def ofJson? : Json → Except FormFault StoredInstant
  | .string s => (ofText? s).mapError .unreadable
  | other => .error (.wrongKind other .instant)

/-! ### Shifting

A shift is an operation with the stored span. Its result is checked like any other span that is to
be stored. -/

def add? (t : StoredInstant) (span : Span) : Except ArithmeticFault StoredInstant :=
  if span.isFinite then t.sinceEpoch.add? span >>= ofSpan? else .error .outOfRange

def sub? (t : StoredInstant) (span : Span) : Except ArithmeticFault StoredInstant :=
  if span.isFinite then t.sinceEpoch.sub? span >>= ofSpan? else .error .outOfRange

def plus (t : StoredInstant) (span : Span) : Except OperationFault StoredInstant :=
  Operation.addToInstant.attempt (t.add? span)

def minus (t : StoredInstant) (span : Span) : Except OperationFault StoredInstant :=
  Operation.subtractFromInstant.attempt (t.sub? span)

/-! ### Reading off

None of these can fail, whatever the span is. -/

/-- The nanoseconds since the epoch, with a default for an infinite span. -/
def nanos (t : StoredInstant) : Int := t.sinceEpoch.nanos?.getD 0

def since (t earlier : StoredInstant) : Span := .finite (Count.wrap (t.nanos - earlier.nanos))

def toDateTime (t : StoredInstant) : DateTime := DateTime.ofEpochNanos (Count.unsigned t.nanos)

def format (t : StoredInstant) (template : InstantTemplate) : String :=
  let time := DateTime.ofEpochNanos (Count.unsigned (max t.nanos 0))
  String.ofList (Token.render time.fieldText template.tokens)

/-- What it takes for nothing to go wrong when a stored instant is read: the default is not used, the
changes of sign change nothing, and the date and time has its year in the range of instants. -/
structure Reliable (t : StoredInstant) : Prop where
  nanos?_eq : t.sinceEpoch.nanos? = some t.nanos
  unsigned_nanos : Count.unsigned t.nanos = t.nanos
  max_nanos : max t.nanos 0 = t.nanos
  dateTime : let time := t.toDateTime
    DateTime.ofFields? time.year time.month time.day time.hour time.minute time.second
      time.nanosecond = some time
  year : 1970 ≤ t.toDateTime.year ∧ t.toDateTime.year ≤ 2262

end StoredInstant

namespace Instant

/-- The stored form of an instant. -/
def stored (t : Instant) : StoredInstant := ⟨t.sinceEpoch⟩

end Instant

namespace StoredInstant

open Instant (stored)

variable (t : Instant)

/-- The valid stored instants are the stored forms of instants. -/
theorem valid_iff {s : StoredInstant} : s.Valid ↔ ∃ t : Instant, s = t.stored := by
  constructor
  · rintro ⟨n, hn, hpos, hle⟩
    obtain ⟨count | negative⟩ := s
    · cases hn
      refine ⟨⟨count.val.toNat, by omega⟩, ?_⟩
      refine congrArg (mk ∘ Span.finite) (Count.ext ?_)
      change count.val = count.val.toNat
      omega
    · cases hn
  · rintro ⟨t, rfl⟩
    exact ⟨t.nanos, rfl, Int.natCast_nonneg _, t.nanos_le⟩

/-! ### Reading off the stored form of an instant

Whatever could go wrong when a stored instant is read depends on its count being missing, negative
or too large. The count of an instant is none of these. -/

/-- The count of the stored form needs no default: the span of an instant is finite. -/
@[simp] theorem nanos_stored : t.stored.nanos = t.nanos := rfl

theorem unsigned_nanos_stored : Count.unsigned t.stored.nanos = t.nanos :=
  Count.unsigned_eq (Int.natCast_nonneg _) t.nanos_le

/-- Raising the stored count to zero at least, as it is done before formatting, changes nothing. -/
theorem max_nanos_stored : max t.stored.nanos 0 = t.stored.nanos :=
  max_eq_left (Int.natCast_nonneg _)

theorem toDateTime_stored : t.stored.toDateTime = t.toDateTime := by
  rw [toDateTime, unsigned_nanos_stored, Instant.toDateTime]

theorem format_stored (template : InstantTemplate) :
    t.stored.format template = t.format template := by
  rw [format, max_nanos_stored, unsigned_nanos_stored]
  rfl

/-- Two counts that are not negative differ by a count. -/
theorem fits_nanos_sub (t u : Instant) : Count.Fits (t.stored.nanos - u.stored.nanos) := by
  have ht := t.nanos_le
  have hu := u.nanos_le
  simp only [nanos_stored, Count.fits_iff, Count.greatest] at *
  omega

/-- The difference of two stored counts does not wrap around, and so is the time between the
instants. -/
theorem since_stored (t u : Instant) : t.stored.since u.stored = t.since u :=
  congrArg Span.finite (Count.ext (Count.wrap_val (fits_nanos_sub t u)))

/-- Nothing goes wrong when the stored form of an instant is read. -/
theorem reliable_stored : t.stored.Reliable where
  nanos?_eq := rfl
  unsigned_nanos := unsigned_nanos_stored t
  max_nanos := max_nanos_stored t
  dateTime := DateTime.ofFields?_eq_some_iff.2 ⟨rfl, rfl, rfl, rfl, rfl, rfl, rfl⟩
  year := by
    rw [toDateTime_stored]
    exact t.year_bounds

/-- A stored instant that is not valid gives the default away. -/
example : ¬ (StoredInstant.mk .infinity).Reliable := by
  intro h
  exact nomatch h.nanos?_eq

/-! ### Constructing and shifting the stored form of an instant

Each equation below says that an operation with stored instants fails where the operation with
instants does, with the same fault, and gives the stored form of the same instant otherwise. -/

/-- What is done with a result does not depend on what is done with the fault. -/
theorem map_mapError {ε ε' α β : Type} (f : ε → ε') (g : α → β) (result : Except ε α) :
    (result.mapError f).map g = (result.map g).mapError f := by
  cases result <;> rfl

/-- Two computations that agree on stored forms still do so after the same first step. -/
theorem bind_eq_map {ε α : Type} {f : α → Except ε StoredInstant} {g : α → Except ε Instant}
    (h : ∀ a, f a = (g a).map stored) (result : Except ε α) :
    (result >>= f) = (result >>= g).map stored := by
  cases result with
  | error fault => rfl
  | ok a => exact h a

/-- The guard against a negative span lets exactly the spans of instants through. -/
theorem ofSpan?_eq_map (span : Span) : ofSpan? span = (Instant.ofSpan? span).map stored := by
  cases span with
  | finite count =>
      change (if 0 ≤ count.val then _ else _) = (Instant.ofNanos? count.val).map stored
      cases hnanos : Instant.ofNanos? count.val with
      | error fault =>
          obtain ⟨hrange, rfl⟩ := Instant.ofNanos?_eq_error_iff.1 hnanos
          rw [if_neg fun hpos => hrange ⟨hpos, count.fits.2⟩]
          rfl
      | ok t =>
          obtain rfl : t.count = count := Count.ext (Instant.ofNanos?_eq_ok_iff.1 hnanos)
          exact if_pos (Int.natCast_nonneg t.nanos)
  | infinite negative => rfl

/-- An integer outside of 64 bits is refused before its sign is looked at. This is the fault that it
has as an instant, too. -/
theorem ofNanos?_eq_map (n : Int) : ofNanos? n = (Instant.ofNanos? n).map stored := by
  rw [ofNanos?]
  cases hcount : Count.ofInt? n with
  | some count =>
      obtain rfl := Count.ofInt?_eq_some_iff.1 hcount
      exact ofSpan?_eq_map (.finite count)
  | none =>
      have hfits := Count.ofInt?_eq_none_iff.1 hcount
      have hnanos : Instant.ofNanos? n = .error .outOfRange := by
        refine Instant.ofNanos?_eq_error_iff.2 ⟨?_, rfl⟩
        rw [Count.fits_iff] at hfits
        simp only [Count.greatest]
        omega
      rw [hnanos]
      rfl

theorem ofDateTime?_eq_map (time : DateTime) :
    ofDateTime? time = (Instant.ofDateTime? time).map stored :=
  ofNanos?_eq_map time.epochNanos

/-- The guard against a reading before the epoch is one that the count repeats. -/
theorem ofClockTime?_eq_map (time : ClockTime) :
    ofClockTime? time = (Instant.ofClockTime? time).map stored := by
  rw [ofClockTime?, ofNanos?_eq_map, Instant.ofClockTime?]
  split
  · next hneg =>
      have hnanos : Instant.ofNanos? time.offset = .error .outOfRange :=
        Instant.ofNanos?_eq_error_iff.2 ⟨fun h => Int.not_lt.2 h.1 hneg, rfl⟩
      rw [hnanos]
      rfl
  · rfl

/-- Reading a text by a template gives the stored form of the instant that is read, and the faults
come in the same order. -/
theorem read?_eq_map (template : InstantTemplate) (input : String) :
    read? template input = (template.read? input).map stored := by
  rw [read?, readCount?, InstantTemplate.read?]
  cases Token.read? template.tokens 0 input.toList {} with
  | error fault => rfl
  | ok values =>
      dsimp only
      cases values.toDateTime? with
      | none => rfl
      | some time =>
          dsimp only
          rw [map_mapError, ← ofDateTime?_eq_map, ofDateTime?, ofNanos?]
          cases Count.ofInt? time.epochNanos with
          | none => rfl
          | some count =>
              -- A negative count fails here, and would fail as a span.
              by_cases hpos : 0 ≤ count.val
              · simp [Option.filter, hpos, bind, Except.bind]
              · simp [Option.filter, ofSpan?, Span.nanos?, hpos, bind, Except.bind, Except.mapError]

theorem ofText?_eq_map (s : String) : ofText? s = (Instant.ofText? s).map stored := by
  rw [ofText?, Instant.ofText?, read?_eq_map, read?_eq_map]
  cases InstantTemplate.precise.read? s <;> rfl

theorem ofJson?_eq_map (json : Json) : ofJson? json = (Instant.ofJson? json).map stored := by
  cases json with
  | string s =>
      rw [ofJson?, Instant.ofJson?, ofText?_eq_map]
      cases Instant.ofText? s <;> rfl
  | _ => rfl

/-- The stored form of a shifted instant is the shifted stored form. -/
theorem add?_stored (span : Span) : t.stored.add? span = (t.add? span).map stored := by
  rw [add?, Instant.add?, bind_eq_map ofSpan?_eq_map]
  split <;> rfl

theorem sub?_stored (span : Span) : t.stored.sub? span = (t.sub? span).map stored := by
  rw [sub?, Instant.sub?, bind_eq_map ofSpan?_eq_map]
  split <;> rfl

/-- The operators name the same operation in a fault. -/
theorem plus_stored (span : Span) : t.stored.plus span = (t.plus span).map stored := by
  rw [plus, Instant.plus, add?_stored, Operation.attempt, Operation.attempt, map_mapError]

theorem minus_stored (span : Span) : t.stored.minus span = (t.minus span).map stored := by
  rw [minus, Instant.minus, sub?_stored, Operation.attempt, Operation.attempt, map_mapError]

end StoredInstant

end UtcTime
