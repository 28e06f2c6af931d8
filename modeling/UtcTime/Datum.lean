/-
Module: UtcTime.Datum
Purpose: Comparing an instant with a value of any kind. Only an instant can equal it; a value of
  another kind comes after it.
Trusted boundary: none
Main exports: Datum, Instant.equals, Instant.compareWith, Instant.compareWith_eq_iff,
  Instant.compareWith_eq_lt_of_lt
-/
import UtcTime.Instant.Basic

namespace UtcTime

/-- A value of one of the kinds that the library deals in. -/
inductive Datum where
  | instant (t : Instant)
  | span (span : Span)
  | integer (n : Int)
  | text (text : String)
deriving DecidableEq

namespace Instant

/-- Whether a value is this instant. -/
def equals (t : Instant) : Datum → Bool
  | .instant other => decide (t = other)
  | _ => false

/-- The order of an instant and a value of any kind. -/
def compareWith (t : Instant) : Datum → Ordering
  | .instant other => compare t other
  | _ => .lt

theorem equals_iff {t : Instant} {value : Datum} : t.equals value = true ↔ value = .instant t := by
  cases value with
  | instant other =>
      rw [equals, decide_eq_true_eq, Datum.instant.injEq]
      exact eq_comm
  | span | integer | text => simp [equals]

/-- What compares equal is equal, across all kinds of values. -/
theorem compareWith_eq_iff {t : Instant} {value : Datum} :
    t.compareWith value = .eq ↔ t.equals value = true := by
  cases value with
  | instant other =>
      rw [compareWith, equals, decide_eq_true_eq, Instant.ext_iff]
      exact Nat.compare_eq_eq
  | span | integer | text => simp [compareWith, equals]

/-- An instant comes before whatever a later instant does not come after. -/
theorem compareWith_eq_lt_of_lt {s t : Instant} {value : Datum} (h : s < t)
    (hvalue : t.compareWith value ≠ .gt) : s.compareWith value = .lt := by
  cases value with
  | instant other =>
      have hle : t.nanos ≤ other.nanos := Nat.compare_ne_gt.1 hvalue
      exact Nat.compare_eq_lt.2 (Nat.lt_of_lt_of_le h hle)
  | span | integer | text => rfl

end Instant

end UtcTime
