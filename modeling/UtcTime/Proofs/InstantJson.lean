/-
Module: UtcTime.Proofs.InstantJson
Purpose: The JSON form of instants. A template that names no field twice reads exactly the texts that
  it writes, of the instants that it writes without loss. The precise template writes all of them so
  and the standard one those of whole milliseconds, and as their texts differ in length, no string
  belongs to both.
Trusted boundary: none
Main exports: InstantTemplate.read?_eq_ok_iff_format, Instant.ofText?_eq_ok_iff,
  Instant.ofTextStandardFirst?, Instant.ofJson?_is_canonical
-/
import UtcTime.Json.Form
import UtcTime.Proofs.SortableText

namespace UtcTime

/-! ### Templates that name no field twice

With a field named twice a text could show two values for it, and only the last would count. Without
that, the texts that are read are the texts that are written. -/

/-- Where no field stands twice among the fields, no token of a field does among the tokens. -/
theorem Token.index_unique {Field : Type} {tokens : List (Token Field)} {f : Field} {i j : Nat}
    (h : (fields tokens).Nodup) (hi : tokens[i]? = some (.field f))
    (hj : tokens[j]? = some (.field f)) : i = j := by
  induction tokens generalizing i j with
  | nil => cases hi
  | cons token tokens ih =>
      have hrest : (fields tokens).Nodup := by
        cases token with
        | literal chars => exact h
        | field g => exact (List.nodup_cons.1 h).2
      -- A field at the front does not occur again behind it.
      have hfirst : ∀ k : Nat, tokens[k]? = some (.field f) → token ≠ .field f := by
        rintro k hk rfl
        exact (List.nodup_cons.1 h).1 (mem_fields.2 (List.mem_of_getElem? hk))
      cases i with
      | zero =>
          cases j with
          | zero => rfl
          | succ j => exact absurd (Option.some.inj hi) (hfirst j hj)
      | succ i =>
          cases j with
          | zero => exact absurd (Option.some.inj hj) (hfirst i hi)
          | succ j => exact congrArg Nat.succ (ih hrest hi hj)

namespace InstantTemplate

variable {template : InstantTemplate} {t : Instant}

theorem namesOnce_of_nodup (h : template.fields.Nodup) : template.NamesOnce :=
  fun _ _ _ => Token.index_unique h

/-- A template that names no field twice reads what it writes of the instants that have nothing in
the fields that it does not name, and nothing else. -/
theorem read?_eq_ok_iff_format (h : template.fields.Nodup) {s : String} :
    template.read? s = .ok t ↔
      s = t.format template ∧ ∀ f, ¬ template.Names f → t.toDateTime.fieldValue f = f.initial := by
  rw [read?_eq_ok_iff]
  constructor
  · intro haccepts
    refine ⟨(haccepts.format_eq (namesOnce_of_nodup h)).symm, ?_⟩
    intro f hf
    rw [haccepts.fieldValue, valueIn, Token.valueIn_of_not_mem hf]
  · rintro ⟨rfl, hinitial⟩
    exact accepts_format hinitial

/-! ### The two formats of instants in JSON

Both templates name no field twice. Their tokens begin alike, but the precise one goes on for six
more digits. -/

/-- The precise template reads the precise texts. -/
theorem precise_read?_eq_ok_iff {s : String} : precise.read? s = .ok t ↔ s = t.format precise := by
  have hnodup : precise.fields.Nodup := by
    rw [fields_precise]
    exact CalendarField.nodup_significance
  rw [read?_eq_ok_iff_format hnodup]
  exact and_iff_left fun f hf => absurd (names_precise f) hf

/-- The standard template leaves out what is below a millisecond. -/
theorem not_names_standard_iff (f : CalendarField) :
    ¬ standard.Names f ↔ f = .clock .micro ∨ f = .clock .nano := by
  rw [names_iff, fields_standard]
  cases f with
  | clock field => cases field <;> decide
  | _ => decide

/-- Whole milliseconds are the instants with nothing in the fields below. -/
theorem initial_iff_of_standard :
    (∀ f, ¬ standard.Names f → t.toDateTime.fieldValue f = f.initial) ↔
      t.nanos % 1000000 = 0 := by
  have hmicro : t.toDateTime.fieldValue (.clock .micro) = t.nanos % 1000000000 / 1000 % 1000 := rfl
  have hlast : t.toDateTime.fieldValue (.clock .nano) = t.nanos % 1000000000 % 1000 := rfl
  simp only [not_names_standard_iff, forall_eq_or_imp, forall_eq, hmicro, hlast,
    CalendarField.initial]
  omega

/-- The standard template reads the standard texts of whole milliseconds. -/
theorem standard_read?_eq_ok_iff {s : String} :
    standard.read? s = .ok t ↔ t.nanos % 1000000 = 0 ∧ s = t.format standard := by
  have hnodup : standard.fields.Nodup := by
    rw [fields_standard]
    exact CalendarField.nodup_significance.sublist (List.take_sublist _ _)
  rw [read?_eq_ok_iff_format hnodup, initial_iff_of_standard]
  exact and_comm

/-- The tokens that the two formats have in common: date and time down to the millisecond. -/
def commonTokens : List (Token CalendarField) :=
  [.field .year, .literal ['-'], .field .month, .literal ['-'], .field .day, .literal ['T'],
    .field (.clock .hour), .literal [':'], .field (.clock .minute), .literal [':'],
    .field (.clock .second), .literal ['.'], .field (.clock .milli)]

theorem tokens_precise : precise.tokens =
    commonTokens ++ [.field (.clock .micro), .field (.clock .nano), .literal ['Z']] := by cbv

theorem tokens_standard : standard.tokens = commonTokens ++ [.literal ['Z']] := by cbv

/-- The precise texts have thirty bytes and the standard ones twenty-four. -/
theorem not_conforms_both {s : String} (hprecise : precise.Conforms s)
    (hstandard : standard.Conforms s) : False := by
  have hlength := hprecise.length.symm.trans hstandard.length
  have hlong : Token.offset 0 precise.tokens precise.tokens.length = 30 := by
    rw [tokens_precise]
    rfl
  have hshort : Token.offset 0 standard.tokens standard.tokens.length = 24 := by
    rw [tokens_standard]
    rfl
  rw [hlong, hshort] at hlength
  cases hlength

/-- No text is read in both formats. -/
theorem standard_read?_ne_ok_of_precise {s : String} {t t' : Instant}
    (h : precise.read? s = .ok t) : standard.read? s ≠ .ok t' :=
  fun h' => not_conforms_both (read?_eq_ok_iff.1 h).1 (read?_eq_ok_iff.1 h').1

end InstantTemplate

/-! ### Instants in JSON

A string is tried in both formats. As no string fits both, the order in which they are tried decides
only about the fault. -/

namespace Instant

open InstantTemplate (precise standard preciseSource)

/-- The instant that a string gives, with the standard format tried before the precise one. -/
def ofTextStandardFirst? (s : String) : Except Fault Instant :=
  match standard.read? s with
  | .ok t => .ok t
  | .error _ => precise.read? s

variable {s : String} {t : Instant}

/-- A string gives an instant exactly if one of the formats reads it. -/
theorem ofText?_eq_ok_iff_read? :
    ofText? s = .ok t ↔ precise.read? s = .ok t ∨ standard.read? s = .ok t := by
  rw [ofText?]
  cases hprecise : precise.read? s with
  | error fault => simp
  | ok t' =>
      have hstandard := @InstantTemplate.standard_read?_ne_ok_of_precise s t' t hprecise
      simp [hstandard]

theorem ofTextStandardFirst?_eq_ok_iff_read? :
    ofTextStandardFirst? s = .ok t ↔ precise.read? s = .ok t ∨ standard.read? s = .ok t := by
  rw [ofTextStandardFirst?]
  cases hstandard : standard.read? s with
  | error fault => simp
  | ok t' =>
      have hprecise : precise.read? s ≠ .ok t := fun h =>
        InstantTemplate.standard_read?_ne_ok_of_precise h hstandard
      simp [hprecise]

/-- A string is refused if neither format fits, and then for what is wrong with it in the standard
format. -/
theorem ofText?_eq_error_iff {fault : Fault} :
    ofText? s = .error fault ↔
      (∀ t : Instant, precise.read? s ≠ .ok t) ∧ standard.read? s = .error fault := by
  rw [ofText?]
  cases precise.read? s with
  | error cause => simp
  | ok t' => simp

/-- The strings that give an instant are its precise text and, for whole milliseconds, its standard
text. -/
theorem ofText?_eq_ok_iff :
    ofText? s = .ok t ↔
      s = t.format precise ∨ (t.nanos % 1000000 = 0 ∧ s = t.format standard) := by
  rw [ofText?_eq_ok_iff_read?, InstantTemplate.precise_read?_eq_ok_iff,
    InstantTemplate.standard_read?_eq_ok_iff]

/-- Only a string gives an instant. -/
theorem ofJson?_eq_ok_iff {json : Json} :
    ofJson? json = .ok t ↔ ∃ s, json = .string s ∧ ofText? s = .ok t := by
  cases json with
  | string s =>
      rw [ofJson?]
      cases htext : ofText? s with
      | ok t' => simp [Except.mapError, htext]
      | error fault => simp [Except.mapError, htext]
  | _ => simp [ofJson?]

theorem ofJson?_string_eq_error_iff {fault : FormFault} :
    ofJson? (.string s) = .error fault ↔
      ∃ cause, ofText? s = .error cause ∧ fault = .unreadable cause := by
  rw [ofJson?]
  cases ofText? s with
  | ok t => simp [Except.mapError]
  | error cause => simp [Except.mapError, eq_comm]

/-- There is always a precise text, so nothing can go wrong when an instant is written in JSON. -/
theorem formatWith?_preciseSource (t : Instant) :
    t.formatWith? preciseSource = .ok (t.format precise) := by
  rw [formatWith?, InstantTemplate.ofString?_preciseSource]
  rfl

/-- Every instant has a JSON form, the string of its precise text, and is got back from it. A JSON
value gives an instant exactly if it is this string, or that of its standard text if the instant is a
whole number of milliseconds. No string is read in both formats, so it does not matter which of them
is tried first. A string that neither of them reads is refused for what is wrong with it in the
standard format. -/
theorem ofJson?_is_canonical :
    (∀ t : Instant, t.formatWith? preciseSource = .ok (t.format precise) ∧
      t.toJson = .string (t.format precise) ∧ ofJson? t.toJson = .ok t) ∧
    (∀ (json : Json) (t : Instant), ofJson? json = .ok t ↔
      json = .string (t.format precise) ∨
        (t.nanos % 1000000 = 0 ∧ json = .string (t.format standard))) ∧
    (∀ (s : String) (t t' : Instant), ¬ (precise.read? s = .ok t ∧ standard.read? s = .ok t')) ∧
    (∀ (s : String) (t : Instant), ofTextStandardFirst? s = .ok t ↔
      ofJson? (.string s) = .ok t) ∧
    ∀ (s : String) (fault : FormFault), ofJson? (.string s) = .error fault ↔
      (∀ t : Instant, precise.read? s ≠ .ok t) ∧
        ∃ cause, standard.read? s = .error cause ∧ fault = .unreadable cause := by
  have haccepts : ∀ (json : Json) (t : Instant), ofJson? json = .ok t ↔
      json = .string (t.format precise) ∨
        (t.nanos % 1000000 = 0 ∧ json = .string (t.format standard)) := by
    intro json t
    simp only [ofJson?_eq_ok_iff, ofText?_eq_ok_iff, and_or_left, exists_or]
    simp only [exists_eq_right, and_left_comm, exists_and_left]
  refine ⟨?_, haccepts, ?_, ?_, ?_⟩
  · intro t
    exact ⟨t.formatWith?_preciseSource, rfl, (haccepts _ t).2 (Or.inl rfl)⟩
  · rintro s t t' ⟨hprecise, hstandard⟩
    exact InstantTemplate.standard_read?_ne_ok_of_precise hprecise hstandard
  · intro s t
    simp only [ofTextStandardFirst?_eq_ok_iff_read?, ofJson?_eq_ok_iff, ofText?_eq_ok_iff_read?,
      Json.string.injEq, exists_eq_left']
  · intro s fault
    simp only [ofJson?_string_eq_error_iff, ofText?_eq_error_iff, and_assoc, exists_and_left]

end Instant

end UtcTime
