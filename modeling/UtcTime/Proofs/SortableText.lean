/-
Module: UtcTime.Proofs.SortableText
Purpose: When texts of instants sort like the instants. Every field has a fixed width, so the bytes
  of two texts by one template compare like the values of the fields in the order in which the
  template names them. If that order goes down from the year without a gap, it is the order of the
  instants, as exact as the template is.
Trusted boundary: none
Main exports: Text.compareBytes, Text.compare_bytes_padded, Token.fields, Token.compare_render,
  InstantTemplate.IsSortable, InstantTemplate.Truncates, InstantTemplate.compareBytes_format
-/
import UtcTime.Proofs.CivilOrder
import UtcTime.Proofs.FormatAfterRead

namespace UtcTime

/-! ### The order of bytes

Strings are compared byte by byte. Numerals of one width compare like their numbers, since digits
are encoded in their order. -/

/-- Behind parts of one length the rest counts only where these parts are the same. -/
theorem compare_append {α : Type} [Ord α] {first second : List α}
    (h : first.length = second.length) (more other : List α) :
    compare (first ++ more) (second ++ other) =
      (compare first second).then (compare more other) := by
  induction first generalizing second with
  | nil =>
      cases second with
      | nil => rfl
      | cons y second => cases h
  | cons x first ih =>
      cases second with
      | nil => cases h
      | cons y second =>
          rw [List.cons_append, List.cons_append, List.compare_cons_cons, List.compare_cons_cons,
            ih (Nat.succ.inj h), Ordering.then_assoc]

namespace Text

/-- The order of strings by their bytes. The first byte that differs decides; a string stands behind
those that it begins with. -/
def compareBytes (first second : String) : Ordering :=
  compare first.toByteArray.data.toList second.toByteArray.data.toList

theorem compareBytes_ofList (first second : List Char) :
    compareBytes (String.ofList first) (String.ofList second) =
      compare (bytes first) (bytes second) := by
  rw [compareBytes, ← bytes_toList, ← bytes_toList, String.toList_ofList, String.toList_ofList]

theorem compare_byte_of_isDigit {c d : Char} (hc : c.isDigit) (hd : d.isDigit) :
    compare (UInt8.ofNat c.toNat) (UInt8.ofNat d.toNat) =
      compare (c.toNat - '0'.toNat) (d.toNat - '0'.toNat) := by
  rw [UInt8.compare_eq_toNat_compare_toNat, toNat_byte_of_isDigit hc, toNat_byte_of_isDigit hd]
  have hzero := (Char.isDigit_iff_toNat.1 hc).1
  have hzero' := (Char.isDigit_iff_toNat.1 hd).1
  cases h : compare (c.toNat - '0'.toNat) (d.toNat - '0'.toNat) with
  | lt =>
      rw [Nat.compare_eq_lt] at h ⊢
      omega
  | eq =>
      rw [Nat.compare_eq_eq] at h ⊢
      omega
  | gt =>
      rw [Nat.compare_eq_gt] at h ⊢
      omega

/-- Numerals of one length are in the order of their values. -/
theorem compare_bytes_of_digits {first second : List Char} (hfirst : first.all Char.isDigit)
    (hsecond : second.all Char.isDigit) (hlength : first.length = second.length) :
    compare (bytes first) (bytes second) =
      compare (Nat.ofDigitChars 10 first 0) (Nat.ofDigitChars 10 second 0) := by
  rw [bytes_of_digits hfirst, bytes_of_digits hsecond]
  induction first generalizing second with
  | nil =>
      cases second with
      | nil => rfl
      | cons d second => cases hlength
  | cons c first ih =>
      cases second with
      | nil => cases hlength
      | cons d second =>
          rw [List.all_cons, Bool.and_eq_true] at hfirst hsecond
          have hlength : first.length = second.length := Nat.succ.inj hlength
          have hbelow := ofDigitChars_lt hfirst.2
          have hbelow' := ofDigitChars_lt hsecond.2
          rw [← hlength] at hbelow'
          rw [List.map_cons, List.map_cons, List.compare_cons_cons,
            compare_byte_of_isDigit hfirst.1 hsecond.1, ih hfirst.2 hsecond.2 hlength,
            ofDigitChars_cons, ofDigitChars_cons, ← hlength, compare_mul_add_nat hbelow hbelow']

/-- Zeros in front make text sort like numbers, as long as the numbers fit the width. -/
theorem compare_bytes_padded {width m n : Nat} (hwidth : 0 < width) (hm : m < 10 ^ width)
    (hn : n < 10 ^ width) :
    compare (bytes (padded width m)) (bytes (padded width n)) = compare m n := by
  have hlength : (padded width m).length = (padded width n).length := by
    rw [length_padded hwidth hm, length_padded hwidth hn]
  rw [compare_bytes_of_digits (isDigit_padded _ _) (isDigit_padded _ _) hlength,
    ofDigitChars_padded, ofDigitChars_padded]

end Text

/-! ### The order of written tokens

All instants have their fields at the same places, so that the first byte that differs stands in the
first field that differs. -/

namespace Token

/-- The fields among the tokens, in their order. -/
def fields {Field : Type} : List (Token Field) → List Field
  | [] => []
  | .literal _ :: tokens => fields tokens
  | .field f :: tokens => f :: fields tokens

theorem mem_fields {Field : Type} {tokens : List (Token Field)} {f : Field} :
    f ∈ fields tokens ↔ .field f ∈ tokens := by
  induction tokens with
  | nil => simp [fields]
  | cons token tokens ih => cases token <;> simp [fields, ih]

/-- The digits of a field compare like its values. -/
theorem compare_fieldText (a b : Instant) (f : CalendarField) :
    compare (Text.bytes (a.toDateTime.fieldText f)) (Text.bytes (b.toDateTime.fieldText f)) =
      compare (a.toDateTime.fieldValue f) (b.toDateTime.fieldValue f) :=
  Text.compare_bytes_padded f.width_pos (a.fieldValue_lt f) (b.fieldValue_lt f)

/-- Texts by the same tokens compare like the values of the fields, one after the other. Literal text
is the same in both and does not count. -/
theorem compare_render (a b : Instant) (tokens : List (Token CalendarField)) :
    compare (Text.bytes (render a.toDateTime.fieldText tokens))
        (Text.bytes (render b.toDateTime.fieldText tokens)) =
      compare ((fields tokens).map a.toDateTime.fieldValue)
        ((fields tokens).map b.toDateTime.fieldValue) := by
  induction tokens with
  | nil => rfl
  | cons token tokens ih =>
      -- The width of a token is the same for all instants, so the rest begins at one place in both.
      have hlength : (Text.bytes (token.text a.toDateTime.fieldText)).length =
          (Text.bytes (token.text b.toDateTime.fieldText)).length := by
        rw [Text.length_bytes, Text.length_bytes, byteLength_text, byteLength_text]
      rw [render_cons, render_cons, Text.bytes_append, Text.bytes_append, compare_append hlength, ih]
      cases token with
      | literal chars =>
          have hself : compare (Text.bytes chars) (Text.bytes chars) = .eq :=
            Std.ReflCmp.compare_self
          rw [text, text, hself, Ordering.eq_then, fields]
      | field f =>
          rw [text, text, compare_fieldText, fields, List.map_cons, List.map_cons,
            List.compare_cons_cons]

end Token

/-! ### Templates that keep the order

A template that names its fields from the year down, without a gap, writes texts in the order of
instants, as far as it shows them. -/

namespace InstantTemplate

/-- The fields that the template names, in their order. -/
def fields (template : InstantTemplate) : List CalendarField :=
  Token.fields template.tokens

/-- The template names the year, then the month, and so on without a gap, as far down as it goes. -/
def IsSortable (template : InstantTemplate) : Prop :=
  template.fields <+: CalendarField.significance

instance (template : InstantTemplate) : Decidable template.IsSortable :=
  inferInstanceAs (Decidable (_ <+: _))

/-- The second instant is the first one, cut down to the fields that the template names: it has these
fields in common with it, and all others have their value at the epoch, the least that an instant can
have. -/
def Truncates (template : InstantTemplate) (t truncated : Instant) : Prop :=
  truncated.toDateTime.HasFields (template.shown t)

variable {template : InstantTemplate} {a b t : Instant}

theorem names_iff {f : CalendarField} : template.Names f ↔ f ∈ template.fields :=
  Token.mem_fields.symm

theorem fields_precise : precise.fields = CalendarField.significance := by cbv

/-- The standard template stops at the milliseconds. -/
theorem fields_standard : standard.fields = CalendarField.significance.take 7 := by cbv

theorem names_precise (f : CalendarField) : precise.Names f := by
  rw [names_iff, fields_precise]
  exact CalendarField.mem_significance f

/-- The bytes of two texts by one template compare like the fields that it names. -/
theorem compareBytes_format_eq (template : InstantTemplate) (a b : Instant) :
    Text.compareBytes (a.format template) (b.format template) =
      compare (template.fields.map a.toDateTime.fieldValue)
        (template.fields.map b.toDateTime.fieldValue) := by
  rw [Instant.format, Instant.format, Text.compareBytes_ofList, Token.compare_render]
  rfl

/-- The order of instants is that of the fields of a sortable template, and then that of the fields
further down. -/
theorem IsSortable.exists_compare_eq (h : template.IsSortable) :
    ∃ rest : List CalendarField, (∀ f ∈ rest, ¬ template.Names f) ∧ ∀ a b : Instant,
      compare a b = (compare (template.fields.map a.toDateTime.fieldValue)
        (template.fields.map b.toDateTime.fieldValue)).then
          (compare (rest.map a.toDateTime.fieldValue) (rest.map b.toDateTime.fieldValue)) := by
  obtain ⟨rest, hrest⟩ := h
  -- No field stands twice in the list, so what is left of it behind the named fields is not named.
  have hapart : List.Disjoint template.fields rest := by
    have hnodup := CalendarField.nodup_significance
    rw [← hrest] at hnodup
    exact List.disjoint_of_nodup_append hnodup
  refine ⟨rest, fun f hf hnames => hapart (names_iff.1 hnames) hf, ?_⟩
  intro a b
  rw [Instant.compare_eq, ← hrest, List.map_append, List.map_append]
  exact compare_append (by rw [List.length_map, List.length_map]) _ _

/-- A sortable template that names the month or anything below it names the year. -/
theorem IsSortable.names_year (h : template.IsSortable) {f : CalendarField}
    (hf : template.Names f) : template.Names .year := by
  rw [names_iff] at hf ⊢
  rw [IsSortable, CalendarField.significance] at h
  cases hfields : template.fields with
  | nil =>
      rw [hfields] at hf
      cases hf
  | cons first rest =>
      rw [hfields, List.cons_prefix_cons] at h
      rw [h.1]
      exact List.mem_cons_self

/-- Every instant can be cut down to the fields of a sortable template, in one way. -/
theorem IsSortable.exists_truncates (h : template.IsSortable) (t : Instant) :
    ∃ truncated : Instant, template.Truncates t truncated ∧ truncated ≤ t ∧
      ∀ other : Instant, template.Truncates t other → other = truncated := by
  have hkept : ¬ template.LosesLeapDay t := fun hloses => hloses.1.2.2 (h.names_year hloses.1.1)
  obtain ⟨truncated, -, hfields, hle⟩ := read?_format_of_not_losesLeapDay hkept
  exact ⟨truncated, hfields, hle,
    fun other hother => Instant.toDateTime_injective (hother.unique hfields)⟩

/-- Two texts by a sortable template compare like the instants, cut down to what it names. -/
theorem IsSortable.compareBytes_eq (h : template.IsSortable) {a' b' : Instant}
    (ha : template.Truncates a a') (hb : template.Truncates b b') :
    Text.compareBytes (a.format template) (b.format template) = compare a' b' := by
  obtain ⟨rest, hrest, hcompare⟩ := h.exists_compare_eq
  have hnamed : ∀ t : Instant, template.fields.map (template.shown t) =
      template.fields.map t.toDateTime.fieldValue := fun t =>
    List.map_congr_left fun f hf => shown_of_names (names_iff.2 hf)
  have hothers : ∀ t : Instant, rest.map (template.shown t) = rest.map CalendarField.initial :=
    fun t => List.map_congr_left fun f hf => shown_of_not_names (hrest f hf)
  have hself : compare (rest.map CalendarField.initial) (rest.map CalendarField.initial) = .eq :=
    Std.ReflCmp.compare_self
  rw [hcompare, ha.fieldValue, hb.fieldValue, hnamed, hnamed, hothers, hothers, hself,
    Ordering.then_eq, compareBytes_format_eq]

/-- A sortable template never puts the text of a later instant first. -/
theorem IsSortable.isLE_compareBytes (h : template.IsSortable) (hle : a ≤ b) :
    (Text.compareBytes (a.format template) (b.format template)).isLE := by
  obtain ⟨rest, -, hcompare⟩ := h.exists_compare_eq
  have hboth : (compare a b).isLE := Nat.isLE_compare.2 hle
  rw [hcompare] at hboth
  rw [compareBytes_format_eq]
  exact Ordering.isLE_left_of_isLE_then hboth

/-- Nothing is cut off where every field is named. -/
theorem truncates_self (h : ∀ f, template.Names f) (t : Instant) : template.Truncates t t := by
  rw [Truncates, shown_eq fun f hf => absurd (h f) hf]
  exact t.hasFields

/-- Texts by a template that names the year, the month and so on without a gap, with any literal
text in between, sort like the instants. Their bytes compare like the instants cut down to the fields
that the template names, and every instant can be cut down so, in one way and not to a later one. So
the text of an earlier instant never comes after that of a later one; and if the template names all
fields, the order of texts is that of instants. -/
theorem compareBytes_format (template : InstantTemplate) (h : template.IsSortable) :
    (∀ t : Instant, ∃ truncated : Instant, template.Truncates t truncated ∧ truncated ≤ t ∧
      ∀ other : Instant, template.Truncates t other → other = truncated) ∧
    (∀ a b a' b' : Instant, template.Truncates a a' → template.Truncates b b' →
      Text.compareBytes (a.format template) (b.format template) = compare a' b') ∧
    (∀ a b : Instant, a ≤ b →
      (Text.compareBytes (a.format template) (b.format template)).isLE) ∧
    ((∀ f, template.Names f) → ∀ a b : Instant,
      Text.compareBytes (a.format template) (b.format template) = compare a b) := by
  refine ⟨h.exists_truncates, fun _ _ _ _ => h.compareBytes_eq, fun _ _ => h.isLE_compareBytes, ?_⟩
  intro hnames a b
  exact h.compareBytes_eq (truncates_self hnames a) (truncates_self hnames b)

/-- In the precise format all instants sort like their texts. -/
theorem compareBytes_format_of_precise :
    precise.IsSortable ∧ (∀ f, precise.Names f) ∧ ∀ a b : Instant,
      Text.compareBytes (a.format precise) (b.format precise) = compare a b := by
  have hsortable : precise.IsSortable := by
    rw [IsSortable, fields_precise]
  exact ⟨hsortable, names_precise, (compareBytes_format precise hsortable).2.2.2 names_precise⟩

end InstantTemplate

end UtcTime
