/-
Module: UtcTime.Proofs.TemplateText
Purpose: The text of a template, read without a compiler. From left to right a character stands for
  itself, unless a percent sign before it makes it a placeholder. What the tokens of a text write is
  the text with the meaning of each placeholder in its place, however literal text was glued together
  and placeholders were expanded; and the fields among them are those that the placeholders stand for.
Trusted boundary: none
Main exports: TemplateText.Piece, TemplateText.pieces, TemplateText.Has, TemplateText.interpret,
  Token.render_eq_interpret, Token.field_mem_iff_of_compile, SpanTemplate.ofString?_eq_ok_iff
-/
import UtcTime.Proofs.CompiledTokens

namespace UtcTime

namespace TemplateText

/-- What one meets in the text of a template. -/
inductive Piece where
  /-- A character that stands for itself. -/
  | plain (c : Char)
  /-- The character after a percent sign. -/
  | placeholder (x : Char)
deriving DecidableEq, Repr

/-- The pieces of a text, from left to right. A percent sign that ends a text stands for itself here;
no template ends so. -/
def pieces : List Char → List Piece
  | [] => []
  | c :: rest =>
      if c = '%' then
        match rest with
        | [] => [.plain c]
        | x :: rest => .placeholder x :: pieces rest
      else
        .plain c :: pieces rest

/-- The placeholder occurs in the text. -/
def Has (text : List Char) (x : Char) : Prop :=
  .placeholder x ∈ pieces text

instance (text : List Char) (x : Char) : Decidable (Has text x) :=
  inferInstanceAs (Decidable (.placeholder x ∈ pieces text))

/-- What a piece stands for, given the meaning of each placeholder. A doubled percent sign is a single
one. -/
def Piece.text (meaning : Char → List Char) : Piece → List Char
  | plain c => [c]
  | placeholder x => if x = '%' then ['%'] else meaning x

/-- The text with its placeholders replaced by what they stand for. -/
def interpret (meaning : Char → List Char) (text : List Char) : List Char :=
  (pieces text).flatMap (Piece.text meaning)

theorem pieces_plain {c : Char} (hc : c ≠ '%') (rest : List Char) :
    pieces (c :: rest) = .plain c :: pieces rest := by
  rw [pieces.eq_def]
  exact if_neg hc

/-- A percent sign takes the next character with it, another percent sign too. -/
theorem pieces_pair (x : Char) (rest : List Char) :
    pieces ('%' :: x :: rest) = .placeholder x :: pieces rest := by
  rw [pieces, if_pos rfl]

theorem has_plain {c : Char} (hc : c ≠ '%') (rest : List Char) (x : Char) :
    Has (c :: rest) x ↔ Has rest x := by
  simp [Has, pieces_plain hc]

/-- The character after a percent sign is a placeholder of the text. -/
theorem has_pair (y : Char) (rest : List Char) (x : Char) :
    Has ('%' :: y :: rest) x ↔ x = y ∨ Has rest x := by
  simp [Has, pieces_pair]

theorem interpret_plain (meaning : Char → List Char) {c : Char} (hc : c ≠ '%') (rest : List Char) :
    interpret meaning (c :: rest) = c :: interpret meaning rest := by
  simp [interpret, pieces_plain hc, Piece.text]

/-- A placeholder is replaced by what it stands for. -/
theorem interpret_pair (meaning : Char → List Char) (x : Char) (rest : List Char) :
    interpret meaning ('%' :: x :: rest) =
      (Piece.placeholder x).text meaning ++ interpret meaning rest := by
  simp [interpret, pieces_pair]

/-- Only the placeholders of the text count. -/
theorem interpret_congr {meaning other : Char → List Char} {text : List Char}
    (h : ∀ x, Has text x → x ≠ '%' → meaning x = other x) :
    interpret meaning text = interpret other text := by
  apply List.flatMap_congr
  intro piece hpiece
  cases piece with
  | plain c => rfl
  | placeholder x =>
      by_cases hx : x = '%'
      · simp [Piece.text, hx]
      · simp [Piece.text, hx, h x hpiece hx]

end TemplateText

namespace Token

open TemplateText

variable {Field : Type}

/-! ### Glue

Gluing changes neither what tokens write nor which fields are among them. -/

/-- Joining a literal to the one behind it does not change what is written. -/
theorem render_glue (fieldText : Field → List Char) (token : Token Field)
    (tokens : List (Token Field)) :
    render fieldText (glue token tokens) = render fieldText (token :: tokens) := by
  cases token with
  | field f => rfl
  | literal chars =>
      cases tokens with
      | nil => rfl
      | cons next tokens =>
          cases next with
          | field f => rfl
          | literal more => simp [glue, render]

/-- An expansion glued on writes its text, and then what was there. -/
theorem render_foldr_glue (fieldText : Field → List Char) (expansion tokens : List (Token Field)) :
    render fieldText (expansion.foldr glue tokens) =
      render fieldText expansion ++ render fieldText tokens := by
  induction expansion with
  | nil => rfl
  | cons token expansion ih =>
      rw [List.foldr_cons, render_glue]
      simp only [render, List.flatMap_cons, List.append_assoc] at ih ⊢
      rw [ih]

/-- A field is not lost by gluing, and none appears. -/
theorem field_mem_glue {f : Field} {token : Token Field} {tokens : List (Token Field)} :
    .field f ∈ glue token tokens ↔ .field f = token ∨ .field f ∈ tokens := by
  cases token with
  | field g => exact List.mem_cons
  | literal chars =>
      cases tokens with
      | nil => exact List.mem_cons
      | cons next tokens =>
          cases next with
          | field g => exact List.mem_cons
          | literal more => simp [glue]

theorem field_mem_foldr_glue {f : Field} {expansion tokens : List (Token Field)} :
    .field f ∈ expansion.foldr glue tokens ↔ .field f ∈ expansion ∨ .field f ∈ tokens := by
  induction expansion with
  | nil => simp
  | cons token expansion ih => rw [List.foldr_cons, field_mem_glue, ih, List.mem_cons, or_assoc]

/-! ### Compiled text

By induction along the compiler, with one case for the end of the text, one for each of its two
faults, one for a placeholder and one for a plain character. -/

section

variable [Alphabet Field] {text : List Char} {tokens : List (Token Field)}

/-- The tokens of a text write what the text says, if the meaning of a placeholder is what its tokens
write. -/
theorem render_eq_interpret {fieldText : Field → List Char} {meaning : Char → List Char}
    (hmeaning : ∀ (x : Char) (expansion : List (Token Field)),
      Alphabet.expand? x = some expansion → render fieldText expansion = meaning x)
    (h : compile Field text = .ok tokens) :
    render fieldText tokens = interpret meaning text := by
  have hpiece : ∀ {x : Char} {expansion : List (Token Field)}, ofPlaceholder? x = some expansion →
      render fieldText expansion = (Piece.placeholder x).text meaning := by
    intro x expansion hx
    rw [ofPlaceholder?] at hx
    split at hx
    · next hpercent =>
        cases hx
        simp [Piece.text, hpercent, render]
    · next hne =>
        rw [hmeaning x expansion hx, Piece.text, if_neg hne]
  fun_induction compile Field text generalizing tokens with
  | case1 =>
      cases h
      rfl
  | case2 => cases h
  | case3 => cases h
  | case4 x after expansion hx ih =>
      obtain ⟨more, hafter, rfl⟩ := exists_of_map_eq_ok h
      rw [render_foldr_glue, hpiece hx, ih hafter, interpret_pair]
  | case5 c after hc ih =>
      obtain ⟨more, hafter, rfl⟩ := exists_of_map_eq_ok h
      rw [render_glue, interpret_plain meaning hc, ← ih hafter]
      rfl

/-- The fields among the tokens are those that the placeholders of the text stand for. -/
theorem field_mem_iff_of_compile (h : compile Field text = .ok tokens) {f : Field} :
    .field f ∈ tokens ↔
      ∃ x, Has text x ∧ ∃ expansion, ofPlaceholder? x = some expansion ∧ .field f ∈ expansion := by
  fun_induction compile Field text generalizing tokens with
  | case1 =>
      cases h
      simp [Has, pieces]
  | case2 => cases h
  | case3 => cases h
  | case4 x after expansion hx ih =>
      obtain ⟨more, hafter, rfl⟩ := exists_of_map_eq_ok h
      simp only [field_mem_foldr_glue, ih hafter, has_pair, or_and_right, exists_or,
        exists_eq_left, hx, Option.some.injEq, exists_eq_left']
  | case5 c after hc ih =>
      obtain ⟨more, hafter, rfl⟩ := exists_of_map_eq_ok h
      simp only [field_mem_glue, ih hafter, has_plain hc, reduceCtorEq, false_or]

/-- Every placeholder of a text that compiles is one of the alphabet. -/
theorem isPlaceholder_of_has (h : compile Field text = .ok tokens) {x : Char} (hx : Has text x) :
    IsPlaceholder Field x := by
  have hwell := exists_compile_eq_ok_iff.1 ⟨tokens, h⟩
  clear h
  induction hwell with
  | nil => simp [Has, pieces] at hx
  | plain hc _ ih => exact ih ((has_plain hc _ x).1 hx)
  | pair hy _ ih =>
      rcases (has_pair _ _ x).1 hx with rfl | hx
      · exact hy
      · exact ih hx

end

end Token

/-! ### Templates for spans

Such a template has two texts. Setting one of them leaves the tokens of the other as they are. -/

namespace SpanTemplate

variable {source : String} {template result : SpanTemplate}

/-- A template made of one text has its tokens from it for finite spans, and the standard ones for
infinite spans. -/
theorem ofString?_eq_ok_iff :
    ofString? source = .ok result ↔
      Token.compile SpanField source.toList = .ok result.finite ∧
        result.infinite = standard.infinite := by
  cases result with
  | mk finite infinite =>
      rw [← Token.ofString?_eq_ok_iff]
      cases htokens : Token.ofString? SpanField source with
      | error fault => simp [ofString?, htokens]
      | ok tokens => simp [ofString?_eq_ok htokens, eq_comm]

/-- The second text replaces the tokens for infinite spans only. -/
theorem withInfinite?_eq_ok_iff :
    template.withInfinite? source = .ok result ↔
      Token.compile SignField source.toList = .ok result.infinite ∧
        result.finite = template.finite := by
  cases result with
  | mk finite infinite =>
      rw [← Token.ofString?_eq_ok_iff]
      cases htokens : Token.ofString? SignField source with
      | error fault => simp [withInfinite?, htokens]
      | ok tokens => simp [withInfinite?_eq_ok htokens, eq_comm, and_comm]

end SpanTemplate

end UtcTime
