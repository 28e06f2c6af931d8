/-
Module: UtcTime.Proofs.CompiledTokens
Purpose: What the compiler of templates accepts, said without a compiler: text in which every percent
  sign is the first of a pair, and the second character of each pair is a placeholder. Text that is
  refused is refused for the leftmost place where it stops being that. The tokens that come out are
  in a normal form, and joined texts have the joined tokens. All of this holds for any kind of field.
Trusted boundary: none
Main exports: TemplateText.WellFormed, TemplateText.FirstFault, Token.Normal, Token.join,
  Token.compile_append, Token.exists_compile_eq_ok_iff, Token.compile_eq_error_iff,
  LawfulAlphabet, Token.normal_of_compile
-/
import Mathlib.Data.List.Chain
import UtcTime.Template.Basic

namespace UtcTime

theorem exists_of_map_eq_ok {ε α β : Type} {f : α → β} {result : Except ε α} {b : β}
    (h : result.map f = .ok b) : ∃ a, result = .ok a ∧ f a = b := by
  cases result with
  | error e => cases h
  | ok a =>
      cases h
      exact ⟨a, rfl, rfl⟩

/-- No placeholder stands for empty text. -/
class LawfulAlphabet (Field : Type) [Alphabet Field] : Prop where
  inhabited : ∀ {x : Char} {expansion : List (Token Field)},
    Alphabet.expand? x = some expansion → .literal [] ∉ expansion

/-! ### The grammar

Well-formed text and the first fault of any other text, as inductive predicates over the characters.
The placeholders are a parameter, so that the grammar says nothing about fields. -/

namespace TemplateText

/-- Every percent sign is the first of a pair, counted from the left, and is followed by a
placeholder. All other characters stand for themselves. -/
inductive WellFormed (IsPlaceholder : Char → Prop) : List Char → Prop where
  | nil : WellFormed IsPlaceholder []
  | plain {c : Char} {rest : List Char} (hc : c ≠ '%') (h : WellFormed IsPlaceholder rest) :
      WellFormed IsPlaceholder (c :: rest)
  | pair {x : Char} {rest : List Char} (hx : IsPlaceholder x)
      (h : WellFormed IsPlaceholder rest) : WellFormed IsPlaceholder ('%' :: x :: rest)

/-- What is wrong with a text at the place where it stops being well formed. -/
inductive FirstFault (IsPlaceholder : Char → Prop) : List Char → TemplateFault → Prop where
  | unknown {before after : List Char} {x : Char} (h : WellFormed IsPlaceholder before)
      (hx : ¬ IsPlaceholder x) :
      FirstFault IsPlaceholder (before ++ '%' :: x :: after) (.unknownPlaceholder x)
  | unpaired {before : List Char} (h : WellFormed IsPlaceholder before) :
      FirstFault IsPlaceholder (before ++ ['%']) .trailingPercent

namespace FirstFault

variable {IsPlaceholder : Char → Prop} {text : List Char} {fault : TemplateFault}

/-- A fault stays the first one when well-formed text is put in front. -/
theorem plain {c : Char} (hc : c ≠ '%') (h : FirstFault IsPlaceholder text fault) :
    FirstFault IsPlaceholder (c :: text) fault := by
  cases h with
  | unknown hbefore hx => exact .unknown (.plain hc hbefore) hx
  | unpaired hbefore => exact .unpaired (.plain hc hbefore)

theorem pair {x : Char} (hx : IsPlaceholder x) (h : FirstFault IsPlaceholder text fault) :
    FirstFault IsPlaceholder ('%' :: x :: text) fault := by
  cases h with
  | unknown hbefore hunknown => exact .unknown (.pair hx hbefore) hunknown
  | unpaired hbefore => exact .unpaired (.pair hx hbefore)

end FirstFault

end TemplateText

namespace Token

variable {Field : Type}

/-! ### Normal form

The compiler never emits an empty literal or two literals in a row. The lemmas follow the way in
which it builds its list, from the right by gluing one token after the other. -/

/-- Whether a token is literal text. -/
def IsLiteral : Token Field → Prop
  | .literal _ => True
  | .field _ => False

/-- No literal text is empty, and no two pieces of it stand side by side. -/
structure Normal (tokens : List (Token Field)) : Prop where
  inhabited : .literal [] ∉ tokens
  apart : tokens.IsChain fun first second => ¬ (first.IsLiteral ∧ second.IsLiteral)

theorem normal_nil : Normal ([] : List (Token Field)) :=
  ⟨List.not_mem_nil, .nil⟩

theorem normal_field_cons {f : Field} {tokens : List (Token Field)} :
    Normal (.field f :: tokens) ↔ Normal tokens := by
  constructor
  · rintro ⟨hinhabited, hapart⟩
    exact ⟨fun hmem => hinhabited (List.mem_cons_of_mem _ hmem), hapart.tail⟩
  · rintro ⟨hinhabited, hapart⟩
    refine ⟨?_, List.isChain_cons.2 ⟨fun _ _ hboth => hboth.1, hapart⟩⟩
    intro hmem
    rcases List.mem_cons.1 hmem with heq | hmem
    · cases heq
    · exact hinhabited hmem

/-- Literal text may stand in front of anything but literal text. -/
theorem normal_literal_cons {chars : List Char} {tokens : List (Token Field)} :
    Normal (.literal chars :: tokens) ↔
      chars ≠ [] ∧ (∀ more rest, tokens ≠ .literal more :: rest) ∧ Normal tokens := by
  constructor
  · rintro ⟨hinhabited, hapart⟩
    refine ⟨?_, ?_, fun hmem => hinhabited (List.mem_cons_of_mem _ hmem), hapart.tail⟩
    · rintro rfl
      exact hinhabited List.mem_cons_self
    · rintro more rest rfl
      exact (List.isChain_cons_cons.1 hapart).1 ⟨trivial, trivial⟩
  · rintro ⟨hchars, halone, hinhabited, hapart⟩
    refine ⟨?_, List.isChain_cons.2 ⟨?_, hapart⟩⟩
    · intro hmem
      rcases List.mem_cons.1 hmem with heq | hmem
      · cases heq
        exact hchars rfl
      · exact hinhabited hmem
    · rintro next hnext ⟨-, hliteral⟩
      cases tokens with
      | nil => cases hnext
      | cons token tokens =>
          cases hnext
          cases next with
          | literal more => exact halone more tokens rfl
          | field f => exact hliteral

/-- Gluing keeps the normal form: text that would stand beside text is joined to it. -/
theorem normal_glue {token : Token Field} {tokens : List (Token Field)}
    (htoken : token ≠ .literal []) (h : Normal tokens) : Normal (glue token tokens) := by
  cases token with
  | field f => exact normal_field_cons.2 h
  | literal chars =>
      have hchars : chars ≠ [] := fun hnil => htoken (congrArg Token.literal hnil)
      cases tokens with
      | nil => exact normal_literal_cons.2 ⟨hchars, by simp, h⟩
      | cons next tokens =>
          cases next with
          | field f => exact normal_literal_cons.2 ⟨hchars, by simp, h⟩
          | literal more =>
              obtain ⟨-, halone, hrest⟩ := normal_literal_cons.1 h
              refine normal_literal_cons.2 ⟨?_, halone, hrest⟩
              exact List.append_ne_nil_of_left_ne_nil hchars more

/-- An expansion without empty text keeps the normal form when all of it is glued on. -/
theorem normal_foldr_glue {expansion tokens : List (Token Field)}
    (hexpansion : .literal [] ∉ expansion) (h : Normal tokens) :
    Normal (expansion.foldr glue tokens) := by
  induction expansion with
  | nil => exact h
  | cons token expansion ih =>
      apply normal_glue
      · rintro rfl
        exact hexpansion List.mem_cons_self
      · exact ih fun hmem => hexpansion (List.mem_cons_of_mem _ hmem)

/-! ### Joining token lists

What becomes of the tokens of two texts when the texts are joined. Only where the first ends and the
second begins can something change. -/

/-- One token list after the other. Literal text at the end of the first becomes one token with
literal text at the beginning of the second. -/
def join : List (Token Field) → List (Token Field) → List (Token Field)
  | [], second => second
  | [.literal chars], .literal more :: second => .literal (chars ++ more) :: second
  | token :: first, second => token :: join first second

/-- A field stays in front of what is joined behind it. -/
theorem join_field_cons (f : Field) (first second : List (Token Field)) :
    join (.field f :: first) second = .field f :: join first second := by
  cases second <;> rfl

theorem join_cons_cons (token next : Token Field) (first second : List (Token Field)) :
    join (token :: next :: first) second = token :: join (next :: first) second := by
  cases token <;> cases second <;> rfl

/-- A token can be glued to a list before or after another list is joined to it. -/
theorem glue_join (token : Token Field) (first second : List (Token Field)) :
    glue token (join first second) = join (glue token first) second := by
  cases token with
  | field f => exact (join_field_cons f first second).symm
  | literal chars =>
      cases first with
      | nil =>
          cases second with
          | nil => rfl
          | cons next second => cases next <;> rfl
      | cons next first =>
          cases next with
          | field f =>
              rw [join_field_cons, glue, glue, join_cons_cons, join_field_cons]
              all_goals simp
          | literal more =>
              cases first with
              | cons third first =>
                  rw [join_cons_cons, glue, glue, join_cons_cons]
              | nil =>
                  cases second with
                  | nil => rfl
                  | cons third second =>
                      cases third with
                      | field f => rfl
                      | literal last =>
                          exact congrArg (fun text => Token.literal text :: second)
                            (List.append_assoc chars more last).symm

/-- The same holds for a whole expansion. -/
theorem foldr_glue_join (expansion first second : List (Token Field)) :
    expansion.foldr glue (join first second) = join (expansion.foldr glue first) second := by
  induction expansion with
  | nil => rfl
  | cons token expansion ih =>
      rw [List.foldr_cons, ih, glue_join]
      rfl

/-! ### The compiler

One equation for each step of the compiler, and from these, by induction along it, what it does with
joined texts and which texts it accepts. -/

section

variable [Alphabet Field] {text : List Char} {source : String} {tokens : List (Token Field)}

/-- The character may follow a percent sign. -/
def IsPlaceholder (Field : Type) [Alphabet Field] (x : Char) : Prop :=
  (@ofPlaceholder? Field _ x).isSome

/-- A placeholder is a percent sign or a character of the alphabet. -/
theorem isPlaceholder_iff (x : Char) :
    IsPlaceholder Field x ↔ x = '%' ∨ (@Alphabet.expand? Field _ x).isSome := by
  rw [IsPlaceholder, ofPlaceholder?]
  split <;> simp_all

theorem compile_plain {c : Char} (hc : c ≠ '%') (rest : List Char) :
    compile Field (c :: rest) = (compile Field rest).map (glue (.literal [c])) := by
  rw [compile.eq_def]
  exact if_neg hc

theorem compile_pair {x : Char} {expansion : List (Token Field)}
    (hx : ofPlaceholder? x = some expansion) (rest : List Char) :
    compile Field ('%' :: x :: rest) = (compile Field rest).map (expansion.foldr glue ·) := by
  rw [compile, if_pos rfl, hx]

/-- A character that is no placeholder ends the compilation after a percent sign. -/
theorem compile_unknown {x : Char} (hx : ¬ IsPlaceholder Field x) (rest : List Char) :
    compile Field ('%' :: x :: rest) = .error (.unknownPlaceholder x) := by
  have hnone : @ofPlaceholder? Field _ x = none := by
    simpa [IsPlaceholder] using hx
  rw [compile, if_pos rfl, hnone]

theorem compile_unpaired : compile Field ['%'] = .error .trailingPercent := by
  rw [compile, if_pos rfl]

/-- Behind text that compiles, the rest is compiled as if it stood alone. -/
theorem compile_append (h : compile Field text = .ok tokens) (rest : List Char) :
    compile Field (text ++ rest) = (compile Field rest).map (join tokens ·) := by
  fun_induction compile Field text generalizing tokens with
  | case1 =>
      cases h
      rw [List.nil_append]
      cases compile Field rest <;> rfl
  | case2 => cases h
  | case3 => cases h
  | case4 x after expansion hx ih =>
      obtain ⟨more, hafter, rfl⟩ := exists_of_map_eq_ok h
      rw [List.cons_append, List.cons_append, compile_pair hx, ih hafter]
      cases compile Field rest with
      | error fault => rfl
      | ok last => exact congrArg Except.ok (foldr_glue_join expansion more last)
  | case5 c after hc ih =>
      obtain ⟨more, hafter, rfl⟩ := exists_of_map_eq_ok h
      rw [List.cons_append, compile_plain hc, ih hafter]
      cases compile Field rest with
      | error fault => rfl
      | ok last => exact congrArg Except.ok (glue_join (.literal [c]) more last)

/-- Compiling follows the grammar: it ends with tokens for a well-formed text, and otherwise with
the first fault. -/
theorem compile_outcome (text : List Char) :
    (∃ tokens, compile Field text = .ok tokens ∧
      TemplateText.WellFormed (IsPlaceholder Field) text) ∨
    ∃ fault, compile Field text = .error fault ∧
      TemplateText.FirstFault (IsPlaceholder Field) text fault := by
  fun_induction compile Field text with
  | case1 => exact Or.inl ⟨[], rfl, .nil⟩
  | case2 => exact Or.inr ⟨_, rfl, .unpaired .nil⟩
  | case3 x after hx =>
      have hunknown : ¬ IsPlaceholder Field x := by
        simp [IsPlaceholder, hx]
      exact Or.inr ⟨_, rfl, .unknown .nil hunknown⟩
  | case4 x after expansion hx ih =>
      have hplaceholder : IsPlaceholder Field x := by
        simp [IsPlaceholder, hx]
      rcases ih with ⟨tokens, hafter, hwell⟩ | ⟨fault, hafter, hfault⟩
      · rw [hafter]
        exact Or.inl ⟨_, rfl, .pair hplaceholder hwell⟩
      · rw [hafter]
        exact Or.inr ⟨fault, rfl, hfault.pair hplaceholder⟩
  | case5 c after hc ih =>
      rcases ih with ⟨tokens, hafter, hwell⟩ | ⟨fault, hafter, hfault⟩
      · rw [hafter]
        exact Or.inl ⟨_, rfl, .plain hc hwell⟩
      · rw [hafter]
        exact Or.inr ⟨fault, rfl, hfault.plain hc⟩

/-- A well-formed text compiles. -/
theorem exists_compile_of_wellFormed (h : TemplateText.WellFormed (IsPlaceholder Field) text) :
    ∃ tokens, compile Field text = .ok tokens := by
  induction h with
  | nil => exact ⟨[], rfl⟩
  | plain hc _ ih =>
      obtain ⟨tokens, hrest⟩ := ih
      rw [compile_plain hc, hrest]
      exact ⟨_, rfl⟩
  | pair hx _ ih =>
      obtain ⟨tokens, hrest⟩ := ih
      obtain ⟨expansion, hexpansion⟩ := Option.isSome_iff_exists.1 hx
      rw [compile_pair hexpansion, hrest]
      exact ⟨_, rfl⟩

/-- A text with a fault is refused for it: everything before the fault compiles. -/
theorem compile_of_firstFault {fault : TemplateFault}
    (h : TemplateText.FirstFault (IsPlaceholder Field) text fault) :
    compile Field text = .error fault := by
  cases h with
  | unknown hbefore hx =>
      obtain ⟨tokens, htokens⟩ := exists_compile_of_wellFormed hbefore
      rw [compile_append htokens, compile_unknown hx]
      rfl
  | unpaired hbefore =>
      obtain ⟨tokens, htokens⟩ := exists_compile_of_wellFormed hbefore
      rw [compile_append htokens, compile_unpaired]
      rfl

/-- The compiler accepts the well-formed texts. -/
theorem exists_compile_eq_ok_iff :
    (∃ tokens, compile Field text = .ok tokens) ↔
      TemplateText.WellFormed (IsPlaceholder Field) text := by
  constructor
  · rintro ⟨tokens, htokens⟩
    rcases @compile_outcome Field _ text with ⟨-, -, hwell⟩ | ⟨fault, hother, -⟩
    · exact hwell
    · rw [htokens] at hother
      cases hother
  · exact exists_compile_of_wellFormed

/-- The compiler reports the first fault. -/
theorem compile_eq_error_iff {fault : TemplateFault} :
    compile Field text = .error fault ↔
      TemplateText.FirstFault (IsPlaceholder Field) text fault := by
  constructor
  · intro h
    rcases @compile_outcome Field _ text with ⟨tokens, hother, -⟩ | ⟨other, hother, hfault⟩
    · rw [h] at hother
      cases hother
    · rw [h] at hother
      cases hother
      exact hfault
  · exact compile_of_firstFault

/-! ### Templates from their text

The compiler under its own name in messages: a fault carries the whole text besides the cause. -/

theorem ofString?_eq_ok_iff {tokens : List (Token Field)} :
    ofString? Field source = .ok tokens ↔ compile Field source.toList = .ok tokens := by
  rw [ofString?]
  cases compile Field source.toList <;> simp [Except.mapError]

/-- A fault names the text that was to be compiled, and what is wrong with it. -/
theorem ofString?_eq_error_iff {fault : Fault} :
    ofString? Field source = .error fault ↔
      ∃ cause, compile Field source.toList = .error cause ∧ fault = .template source cause := by
  rw [ofString?]
  cases compile Field source.toList with
  | ok tokens => simp [Except.mapError]
  | error cause => simp [Except.mapError, eq_comm]

/-! ### The form of the tokens

Here the alphabet has to be lawful: an empty literal of an expansion could come out as it is. -/

/-- No expansion holds an empty literal, that of the percent sign included. -/
theorem inhabited_of_ofPlaceholder? [LawfulAlphabet Field] {x : Char}
    {expansion : List (Token Field)} (h : ofPlaceholder? x = some expansion) :
    .literal [] ∉ expansion := by
  rw [ofPlaceholder?] at h
  split at h
  · cases h
    simp
  · exact LawfulAlphabet.inhabited h

/-- What comes out of the compiler is in normal form. -/
theorem normal_of_compile [LawfulAlphabet Field] (h : compile Field text = .ok tokens) :
    Normal tokens := by
  fun_induction compile Field text generalizing tokens with
  | case1 =>
      cases h
      exact normal_nil
  | case2 => cases h
  | case3 => cases h
  | case4 x after expansion hx ih =>
      obtain ⟨more, hafter, rfl⟩ := exists_of_map_eq_ok h
      exact normal_foldr_glue (inhabited_of_ofPlaceholder? hx) (ih hafter)
  | case5 c after hc ih =>
      obtain ⟨more, hafter, rfl⟩ := exists_of_map_eq_ok h
      exact normal_glue (by simp) (ih hafter)

end

/-! ### Fields as fields of a wider kind

Templates of different kinds share placeholders. Where two alphabets agree up to the type of their
fields, so do their compilers. -/

section

variable {Wider : Type} (wider : Field → Wider)

/-- Literal text stays as it is when fields are read as fields of a wider kind. -/
theorem literal_nil_mem_map_lift {tokens : List (Token Field)} :
    .literal [] ∈ tokens.map (lift wider) ↔ .literal [] ∈ tokens := by
  simp only [List.mem_map]
  constructor
  · rintro ⟨token, hmem, htoken⟩
    cases token with
    | literal chars =>
        cases htoken
        exact hmem
    | field f => cases htoken
  · intro hmem
    exact ⟨_, hmem, rfl⟩

/-- Gluing does not depend on what fields are read as. -/
theorem map_lift_glue (token : Token Field) (tokens : List (Token Field)) :
    (glue token tokens).map (lift wider) = glue (lift wider token) (tokens.map (lift wider)) := by
  cases token with
  | field f => rfl
  | literal chars =>
      cases tokens with
      | nil => rfl
      | cons next tokens => cases next <;> rfl

theorem map_lift_foldr_glue (expansion tokens : List (Token Field)) :
    (expansion.foldr glue tokens).map (lift wider) =
      (expansion.map (lift wider)).foldr glue (tokens.map (lift wider)) := by
  induction expansion with
  | nil => rfl
  | cons token expansion ih =>
      rw [List.foldr_cons, map_lift_glue, ih]
      rfl

/-- An alphabet that has the same placeholders for the wider fields gives the same tokens. -/
theorem compile_eq_map_lift [Alphabet Field] [Alphabet Wider]
    (h : ∀ x : Char, @Alphabet.expand? Wider _ x = (Alphabet.expand? x).map (List.map (lift wider)))
    (text : List Char) : compile Wider text = (compile Field text).map (List.map (lift wider)) := by
  have hplaceholder : ∀ x : Char,
      @ofPlaceholder? Wider _ x = (ofPlaceholder? x).map (List.map (lift wider)) := by
    intro x
    rw [ofPlaceholder?, ofPlaceholder?]
    split
    · rfl
    · exact h x
  fun_induction compile Field text with
  | case1 => rfl
  | case2 => rfl
  | case3 x after hx =>
      have hnone : ¬ IsPlaceholder Wider x := by
        simp [IsPlaceholder, hplaceholder, hx]
      rw [compile_unknown hnone]
      rfl
  | case4 x after expansion hx ih =>
      have hsome : @ofPlaceholder? Wider _ x = some (expansion.map (lift wider)) := by
        rw [hplaceholder, hx]
        rfl
      rw [compile_pair hsome, ih]
      cases compile Field after with
      | error fault => rfl
      | ok tokens => exact congrArg Except.ok (map_lift_foldr_glue wider expansion tokens).symm
  | case5 c after hc ih =>
      rw [compile_plain hc, ih]
      cases compile Field after with
      | error fault => rfl
      | ok tokens => exact congrArg Except.ok (map_lift_glue wider (.literal [c]) tokens).symm

end

/-! ### The alphabets

None of the alphabets of instants and spans has an expansion with empty text. -/

instance : LawfulAlphabet ClockField where
  inhabited h := by
    simp only [Alphabet.expand?] at h
    split at h <;> cases h <;> simp

instance : LawfulAlphabet SignField where
  inhabited h := by
    simp only [Alphabet.expand?] at h
    split at h <;> cases h <;> simp

instance : LawfulAlphabet CalendarField where
  inhabited h := by
    simp only [Alphabet.expand?] at h
    split at h
    case h_5 =>
      obtain ⟨expansion, hclock, rfl⟩ := Option.map_eq_some_iff.1 h
      rw [literal_nil_mem_map_lift]
      exact LawfulAlphabet.inhabited hclock
    all_goals
      cases h
      simp

instance : LawfulAlphabet SpanField where
  inhabited h := by
    simp only [Alphabet.expand?] at h
    split at h
    case h_3 =>
      split at h
      · next expansion hsign =>
          cases h
          rw [literal_nil_mem_map_lift]
          exact LawfulAlphabet.inhabited hsign
      · obtain ⟨expansion, hclock, rfl⟩ := Option.map_eq_some_iff.1 h
        rw [literal_nil_mem_map_lift]
        exact LawfulAlphabet.inhabited hclock
    all_goals
      cases h
      simp

end Token

end UtcTime
