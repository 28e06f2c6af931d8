/-
Module: UtcTime.Template.Token
Purpose: A template is text in which `%` and one more character stand for a field. This module
  compiles such text to a list of tokens, for any kind of field. Literal text between two fields is
  always one token, however it was spelt.
Trusted boundary: none
Main exports: Token, Alphabet, Token.glue, Token.compile, Token.render
-/
import UtcTime.Fault

namespace UtcTime

/-- A piece of a compiled template. -/
inductive Token (Field : Type) where
  | literal (text : List Char)
  | field (field : Field)
deriving DecidableEq, Repr

/-- The placeholders for one kind of field: which characters may follow a percent sign, and what
each of them stands for. Percent itself is a placeholder in every alphabet and is not listed. -/
class Alphabet (Field : Type) where
  expand? : Char → Option (List (Token Field))

namespace Token

variable {Field : Type}

/-- Puts a token in front of a list. Literal text joins the literal text that follows it. -/
def glue : Token Field → List (Token Field) → List (Token Field)
  | .literal chars, .literal more :: tokens => .literal (chars ++ more) :: tokens
  | token, tokens => token :: tokens

/-- The tokens that a placeholder stands for. A doubled percent sign is a literal one. -/
def ofPlaceholder? [Alphabet Field] (placeholder : Char) : Option (List (Token Field)) :=
  if placeholder = '%' then some [.literal ['%']] else Alphabet.expand? placeholder

/-- Compiles the text of a template. The leftmost fault counts. -/
def compile (Field : Type) [Alphabet Field] : List Char → Except TemplateFault (List (Token Field))
  | [] => .ok []
  | c :: rest =>
      if c = '%' then
        match rest with
        | [] => .error .trailingPercent
        | placeholder :: rest =>
            match ofPlaceholder? placeholder with
            | none => .error (.unknownPlaceholder placeholder)
            | some expansion => (compile Field rest).map (expansion.foldr glue ·)
      else
        (compile Field rest).map (glue (.literal [c]))

/-- The text of a token list, given the text of each field. -/
def render (text : Field → List Char) : List (Token Field) → List Char :=
  List.flatMap fun
    | .literal chars => chars
    | .field f => text f

/-- Reads the field of a token as a field of a wider kind. -/
def lift {Wider : Type} (wider : Field → Wider) : Token Field → Token Wider
  | .literal chars => .literal chars
  | .field f => .field (wider f)

end Token

end UtcTime
