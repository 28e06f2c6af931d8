/-
Module: UtcTime.Proofs.SpanExpression
Purpose: Whole expressions of span arithmetic. An expression is evaluated operands first, the left
  one before the right one, and stops at the first fault. It has a result exactly if every node of it
  is defined and in range, and then the exact one; otherwise the fault is that of the first node that
  is not.
Trusted boundary: none
Main exports: SpanExpression, SpanExpression.eval, SpanExpression.value, SpanExpression.nodes,
  SpanExpression.Sound, SpanExpression.FailsFirst, SpanExpression.eval_outcome,
  SpanExpression.value_of_isSum, SpanExpression.eval_is_exact
-/
import UtcTime.Proofs.ExactArithmetic

namespace UtcTime

inductive SpanExpression where
  | leaf (span : Span)
  | unary (op : UnaryOperation) (operand : SpanExpression)
  | binary (op : BinaryOperation) (left right : SpanExpression)

namespace SpanExpression

/-- The span that an expression evaluates to. The first fault ends the evaluation. -/
def eval : SpanExpression → Except ArithmeticFault Span
  | leaf span => .ok span
  | unary op operand => operand.eval >>= op.run?
  | binary op left right => do op.run? (← left.eval) (← right.eval)

/-- The number that an expression stands for, where all of it is defined. -/
noncomputable def value : SpanExpression → EReal
  | leaf span => span.value
  | unary op operand => op.exact operand.value
  | binary op left right => op.exact left.value right.value

/-- All parts of an expression, and itself, in the order in which their evaluation ends. -/
def nodes : SpanExpression → List SpanExpression
  | leaf span => [leaf span]
  | unary op operand => operand.nodes ++ [unary op operand]
  | binary op left right => left.nodes ++ right.nodes ++ [binary op left right]

/-- The spans of an expression, from left to right. -/
def leaves : SpanExpression → List Span
  | leaf span => [span]
  | unary _ operand => operand.leaves
  | binary _ left right => left.leaves ++ right.leaves

/-- What the operation at the root is applied to. -/
def operands : SpanExpression → List SpanExpression
  | leaf _ => []
  | unary _ operand => [operand]
  | binary _ left right => [left, right]

/-- Why the operation at the root has no result for its operands. -/
def Undefined : SpanExpression → ArithmeticFault → Prop
  | leaf _, _ => False
  | unary op operand, fault => op.Undefined operand.value fault
  | binary op left right, fault => op.Undefined left.value right.value fault

/-- The operation at the root is defined, and its exact result is infinite or fits a count. -/
structure Sound (node : SpanExpression) : Prop where
  defined : ∀ fault, ¬ node.Undefined fault
  inRange : Extended.InRange node.value

/-- What is wrong with the operation at the root: it is undefined, or its exact result for finite
operands does not fit. -/
inductive Fails (node : SpanExpression) : ArithmeticFault → Prop where
  | undefined {fault : ArithmeticFault} (reason : node.Undefined fault) : Fails node fault
  | overflow (finite : ∀ operand ∈ node.operands, operand.value ≠ ⊤ ∧ operand.value ≠ ⊥)
      (defined : ∀ fault, ¬ node.Undefined fault) (outside : ¬ Extended.InRange node.value) :
      Fails node .overflow

/-- The first node that is not sound has this fault. -/
def FailsFirst (e : SpanExpression) (fault : ArithmeticFault) : Prop :=
  ∃ before node after, e.nodes = before ++ node :: after ∧
    (∀ earlier ∈ before, Sound earlier) ∧ Fails node fault

/-- An expression that only adds. -/
def IsSum : SpanExpression → Prop
  | leaf _ => True
  | binary .add left right => left.IsSum ∧ right.IsSum
  | _ => False

/-! ### The first fault

An operation has one fault at most, and nodes are evaluated in one order. So the fault of an
expression is unique. -/

section

variable {e node : SpanExpression} {fault other : ArithmeticFault}

theorem Fails.not_sound (h : node.Fails fault) : ¬ node.Sound := by
  intro hsound
  cases h with
  | undefined reason => exact hsound.defined fault reason
  | overflow _ _ outside => exact outside hsound.inRange

theorem Undefined.unique (h : node.Undefined fault) (h' : node.Undefined other) :
    fault = other := by
  cases node with
  | leaf span => exact h.elim
  | unary op operand => exact UnaryOperation.Undefined.unique h h'
  | binary op left right =>
      have hfirst := BinaryOperation.Undefined.fault_eq h
      have hsecond := BinaryOperation.Undefined.fault_eq h'
      rw [hfirst, hsecond]

/-- An operation is undefined for one reason only, and not undefined where it overflows. -/
theorem Fails.unique (h : node.Fails fault) (h' : node.Fails other) : fault = other := by
  cases h with
  | undefined reason =>
      cases h' with
      | undefined reason' => exact reason.unique reason'
      | overflow _ defined => exact absurd reason (defined fault)
  | overflow _ defined =>
      cases h' with
      | undefined reason' => exact absurd reason' (defined other)
      | overflow => rfl

/-- There is only one first node that is not sound. -/
theorem first_unique {before after before' after' : List SpanExpression}
    {first second : SpanExpression}
    (h : before ++ first :: after = before' ++ second :: after')
    (hbefore : ∀ earlier ∈ before, Sound earlier) (hfirst : ¬ first.Sound)
    (hbefore' : ∀ earlier ∈ before', Sound earlier) (hsecond : ¬ second.Sound) :
    first = second := by
  induction before generalizing before' with
  | nil =>
      cases before' with
      | nil => exact (List.cons.inj h).1
      | cons head rest =>
          obtain ⟨rfl, -⟩ := List.cons.inj h
          exact absurd (hbefore' first List.mem_cons_self) hfirst
  | cons head before ih =>
      cases before' with
      | nil =>
          obtain ⟨rfl, -⟩ := List.cons.inj h
          exact absurd (hbefore head List.mem_cons_self) hsecond
      | cons head' rest =>
          exact ih (List.cons.inj h).2 (fun earlier hmem => hbefore earlier (.tail _ hmem))
            (fun earlier hmem => hbefore' earlier (.tail _ hmem))

/-- An expression has one first fault at most. -/
theorem FailsFirst.unique (h : e.FailsFirst fault) (h' : e.FailsFirst other) : fault = other := by
  obtain ⟨before, first, after, hnodes, hbefore, hfails⟩ := h
  obtain ⟨before', second, after', hnodes', hbefore', hfails'⟩ := h'
  have hsame : first = second :=
    first_unique (hnodes.symm.trans hnodes') hbefore hfails.not_sound hbefore' hfails'.not_sound
  subst hsame
  exact hfails.unique hfails'

theorem FailsFirst.not_sound (h : e.FailsFirst fault) : ¬ ∀ node ∈ e.nodes, Sound node := by
  obtain ⟨before, node, after, hnodes, -, hfails⟩ := h
  intro hsound
  refine hfails.not_sound (hsound node ?_)
  rw [hnodes]
  exact List.mem_append_right before List.mem_cons_self

end

/-! ### Evaluation

By induction on the expression, with one case for a leaf and one for each number of operands. A
value comes with all nodes sound, and a fault with its node and everything before it. -/

/-- What the nodes of an expression say about its result. -/
inductive Outcome (e : SpanExpression) : Except ArithmeticFault Span → Prop where
  | span {result : Span} (value : result.value = e.value)
      (sound : ∀ node ∈ e.nodes, Sound node) : Outcome e (.ok result)
  | fault {fault : ArithmeticFault} (first : e.FailsFirst fault) : Outcome e (.error fault)

/-- Where all nodes but the last are sound, the last decides. -/
theorem outcome_of_gives {e : SpanExpression} {before : List SpanExpression}
    {result : Except ArithmeticFault Span} (hnodes : e.nodes = before ++ [e])
    (hbefore : ∀ node ∈ before, Sound node) (hgives : Span.Gives e.Undefined e.value result)
    (hfinite : result = .error .overflow →
      ∀ operand ∈ e.operands, operand.value ≠ ⊤ ∧ operand.value ≠ ⊥) :
    e.Outcome result := by
  cases hgives with
  | undefined reason => exact .fault ⟨before, e, [], hnodes, hbefore, .undefined reason⟩
  | overflow defined outside =>
      exact .fault ⟨before, e, [], hnodes, hbefore, .overflow (hfinite rfl) defined outside⟩
  | span defined value =>
      rename_i result
      refine .span value ?_
      intro node hmem
      rw [hnodes, List.mem_append, List.mem_singleton] at hmem
      rcases hmem with hmem | rfl
      · exact hbefore node hmem
      · refine ⟨defined, ?_⟩
        rw [← value]
        exact result.inRange_value

/-- A fault in the first part of the nodes is the fault of the whole expression. -/
theorem FailsFirst.of_nodes {e part : SpanExpression} {fault : ArithmeticFault}
    (before after : List SpanExpression) (h : part.FailsFirst fault)
    (hnodes : e.nodes = before ++ part.nodes ++ after) (hbefore : ∀ node ∈ before, Sound node) :
    e.FailsFirst fault := by
  obtain ⟨early, node, late, hpart, hearly, hfails⟩ := h
  refine ⟨before ++ early, node, late ++ after, ?_, ?_, hfails⟩
  · rw [hnodes, hpart]
    simp only [List.append_assoc, List.cons_append]
  · intro earlier hmem
    rcases List.mem_append.1 hmem with hmem | hmem
    · exact hbefore earlier hmem
    · exact hearly earlier hmem

/-- An expression has its exact value as a result if all its nodes are sound, and otherwise the
fault of the first that is not. -/
theorem eval_outcome (e : SpanExpression) : e.Outcome e.eval := by
  induction e with
  | leaf span =>
      refine .span rfl ?_
      intro node hmem
      rw [nodes, List.mem_singleton] at hmem
      subst hmem
      exact ⟨fun _ => id, span.inRange_value⟩
  | unary op operand ih =>
      rw [eval]
      cases heval : operand.eval with
      | error fault =>
          rw [heval] at ih
          cases ih with
          | fault first => exact .fault (first.of_nodes [] _ rfl nofun)
      | ok a =>
          rw [heval] at ih
          cases ih with
          | span value sound =>
              have hgives := op.gives a
              rw [value] at hgives
              refine outcome_of_gives rfl sound hgives ?_
              intro hoverflow part hmem
              rw [operands, List.mem_singleton] at hmem
              rw [hmem, ← value]
              exact Span.isFinite_iff.1 (UnaryOperation.isFinite_of_overflow hoverflow)
  | binary op left right ihleft ihright =>
      rw [eval]
      cases hleft : left.eval with
      | error fault =>
          rw [hleft] at ihleft
          cases ihleft with
          | fault first =>
              exact .fault (first.of_nodes [] _ (List.append_assoc _ _ _) nofun)
      | ok a =>
          rw [hleft] at ihleft
          cases ihleft with
          | span valueLeft soundLeft =>
              cases hright : right.eval with
              | error fault =>
                  rw [hright] at ihright
                  cases ihright with
                  | fault first => exact .fault (first.of_nodes _ _ rfl soundLeft)
              | ok b =>
                  rw [hright] at ihright
                  cases ihright with
                  | span valueRight soundRight =>
                      have hgives := op.gives a b
                      rw [valueLeft, valueRight] at hgives
                      refine outcome_of_gives rfl ?_ hgives ?_
                      · intro node hmem
                        rcases List.mem_append.1 hmem with hmem | hmem
                        · exact soundLeft node hmem
                        · exact soundRight node hmem
                      · intro hoverflow part hmem
                        have hfinite := BinaryOperation.isFinite_of_overflow hoverflow
                        rw [Bool.and_eq_true] at hfinite
                        rw [operands, List.mem_pair] at hmem
                        rcases hmem with rfl | rfl
                        · rw [← valueLeft]
                          exact Span.isFinite_iff.1 hfinite.1
                        · rw [← valueRight]
                          exact Span.isFinite_iff.1 hfinite.2

/-- Evaluation keeps spans finite, and an infinite span is never lost. -/
theorem isFinite_of_eval {e : SpanExpression} {result : Span} (h : e.eval = .ok result) :
    result.isFinite = e.leaves.all Span.isFinite := by
  induction e generalizing result with
  | leaf span =>
      cases h
      simp [leaves]
  | unary op operand ih =>
      rw [eval] at h
      cases hoperand : operand.eval with
      | error fault =>
          rw [hoperand] at h
          cases h
      | ok a =>
          rw [hoperand] at h
          exact (UnaryOperation.isFinite_of_run? h).trans (ih hoperand)
  | binary op left right ihleft ihright =>
      rw [eval] at h
      cases hleft : left.eval with
      | error fault =>
          rw [hleft] at h
          cases h
      | ok a =>
          rw [hleft] at h
          cases hright : right.eval with
          | error fault =>
              rw [hright] at h
              cases h
          | ok b =>
              rw [hright] at h
              rw [leaves, List.all_append, ← ihleft hleft, ← ihright hright]
              exact BinaryOperation.isFinite_of_run? h

/-! ### Sums

The leaves of an expression that only adds can be put in another order. The value stays the same,
and so does the result wherever both have one. -/

/-- The number of a sum is the sum of its spans, in whatever order they are added. -/
theorem value_of_isSum {e : SpanExpression} (h : e.IsSum) :
    e.value = (e.leaves.map Span.value).sum := by
  induction e with
  | leaf span => simp [value, leaves]
  | unary op operand => exact h.elim
  | binary op left right ihleft ihright =>
      cases op with
      | add =>
          rw [value, leaves, List.map_append, List.sum_append, ← ihleft h.1, ← ihright h.2]
          rfl
      | subtract => exact h.elim

/-! ### Results and faults

The value and the fault are read off the outcome, each with its converse. -/

variable {e : SpanExpression}

/-- A result has the exact value of the expression. -/
theorem value_of_eval {result : Span} (h : e.eval = .ok result) : result.value = e.value := by
  have houtcome := e.eval_outcome
  rw [h] at houtcome
  cases houtcome with
  | span value => exact value

/-- An expression has a result exactly if all of its nodes are sound. -/
theorem exists_eval_eq_ok_iff :
    (∃ result, e.eval = .ok result) ↔ ∀ node ∈ e.nodes, node.Sound := by
  have houtcome := e.eval_outcome
  constructor
  · intro ⟨result, heval⟩
    rw [heval] at houtcome
    cases houtcome with
    | span _ sound => exact sound
  · intro hsound
    cases heval : e.eval with
    | ok result => exact ⟨result, rfl⟩
    | error fault =>
        rw [heval] at houtcome
        cases houtcome with
        | fault first => exact absurd hsound first.not_sound

/-- An expression fails exactly with its first fault. -/
theorem eval_eq_error_iff {fault : ArithmeticFault} :
    e.eval = .error fault ↔ e.FailsFirst fault := by
  have houtcome := e.eval_outcome
  cases heval : e.eval with
  | ok result =>
      rw [heval] at houtcome
      cases houtcome with
      | span _ sound =>
          constructor
          · exact nofun
          · intro hfirst
            exact absurd sound hfirst.not_sound
  | error other =>
      rw [heval] at houtcome
      cases houtcome with
      | fault first =>
          constructor
          · intro hsame
            cases hsame
            exact first
          · intro hfirst
            rw [first.unique hfirst]

/-- An infinite result has an infinite span among the spans that it is made of. -/
theorem isFinite_eq_false_iff_of_eval {result : Span} (h : e.eval = .ok result) :
    result.isFinite = false ↔ ∃ span ∈ e.leaves, span.isFinite = false := by
  rw [isFinite_of_eval h, List.all_eq_false]
  simp only [Bool.not_eq_true]

/-- Two sums of the same spans have the same result where they have one. -/
theorem eval_of_perm {other : SpanExpression} (hsum : e.IsSum) (hsum' : other.IsSum)
    (hperm : e.leaves.Perm other.leaves) {first second : Span} (hfirst : e.eval = .ok first)
    (hsecond : other.eval = .ok second) : first = second := by
  apply Span.value_injective
  calc first.value
      = e.value := value_of_eval hfirst
    _ = (e.leaves.map Span.value).sum := value_of_isSum hsum
    _ = (other.leaves.map Span.value).sum := (hperm.map Span.value).sum_eq
    _ = other.value := (value_of_isSum hsum').symm
    _ = second.value := (value_of_eval hsecond).symm

/-- Span arithmetic is exact arithmetic on numbers and two infinities, over whole expressions. An
expression has a result if and only if every node is defined and every finite node fits a count. The
result then is the exact number, and infinite only if one of the spans is. A fault is that of the
first node that is undefined or does not fit. Two sums of the same spans that both have a result have
the same, in whatever order and with whatever brackets they add. -/
theorem eval_is_exact (e : SpanExpression) :
    ((∃ result, e.eval = .ok result) ↔ ∀ node ∈ e.nodes, node.Sound) ∧
    (∀ result, e.eval = .ok result → result.value = e.value ∧
      (result.isFinite = false ↔ ∃ span ∈ e.leaves, span.isFinite = false)) ∧
    (∀ fault, e.eval = .error fault ↔ e.FailsFirst fault) ∧
    (∀ other : SpanExpression, e.IsSum → other.IsSum → e.leaves.Perm other.leaves →
      ∀ first second, e.eval = .ok first → other.eval = .ok second → first = second) := by
  refine ⟨exists_eval_eq_ok_iff, ?_, fun _ => eval_eq_error_iff, ?_⟩
  · intro result heval
    exact ⟨value_of_eval heval, isFinite_eq_false_iff_of_eval heval⟩
  · intro other hsum hsum' hperm first second
    exact eval_of_perm hsum hsum' hperm

/-- Brackets can decide whether there is a result. -/
example :
    let greatest := leaf (.finite ⟨Count.greatest, by decide⟩)
    let one := leaf (.finite ⟨1, by decide⟩)
    let minusOne := leaf (.finite ⟨-1, by decide⟩)
    (binary .add (binary .add greatest one) minusOne).eval = .error .overflow ∧
      (binary .add greatest (binary .add one minusOne)).eval = greatest.eval := by
  decide

end SpanExpression

end UtcTime
