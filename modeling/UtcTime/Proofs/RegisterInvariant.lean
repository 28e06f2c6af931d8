/-
Module: UtcTime.Proofs.RegisterInvariant
Purpose: Two registers, one for a span and one for a stored instant, and every way to give either of
  them a new value. Whatever is done to them, the instant stays finite and at or after the epoch, so
  nothing goes wrong when it is read, and a failed update changes nothing. A session is such a pair of
  registers.
Trusted boundary: none
Main exports: Registers, InstantSource, SpanSource, Update, Update.perform, Registers.after,
  Registers.Reachable, Update.unchanged_of_error, Update.perform_registers, Registers.valid_after,
  Session.registers_runAll, Registers.reachable_is_reliable
-/
import UtcTime.Proofs.StoredInstant
import UtcTime.Session

namespace UtcTime

/-- A span and a stored instant to work on. Nothing says that the instant is valid. -/
structure Registers where
  span : Span
  instant : StoredInstant
deriving DecidableEq

/-- Where a new instant comes from. A shift that checks its result has a fault of its own, and a
shift by an operator has that of the operation; an operator that assigns is the operator and then the
assignment. A template that is left out is the standard one. -/
inductive InstantSource where
  | ofSpan (operand : Operand)
  | ofNanos (nanos : Int)
  | ofDateTime (time : DateTime)
  | read (text : String) (template : Option String)
  /-- Formats the instant at hand, and reads it back by the same template. -/
  | reread (template : Option String)
  | ofJson (json : Json)
  | ofClockTime (time : ClockTime)
  | later (operand : Operand)
  | earlier (operand : Operand)
  | plus (operand : Operand)
  | minus (operand : Operand)

/-- Where a new span comes from. The other instant of a difference has a source of its own. -/
inductive SpanSource where
  | set (operand : Operand)
  | plus (operand : Operand)
  | minus (operand : Operand)
  | opposite
  | times (factor : Int)
  | dividedBy (divisor : Int)
  | mulFloat (factor : Float)
  | divFloat (divisor : Float)
  /-- The time from another instant to the one at hand. -/
  | since (earlier : InstantSource)
  /-- The time from the instant at hand to another. -/
  | timeTo (later : InstantSource)
  | sinceEpoch

/-- A new value for one of the registers. -/
inductive Update where
  | setSpan (source : SpanSource)
  | setInstant (source : InstantSource)

/-- Why an update failed: as a command does, or for the form of a JSON value. -/
inductive UpdateFault where
  | session (fault : SessionFault)
  | form (fault : FormFault)

namespace UpdateFault

def ofFault (fault : Fault) : UpdateFault := session (.fault fault)

def ofArithmetic (fault : ArithmeticFault) : UpdateFault := ofFault (.arithmetic fault)

def ofOperation (fault : OperationFault) : UpdateFault := session (.operation fault)

end UpdateFault

/-- The span that an operand stands for. -/
def Registers.operand (registers : Registers) : Operand → Span
  | .given span => span
  | .current => registers.span

/-- The stored instant of a source. -/
def InstantSource.value? (source : InstantSource) (registers : Registers) :
    Except UpdateFault StoredInstant :=
  match source with
  | .ofSpan operand =>
      (StoredInstant.ofSpan? (registers.operand operand)).mapError .ofArithmetic
  | .ofNanos nanos => (StoredInstant.ofNanos? nanos).mapError .ofArithmetic
  | .ofDateTime time => (StoredInstant.ofDateTime? time).mapError .ofArithmetic
  | .read text template =>
      (InstantTemplate.ofOption? template >>= fun template =>
        StoredInstant.read? template text).mapError .ofFault
  | .reread template =>
      (InstantTemplate.ofOption? template >>= fun template =>
        StoredInstant.read? template (registers.instant.format template)).mapError .ofFault
  | .ofJson json => (StoredInstant.ofJson? json).mapError .form
  | .ofClockTime time => (StoredInstant.ofClockTime? time).mapError .ofArithmetic
  | .later operand =>
      (registers.instant.add? (registers.operand operand)).mapError .ofArithmetic
  | .earlier operand =>
      (registers.instant.sub? (registers.operand operand)).mapError .ofArithmetic
  | .plus operand => (registers.instant.plus (registers.operand operand)).mapError .ofOperation
  | .minus operand => (registers.instant.minus (registers.operand operand)).mapError .ofOperation

/-- The span of a source. -/
def SpanSource.value? (source : SpanSource) (registers : Registers) : Except UpdateFault Span :=
  match source with
  | .set operand => .ok (registers.operand operand)
  | .plus operand => (registers.span.plus (registers.operand operand)).mapError .ofOperation
  | .minus operand => (registers.span.minus (registers.operand operand)).mapError .ofOperation
  | .opposite => registers.span.opposite.mapError .ofOperation
  | .times factor => (registers.span.times factor).mapError .ofOperation
  | .dividedBy divisor => (registers.span.dividedBy divisor).mapError .ofOperation
  | .mulFloat factor => (registers.span.mulFloat? factor).mapError .ofArithmetic
  | .divFloat divisor => (registers.span.divFloat? divisor).mapError .ofArithmetic
  | .since earlier => (earlier.value? registers).map registers.instant.since
  | .timeTo later => (later.value? registers).map (·.since registers.instant)
  | .sinceEpoch => .ok registers.instant.sinceEpoch

namespace Update

/-- Computes a value and then puts it in place. A fault leaves the registers as they are at the
time. -/
def assign {α : Type} (value? : Registers → Except UpdateFault α)
    (put : Registers → α → Registers) : EStateM UpdateFault Registers Unit := do
  let value ← MonadExcept.ofExcept (value? (← get))
  modify (put · value)

/-- Carries out an update. -/
def perform : Update → EStateM UpdateFault Registers Unit
  | .setSpan source => assign source.value? fun registers span => { registers with span }
  | .setInstant source => assign source.value? fun registers instant => { registers with instant }

end Update

namespace Registers

/-- What is in the registers after an update, failed or not. -/
def advance (registers : Registers) (update : Update) : Registers :=
  match update.perform registers with
  | .ok _ after | .error _ after => after

/-- What is in the registers after a run of updates, some of which may have failed. -/
def after (registers : Registers) (updates : List Update) : Registers :=
  updates.foldl advance registers

/-- A run that starts at any span and any valid instant leads to these registers. -/
def Reachable (registers : Registers) : Prop :=
  ∃ (start : Registers) (updates : List Update),
    start.instant.Valid ∧ start.after updates = registers

end Registers

/-! ### Sources in a session

The same sources, by the operations on instants that carry their bounds with them. -/

namespace Session

/-- A session as it is stored. -/
def registers (session : Session) : Registers := ⟨session.span, session.instant.stored⟩

theorem operand_registers (session : Session) (operand : Operand) :
    session.registers.operand operand = session.operand operand := by
  cases operand <;> rfl

end Session

/-- The instant of the registers is valid exactly if they are those of a session. -/
theorem Registers.valid_iff {registers : Registers} :
    registers.instant.Valid ↔ ∃ session : Session, registers = session.registers := by
  rw [StoredInstant.valid_iff]
  constructor
  · rintro ⟨t, ht⟩
    exact ⟨⟨registers.span, t⟩, by rw [Session.registers, ← ht]⟩
  · rintro ⟨session, rfl⟩
    exact ⟨session.instant, rfl⟩

/-- The instant of a source. -/
def InstantSource.instant? (source : InstantSource) (session : Session) :
    Except UpdateFault Instant :=
  match source with
  | .ofSpan operand => (Instant.ofSpan? (session.operand operand)).mapError .ofArithmetic
  | .ofNanos nanos => (Instant.ofNanos? nanos).mapError .ofArithmetic
  | .ofDateTime time => (Instant.ofDateTime? time).mapError .ofArithmetic
  | .read text template =>
      (InstantTemplate.ofOption? template >>= fun template =>
        template.read? text).mapError .ofFault
  | .reread template =>
      (InstantTemplate.ofOption? template >>= fun template =>
        template.read? (session.instant.format template)).mapError .ofFault
  | .ofJson json => (Instant.ofJson? json).mapError .form
  | .ofClockTime time => (Instant.ofClockTime? time).mapError .ofArithmetic
  | .later operand => (session.instant.add? (session.operand operand)).mapError .ofArithmetic
  | .earlier operand => (session.instant.sub? (session.operand operand)).mapError .ofArithmetic
  | .plus operand => (session.instant.plus (session.operand operand)).mapError .ofOperation
  | .minus operand => (session.instant.minus (session.operand operand)).mapError .ofOperation

/-- The span of a source, where the differences are those of instants. -/
def SpanSource.span? (source : SpanSource) (session : Session) : Except UpdateFault Span :=
  match source with
  | .since earlier => (earlier.instant? session).map session.instant.since
  | .timeTo later => (later.instant? session).map (·.since session.instant)
  | source => source.value? session.registers

section

open StoredInstant

variable (session : Session)

/-- In the registers of a session, a source gives the stored form of the instant that it gives in the
session. -/
theorem InstantSource.value?_registers (source : InstantSource) :
    source.value? session.registers = (source.instant? session).map Instant.stored := by
  cases source with
  | ofSpan operand =>
      rw [value?, instant?, map_mapError, ofSpan?_eq_map, session.operand_registers]
  | ofNanos nanos => rw [value?, instant?, map_mapError, ofNanos?_eq_map]
  | ofDateTime time => rw [value?, instant?, map_mapError, ofDateTime?_eq_map]
  | read text template =>
      rw [value?, instant?, map_mapError, bind_eq_map fun template => read?_eq_map template text]
  | reread template =>
      rw [value?, instant?, map_mapError, bind_eq_map]
      intro template
      rw [Session.registers, format_stored, read?_eq_map]
  | ofJson json => rw [value?, instant?, map_mapError, ofJson?_eq_map]
  | ofClockTime time => rw [value?, instant?, map_mapError, ofClockTime?_eq_map]
  | later operand =>
      rw [value?, instant?, map_mapError, session.operand_registers, ← add?_stored]
      rfl
  | earlier operand =>
      rw [value?, instant?, map_mapError, session.operand_registers, ← sub?_stored]
      rfl
  | plus operand =>
      rw [value?, instant?, map_mapError, session.operand_registers, ← plus_stored]
      rfl
  | minus operand =>
      rw [value?, instant?, map_mapError, session.operand_registers, ← minus_stored]
      rfl

/-- In the registers of a session, a source gives the span that it gives in the session. -/
theorem SpanSource.value?_registers (source : SpanSource) :
    source.value? session.registers = source.span? session := by
  cases source with
  | since earlier =>
      rw [value?, span?, earlier.value?_registers]
      cases earlier.instant? session with
      | error fault => rfl
      | ok t => exact congrArg Except.ok (since_stored session.instant t)
  | timeTo later =>
      rw [value?, span?, later.value?_registers]
      cases later.instant? session with
      | error fault => rfl
      | ok t => exact congrArg Except.ok (since_stored t session.instant)
  | _ => rfl

end

/-! ### One update

An update computes a value and then puts it into its register. The registers of a session stay those
of a session, whatever the update. -/

namespace Update

section

variable {α : Type} {value? : Registers → Except UpdateFault α} {put : Registers → α → Registers}
variable {registers last : Registers} {fault : UpdateFault}

/-- A value that could not be computed is not put anywhere. -/
theorem assign_eq : assign value? put registers =
    match value? registers with
    | .ok value => .ok () (put registers value)
    | .error fault => .error fault registers := by
  change EStateM.bind (MonadExcept.ofExcept (value? registers)) _ registers = _
  cases value? registers <;> rfl

theorem unchanged_of_assign (h : assign value? put registers = .error fault last) :
    last = registers := by
  rw [assign_eq] at h
  cases hvalue : value? registers with
  | error _ =>
      rw [hvalue] at h
      cases h
      rfl
  | ok _ =>
      rw [hvalue] at h
      cases h

/-- A failed update leaves both registers as they were. -/
theorem unchanged_of_error {update : Update} (h : update.perform registers = .error fault last) :
    last = registers := by
  cases update with
  | setSpan source => exact unchanged_of_assign h
  | setInstant source => exact unchanged_of_assign h

end

/-- The session after an update. -/
def run? (update : Update) (session : Session) : Except UpdateFault Session :=
  match update with
  | .setSpan source => (source.span? session).map fun span => { session with span }
  | .setInstant source => (source.instant? session).map fun instant => { session with instant }

/-- An update does to the registers of a session what it does to the session. -/
theorem perform_registers (update : Update) (session : Session) :
    update.perform session.registers =
      match update.run? session with
      | .ok next => .ok () next.registers
      | .error fault => .error fault session.registers := by
  cases update with
  | setSpan source =>
      rw [perform, assign_eq, source.value?_registers, run?]
      cases source.span? session <;> rfl
  | setInstant source =>
      rw [perform, assign_eq, source.value?_registers, run?]
      cases source.instant? session <;> rfl

end Update

namespace Registers

/-- An update leaves a valid instant valid. -/
theorem valid_advance {registers : Registers} (hvalid : registers.instant.Valid)
    (update : Update) : (registers.advance update).instant.Valid := by
  obtain ⟨session, rfl⟩ := valid_iff.1 hvalid
  rw [advance, update.perform_registers]
  cases update.run? session with
  | error fault => exact hvalid
  | ok next => exact valid_iff.2 ⟨next, rfl⟩

/-! ### A run of updates

By induction on the updates, from what one of them preserves. -/

/-- A run of updates leaves a valid instant valid. -/
theorem valid_after {registers : Registers} (hvalid : registers.instant.Valid)
    (updates : List Update) : (registers.after updates).instant.Valid := by
  induction updates generalizing registers with
  | nil => exact hvalid
  | cons update updates ih => exact ih (valid_advance hvalid update)

/-- What can be reached is a stored session. -/
theorem Reachable.exists_session {registers : Registers} (h : registers.Reachable) :
    ∃ session : Session, registers = session.registers := by
  obtain ⟨start, updates, hvalid, rfl⟩ := h
  exact valid_iff.1 (valid_after hvalid updates)

end Registers

/-! ### A run of commands

The commands of a session are updates of its registers, but for those that only write a text. A
record of commands ends where the run of their updates ends. -/

/-- The update that a command makes, unless it only writes a text. -/
def Command.update? : Command → Option Update
  | .setSpan operand => some (.setSpan (.set operand))
  | .addSpan operand => some (.setSpan (.plus operand))
  | .subtractSpan operand => some (.setSpan (.minus operand))
  | .negateSpan => some (.setSpan .opposite)
  | .multiplySpan factor => some (.setSpan (.times factor))
  | .divideSpan divisor => some (.setSpan (.dividedBy divisor))
  | .multiplySpanByFloat factor => some (.setSpan (.mulFloat factor))
  | .divideSpanByFloat divisor => some (.setSpan (.divFloat divisor))
  | .measureSince nanos => some (.setSpan (.since (.ofNanos nanos)))
  | .measureSinceEpoch => some (.setSpan .sinceEpoch)
  | .formatSpan .. => none
  | .addToInstant operand => some (.setInstant (.plus operand))
  | .subtractFromInstant operand => some (.setInstant (.minus operand))
  | .setInstantFromSpan => some (.setInstant (.ofSpan .current))
  | .readInstant text template => some (.setInstant (.read text template))
  | .formatInstant _ => none
  | .reformatInstant template => some (.setInstant (.reread template))

namespace Session

/-- What is left of a session after a record of commands. -/
def last (session : Session) (entries : List Entry) : Session :=
  entries.foldl (fun _ entry => entry.session) session

variable (session : Session)

section

variable {ε : Type} (toFault : ε → SessionFault)

theorem map_session_withSpan (result : Except ε Span) :
    ((session.withSpan toFault result).map Outcome.session).mapError .session =
      (result.mapError fun fault => UpdateFault.session (toFault fault)).map
        fun span => { session with span } := by
  cases result <;> rfl

theorem map_session_withInstant (result : Except ε Instant) :
    ((session.withInstant toFault result).map Outcome.session).mapError .session =
      (result.mapError fun fault => UpdateFault.session (toFault fault)).map
        fun instant => { session with instant } := by
  cases result <;> rfl

end

/-- A command does to a session what its update does, with the same fault. -/
theorem run_update {command : Command} {update : Update} (h : command.update? = some update) :
    ((session.run command).map Outcome.session).mapError .session = update.run? session := by
  cases command with
  | setSpan operand =>
      cases h
      cases operand <;> rfl
  | addSpan operand =>
      cases h
      rw [run, map_session_withSpan, ← operand_registers]
      rfl
  | subtractSpan operand =>
      cases h
      rw [run, map_session_withSpan, ← operand_registers]
      rfl
  | negateSpan | multiplySpan | divideSpan | multiplySpanByFloat | divideSpanByFloat =>
      cases h
      rw [run, map_session_withSpan]
      rfl
  | measureSince nanos =>
      cases h
      rw [run, map_session_withSpan, Update.run?, SpanSource.span?, InstantSource.instant?]
      cases Instant.ofNanos? nanos <;> rfl
  | measureSinceEpoch =>
      cases h
      rfl
  | addToInstant | subtractFromInstant | setInstantFromSpan | readInstant =>
      cases h
      rw [run, map_session_withInstant]
      rfl
  | reformatInstant template =>
      cases h
      rw [run, Update.run?, InstantSource.instant?]
      cases InstantTemplate.ofOption? template with
      | error fault => rfl
      | ok template =>
          change _ = ((template.read? (session.instant.format template)).mapError _).map _
          dsimp only
          cases template.read? (session.instant.format template) <;> rfl
  | formatSpan | formatInstant => cases h

/-- A command that makes no update leaves the session as it is. -/
theorem advance_of_update?_eq_none {command : Command} (h : command.update? = none) :
    (session.advance command).session = session := by
  cases command with
  | formatSpan template infinite =>
      rw [advance, run]
      cases SpanTemplate.ofOptions? template infinite <;> rfl
  | formatInstant template =>
      rw [advance, run]
      cases InstantTemplate.ofOption? template <;> rfl
  | _ => cases h

/-- A command does to the registers of a session what its update does. -/
theorem registers_advance (command : Command) :
    (session.advance command).session.registers =
      session.registers.after command.update?.toList := by
  cases hupdate : command.update? with
  | none =>
      rw [advance_of_update?_eq_none session hupdate]
      rfl
  | some update =>
      change _ = session.registers.advance update
      rw [Registers.advance, update.perform_registers, ← session.run_update hupdate, advance]
      cases session.run command <;> rfl

/-- A run of commands on a session is a run of updates on its registers. -/
theorem registers_runAll (commands : List Command) :
    (session.last (session.runAll commands)).registers =
      session.registers.after (commands.filterMap Command.update?) := by
  induction commands generalizing session with
  | nil => rfl
  | cons command commands ih =>
      change ((session.advance command).session.last _).registers = _
      rw [ih, registers_advance, List.filterMap_cons]
      cases command.update? <;> rfl

end Session

namespace Registers

/-- In every state that a run of updates reaches from a valid one, whether or not some of them fail, the
instant is valid and nothing goes wrong when it is read: the default for an infinite span is not
used, the changes of sign change nothing, and its date and time is one of the years 1970 to 2262. The
difference of two such instants fits 64 bits and is exact. A failed update leaves both registers as
they were. All of this is a session as it is stored: updates do to its registers what they do to the
session, what is read off is the same, and a run of commands is one of these runs. -/
theorem reachable_is_reliable :
    (∀ registers : Registers, registers.Reachable →
      registers.instant.Valid ∧ registers.instant.Reliable) ∧
    (∀ first second : Registers, first.Reachable → second.Reachable →
      let difference := first.instant.nanos - second.instant.nanos
      Count.Fits difference ∧ (first.instant.since second.instant).nanos? = some difference) ∧
    (∀ (registers last : Registers) (update : Update) (fault : UpdateFault),
      update.perform registers = .error fault last → last = registers) ∧
    (∀ (session : Session) (update : Update), update.perform session.registers =
      match update.run? session with
      | .ok next => .ok () next.registers
      | .error fault => .error fault session.registers) ∧
    (∀ (session : Session) (template : InstantTemplate),
      session.registers.instant.toDateTime = session.instant.toDateTime ∧
        session.registers.instant.format template = session.instant.format template) ∧
    ∀ (session : Session) (commands : List Command),
      (session.last (session.runAll commands)).registers =
        session.registers.after (commands.filterMap Command.update?) := by
  refine ⟨?_, ?_, ?_, ?_, ?_, Session.registers_runAll⟩
  · intro registers h
    obtain ⟨session, rfl⟩ := h.exists_session
    exact ⟨valid_iff.2 ⟨session, rfl⟩, StoredInstant.reliable_stored session.instant⟩
  · intro first second h h'
    obtain ⟨session, rfl⟩ := h.exists_session
    obtain ⟨session', rfl⟩ := h'.exists_session
    refine ⟨StoredInstant.fits_nanos_sub session.instant session'.instant, ?_⟩
    exact congrArg Span.nanos? (StoredInstant.since_stored session.instant session'.instant)
  · intro registers last update fault
    exact Update.unchanged_of_error
  · intro session update
    exact update.perform_registers session
  · intro session template
    exact ⟨StoredInstant.toDateTime_stored session.instant,
      StoredInstant.format_stored session.instant template⟩

end Registers

end UtcTime
