import Bastion.Failure

set_option autoImplicit false

/- Programs that call on the outside world, as trees: after each call there is a branch for every
answer it may have, failures among them, and so there is after each log line. What a program would do in
any world at all is in the tree; a handler for its calls runs it in one world. -/
namespace Bastion

inductive LogLevel where
  | debug
  | info
  deriving DecidableEq, Repr

structure LogLine where
  level : LogLevel
  text : String
  deriving DecidableEq, Repr

/-- Where log lines are shown: a line that cannot be is refused, with the message of an error. -/
structure Journal where
  refusal? : LogLine → Option String

namespace Journal

/-- Shows no line, and so refuses none. -/
def silent : Journal := ⟨fun _ => none⟩

def Takes (journal : Journal) (line : LogLine) : Prop := journal.refusal? line = none

def take (journal : Journal) (line : LogLine) : Except Failure Unit :=
  match journal.refusal? line with
  | none => .ok ()
  | some message => .error (.unrendered message)

end Journal

/-- The calls that a program may make, and what each is answered with. -/
structure Signature where
  Op : Type
  Answer : Op → Type

inductive Program (S : Signature) (α : Type) where
  | done (value : α)
  | fail (failure : Failure)
  | log (line : LogLine) (next : Except Failure Unit → Program S α)
  | call (op : S.Op) (next : Except Failure (S.Answer op) → Program S α)

namespace Program

variable {S T : Signature} {α β : Type}

def bind (program : Program S α) (next : α → Program S β) : Program S β :=
  match program with
  | .done value => next value
  | .fail failure => .fail failure
  | .log line rest => .log line fun answer => (rest answer).bind next
  | .call op rest => .call op fun answer => (rest answer).bind next

instance : Monad (Program S) where
  pure := .done
  bind := bind

/-- Goes on with `handle` where the program fails. -/
def recover (program : Program S α) (handle : Failure → Program S α) : Program S α :=
  match program with
  | .done value => .done value
  | .fail failure => handle failure
  | .log line rest => .log line fun answer => (rest answer).recover handle
  | .call op rest => .call op fun answer => (rest answer).recover handle

/-- Makes a failure the value of the program. -/
def attempt (program : Program S α) : Program S (Except Failure α) :=
  match program with
  | .done value => .done (.ok value)
  | .fail failure => .done (.error failure)
  | .log line rest => .log line fun answer => (rest answer).attempt
  | .call op rest => .call op fun answer => (rest answer).attempt

def ofExcept : Except Failure α → Program S α
  | .ok value => .done value
  | .error failure => .fail failure

/-- One call, failing where it fails. -/
def perform (op : S.Op) : Program S (S.Answer op) := .call op ofExcept

def debug (text : String) : Program S Unit := .log ⟨.debug, text⟩ ofExcept

def info (text : String) : Program S Unit := .log ⟨.info, text⟩ ofExcept

/-- The program with its log lines shown in a journal: a line that is refused fails. -/
def loggedTo (journal : Journal) : Program S α → Program S α
  | .done value => .done value
  | .fail failure => .fail failure
  | .log line rest => .log line fun _ => (rest (journal.take line)).loggedTo journal
  | .call op rest => .call op fun answer => (rest answer).loggedTo journal

/-- Tells what was being done when the program fails. -/
def during (operation resource : String) (program : Program S α) : Program S α :=
  program.recover fun failure => .fail (failure.during operation resource)

/-- Carries out every call by a program that calls on something else. -/
def callsBy (carryOut : (op : S.Op) → Program T (S.Answer op)) : Program S α → Program T α
  | .done value => .done value
  | .fail failure => .fail failure
  | .log line rest => .log line fun answer => (rest answer).callsBy carryOut
  | .call op rest => (carryOut op).attempt.bind fun answer => (rest answer).callsBy carryOut

end Program

/-- What comes of one call: its answer, the world after it, and what was logged. -/
structure Step (σ α : Type) where
  answer : Except Failure α
  state : σ
  log : List LogLine

/-- A world with states of type `σ` that answers the calls of a signature. -/
abbrev Handler (S : Signature) (σ : Type) := (op : S.Op) → σ → Step σ (S.Answer op)

/-- What comes of running a program: its result, the world after it, and the calls and log lines in
their order. -/
structure Run (S : Signature) (σ α : Type) where
  result : Except Failure α
  state : σ
  calls : List S.Op
  log : List LogLine

/-- Runs a program. What a journal refuses is told by `loggedTo`; by itself a line is logged and no more. -/
def Program.run {S : Signature} {σ α : Type} (handler : Handler S σ) :
    Program S α → σ → Run S σ α
  | .done value, state => ⟨.ok value, state, [], []⟩
  | .fail failure, state => ⟨.error failure, state, [], []⟩
  | .log line rest, state =>
    let run := (rest (.ok ())).run handler state
    { run with log := line :: run.log }
  | .call op rest, state =>
    let step := handler op state
    let run := (rest step.answer).run handler step.state
    { run with calls := op :: run.calls, log := step.log ++ run.log }

end Bastion
