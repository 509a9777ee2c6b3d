import MagnetStream.Failure
import MagnetStream.Log.Event

/-!
# Dialogues

A dialogue is a program that does nothing by itself: it asks questions one at a time, goes on
depending on the answers, notes log events, and ends with a value or a failure. Who answers decides
where the dialogue takes place. A dialogue is a finite tree, so a law about all its runs is proved
by induction on it.
-/

namespace MagnetStream

/-- A program that asks questions and ends with a value or a failure. -/
inductive Dialogue (Question : Type) (Answer : Question → Type) (α : Type) where
  | done (result : Except Failure α)
  | note (event : Log.Event) (next : Dialogue Question Answer α)
  | ask (question : Question) (next : Answer question → Dialogue Question Answer α)

namespace Dialogue

variable {Question : Type} {Answer : Question → Type} {α β : Type}

/-- Goes on with the value of a dialogue; a failure ends both. -/
def bind : Dialogue Question Answer α → (α → Dialogue Question Answer β) →
    Dialogue Question Answer β
  | done (.ok value), next => next value
  | done (.error failure), _ => done (.error failure)
  | note event rest, next => note event (bind rest next)
  | ask question rest, next => ask question fun answer => bind (rest answer) next

instance : Monad (Dialogue Question Answer) where
  pure value := done (.ok value)
  bind := bind

def fail (failure : Failure) : Dialogue Question Answer α := done (.error failure)

def lift (result : Except Failure α) : Dialogue Question Answer α := done result

def query (question : Question) : Dialogue Question Answer (Answer question) :=
  ask question fun answer => done (.ok answer)

def log (level : Log.Level) (name : String) (fields : List (String × Json)) :
    Dialogue Question Answer Unit :=
  note ⟨level, name, fields⟩ (done (.ok ()))

/-- The result of a dialogue as a value, so that a failure can be dealt with. -/
def attempt : Dialogue Question Answer α → Dialogue Question Answer (Except Failure α)
  | done result => done (.ok result)
  | note event rest => note event (attempt rest)
  | ask question rest => ask question fun answer => attempt (rest answer)

/-- Holds a dialogue elsewhere: each of its questions is answered by a dialogue of other questions.
-/
def through {Other : Type} {Reply : Other → Type}
    (answer : (question : Question) → Dialogue Other Reply (Answer question)) :
    Dialogue Question Answer α → Dialogue Other Reply α
  | done result => done result
  | note event rest => note event (through answer rest)
  | ask question rest => bind (answer question) fun given => through answer (rest given)

end Dialogue

/-- Someone who answers questions out of a state, leaving marks of what was done in a trace. -/
structure Responder (Question : Type) (Answer : Question → Type) (State Mark : Type) where
  answer : (question : Question) → State → Answer question × State × List Mark
  noted : Log.Event → Mark

/-- What is left of a dialogue that took place. -/
structure Run (State Mark α : Type) where
  result : Except Failure α
  state : State
  trace : List Mark

/-- Lets a dialogue take place. -/
def Dialogue.run {Question : Type} {Answer : Question → Type} {State Mark α : Type}
    (responder : Responder Question Answer State Mark) :
    Dialogue Question Answer α → State → Run State Mark α
  | done result, state => ⟨result, state, []⟩
  | note event rest, state =>
    let run := rest.run responder state
    { run with trace := responder.noted event :: run.trace }
  | ask question rest, state =>
    let (answer, state, marks) := responder.answer question state
    let run := (rest answer).run responder state
    { run with trace := marks ++ run.trace }

end MagnetStream
