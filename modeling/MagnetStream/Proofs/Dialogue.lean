import MagnetStream.Dialogue

/-!
# Runs of dialogues

How the run of a dialogue is put together from the runs of its parts (`Dialogue.run_bind`,
`Dialogue.run_attempt`), and what can be said of a dialogue whoever answers:
`Dialogue.Ensures asks gives` holds when every question that may come up satisfies `asks` and every
value that may come out satisfies `gives`. `Dialogue.Ensures.trace` and `Dialogue.Ensures.state`
carry such a law over to the marks and to the final state of every run.
`Dialogue.Brings given holds` speaks of failures as well: every result satisfies `holds`, as long as
the answers are as `given` says (`Dialogue.Brings.result`). `Run.Mirrors` compares two runs.
-/

namespace MagnetStream

/-- Goes on after a run. A failure ends it, with the state and the trace that it left. -/
def Run.andThen {State Mark α β : Type} (run : Run State Mark α)
    (next : α → State → Run State Mark β) : Run State Mark β :=
  match run.result with
  | .ok value =>
    let rest := next value run.state
    ⟨rest.result, rest.state, run.trace ++ rest.trace⟩
  | .error failure => ⟨.error failure, run.state, run.trace⟩

namespace Run

variable {State Mark α β : Type}

@[simp] theorem andThen_ok (value : α) (state : State) (trace : List Mark)
    (next : α → State → Run State Mark β) :
    (⟨.ok value, state, trace⟩ : Run State Mark α).andThen next =
      ⟨(next value state).result, (next value state).state,
        trace ++ (next value state).trace⟩ := rfl

@[simp] theorem andThen_error (failure : Failure) (state : State) (trace : List Mark)
    (next : α → State → Run State Mark β) :
    (⟨.error failure, state, trace⟩ : Run State Mark α).andThen next =
      ⟨.error failure, state, trace⟩ := rfl

/-- One run mirrors another: it has the same result, a final state that is the image of the other
one, and the same marks under other names. -/
structure Mirrors (image : State → State → Prop) (renamed : Mark → Mark)
    (run other : Run State Mark α) : Prop where
  result : other.result = run.result
  state : image run.state other.state
  trace : other.trace = run.trace.map renamed

/-- What someone gives for an answer mirrors what someone else gives. -/
structure AnswerMirrors (image : State → State → Prop) (renamed : Mark → Mark)
    (given other : α × State × List Mark) : Prop where
  answer : other.1 = given.1
  state : image given.2.1 other.2.1
  marks : other.2.2 = given.2.2.map renamed

/-- If what follows equal answers is mirrored, what follows mirrored answers is. -/
theorem AnswerMirrors.ask {image : State → State → Prop} {renamed : Mark → Mark}
    {given other : α × State × List Mark} (h : AnswerMirrors image renamed given other)
    {run after : α → State → Run State Mark β}
    (hrun : ∀ value, Mirrors image renamed (run value given.2.1) (after value other.2.1)) :
    Mirrors image renamed
      ⟨(run given.1 given.2.1).result, (run given.1 given.2.1).state,
        given.2.2 ++ (run given.1 given.2.1).trace⟩
      ⟨(after other.1 other.2.1).result, (after other.1 other.2.1).state,
        other.2.2 ++ (after other.1 other.2.1).trace⟩ := by
  rw [h.answer, h.marks]
  have hvalue := hrun given.1
  exact ⟨hvalue.result, hvalue.state, by rw [hvalue.trace, List.map_append]⟩

end Run

namespace Dialogue

variable {Question : Type} {Answer : Question → Type} {State Mark α β : Type}

/-! ## The run of a part -/

section Running

variable (responder : Responder Question Answer State Mark)

@[simp] theorem run_lift (result : Except Failure α) (state : State) :
    (lift result : Dialogue Question Answer α).run responder state = ⟨result, state, []⟩ := rfl

theorem run_ask (question : Question) (next : Answer question → Dialogue Question Answer α)
    (state : State) :
    (ask question next).run responder state =
      let (answer, state, marks) := responder.answer question state
      ⟨((next answer).run responder state).result, ((next answer).run responder state).state,
        marks ++ ((next answer).run responder state).trace⟩ := rfl

/-- Two dialogues one after the other run one after the other. -/
@[simp] theorem run_bind (dialogue : Dialogue Question Answer α)
    (next : α → Dialogue Question Answer β) (state : State) :
    (dialogue >>= next).run responder state =
      (dialogue.run responder state).andThen fun value state =>
        (next value).run responder state := by
  show (bind dialogue next).run responder state = _
  induction dialogue generalizing state with
  | done result => cases result <;> simp [bind, run, Run.andThen]
  | note event rest ih =>
    simp only [bind, run, ih, Run.andThen]
    split <;> rfl
  | ask question rest ih =>
    simp only [bind, run, ih, Run.andThen]
    split <;> simp

/-- An attempt runs like what it attempts, and has its result as a value. -/
@[simp] theorem run_attempt (dialogue : Dialogue Question Answer α) (state : State) :
    dialogue.attempt.run responder state =
      ⟨.ok (dialogue.run responder state).result, (dialogue.run responder state).state,
        (dialogue.run responder state).trace⟩ := by
  induction dialogue generalizing state with
  | done result => rfl
  | note event rest ih => simp only [attempt, run, ih]
  | ask question rest ih => simp only [attempt, run, ih]

end Running

/-! ## What holds whoever answers -/

/-- Every question that may come up satisfies `asks`, and every value that may come out satisfies
`gives`. -/
def Ensures (asks : Question → Prop) (gives : α → Prop) : Dialogue Question Answer α → Prop
  | done (.ok value) => gives value
  | done (.error _) => True
  | note _ rest => Ensures asks gives rest
  | ask question rest => asks question ∧ ∀ answer, Ensures asks gives (rest answer)

namespace Ensures

variable {asks : Question → Prop} {gives : α → Prop} {later : β → Prop}

theorem pure {value : α} (h : gives value) :
    Ensures asks gives (Pure.pure value : Dialogue Question Answer α) := h

theorem fail (failure : Failure) :
    Ensures asks gives (Dialogue.fail failure : Dialogue Question Answer α) := trivial

theorem log (level : Log.Level) (name : String) (fields : List (String × Json)) :
    Ensures asks (fun _ => True) (Dialogue.log level name fields : Dialogue Question Answer Unit) :=
  trivial

theorem lift {result : Except Failure α} (h : ∀ value, result = .ok value → gives value) :
    Ensures asks gives (Dialogue.lift result : Dialogue Question Answer α) := by
  cases result with
  | ok value => exact h value rfl
  | error failure => trivial

theorem query {question : Question} (h : asks question) :
    Ensures asks (fun _ => True)
      (Dialogue.query question : Dialogue Question Answer (Answer question)) :=
  ⟨h, fun _ => trivial⟩

theorem bind {dialogue : Dialogue Question Answer α} {next : α → Dialogue Question Answer β}
    (h : Ensures asks gives dialogue)
    (hn : ∀ value, gives value → Ensures asks later (next value)) :
    Ensures asks later (dialogue >>= next) := by
  show Ensures asks later (Dialogue.bind dialogue next)
  induction dialogue with
  | done result =>
    cases result with
    | ok value => exact hn value h
    | error failure => trivial
  | note event rest ih => exact ih h
  | ask question rest ih => exact ⟨h.1, fun answer => ih answer (h.2 answer)⟩

theorem attempt {dialogue : Dialogue Question Answer α} (h : Ensures asks gives dialogue) :
    Ensures asks (fun result => ∀ value, result = .ok value → gives value) dialogue.attempt := by
  induction dialogue with
  | done result =>
    intro value hv
    subst hv
    exact h
  | note event rest ih => exact ih h
  | ask question rest ih => exact ⟨h.1, fun answer => ih answer (h.2 answer)⟩

/-- What holds of the marks of every question that may come up, and of every note, holds of all the
marks of a run. -/
theorem trace (responder : Responder Question Answer State Mark) (marks : Mark → Prop)
    {dialogue : Dialogue Question Answer α} (h : Ensures asks gives dialogue)
    (hnote : ∀ event, marks (responder.noted event))
    (hask : ∀ question state, asks question →
      ∀ mark ∈ (responder.answer question state).2.2, marks mark) (state : State) :
    ∀ mark ∈ (dialogue.run responder state).trace, marks mark := by
  induction dialogue generalizing state with
  | done result => exact fun mark hm => absurd hm List.not_mem_nil
  | note event rest ih =>
    intro mark hm
    rcases List.mem_cons.mp hm with rfl | hm
    · exact hnote event
    · exact ih h state mark hm
  | ask question rest ih =>
    intro mark hm
    rcases List.mem_append.mp hm with hm | hm
    · exact hask question state h.1 mark hm
    · exact ih _ (h.2 _) _ mark hm

/-- Of every dialogue it holds that anything may come up and come out. -/
theorem anything (dialogue : Dialogue Question Answer α) :
    Ensures (fun _ => True) (fun _ => True) dialogue := by
  induction dialogue with
  | done result => cases result <;> trivial
  | note event rest ih => exact ih
  | ask question rest ih => exact ⟨trivial, ih⟩

/-- What every question that may come up preserves of the state, a run preserves. -/
theorem state (responder : Responder Question Answer State Mark) (holds : State → Prop)
    {dialogue : Dialogue Question Answer α} (h : Ensures asks gives dialogue)
    (hask : ∀ question state, asks question → holds state →
      holds (responder.answer question state).2.1) {state : State} (hs : holds state) :
    holds (dialogue.run responder state).state := by
  induction dialogue generalizing state with
  | done result => exact hs
  | note event rest ih => exact ih h hs
  | ask question rest ih => exact ih _ (h.2 _) (hask question state h.1 hs)

end Ensures

/-! ## What comes out under given answers -/

/-- As long as every answer is as `given` says, the result satisfies `holds`, be it a value or a
failure. -/
def Brings (given : (question : Question) → Answer question → Prop)
    (holds : Except Failure α → Prop) : Dialogue Question Answer α → Prop
  | done result => holds result
  | note _ rest => Brings given holds rest
  | ask question rest => ∀ answer, given question answer → Brings given holds (rest answer)

namespace Brings

variable {given : (question : Question) → Answer question → Prop}
  {holds : Except Failure α → Prop} {later : Except Failure β → Prop}

theorem lift {result : Except Failure α} (h : holds result) :
    Brings given holds (Dialogue.lift result : Dialogue Question Answer α) := h

theorem pure {value : α} (h : holds (.ok value)) :
    Brings given holds (Pure.pure value : Dialogue Question Answer α) := h

theorem fail {failure : Failure} (h : holds (.error failure)) :
    Brings given holds (Dialogue.fail failure : Dialogue Question Answer α) := h

/-- Two dialogues one after the other bring what the second one brings, or the failure of the first.
-/
theorem bind {dialogue : Dialogue Question Answer α} {next : α → Dialogue Question Answer β}
    (h : Brings given holds dialogue)
    (herror : ∀ failure, holds (.error failure) → later (.error failure))
    (hn : ∀ value, holds (.ok value) → Brings given later (next value)) :
    Brings given later (dialogue >>= next) := by
  show Brings given later (Dialogue.bind dialogue next)
  induction dialogue with
  | done result =>
    cases result with
    | ok value => exact hn value h
    | error failure => exact herror failure h
  | note event rest ih => exact ih h
  | ask question rest ih => exact fun answer hanswer => ih answer (h answer hanswer)

/-- An attempt brings a value, whatever it attempts. -/
theorem attempt (dialogue : Dialogue Question Answer α) :
    Brings given (fun result => ∃ value, result = .ok value) dialogue.attempt := by
  induction dialogue with
  | done result => exact ⟨result, rfl⟩
  | note event rest ih => exact ih
  | ask question rest ih => exact fun answer _ => ih answer

/-- What is brought under given answers is the result of every run with such answers. -/
theorem result (responder : Responder Question Answer State Mark) (keeps : State → Prop)
    {dialogue : Dialogue Question Answer α} (h : Brings given holds dialogue)
    (hask : ∀ question state, keeps state → given question (responder.answer question state).1 ∧
      keeps (responder.answer question state).2.1) {state : State} (hs : keeps state) :
    holds (dialogue.run responder state).result := by
  induction dialogue generalizing state with
  | done result => exact h
  | note event rest ih => exact ih h hs
  | ask question rest ih =>
    obtain ⟨hgiven, hkeeps⟩ := hask question state hs
    exact ih _ (h _ hgiven) hkeeps

end Brings
end Dialogue
end MagnetStream
