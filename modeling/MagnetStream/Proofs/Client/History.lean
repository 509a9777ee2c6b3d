import MagnetStream.Proofs.Client.World

/-!
# Histories of sessions

A session with a client is a list of turns; its chronicle keeps for each turn the world in which it
was taken and what was seen of it. `Latest p past episode` says that `episode` is the last one of a
past with the property `p`, which is how a law speaks of "the most recent time that".
-/

namespace MagnetStream.Client

/-- A turn, with the world in which it was taken and what was seen of it. -/
structure Episode where
  world : World
  turn : Turn
  outcome : Outcome

def Outcome.trace : Outcome → List Mark
  | .served _ trace _ => trace
  | _ => []

/-- The requests that were sent in a turn, in order. -/
def Outcome.calls (outcome : Outcome) : List Call := Client.calls outcome.trace

/-- Whether a request was served with a response. -/
def Outcome.Succeeds : Outcome → Prop
  | .served (.ok _) _ _ => True
  | _ => False

/-- A world at a time, with nothing in its cache. -/
def World.startingAt (clock : Calendar.Moment) : World := ⟨clock, [], none, none, []⟩

/-- The world with a script of its own for the next request. -/
def World.facing (world : World) (script : List Reply) : World := { world with script := script }

def firstReply (script : List Reply) : Reply := script.headD (.error World.exhausted)

theorem reply_facing (world : World) (script : List Reply) :
    (world.facing script).reply 0 = firstReply script := by
  cases script <;> rfl

/-- What is seen of a request, and what it leaves. -/
theorem takeTurn_of_ends [Json.Nesting] {client : Client} {world state : World} {request : Request}
    {script : List Reply} {result : Except Failure Response} {requests : List Call}
    (h : (client.serve request).Ends (world.facing script) result state requests) :
    ∃ trace, takeTurn client world (.request request script) =
      (.served result trace state.script.length, state) ∧ calls trace = requests := by
  obtain ⟨trace, hrun, hcalls⟩ := h
  refine ⟨trace, ?_, hcalls⟩
  rw [World.facing] at hrun
  rw [takeTurn, hrun]

/-- Every turn of a session with the world in which it was taken and what was seen of it. -/
def chronicle [Json.Nesting] (client : Client) : World → List Turn → List Episode
  | _, [] => []
  | world, turn :: rest =>
    ⟨world, turn, (takeTurn client world turn).1⟩ ::
      chronicle client (takeTurn client world turn).2 rest

theorem takeTurns_outcomes [Json.Nesting] (client : Client) (world : World) (turns : List Turn) :
    (takeTurns client world turns).1 = (chronicle client world turns).map Episode.outcome := by
  induction turns generalizing world with
  | nil => rfl
  | cons turn rest ih =>
    simp only [takeTurns, chronicle, List.map_cons]
    rw [ih]

theorem outcome_of_mem_chronicle [Json.Nesting] {client : Client} {world : World}
    {turns : List Turn} {episode : Episode} (h : episode ∈ chronicle client world turns) :
    episode.outcome = (takeTurn client episode.world episode.turn).1 := by
  induction turns generalizing world with
  | nil => cases h
  | cons turn rest ih =>
    rcases List.mem_cons.mp h with rfl | h
    · rfl
    · exact ih h

/-- What comes before an episode is a session of its own, in whose final world it took place. -/
theorem chronicle_split [Json.Nesting] {client : Client} {world : World} {turns : List Turn}
    {past future : List Episode} {episode : Episode}
    (h : chronicle client world turns = past ++ episode :: future) :
    ∃ before after, turns = before ++ episode.turn :: after ∧
      past = chronicle client world before ∧ episode.world = (takeTurns client world before).2 := by
  induction past generalizing world turns with
  | nil =>
    cases turns with
    | nil => cases h
    | cons turn rest =>
      obtain ⟨rfl, _⟩ := List.cons.inj h
      exact ⟨[], rest, rfl, rfl, rfl⟩
  | cons first others ih =>
    cases turns with
    | nil => cases h
    | cons turn rest =>
      obtain ⟨rfl, hrest⟩ := List.cons.inj h
      obtain ⟨before, after, rfl, rfl, hworld⟩ := ih hrest
      exact ⟨turn :: before, after, rfl, rfl, hworld⟩

/-- What every turn preserves, given the past, holds at the end of a session. -/
theorem chronicle_induction [Json.Nesting] {client : Client} {Holds : List Episode → World → Prop}
    {turns : List Turn}
    (step : ∀ past world turn, turn ∈ turns → Holds past world →
      Holds (past ++ [⟨world, turn, (takeTurn client world turn).1⟩])
        (takeTurn client world turn).2)
    {past : List Episode} {world : World} (start : Holds past world) :
    Holds (past ++ chronicle client world turns) (takeTurns client world turns).2 := by
  induction turns generalizing past world with
  | nil => simpa [chronicle, takeTurns] using start
  | cons turn rest ih =>
    have first := step past world turn List.mem_cons_self start
    have later := ih (fun past world turn hm => step past world turn (List.mem_cons_of_mem _ hm))
      first
    simpa [chronicle, takeTurns] using later

/-- An episode is the last one of a past with a property. -/
def Latest (p : Episode → Prop) (past : List Episode) (episode : Episode) : Prop :=
  ∃ before after, past = before ++ episode :: after ∧ p episode ∧ ∀ later ∈ after, ¬ p later

namespace Latest

variable {p : Episode → Prop} {past : List Episode} {episode : Episode}

theorem mem (h : Latest p past episode) : episode ∈ past := by
  obtain ⟨before, after, rfl, _, _⟩ := h
  simp

theorem holds (h : Latest p past episode) : p episode := by
  obtain ⟨_, _, _, hp, _⟩ := h
  exact hp

theorem append_self (past : List Episode) (h : p episode) : Latest p (past ++ [episode]) episode :=
  ⟨past, [], rfl, h, fun _ hm => absurd hm List.not_mem_nil⟩

theorem append_other {newer : Episode} (h : Latest p past episode) (hn : ¬ p newer) :
    Latest p (past ++ [newer]) episode := by
  obtain ⟨before, after, rfl, hp, hafter⟩ := h
  refine ⟨before, after ++ [newer], by simp, hp, fun later hm => ?_⟩
  rcases List.mem_append.mp hm with hm | hm
  · exact hafter later hm
  · rw [List.mem_singleton.mp hm]
    exact hn

theorem unique {other : Episode} (h : Latest p past episode) (h' : Latest p past other) :
    other = episode := by
  obtain ⟨before, after, hpast, hp, hafter⟩ := h
  obtain ⟨before', after', hpast', hp', hafter'⟩ := h'
  rw [hpast] at hpast'
  -- If they differ, one comes after the other, where there is none with the property.
  rcases List.append_eq_append_iff.mp hpast' with ⟨between, _, heq⟩ | ⟨between, _, heq⟩
  · cases between with
    | nil => exact (List.cons.inj heq).1.symm
    | cons first others =>
      rw [List.cons_append, List.cons.injEq] at heq
      exact absurd hp' (hafter other (by simp [heq.2]))
  · cases between with
    | nil => exact (List.cons.inj heq).1
    | cons first others =>
      rw [List.cons_append, List.cons.injEq] at heq
      exact absurd hp (hafter' episode (by simp [heq.2]))

end Latest
end MagnetStream.Client
