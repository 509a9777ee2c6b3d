import MagnetStream.Client.World
import MagnetStream.Proofs.Dialogue

/-!
# Sessions in a scripted world

What a session comes to in a scripted world is put together from its parts: `Session.Ends` tells the
result, the world that is left and the requests, and `Session.Yields` is the same for a session that
changes nothing but the script. The replies are numbered: `World.reply` is the reply to the request
after `index` others, and `World.spend` is the world once `count` requests were answered.
-/

namespace MagnetStream.Client

def Mark.call? : Mark → Option Call
  | .called call => some call
  | _ => none

/-- The requests that a trace tells of, in order. -/
def calls (trace : List Mark) : List Call := trace.filterMap Mark.call?

@[simp] theorem calls_append (front back : List Mark) :
    calls (front ++ back) = calls front ++ calls back := List.filterMap_append

theorem mem_calls {call : Call} {trace : List Mark} :
    call ∈ calls trace ↔ .called call ∈ trace := by
  unfold calls
  rw [List.mem_filterMap]
  constructor
  · rintro ⟨mark, hm, hc⟩
    cases mark with
    | called other =>
      cases hc
      exact hm
    | _ => cases hc
  · exact fun hm => ⟨_, hm, rfl⟩

namespace World

/-- The reply to the request that comes after `index` others. -/
def reply (world : World) (index : Nat) : Reply := (world.script[index]?).getD (.error exhausted)

/-- The world when `count` requests have been answered. -/
def spend (world : World) (count : Nat) : World :=
  { world with script := world.script.drop count }

@[simp] theorem script_spend (world : World) (count : Nat) :
    (world.spend count).script = world.script.drop count := rfl

@[simp] theorem reply_spend (world : World) (count index : Nat) :
    (world.spend count).reply index = world.reply (count + index) := by
  simp [reply]

@[simp] theorem spend_spend (world : World) (first second : Nat) :
    (world.spend first).spend second = world.spend (first + second) := by
  simp [spend]

theorem answer_send (call : Call) (world : World) :
    answer (.send call) world = (world.reply 0, world.spend 1, [.called call]) := by
  obtain ⟨clock, entries, reading, writing, script⟩ := world
  cases script <;> rfl

end World

namespace Session

variable {α β : Type}

@[simp] theorem runIn_lift (result : Except Failure α) (world : World) :
    Session.runIn (.lift result) world = ⟨result, world, []⟩ := rfl

@[simp] theorem runIn_bind (session : Session α) (next : α → Session β) (world : World) :
    Session.runIn (session >>= next) world =
      (session.runIn world).andThen fun value world => (next value).runIn world :=
  Dialogue.run_bind _ session next world

@[simp] theorem runIn_attempt (session : Session α) (world : World) :
    Session.runIn session.attempt world =
      ⟨.ok (session.runIn world).result, (session.runIn world).state,
        (session.runIn world).trace⟩ :=
  Dialogue.run_attempt _ session world

theorem runIn_send (call : Call) (next : Except Failure (List UInt8) → Session α) (world : World) :
    Session.runIn (.ask (.send call) next) world =
      ⟨((next (world.reply 0)).runIn (world.spend 1)).result,
        ((next (world.reply 0)).runIn (world.spend 1)).state,
        .called call :: ((next (world.reply 0)).runIn (world.spend 1)).trace⟩ := by
  have h : World.responder.answer (.send call) world = _ := World.answer_send call world
  unfold Session.runIn
  rw [Dialogue.run_ask, h]
  rfl

/-- A fetch gives the next reply. -/
@[simp] theorem runIn_get (token url : String) (world : World) :
    (Session.get token url).runIn world =
      ⟨world.reply 0, world.spend 1, [.called ⟨.get, url, token, none⟩]⟩ := by
  simp [Session.get, runIn_send]

/-- A post gives the next reply. -/
@[simp] theorem runIn_post (token url : String) (form : List (String × String)) (world : World) :
    (Session.post token url form).runIn world =
      ⟨world.reply 0, world.spend 1, [.called ⟨.post, url, token, some form⟩]⟩ := by
  simp [Session.post, runIn_send]

theorem runIn_record_fails {world : World} {failure : Failure}
    (h : world.writeFailure = some failure) (key : String) (entry : Json) (ttl : Int) :
    Session.runIn (.ask (.record key entry ttl) .lift) world =
      ⟨.error failure, world, [.recorded key entry ttl]⟩ := by
  simp [Session.runIn, Dialogue.run_ask, World.responder, World.answer, h]

theorem runIn_record_ok {world : World} (h : world.writeFailure = none) (key : String)
    (entry : Json) (ttl : Int) :
    Session.runIn (.ask (.record key entry ttl) .lift) world =
      ⟨.ok (), { world with entries := world.entries.insert key entry },
        [.recorded key entry ttl]⟩ := by
  simp [Session.runIn, Dialogue.run_ask, World.responder, World.answer, h]

/-- A session has a result in a world, leaves a state and sends these requests. -/
def Ends (session : Session α) (world : World) (result : Except Failure α) (state : World)
    (requests : List Call) : Prop :=
  ∃ trace, session.runIn world = ⟨result, state, trace⟩ ∧ calls trace = requests

namespace Ends

variable {world state : World} {requests later : List Call}

/-- Every session ends in some way. -/
theorem of_run (session : Session α) (world : World) :
    session.Ends world (session.runIn world).result (session.runIn world).state
      (calls (session.runIn world).trace) :=
  ⟨_, rfl, rfl⟩

theorem pure (value : α) : (Pure.pure value : Session α).Ends world (.ok value) world [] :=
  ⟨[], rfl, rfl⟩

theorem log (level : Log.Level) (name : String) (fields : List (String × Json)) :
    Session.Ends (.log level name fields) world (.ok ()) world [] :=
  ⟨[.logged ⟨level, name, fields⟩], rfl, rfl⟩

theorem bind_ok {session : Session α} {next : α → Session β} {value : α}
    {result : Except Failure β} {last : World} (h : session.Ends world (.ok value) state requests)
    (hn : (next value).Ends state result last later) :
    Session.Ends (session >>= next) world result last (requests ++ later) := by
  obtain ⟨first, hfirst, rfl⟩ := h
  obtain ⟨second, hsecond, rfl⟩ := hn
  refine ⟨first ++ second, ?_, calls_append first second⟩
  rw [runIn_bind, hfirst, Run.andThen_ok, hsecond]

theorem bind_last {session : Session α} {next : α → Session β} {value : α}
    {result : Except Failure β} {last : World} (h : session.Ends world (.ok value) state requests)
    (hn : (next value).Ends state result last []) :
    Session.Ends (session >>= next) world result last requests := by
  have hall := h.bind_ok hn
  rwa [List.append_nil] at hall

theorem bind_error {session : Session α} {next : α → Session β} {failure : Failure}
    (h : session.Ends world (.error failure) state requests) :
    Session.Ends (session >>= next) world (.error failure) state requests := by
  obtain ⟨trace, hrun, hcalls⟩ := h
  exact ⟨trace, by rw [runIn_bind, hrun, Run.andThen_error], hcalls⟩

theorem attempt {session : Session α} {result : Except Failure α}
    (h : session.Ends world result state requests) :
    Session.Ends session.attempt world (.ok result) state requests := by
  obtain ⟨trace, hrun, hcalls⟩ := h
  exact ⟨trace, by rw [runIn_attempt, hrun], hcalls⟩

end Ends

/-- From the world with `start` replies taken, a session has a result and sends these requests, and
leaves the world as it was but for the replies to them. -/
def Yields (session : Session α) (world : World) (start : Nat) (result : Except Failure α)
    (requests : List Call) : Prop :=
  session.Ends (world.spend start) result (world.spend (start + requests.length)) requests

namespace Yields

variable {world : World} {start : Nat} {requests later : List Call}

theorem pure (value : α) : (Pure.pure value : Session α).Yields world start (.ok value) [] :=
  Ends.pure value

theorem lift {result given : Except Failure α} (h : result = given) :
    Session.Yields (.lift result) world start given [] :=
  ⟨[], by rw [h]; rfl, rfl⟩

theorem fail (failure : Failure) :
    Session.Yields (.fail failure : Session α) world start (.error failure) [] :=
  ⟨[], rfl, rfl⟩

theorem log (level : Log.Level) (name : String) (fields : List (String × Json)) :
    Session.Yields (.log level name fields) world start (.ok ()) [] :=
  Ends.log level name fields

theorem note {session : Session α} {result : Except Failure α} (event : Log.Event)
    (h : session.Yields world start result requests) :
    Session.Yields (.note event session) world start result requests := by
  obtain ⟨trace, hrun, hcalls⟩ := h
  refine ⟨.logged event :: trace, ?_, hcalls⟩
  unfold runIn at hrun ⊢
  rw [Dialogue.run, hrun]
  rfl

theorem now : Session.now.Yields world start (.ok world.clock) [] := ⟨[], rfl, rfl⟩

theorem pause (seconds : Binary64) :
    (Session.pause seconds).Yields world start (.ok ()) [] :=
  ⟨[.paused seconds], rfl, rfl⟩

theorem get (token url : String) :
    (Session.get token url).Yields world start (world.reply start) [⟨.get, url, token, none⟩] :=
  ⟨[.called ⟨.get, url, token, none⟩], by simp, rfl⟩

theorem post (token url : String) (form : List (String × String)) :
    (Session.post token url form).Yields world start (world.reply start)
      [⟨.post, url, token, some form⟩] :=
  ⟨[.called ⟨.post, url, token, some form⟩], by simp, rfl⟩

/-- A session that sends nothing leaves the world as it was. -/
theorem ends {session : Session α} {result : Except Failure α}
    (h : session.Yields world 0 result []) : session.Ends world result world [] := h

theorem bind_ok {session : Session α} {next : α → Session β} {value : α}
    {result : Except Failure β} (h : session.Yields world start (.ok value) requests)
    (hn : (next value).Yields world (start + requests.length) result later) :
    Session.Yields (session >>= next) world start result (requests ++ later) := by
  have hall := Ends.bind_ok h hn
  rwa [Nat.add_assoc, ← List.length_append] at hall

theorem bind_last {session : Session α} {next : α → Session β} {value : α}
    {result : Except Failure β} (h : session.Yields world start (.ok value) requests)
    (hn : (next value).Yields world (start + requests.length) result []) :
    Session.Yields (session >>= next) world start result requests := by
  have hall := h.bind_ok hn
  rwa [List.append_nil] at hall

theorem bind_error {session : Session α} {next : α → Session β} {failure : Failure}
    (h : session.Yields world start (.error failure) requests) :
    Session.Yields (session >>= next) world start (.error failure) requests :=
  Ends.bind_error h

theorem attempt {session : Session α} {result : Except Failure α}
    (h : session.Yields world start result requests) :
    Session.Yields session.attempt world start (.ok result) requests :=
  Ends.attempt h

/-- What follows without a request goes on with the result only. -/
theorem bind_quiet {session : Session α} {next : α → Session β} {result : Except Failure α}
    {follow : α → Except Failure β} (h : session.Yields world start result requests)
    (hn : ∀ value, (next value).Yields world (start + requests.length) (follow value) []) :
    Session.Yields (session >>= next) world start (result >>= follow) requests := by
  cases result with
  | error failure => exact h.bind_error
  | ok value => exact h.bind_last (hn value)

end Yields
end Session
end MagnetStream.Client
