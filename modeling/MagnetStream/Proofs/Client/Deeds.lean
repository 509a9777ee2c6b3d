import MagnetStream.Proofs.Client.World

/-!
# What a session does

A trace with its log events left out: `deeds` are the requests, the pauses and what is read and
written, in order, and `pauses` are the pauses alone. `Session.Does` tells the result of a session,
the world that it leaves and its deeds, and is put together from the parts of the session.
-/

namespace MagnetStream.Client

/-- Whether a mark tells of something done, and not only noted. -/
def Mark.isDeed : Mark → Bool
  | .logged _ => false
  | _ => true

def deeds (trace : List Mark) : List Mark := trace.filter Mark.isDeed

@[simp] theorem deeds_append (front back : List Mark) :
    deeds (front ++ back) = deeds front ++ deeds back := List.filter_append ..

def Mark.pause? : Mark → Option Binary64
  | .paused seconds => some seconds
  | _ => none

def pauses (trace : List Mark) : List Binary64 := trace.filterMap Mark.pause?

theorem calls_deeds (trace : List Mark) : calls (deeds trace) = calls trace := by
  unfold calls deeds
  rw [List.filterMap_filter]
  refine congrArg (List.filterMap · trace) (funext fun mark => ?_)
  cases mark <;> rfl

theorem pauses_deeds (trace : List Mark) : pauses (deeds trace) = pauses trace := by
  unfold pauses deeds
  rw [List.filterMap_filter]
  refine congrArg (List.filterMap · trace) (funext fun mark => ?_)
  cases mark <;> rfl

namespace Session

variable {α β : Type}

/-- A session has a result in a world, leaves a state and does these deeds. -/
def Does (session : Session α) (world : World) (result : Except Failure α) (state : World)
    (done : List Mark) : Prop :=
  ∃ trace, session.runIn world = ⟨result, state, trace⟩ ∧ deeds trace = done

namespace Does

variable {world state : World} {done later : List Mark}

theorem pure (value : α) : (Pure.pure value : Session α).Does world (.ok value) world [] :=
  ⟨[], rfl, rfl⟩

theorem lift (result : Except Failure α) : Session.Does (.lift result) world result world [] :=
  ⟨[], rfl, rfl⟩

theorem fail (failure : Failure) :
    Session.Does (.fail failure : Session α) world (.error failure) world [] :=
  ⟨[], rfl, rfl⟩

theorem log (level : Log.Level) (name : String) (fields : List (String × Json)) :
    Session.Does (.log level name fields) world (.ok ()) world [] :=
  ⟨[.logged ⟨level, name, fields⟩], rfl, rfl⟩

theorem pause (seconds : Binary64) :
    (Session.pause seconds).Does world (.ok ()) world [.paused seconds] :=
  ⟨[.paused seconds], rfl, rfl⟩

theorem get (token url : String) :
    (Session.get token url).Does world (world.reply 0) (world.spend 1)
      [.called ⟨.get, url, token, none⟩] :=
  ⟨[.called ⟨.get, url, token, none⟩], runIn_get token url world, rfl⟩

theorem bind_ok {session : Session α} {next : α → Session β} {value : α}
    {result : Except Failure β} {last : World} (h : session.Does world (.ok value) state done)
    (hn : (next value).Does state result last later) :
    Session.Does (session >>= next) world result last (done ++ later) := by
  obtain ⟨first, hfirst, rfl⟩ := h
  obtain ⟨second, hsecond, rfl⟩ := hn
  refine ⟨first ++ second, ?_, deeds_append first second⟩
  rw [runIn_bind, hfirst, Run.andThen_ok, hsecond]

theorem bind_error {session : Session α} {next : α → Session β} {failure : Failure}
    (h : session.Does world (.error failure) state done) :
    Session.Does (session >>= next) world (.error failure) state done := by
  obtain ⟨trace, hrun, hdone⟩ := h
  exact ⟨trace, by rw [runIn_bind, hrun, Run.andThen_error], hdone⟩

/-- What follows without a deed goes on with the result only. -/
theorem bind_quiet {session : Session α} {next : α → Session β} {result : Except Failure α}
    {follow : α → Except Failure β} (h : session.Does world result state done)
    (hn : ∀ value, (next value).Does state (follow value) state []) :
    Session.Does (session >>= next) world (result >>= follow) state done := by
  cases result with
  | error failure => exact h.bind_error
  | ok value =>
    have hall := h.bind_ok (hn value)
    rwa [List.append_nil] at hall

end Does
end Session
end MagnetStream.Client
