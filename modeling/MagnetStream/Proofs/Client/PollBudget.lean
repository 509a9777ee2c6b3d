import MagnetStream.Proofs.Client.Polling

/-!
# What a larger poll budget changes

Nothing but the end of waiting. `Session.Curtails` compares two sessions: in every world they do the
same, or the shorter one runs out of time on the way of the longer one. It is kept by whatever
follows (`curtails_bind`), and the polls with a smaller budget curtail those with a larger one, so
a whole resolution does too (`larger_budget_waits_on`).
-/

namespace MagnetStream.Client

/-- A result is the failure that ends waiting. -/
def TimedOut {α : Type} (result : Except Failure α) : Prop :=
  ∃ failure, result = .error failure ∧ failure.family? = some .pollTimeout

/-- Two runs with the same result, the same final world and the same deeds. -/
structure Run.Alike {α : Type} (run other : Run World Mark α) : Prop where
  result_eq : other.result = run.result
  state_eq : other.state = run.state
  deeds_eq : deeds other.trace = deeds run.trace

/-- One run does what another one does, or it runs out of time on the way there. -/
def Run.Curtails {α : Type} (run whole : Run World Mark α) : Prop :=
  Run.Alike run whole ∨ TimedOut run.result ∧ deeds run.trace <+: deeds whole.trace

/-- In every world one session does what another one does, or runs out of time on the way there. -/
def Session.Curtails {α : Type} (short long : Session α) : Prop :=
  ∀ world, Run.Curtails (short.runIn world) (long.runIn world)

namespace CurtailingLemmas

variable {α β : Type}

/-- What was done first stays done, whatever follows. -/
theorem prefix_andThen (run : Run World Mark α) (next : α → World → Run World Mark β) :
    deeds run.trace <+: deeds (run.andThen next).trace := by
  obtain ⟨result, state, trace⟩ := run
  cases result with
  | error failure => exact List.prefix_refl _
  | ok value =>
    rw [Run.andThen_ok, deeds_append]
    exact List.prefix_append ..

theorem andThen_curtails {run whole : Run World Mark α} {next after : α → World → Run World Mark β}
    (h : Run.Curtails run whole)
    (hn : ∀ value state, Run.Curtails (next value state) (after value state)) :
    Run.Curtails (run.andThen next) (whole.andThen after) := by
  rcases h with halike | ⟨⟨failure, hfailure, hfamily⟩, hprefix⟩
  · obtain ⟨_, _, trace⟩ := run
    obtain ⟨result, state, other⟩ := whole
    obtain ⟨rfl, rfl, hdeeds⟩ := halike
    cases result with
    | error failure => exact .inl ⟨rfl, rfl, hdeeds⟩
    | ok value =>
      rw [Run.andThen_ok, Run.andThen_ok]
      rcases hn value state with ⟨hresult, hstate, hrest⟩ | ⟨htimed, hrest⟩
      · exact .inl ⟨hresult, hstate, by rw [deeds_append, deeds_append, hdeeds, hrest]⟩
      · refine .inr ⟨htimed, ?_⟩
        rw [deeds_append, deeds_append, hdeeds]
        exact (List.prefix_append_right_inj _).mpr hrest
  · have hlonger := hprefix.trans (prefix_andThen whole after)
    obtain ⟨_, state, trace⟩ := run
    obtain rfl : _ = Except.error failure := hfailure
    exact .inr ⟨⟨failure, rfl, hfamily⟩, hlonger⟩

theorem curtails_refl (session : Session α) : Session.Curtails session session :=
  fun _ => .inl ⟨rfl, rfl, rfl⟩

/-- Curtailed sessions that go on with curtailed sessions are curtailed. -/
theorem curtails_bind {short long : Session α} {next after : α → Session β}
    (h : Session.Curtails short long) (hn : ∀ value, Session.Curtails (next value) (after value)) :
    Session.Curtails (short >>= next) (long >>= after) := by
  intro world
  rw [Session.runIn_bind, Session.runIn_bind]
  exact andThen_curtails (h world) hn

end CurtailingLemmas

namespace Stream

open CurtailingLemmas PollingLemmas

/-- More polls go on where fewer end. -/
theorem rhythm_prefix (interval : Binary64) (call : Call) {few many : Nat} (h : few ≤ many) :
    rhythm interval call few <+: rhythm interval call many := by
  match few, many with
  | 0, _ => exact List.nil_prefix
  | 1, 1 => exact List.prefix_refl _
  | 1, many + 2 =>
    rw [rhythm_add_two]
    exact ⟨_, rfl⟩
  | few + 2, many + 2 =>
    rw [rhythm_add_two, rhythm_add_two, List.cons_prefix_cons, List.cons_prefix_cons]
    exact ⟨rfl, rfl, rhythm_prefix interval call (Nat.le_of_succ_le_succ h)⟩

/-- Among so many replies, none is decisive, or one is the first that is. -/
theorem first_decision [Json.Nesting] (replies : Nat → Reply) (count : Nat) :
    (∀ j < count, decision (replies j) = none) ∨
      ∃ k < count, (∀ j < k, decision (replies j) = none) ∧
        ∃ outcome, decision (replies k) = some outcome := by
  induction count with
  | zero => exact .inl fun j hj => absurd hj (Nat.not_lt_zero j)
  | succ count ih =>
    rcases ih with hnone | ⟨k, hk, hfirst⟩
    · cases hlast : decision (replies count) with
      | some outcome => exact .inr ⟨count, Nat.lt_succ_self count, hnone, outcome, hlast⟩
      | none =>
        refine .inl fun j hj => ?_
        rcases Nat.lt_succ_iff_lt_or_eq.mp hj with hlt | rfl
        · exact hnone j hlt
        · exact hlast
    · exact .inr ⟨k, Nat.lt_succ_of_lt hk, hfirst⟩

/-- The polls with a smaller budget curtail those with a larger one: they end with the same decisive
reply, or the smaller budget is used up before it. -/
theorem awaitDownload_curtails [Json.Nesting] (interval : Binary64) (token url id : String)
    {few many : Nat} (hfew : 1 ≤ few) (hle : few ≤ many) :
    Session.Curtails (awaitDownload ⟨few, interval⟩ token url id)
      (awaitDownload ⟨many, interval⟩ token url id) := by
  intro world
  rcases first_decision world.reply few with hnone | ⟨k, hk, hwaits, outcome, hdecided⟩
  · obtain ⟨trace, hrun, hdone⟩ := awaitDownload_undecided ⟨few, interval⟩ token url id hfew
      hnone
    have hlong : ∃ polls, few ≤ polls ∧
        deeds ((awaitDownload ⟨many, interval⟩ token url id).runIn world).trace =
          rhythm interval (look token url) polls := by
      rcases first_decision world.reply many with hmany | ⟨k, hk, hwaits, outcome, hdecided⟩
      · obtain ⟨trace, hrun, hdone⟩ := awaitDownload_undecided ⟨many, interval⟩ token url id
          (Nat.le_trans hfew hle) hmany
        exact ⟨many, hle, by rw [hrun, hdone]⟩
      · obtain ⟨trace, hrun, hdone⟩ := awaitDownload_decided ⟨many, interval⟩ token url id hk
          hwaits hdecided
        refine ⟨k + 1, ?_, by rw [hrun, hdone]⟩
        -- The decisive reply is none of those that the smaller budget sees.
        rcases Nat.lt_or_ge k few with hlt | hge
        · rw [hnone k hlt] at hdecided
          cases hdecided
        · exact Nat.le_succ_of_le hge
    obtain ⟨polls, hpolls, hlong⟩ := hlong
    refine .inr ⟨⟨_, congrArg Run.result hrun, rfl⟩, ?_⟩
    rw [hrun, hdone, hlong]
    exact rhythm_prefix interval _ hpolls
  · obtain ⟨trace, hrun, hdone⟩ := awaitDownload_decided ⟨few, interval⟩ token url id hk
      hwaits hdecided
    obtain ⟨other, hother, hsame⟩ := awaitDownload_decided ⟨many, interval⟩ token url id
      (Nat.lt_of_lt_of_le hk hle) hwaits hdecided
    refine .inl ⟨?_, ?_, ?_⟩
    · rw [hrun, hother]
    · rw [hrun, hother]
    · rw [hrun, hother]
      exact hsame.trans hdone.symm

/-- The polls are the only part of a resolution that looks at the budget. -/
theorem resolve_curtails [Json.Nesting] (interval : Binary64) (base token magnet : String)
    (remote : Bool) {few many : Nat} (hfew : 1 ≤ few) (hle : few ≤ many) :
    Session.Curtails (resolve ⟨few, interval⟩ base token magnet remote)
      (resolve ⟨many, interval⟩ base token magnet remote) := by
  unfold resolve
  refine curtails_bind (curtails_refl _) fun url => curtails_bind (curtails_refl _) fun info => ?_
  refine curtails_bind (curtails_refl _) fun id => curtails_bind (curtails_refl _) fun files => ?_
  refine curtails_bind (curtails_refl _) fun _ => ?_
  exact curtails_bind (awaitDownload_curtails interval token url id hfew hle) fun _ =>
    curtails_refl _

/-- A resolution with a larger budget is the same one, unless the smaller budget is used up; and a
resolution that ends because its time is over does so with every smaller budget, on the same way. -/
theorem larger_budget_waits_on [Json.Nesting] (interval : Binary64) (base token magnet : String)
    (remote : Bool) (world : World) {few many : Nat} (hfew : 1 ≤ few) (hle : few ≤ many) :
    let short := (resolve ⟨few, interval⟩ base token magnet remote).runIn world
    let long := (resolve ⟨many, interval⟩ base token magnet remote).runIn world
    (¬ TimedOut short.result →
      long.result = short.result ∧ calls long.trace = calls short.trace ∧
        pauses long.trace = pauses short.trace ∧ long.state = short.state) ∧
      (TimedOut long.result →
        TimedOut short.result ∧ calls short.trace <+: calls long.trace ∧
          pauses short.trace <+: pauses long.trace) := by
  intro short long
  rw [← calls_deeds short.trace, ← calls_deeds long.trace, ← pauses_deeds short.trace,
    ← pauses_deeds long.trace]
  rcases resolve_curtails interval base token magnet remote hfew hle world with
    ⟨hresult, hstate, hdeeds⟩ | ⟨htimed, hprefix⟩
  · have hcalls := congrArg calls hdeeds
    have hpauses := congrArg pauses hdeeds
    exact ⟨fun _ => ⟨hresult, hcalls, hpauses, hstate⟩, fun htimed =>
      ⟨hresult ▸ htimed, hcalls ▸ List.prefix_refl _, hpauses ▸ List.prefix_refl _⟩⟩
  · exact ⟨fun hnot => absurd htimed hnot,
      fun _ => ⟨htimed, hprefix.filterMap _, hprefix.filterMap _⟩⟩

/-- A world in which a torrent of one file is queued first and then downloaded. -/
def queuedWorld : World :=
  ⟨⟨0, ⟨0⟩⟩, [], none, none,
    [.ok "\x7b\"uri\":\"https://example.com/torrents/7\"\x7d".toUTF8.toList,
      .ok "\x7b\"id\":7,\"files\":[\x7b\"id\":1,\"bytes\":2\x7d]\x7d".toUTF8.toList,
      .ok [],
      .ok "\x7b\"status\":\"queued\"\x7d".toUTF8.toList,
      .ok "\x7b\"status\":\"downloaded\",\"links\":[\"link\"]\x7d".toUTF8.toList,
      .ok "\x7b\"download\":\"stream\"\x7d".toUTF8.toList]⟩

attribute [local instance] Json.Nesting.usual

/-- There two polls are enough, and with five the resolution is the same. -/
theorem larger_budget_waits_on_queued :
    1 ≤ 2 ∧ 2 ≤ 5 ∧
      ¬ TimedOut ((resolve ⟨2, .ofNat 1⟩ "https://proxy.example.com" "secret" "magnet:" false).runIn
        queuedWorld).result ∧
      ((resolve ⟨5, .ofNat 1⟩ "https://proxy.example.com" "secret" "magnet:" false).runIn
          queuedWorld).result =
        ((resolve ⟨2, .ofNat 1⟩ "https://proxy.example.com" "secret" "magnet:" false).runIn
          queuedWorld).result := by
  have hfound : ((resolve ⟨2, .ofNat 1⟩ "https://proxy.example.com" "secret" "magnet:" false).runIn
      queuedWorld).result.toOption.isSome = true := by decide +kernel
  have hnot : ¬ TimedOut ((resolve ⟨2, .ofNat 1⟩ "https://proxy.example.com" "secret" "magnet:"
      false).runIn queuedWorld).result := by
    rintro ⟨failure, hfailure, _⟩
    rw [hfailure] at hfound
    cases hfound
  obtain ⟨hsame, _⟩ := larger_budget_waits_on (.ofNat 1) "https://proxy.example.com" "secret"
    "magnet:" false queuedWorld (show 1 ≤ 2 by decide) (show 2 ≤ 5 by decide)
  exact ⟨by decide, by decide, hnot, (hsame hnot).1⟩

end Stream
end MagnetStream.Client
