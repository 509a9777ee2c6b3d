import MagnetStream.Proofs.Client.Eviction
import MagnetStream.Proofs.Config.Precedence
import MagnetStream.Proofs.Config.Soundness
import MagnetStream.Server.World

/-!
# Whether a server gets ready

With accepted settings a server gets ready as far as the medium of its storage lets it, but for two
things that no reader asks for: that no negative number of things may happen at once in the storage,
and that the cache age is a span of time at all (`accepted_settings_start`).
-/

namespace MagnetStream

/-- All trouble that is answered is of an allowed kind. -/
def Storage.OnlyTrouble {α : Type} (allowed : Failure → Prop)
    (answer : Except Storage.Trouble α) : Prop :=
  ∀ trouble, answer = .error trouble → allowed trouble.failure

/-- A medium that is opened, greeted or closed answers with allowed trouble only. -/
def Storage.Admits (allowed : Failure → Prop) :
    (command : Storage.Command) → Storage.Answer command → Prop
  | .connect, answer => Storage.OnlyTrouble allowed answer
  | .ping, answer => Storage.OnlyTrouble allowed answer
  | .disconnect, answer => Storage.OnlyTrouble allowed answer
  | _, _ => True

namespace Server

open Dialogue (Brings)

/-- Surroundings whose medium answers with allowed trouble only. -/
def Admits (allowed : Failure → Prop) : (question : Question) → Answer question → Prop
  | .medium command, answer => Storage.Admits allowed command answer
  | _, _ => True

/-- The least cache age in seconds that is no span of time. -/
def boundlessAge : Int := (Calendar.Duration.maxDays + 1) * 86400

/-- The client of a server whose settings name a span of time. -/
def clientFor (service : Config.Service) : Client :=
  ⟨service.baseUrl, ⟨.ofSeconds service.cacheAge, service.cacheAge⟩,
    ⟨service.pollBudget.toNat, service.pollInterval⟩⟩

namespace StartupLemmas

/-- A value comes out, or an allowed failure. -/
def GoesWell {α : Type} (allowed : Failure → Prop) (gives : α → Prop) : Except Failure α → Prop
  | .ok value => gives value
  | .error failure => allowed failure

/-! ## Spans of seconds -/

theorem check_ofSeconds {seconds : Int} (hpos : 0 ≤ seconds) (h : seconds < boundlessAge) :
    (Calendar.Duration.ofSeconds seconds).check = .ok (.ofSeconds seconds) := by
  refine if_pos ?_
  simp only [Calendar.Duration.days, Calendar.Duration.ofSeconds, Calendar.Duration.perSecond,
    Calendar.Duration.perDay, Calendar.Duration.maxDays, boundlessAge] at h ⊢
  rw [Int.fdiv_eq_ediv_of_nonneg _ (by decide)]
  omega

theorem check_ofSeconds_fails {seconds : Int} (h : boundlessAge ≤ seconds) :
    ∃ fault, (Calendar.Duration.ofSeconds seconds).check = .error fault := by
  have hlong : ¬ ((Calendar.Duration.ofSeconds seconds).days.natAbs : Int) ≤
      Calendar.Duration.maxDays := by
    simp only [Calendar.Duration.days, Calendar.Duration.ofSeconds, Calendar.Duration.perSecond,
      Calendar.Duration.perDay, Calendar.Duration.maxDays, boundlessAge] at h ⊢
    rw [Int.fdiv_eq_ediv_of_nonneg _ (by decide)]
    omega
  rw [Calendar.Duration.check, if_neg hlong]
  split
  · exact ⟨_, rfl⟩
  · exact ⟨_, rfl⟩

/-! ## The client -/

section Clients

variable {service : Config.Service}

theorem clientOf_eq (h : service.Sound) (hage : service.cacheAge < boundlessAge) :
    clientOf service = .ok (clientFor service) := by
  have hbudget : Client.checkBudget service.pollBudget = .ok service.pollBudget.toNat :=
    if_neg (Int.not_lt.mpr h.pollBudget)
  rw [clientOf, check_ofSeconds h.cacheAge hage]
  show Client.create .. = _
  rw [Client.create, h.baseUrl]
  show Client.checkBudget _ >>= _ = _
  rw [hbudget]
  show Except.ok (Client.under ..) = _
  rw [Client.under, Url.dropEndSlashes_of_validateBase h.baseUrl]
  rfl

theorem clientOf_fails (hage : boundlessAge ≤ service.cacheAge) :
    ∃ fault, clientOf service = .error (.badDuration fault) := by
  obtain ⟨fault, hcheck⟩ := check_ofSeconds_fails hage
  exact ⟨fault, by rw [clientOf, hcheck]; rfl⟩

end Clients

/-! ## Opening and closing the storage -/

section Passages

variable {allowed : Failure → Prop}

/-- Held by a server, an action of its storage brings what it brings on its medium. -/
theorem brings_onMedium {α : Type} {holds : Except Failure α → Prop} {action : Storage.Action α}
    (h : Brings (Storage.Admits allowed) holds action) :
    Brings (Admits allowed) holds (onMedium action) := by
  induction action with
  | done result => exact h
  | note event rest ih => exact ih h
  | ask command next ih => exact fun answer hanswer => ih answer (h answer hanswer)

theorem create_of_nonneg {cache : Config.Cache} (h : 0 ≤ cache.maxConcurrent) (ttl : Int) :
    ∃ storage, Brings (Storage.Admits allowed) (· = .ok storage) (Storage.create cache ttl) := by
  have hmany : ¬ cache.maxConcurrent < 0 := Int.not_lt.mpr h
  cases hbackend : cache.backend with
  | disk =>
    refine ⟨⟨.disk, (Config.Directory.ofText cache.directory).toText, ttl⟩, ?_⟩
    simp only [Storage.create, hbackend, if_neg hmany]
    rfl
  | redis =>
    refine ⟨⟨.redis, cache.redisUrl, ttl⟩, ?_⟩
    simp only [Storage.create, hbackend, if_neg hmany]
    rfl

/-- Opening a storage goes well or ends with allowed trouble. -/
theorem connect_brings (storage : Storage) :
    Brings (Storage.Admits allowed)
      (fun result => ∃ passage, result = .ok passage ∧
        GoesWell allowed (fun _ => True) passage.result)
      (storage.connect false) := by
  obtain ⟨backend, place, ttl⟩ := storage
  intro connected hconnected
  cases connected with
  | error trouble => exact ⟨_, rfl, hconnected trouble rfl⟩
  | ok _ =>
    cases backend with
    | disk => exact ⟨_, rfl, trivial⟩
    | redis =>
      intro greeted hgreeted
      cases greeted with
      | ok _ => exact ⟨_, rfl, trivial⟩
      | error trouble =>
        cases trouble with
        | unforeseen failure => exact ⟨_, rfl, hgreeted (.unforeseen failure) rfl⟩
        | reported failure =>
          intro closed hclosed
          cases closed with
          | ok _ => exact ⟨_, rfl, hgreeted (.reported failure) rfl⟩
          | error trouble => exact ⟨_, rfl, hclosed trouble rfl⟩

/-- Closing a storage goes well or ends with allowed trouble. -/
theorem close_brings (storage : Storage) :
    Brings (Storage.Admits allowed)
      (fun result => ∃ passage, result = .ok passage ∧
        GoesWell allowed (fun _ => True) passage.result)
      (storage.close true) := by
  obtain ⟨backend, place, ttl⟩ := storage
  intro closed hclosed
  cases closed with
  | error trouble => exact ⟨_, rfl, hclosed trouble rfl⟩
  | ok _ =>
    cases backend with
    | disk => exact ⟨_, rfl, trivial⟩
    | redis => exact ⟨_, rfl, trivial⟩

/-- What follows opening or closing comes about if that goes well. -/
theorem passage_bind {α : Type} {action : Storage.Action Storage.Passage} {next : Unit → Wired α}
    {holds : Except Failure α → Prop}
    (h : Brings (Storage.Admits allowed)
      (fun result => ∃ passage, result = .ok passage ∧
        GoesWell allowed (fun _ => True) passage.result) action)
    (herror : ∀ failure, allowed failure → holds (.error failure))
    (hn : Brings (Admits allowed) holds (next ())) :
    Brings (Admits allowed) holds
      (onMedium action >>= fun passage => .lift passage.result >>= next) := by
  refine Brings.bind (brings_onMedium h) (fun failure hnone => ?_) fun passage hpassage => ?_
  · obtain ⟨_, hnone, _⟩ := hnone
    cases hnone
  · obtain ⟨_, heq, hgoes⟩ := hpassage
    cases heq
    exact Brings.bind (Brings.lift hgoes) herror fun _ _ => hn

theorem openStorage_brings {settings : Config.Settings} (h : 0 ≤ settings.cache.maxConcurrent) :
    Brings (Admits allowed) (GoesWell allowed fun _ => True) (openStorage settings) := by
  obtain ⟨storage, hcreate⟩ : ∃ storage, Brings (Storage.Admits allowed) (· = .ok storage)
      (Storage.create settings.cache settings.service.cacheAge) :=
    create_of_nonneg h _
  refine Brings.bind (brings_onMedium hcreate) (fun _ hnone => nomatch hnone) fun given hgiven => ?_
  cases hgiven
  exact passage_bind (connect_brings storage) (fun _ => id) trivial

theorem shutDown_brings (storage : Storage) :
    Brings (Admits allowed) (GoesWell allowed fun _ => True) (shutDown storage) :=
  passage_bind (close_brings storage) (fun _ => id) trivial

/-- If the client can be made, a server with it gets ready, or there is allowed trouble. -/
theorem start_goes_well {settings : Config.Settings} (hsound : settings.service.Sound)
    (hmany : 0 ≤ settings.cache.maxConcurrent) (hage : settings.service.cacheAge < boundlessAge) :
    Brings (Admits allowed)
      (GoesWell allowed fun server => server.client = clientFor settings.service)
      (start settings) := by
  refine Brings.bind (openStorage_brings hmany) (fun _ => id) fun storage _ => ?_
  obtain ⟨headers, hheaders⟩ := hsound.extraHeaders
  have hassemble : Brings (Admits allowed)
      (· = .ok (.ok ⟨headers, storage, clientFor settings.service⟩))
      (assemble settings.service storage).attempt := by
    rw [assemble, hheaders, clientOf_eq hsound hage]
    rfl
  refine Brings.bind hassemble (fun _ hnone => nomatch hnone) fun result hresult => ?_
  cases hresult
  rfl

/-- If the client cannot be made, no server gets ready. -/
theorem start_fails {settings : Config.Settings} (hsound : settings.service.Sound)
    (hmany : 0 ≤ settings.cache.maxConcurrent) {failure : Failure}
    (hclient : clientOf settings.service = .error failure) :
    Brings (Admits allowed)
      (GoesWell (fun other => allowed other ∨ other = failure) fun _ => False)
      (start settings) := by
  refine Brings.bind (openStorage_brings hmany) (fun _ => .inl) fun storage _ => ?_
  obtain ⟨headers, hheaders⟩ := hsound.extraHeaders
  have hassemble : Brings (Admits allowed) (· = .ok (.error failure))
      (assemble settings.service storage).attempt := by
    rw [assemble, hheaders, hclient]
    rfl
  refine Brings.bind hassemble (fun _ hnone => nomatch hnone) fun result hresult => ?_
  cases hresult
  exact Brings.bind (shutDown_brings storage) (fun _ => .inl) fun _ _ => .inr rfl

end Passages

/-- With a negative number of things at once, the storage is not even made. -/
theorem start_of_negative {settings : Config.Settings} (h : settings.cache.maxConcurrent < 0) :
    ∃ event, start settings = .note event (.fail .negativeConcurrency) := by
  have hcreate : ∃ event, Storage.create settings.cache settings.service.cacheAge =
      .note event (.fail .negativeConcurrency) := by
    unfold Storage.create
    cases settings.cache.backend with
    | disk => exact ⟨_, by simp only [if_pos h]; rfl⟩
    | redis => exact ⟨_, by simp only [if_pos h]; rfl⟩
  obtain ⟨event, hevent⟩ := hcreate
  exact ⟨event, by rw [start, openStorage, hevent]; rfl⟩

end StartupLemmas

open StartupLemmas

/-- How getting ready ends with accepted settings, if the medium answers with allowed trouble only.
With a negative number of things at once it fails before anything is asked; with a cache age that is
no span of time it fails in the end; and otherwise it fails with allowed trouble only. -/
theorem accepted_settings_start {homes : Config.Homes} {value : Json} {settings : Config.Settings}
    (h : Config.readSettings homes value = .valid settings) {State Mark : Type}
    (responder : Responder Question Answer State Mark) {allowed : Failure → Prop}
    (keeps : State → Prop)
    (hmedium : ∀ question state, keeps state →
      Admits allowed question (responder.answer question state).1 ∧
        keeps (responder.answer question state).2.1)
    {state : State} (hstate : keeps state) :
    let run := (start settings).run responder state
    (settings.cache.maxConcurrent < 0 →
      run.result = .error .negativeConcurrency ∧ run.state = state) ∧
    (0 ≤ settings.cache.maxConcurrent → boundlessAge ≤ settings.service.cacheAge →
      ∃ failure, run.result = .error failure ∧
        (allowed failure ∨ ∃ fault, failure = .badDuration fault)) ∧
    (0 ≤ settings.cache.maxConcurrent → settings.service.cacheAge < boundlessAge →
      (∃ server, run.result = .ok server ∧ server.client = clientFor settings.service) ∨
        ∃ failure, run.result = .error failure ∧ allowed failure) := by
  intro run
  have hsound := Config.sound_of_readSettings h
  refine ⟨fun hmany => ?_, fun hmany hage => ?_, fun hmany hage => ?_⟩
  · obtain ⟨event, hstart⟩ := start_of_negative hmany
    have hrun : run = ⟨.error .negativeConcurrency, state, [responder.noted event]⟩ := by
      show (start settings).run responder state = _
      rw [hstart]
      rfl
    exact ⟨by rw [hrun], by rw [hrun]⟩
  · obtain ⟨fault, hclient⟩ := clientOf_fails hage
    have hresult : GoesWell (fun other => allowed other ∨ other = .badDuration fault)
        (fun _ => False) run.result :=
      (start_fails hsound hmany hclient).result responder keeps hmedium hstate
    cases hrun : run.result with
    | ok server =>
      rw [hrun] at hresult
      exact hresult.elim
    | error failure =>
      rw [hrun] at hresult
      exact ⟨failure, rfl, hresult.imp_right fun heq => ⟨fault, heq⟩⟩
  · have hresult : GoesWell allowed (fun server => server.client = clientFor settings.service)
        run.result :=
      (start_goes_well hsound hmany hage).result responder keeps hmedium hstate
    cases hrun : run.result with
    | ok server =>
      rw [hrun] at hresult
      exact .inl ⟨server, rfl, hresult⟩
    | error failure =>
      rw [hrun] at hresult
      exact .inr ⟨failure, rfl, hresult⟩

/-- The medium of a world can be connected and gives signs of life. -/
def World.Willing (world : World) : Prop :=
  world.medium.refusal = none ∧ world.medium.silence = none

/-- A willing medium gives no trouble when it is opened or closed, and stays willing. -/
theorem World.Willing.admits {world : World} (h : world.Willing) (question : Question) :
    Admits (fun _ => False) question (World.responder.answer question world).1 ∧
      (World.responder.answer question world).2.1.Willing := by
  obtain ⟨hrefusal, hsilence⟩ := h
  cases question with
  | network question => exact ⟨trivial, hrefusal, hsilence⟩
  | pause seconds => exact ⟨trivial, hrefusal, hsilence⟩
  | now => exact ⟨trivial, hrefusal, hsilence⟩
  | medium command =>
    cases command with
    | connect =>
      refine ⟨fun trouble htrouble => ?_, hrefusal, hsilence⟩
      simp [World.responder, World.answer, Storage.Medium.answer, hrefusal] at htrouble
    | ping =>
      refine ⟨fun trouble htrouble => ?_, hrefusal, hsilence⟩
      simp [World.responder, World.answer, Storage.Medium.answer, hsilence] at htrouble
    | disconnect =>
      refine ⟨fun trouble htrouble => ?_, hrefusal, hsilence⟩
      cases htrouble
    | read key => exact ⟨trivial, hrefusal, hsilence⟩
    | write key entry ttl =>
      refine ⟨trivial, ?_⟩
      simp only [World.responder, World.answer, Storage.Medium.answer]
      split <;> exact ⟨hrefusal, hsilence⟩

def diskWorld : World := ⟨⟨0, ⟨0⟩⟩, .disk (.ofText "cache"), []⟩

/-- A file with a number of things that may happen at once and a cache age. -/
def fileWith (maxConcurrent cacheAge : Int) : Json :=
  .obj [("cache", .obj [("max_concurrent", .int maxConcurrent)]),
    ("debrid", .obj [("cache_age_seconds", .int cacheAge)])]

def settingsWith (maxConcurrent cacheAge : Int) : Config.Settings where
  appName := "debridstream"
  environment := .dev
  service := { Config.defaultService with cacheAge := cacheAge }
  cache := { Config.defaultCache with maxConcurrent := maxConcurrent }
  logLevel := .info
  logFormat := .console

/-- On a willing disk, a server with a cache age of a minute gets ready. -/
theorem accepted_settings_start_on_disk :
    Config.readSettings Config.plainHomes (fileWith 10 60) = .valid (settingsWith 10 60) ∧
      diskWorld.Willing ∧
      ∃ server, ((start (settingsWith 10 60)).run World.responder diskWorld).result = .ok server ∧
        server.client = clientFor (settingsWith 10 60).service := by
  have hread : Config.readSettings Config.plainHomes (fileWith 10 60) =
      .valid (settingsWith 10 60) := rfl
  have hwilling : diskWorld.Willing := ⟨rfl, rfl⟩
  refine ⟨hread, hwilling, ?_⟩
  have hstart := accepted_settings_start hread World.responder World.Willing
    (fun question _ h => h.admits question) hwilling
  exact (hstart.2.2 (by decide) (by decide)).resolve_right fun ⟨_, _, hnone⟩ => hnone

/-- Accepted settings with a negative number of things at once, and accepted settings with a cache
age that is no span of time, with which no server gets ready on a willing disk. -/
theorem accepted_settings_not_started :
    diskWorld.Willing ∧
      Config.readSettings Config.plainHomes (fileWith (-1) 60) = .valid (settingsWith (-1) 60) ∧
      ((start (settingsWith (-1) 60)).run World.responder diskWorld).result =
        .error .negativeConcurrency ∧
      Config.readSettings Config.plainHomes (fileWith 10 86400000000000) =
        .valid (settingsWith 10 86400000000000) ∧
      ((start (settingsWith 10 86400000000000)).run World.responder diskWorld).result =
        .error (.badDuration (.tooLong 1000000000)) :=
  ⟨⟨rfl, rfl⟩, rfl, rfl, rfl, rfl⟩

end Server
end MagnetStream
