import MagnetStream.Proofs.Client.Addressing
import MagnetStream.Server.World

/-!
# Who gets through to the client

A request bears a token if its authorization is the word `bearer`, one blank, and the token. What
the client is asked for always carries the token that the request bears, and a request without one
is turned away before anything is asked, whatever else it says (`only_bearers_reach_client`). The
parameters of a request are looked at first, so that what is wrong with them is reported even to
callers without a token.
-/

namespace MagnetStream

/-- An authorization bears a token: it is the word `bearer` in any case, one blank, and the token
with nothing but blank space around it. -/
def Http.Bears (authorization token : String) : Prop :=
  ∃ word rest, authorization.toList = word ++ ' ' :: rest ∧ Text.lower word = "bearer".toList ∧
    Text.IsCore Text.isBlank token.toList rest ∧ token ≠ ""

namespace Server

/-- A request bears a token: its authorization does. -/
def Request.Bears (request : Request) (token : String) : Prop :=
  ∃ authorization, request.header? "authorization" = some authorization ∧
    Http.Bears authorization token

/-- What a request says beside its token is what an endpoint asks for. -/
def Request.IsUsable [Json.Nesting] (request : Request) : Endpoint → Prop
  | .availability => ∃ hashes, readHashes request = .ok hashes
  | .stream => ∃ query, readQuery request = .valid query
  | .validate | .health => True

/-- A request gets through to the client, which is asked for something. -/
def Request.Asks [Json.Nesting] (request : Request) (asked : Client.Request) : Prop :=
  ∃ endpoint, route request.method request.path = .endpoint endpoint ∧
    readParameters request endpoint = .ok (some asked)

/-- The response to what comes of asking the client. -/
def conclude (request : Request) (asked : Client.Request) :
    Except Failure Client.Response → Client.Session Response
  | .ok brought => deliver asked brought
  | .error failure => report request.shownPath failure

def requestEvent (address : String) (request : Request) (status : Nat) : Log.Event :=
  ⟨.info, "http_request", [("method", .str request.method), ("path", .str request.shownPath),
    ("status_code", .int status), ("client_host", .str address)]⟩

namespace AdmissionLemmas

variable {request : Request} {endpoint : Endpoint} {token : String}

/-! ## Tokens -/

theorem blank_not_mem {word : List Char} (h : Text.lower word = "bearer".toList) : ' ' ∉ word := by
  intro hm
  have hlower : Text.lowerChar ' ' ∈ Text.lower word := List.mem_map_of_mem hm
  rw [h] at hlower
  revert hlower
  decide

theorem bearerToken?_eq_some {authorization : String} :
    Http.bearerToken? authorization = some token ↔ Http.Bears authorization token := by
  unfold Http.bearerToken?
  constructor
  · intro h
    split at h
    · next word rest hsplit =>
      dsimp only at h
      split at h
      · next hbearer =>
        rw [Bool.and_eq_true, beq_iff_eq] at hbearer
        obtain ⟨hword, hsome⟩ := hbearer
        cases h
        refine ⟨word, rest, Text.splitAtChar_join hsplit, hword, ?_, ?_⟩
        · rw [String.toList_ofList]
          exact Text.isCore_trimBy ..
        · simpa using hsome
      · cases h
    · cases h
  · rintro ⟨word, rest, hauthorization, hword, hcore, hne⟩
    have hsplit := Text.splitAtChar_append (blank_not_mem hword) rest
    have hsome : (!token.toList.isEmpty) = true := by simpa using hne
    rw [hauthorization, hsplit]
    simp only [Text.trimBy_eq_iff.mpr hcore, hword, beq_self_eq_true, hsome, Bool.and_self,
      if_true, String.ofList_toList]

theorem readToken_eq_ok : readToken request = .ok token ↔ request.Bears token := by
  unfold readToken Request.Bears
  simp only [← bearerToken?_eq_some, ← Option.bind_eq_some_iff]
  cases (request.header? "authorization").bind Http.bearerToken? <;> simp

theorem readToken_fails (h : ∀ token, ¬ request.Bears token) :
    readToken request = .error .unauthorized := by
  cases hread : readToken request with
  | ok token => exact absurd (readToken_eq_ok.mp hread) (h token)
  | error refusal =>
    unfold readToken at hread
    split at hread
    · cases hread
    · exact hread.symm

/-! ## Parameters -/

/-- Turned away for something else than its token. -/
def Complains (refusal : Refusal) : Prop :=
  refusal.response.status = 400 ∨ refusal.response.status = 422

theorem complains_of_accept {α : Type} {checked : Checked α} {refusal : Refusal}
    (h : accept checked = .error refusal) : Complains refusal := by
  cases checked with
  | valid value => cases h
  | invalid issues =>
    cases h
    exact .inr rfl
  | broken failure =>
    cases h
    exact .inl rfl

theorem accept_eq_ok {α : Type} {checked : Checked α} {value : α} :
    accept checked = .ok value ↔ checked = .valid value := by
  cases checked <;> simp [accept]

theorem complains_of_readHashes [Json.Nesting] {refusal : Refusal}
    (h : readHashes request = .error refusal) :
    Complains refusal := by
  unfold readHashes at h
  split at h
  · exact complains_of_accept h
  · split at h
    · split at h
      · next value _ =>
        unfold hashesOf at h
        split at h <;> exact complains_of_accept h
      · cases h
        exact .inr rfl
      · cases h
        exact .inl rfl
    · exact complains_of_accept h

/-- Without a token a request is turned away for that, or for what is wrong with its parameters. -/
theorem readParameters_fails [Json.Nesting] (hendpoint : endpoint ≠ .health)
    (h : ∀ token, ¬ request.Bears token) :
    ∃ refusal, readParameters request endpoint = .error refusal ∧
      (request.IsUsable endpoint → refusal = .unauthorized) ∧
      (¬ request.IsUsable endpoint → Complains refusal) := by
  have htoken := readToken_fails h
  cases endpoint with
  | validate => exact ⟨_, by rw [readParameters, htoken]; rfl, fun _ => rfl, (absurd trivial ·)⟩
  | availability =>
    cases hread : readHashes request with
    | ok hashes =>
      refine ⟨.unauthorized, ?_, fun _ => rfl, (absurd ⟨hashes, hread⟩ ·)⟩
      rw [readParameters, hread, htoken]
      rfl
    | error refusal =>
      refine ⟨refusal, ?_, ?_, fun _ => complains_of_readHashes hread⟩
      · rw [readParameters, hread]
        rfl
      · rintro ⟨hashes, hhashes⟩
        rw [hread] at hhashes
        cases hhashes
  | stream =>
    cases hread : accept (readQuery request) with
    | ok query =>
      refine ⟨.unauthorized, ?_, fun _ => rfl, (absurd ⟨query, accept_eq_ok.mp hread⟩ ·)⟩
      rw [readParameters, hread, htoken]
      rfl
    | error refusal =>
      refine ⟨refusal, ?_, ?_, fun _ => complains_of_accept hread⟩
      · rw [readParameters, hread]
        rfl
      · rintro ⟨query, hquery⟩
        rw [accept_eq_ok.mpr hquery] at hread
        cases hread
  | health => exact absurd rfl hendpoint

theorem bears_of_readParameters [Json.Nesting] {asked : Client.Request}
    (h : readParameters request endpoint = .ok (some asked)) : request.Bears asked.token := by
  cases endpoint with
  | validate =>
    obtain ⟨token, htoken, hasked⟩ := Except.bind_eq_ok.mp h
    cases hasked
    exact readToken_eq_ok.mp htoken
  | availability =>
    obtain ⟨hashes, _, h⟩ := Except.bind_eq_ok.mp h
    obtain ⟨token, htoken, hasked⟩ := Except.bind_eq_ok.mp h
    cases hasked
    exact readToken_eq_ok.mp htoken
  | stream =>
    obtain ⟨⟨magnet, remote⟩, _, h⟩ := Except.bind_eq_ok.mp h
    obtain ⟨token, htoken, hasked⟩ := Except.bind_eq_ok.mp h
    cases hasked
    exact readToken_eq_ok.mp htoken
  | health => cases h

theorem readParameters_of_bears [Json.Nesting] (hendpoint : endpoint ≠ .health)
    (h : request.Bears token) (husable : request.IsUsable endpoint) :
    ∃ asked, readParameters request endpoint = .ok (some asked) ∧ asked.token = token := by
  have htoken := readToken_eq_ok.mpr h
  cases endpoint with
  | validate => exact ⟨.validate token, by rw [readParameters, htoken]; rfl, rfl⟩
  | availability =>
    obtain ⟨hashes, hhashes⟩ := husable
    exact ⟨.check token (.many hashes), by rw [readParameters, hhashes, htoken]; rfl, rfl⟩
  | stream =>
    obtain ⟨⟨magnet, remote⟩, hquery⟩ := husable
    refine ⟨.stream token magnet remote, ?_, rfl⟩
    rw [readParameters, accept_eq_ok.mpr hquery, htoken]
    rfl
  | health => exact absurd rfl hendpoint

/-! ## Responses -/

section Responding

variable (client : Client)

theorem respond_of_error [Json.Nesting] {refusal : Refusal}
    (hroute : route request.method request.path = .endpoint endpoint)
    (h : readParameters request endpoint = .error refusal) :
    respond client request = pure refusal.response := by
  rw [respond, hroute]
  dsimp only
  rw [serve, h]

theorem respond_of_asks [Json.Nesting] {asked : Client.Request} (h : request.Asks asked) :
    respond client request = (client.serve asked).attempt >>= conclude request asked := by
  obtain ⟨endpoint, hroute, hread⟩ := h
  rw [respond, hroute]
  dsimp only
  rw [serve, hread]
  rfl

/-- A request that asks the client for nothing is answered at once. -/
theorem respond_of_not_asks [Json.Nesting] (h : ∀ asked, ¬ request.Asks asked) :
    ∃ response, respond client request = pure response := by
  unfold respond
  split
  · next endpoint hroute =>
    unfold serve
    split
    · exact ⟨_, rfl⟩
    · exact ⟨_, rfl⟩
    · next asked hread => exact absurd ⟨endpoint, hroute, hread⟩ (h asked)
  · exact ⟨_, rfl⟩
  · exact ⟨_, rfl⟩
  · exact ⟨_, rfl⟩

end Responding

theorem status_trimmed (response : Response) (method : String) :
    (response.trimmed method).status = response.status := by
  unfold Response.trimmed
  split <;> rfl

/-- A request that is answered at once leaves nothing behind but an event in the log. -/
theorem run_handleWired [Json.Nesting] {server : Server} {response : Response} (address : String)
    (h : respond server.client request = pure response) {State Mark : Type}
    (responder : Responder Question Answer State Mark) (state : State) :
    (server.handleWired address request).run responder state =
      ⟨.ok (response.trimmed request.method), state,
        [responder.noted (requestEvent address request
          (response.trimmed request.method).status)]⟩ := by
  rw [handleWired, handle, h, status_trimmed]
  rfl

end AdmissionLemmas

open AdmissionLemmas

/-- At every endpoint that needs the client, a request without a token is turned away, and whoever
answers, no question is asked and the state stays as it is: nothing goes to the service, and nothing
is read or written in the cache. The status is 401 if everything else about the request is as it
should be, and tells what is wrong with it otherwise. Whatever a request asks the client for carries
the token that the request bears, and every usable request that bears a token gets through. -/
theorem only_bearers_reach_client [Json.Nesting] (server : Server) (address : String)
    (request : Request) :
    (∀ endpoint, route request.method request.path = .endpoint endpoint → endpoint ≠ .health →
      (∀ token, ¬ request.Bears token) → ∃ response : Response,
        (∀ (State Mark : Type) (responder : Responder Question Answer State Mark) (state : State),
          (server.handleWired address request).run responder state =
            ⟨.ok response, state,
              [responder.noted (requestEvent address request response.status)]⟩) ∧
        (request.IsUsable endpoint → response.status = 401) ∧
        (¬ request.IsUsable endpoint → response.status = 400 ∨ response.status = 422)) ∧
    (∀ asked, request.Asks asked → request.Bears asked.token ∧
      respond server.client request =
        (server.client.serve asked).attempt >>= conclude request asked) ∧
    ((∀ asked, ¬ request.Asks asked) →
      ∃ response, respond server.client request = pure response) ∧
    ∀ endpoint, route request.method request.path = .endpoint endpoint → endpoint ≠ .health →
      request.IsUsable endpoint → ∀ token, request.Bears token →
        ∃ asked, request.Asks asked ∧ asked.token = token := by
  refine ⟨fun endpoint hroute hendpoint hnone => ?_, fun asked hasks => ?_,
    respond_of_not_asks server.client, fun endpoint hroute hendpoint husable token htoken => ?_⟩
  · obtain ⟨refusal, hread, hunauthorized, hcomplains⟩ := readParameters_fails hendpoint hnone
    have hrespond := respond_of_error server.client hroute hread
    refine ⟨_, fun State Mark responder => run_handleWired address hrespond responder,
      fun husable => ?_, fun hunusable => ?_⟩
    · rw [status_trimmed, hunauthorized husable]
      rfl
    · rw [status_trimmed]
      exact hcomplains hunusable
  · have ⟨_, _, hread⟩ := hasks
    exact ⟨bears_of_readParameters hread, respond_of_asks server.client hasks⟩
  · obtain ⟨asked, hread, hsame⟩ := readParameters_of_bears hendpoint htoken husable
    exact ⟨asked, ⟨endpoint, hroute, hread⟩, hsame⟩

def streamRequest (authorization : String) : Request :=
  ⟨"GET", "http://localhost", "/api/v1/debrid/stream", "magnet=m",
    [("authorization", authorization)], []⟩

attribute [local instance] Json.Nesting.usual

/-- Nothing but blank space is no token, and blank space around a token does not belong to it. -/
theorem only_bearers_reach_client_for_stream :
    let client : Client := ⟨"https://example.com", ⟨⟨0⟩, 0⟩, ⟨1, .ofNat 0⟩⟩
    let server : Server := ⟨[], ⟨.disk, "cache", 0⟩, client⟩
    (∀ token, ¬ (streamRequest "Bearer  ").Bears token) ∧
    (∃ response : Response, response.status = 401 ∧
      ∀ (State Mark : Type) (responder : Responder Question Answer State Mark) (state : State),
        (server.handleWired "127.0.0.1" (streamRequest "Bearer  ")).run responder state =
          ⟨.ok response, state,
            [responder.noted (requestEvent "127.0.0.1" (streamRequest "Bearer  ") 401)]⟩) ∧
    (streamRequest "bEARER  secret ").Bears "secret" ∧
    ∃ asked, (streamRequest "bEARER  secret ").Asks asked ∧ asked.token = "secret" := by
  intro client server
  have hroute : route "GET" "/api/v1/debrid/stream" = .endpoint .stream := by decide +kernel
  have husable : ∀ authorization, (streamRequest authorization).IsUsable .stream := by
    intro authorization
    have hfields : Http.Form.decode "magnet=m".toList = [("magnet", "m")] := by decide +kernel
    refine ⟨("m", false), ?_⟩
    simp only [readQuery, readMagnet, readRemote, Request.field?, streamRequest, hfields]
    rfl
  have hnone : ∀ token, ¬ (streamRequest "Bearer  ").Bears token := by
    rintro token ⟨authorization, hheader, hbears⟩
    cases hheader
    rw [← bearerToken?_eq_some] at hbears
    have hblank : Http.bearerToken? "Bearer  " = none := by decide +kernel
    rw [hblank] at hbears
    cases hbears
  have htoken : (streamRequest "bEARER  secret ").Bears "secret" :=
    ⟨_, rfl, bearerToken?_eq_some.mp (by decide +kernel)⟩
  obtain ⟨hturned, _⟩ := only_bearers_reach_client server "127.0.0.1" (streamRequest "Bearer  ")
  obtain ⟨_, _, _, hthrough⟩ :=
    only_bearers_reach_client server "127.0.0.1" (streamRequest "bEARER  secret ")
  obtain ⟨response, hrun, hstatus, _⟩ := hturned .stream hroute (by decide) hnone
  have h401 := hstatus (husable _)
  rw [h401] at hrun
  exact ⟨hnone, ⟨response, h401, hrun⟩, htoken,
    hthrough .stream hroute (by decide) (husable _) "secret" htoken⟩

end Server
end MagnetStream
