import MagnetStream.Proofs.Client.Confirmation
import MagnetStream.Proofs.Result

/-!
# One validation

What a validation does in a scripted world: a trusted token is valid at once, and any other is valid
if the reply to one request shows its user, in which case it is stamped. A rejection changes
nothing.
-/

namespace MagnetStream.Client

/-- A reply shows the user of a token. -/
def ShowsUser [Json.Nesting] (reply : Reply) : Prop :=
  ∃ body members, reply = .ok body ∧ Json.readBytes body = .ok (.obj members) ∧
    Entries.has members "id" = true

def showsUser [Json.Nesting] (reply : Reply) : Bool :=
  match reply.map Json.readBytes with
  | .ok (.ok (.obj members)) => Entries.has members "id"
  | _ => false

theorem showsUser_iff [Json.Nesting] {reply : Reply} :
    showsUser reply = true ↔ ShowsUser reply := by
  cases reply with
  | error failure => exact ⟨(nomatch ·), fun ⟨_, _, h, _⟩ => nomatch h⟩
  | ok body =>
    constructor
    · intro h
      unfold showsUser at h
      split at h
      · next members hread => exact ⟨body, members, rfl, Except.ok.inj hread, h⟩
      · cases h
    · rintro ⟨_, members, ⟨⟩, hread, hid⟩
      simp [showsUser, Except.map, hread, hid]

instance [Json.Nesting] (reply : Reply) : Decidable (ShowsUser reply) :=
  decidable_of_iff _ showsUser_iff

namespace Token

open Session (Ends Yields)

def request (base token : String) : Call := ⟨.get, base ++ userPath, token, none⟩

/-- What is noted when the cache is asked about a token. -/
def notes (token : String) : Confirmations.Notes where
  unread failure := ⟨.error, "token_cache_read_failed",
    [("api_token", .str token), ("error", .str failure.message)]⟩
  missed := ⟨.debug, "token_cache_miss", [("api_token", .str token)]⟩
  expired span := ⟨.debug, "token_cache_expired",
    [("api_token", .str token), ("expired_since", .str span.toText)]⟩
  hit := ⟨.debug, "token_cache_hit", [("api_token", .str token)]⟩

theorem isConfirmed_eq (token : String) :
    isConfirmed token = store.consult trust (notes token) token := rfl

theorem isConfirmed_yields (token : String) (world : World) :
    (isConfirmed token).Yields world 0 (.ok (world.trusts store trust token)) [] :=
  isConfirmed_eq token ▸ Confirmations.consult_yields ..

theorem get_yields (base token : String) (world : World) (start : Nat) :
    (Session.get token (base ++ userPath)).Yields world start (world.reply start)
      [request base token] :=
  .get ..

variable [Json.Nesting]

/-- What a reply says about a token. -/
def verdict (reply : Reply) : Except Failure Unit := do
  let user ← readObject "Couldn't parse user info response" (← reply)
  if Entries.has user "id" then .ok () else .error (.badResponse .missingUserId)

/-- A token is valid to the service just when the reply shows its user. -/
theorem verdict_eq_ok {reply : Reply} : verdict reply = .ok () ↔ ShowsUser reply := by
  unfold verdict
  constructor
  · intro h
    obtain ⟨body, hreply, h⟩ := Except.bind_eq_ok.mp h
    obtain ⟨members, hread, h⟩ := Except.bind_eq_ok.mp h
    by_cases hid : Entries.has members "id" = true
    · exact ⟨body, members, hreply, readObject_eq_ok.mp hread, hid⟩
    · rw [if_neg hid] at h
      cases h
  · rintro ⟨body, members, rfl, hread, hid⟩
    refine Except.bind_eq_ok.mpr ⟨body, rfl, Except.bind_eq_ok.mpr ⟨members, ?_, if_pos hid⟩⟩
    exact readObject_eq_ok.mpr hread

theorem verdict_fails {reply : Reply} (h : ¬ ShowsUser reply) :
    ∃ failure, verdict reply = .error failure := by
  cases hverdict : verdict reply with
  | error failure => exact ⟨failure, rfl⟩
  | ok _ => exact absurd (verdict_eq_ok.mp hverdict) h

theorem askService_yields (base token : String) (world : World) (start : Nat) :
    (askService base token).Yields world start (verdict (world.reply start))
      [request base token] := by
  have hget := Yields.attempt (get_yields base token world start)
  cases hreply : world.reply start with
  | error failure =>
    rw [hreply] at hget
    exact hget.bind_last (Yields.bind_ok (.log ..) (.fail failure))
  | ok body =>
    rw [hreply] at hget
    refine hget.bind_last (Yields.bind_quiet (.lift rfl) fun members => ?_)
    split
    · exact .pure ()
    · exact .fail _

/-- A trusted token is valid without a request. -/
theorem validate_trusted (base : String) {token : String} {world : World}
    (h : world.trusts store trust token = true) :
    (validate base token).Yields world 0 (.ok ()) [] := by
  have hconfirmed := isConfirmed_yields token world
  rw [h] at hconfirmed
  exact Yields.bind_ok (.log ..) (hconfirmed.bind_ok (.pure ()))

/-- About any other token the service is asked, and only a valid one is stamped. -/
theorem validate_asked (base : String) {token : String} {world : World}
    (h : world.trusts store trust token = false) :
    (validate base token).Ends world (verdict (world.reply 0))
      (match verdict (world.reply 0) with
        | .ok () => (world.spend 1).stamp store token
        | .error _ => world.spend 1)
      [request base token] := by
  have hconfirmed := (isConfirmed_yields token world).ends
  rw [h] at hconfirmed
  have hask : (askService base token).Ends world (verdict (world.reply 0)) (world.spend 1)
      [request base token] :=
    askService_yields base token world 0
  refine Ends.bind_ok (.log ..) (hconfirmed.bind_ok ?_)
  cases hverdict : verdict (world.reply 0) with
  | error failure =>
    rw [hverdict] at hask
    exact hask.bind_error
  | ok _ =>
    rw [hverdict] at hask
    obtain ⟨result, hconfirm⟩ := Confirmations.confirm_ends store token (world.spend 1)
    refine hask.bind_last (Ends.bind_ok (.log ..) (hconfirm.attempt.bind_last ?_))
    cases result with
    | ok _ => exact .pure ()
    | error failure => exact .log ..

/-- A token that is not trusted is rejected if the reply does not show its user. -/
theorem validate_rejected (base : String) {token : String} {world : World}
    (h : world.trusts store trust token = false) (hreply : ¬ ShowsUser (world.reply 0)) :
    ∃ failure, (validate base token).Yields world 0 (.error failure) [request base token] := by
  obtain ⟨failure, hverdict⟩ := verdict_fails hreply
  have hends := validate_asked base h
  rw [hverdict] at hends
  exact ⟨failure, hends⟩

/-- A token that is not trusted is valid if the reply shows its user, and is stamped. -/
theorem validate_shown (base : String) {token : String} {world : World}
    (h : world.trusts store trust token = false) (hreply : ShowsUser (world.reply 0)) :
    (validate base token).Ends world (.ok ()) ((world.spend 1).stamp store token)
      [request base token] := by
  have hends := validate_asked base h
  rwa [verdict_eq_ok.mpr hreply] at hends

end Token
end MagnetStream.Client
