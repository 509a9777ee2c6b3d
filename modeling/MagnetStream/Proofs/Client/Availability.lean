import MagnetStream.Proofs.Client.Confirmation

/-!
# One availability check

What a check does in a scripted world: it answers the hashes that the world trusts, asks about all
others in one request, and stamps those that the reply confirms (`runIn_check`).
-/

namespace MagnetStream.Client

namespace World

/-- The world that is left when things are confirmed one after the other. -/
def stampAll (world : World) (store : Confirmations) (keys : List String) : World :=
  keys.foldl (fun world key => world.stamp store key) world

variable (store : Confirmations) (keys : List String) (world : World)

theorem stampAll_cons (key : String) :
    world.stampAll store (key :: keys) = (world.stamp store key).stampAll store keys := rfl

theorem get?_stampAll_of_not_mem {other : String}
    (h : ∀ key ∈ keys, other ≠ store.cacheKey key) :
    (world.stampAll store keys).entries.get? other = world.entries.get? other := by
  induction keys generalizing world with
  | nil => rfl
  | cons key rest ih =>
    rw [stampAll_cons, ih _ fun k hk => h k (List.mem_cons_of_mem _ hk)]
    exact get?_stamp_of_ne _ _ _ (h key List.mem_cons_self)

/-- Each of the confirmed things has its entry written, if it can be written. -/
theorem get?_stampAll_of_mem {key : String} (h : key ∈ keys) :
    (world.stampAll store keys).entries.get? (store.cacheKey key) =
      (world.stampText?.map Json.str).or (world.entries.get? (store.cacheKey key)) := by
  induction keys generalizing world with
  | nil => cases h
  | cons first rest ih =>
    rw [stampAll_cons]
    by_cases hr : key ∈ rest
    · rw [ih _ hr, stampText?_stamp]
      cases htext : world.stampText? with
      | some text => rfl
      | none =>
        have hstamp : world.stamp store first = world := by simp [stamp, htext]
        rw [hstamp]
    · have hfirst : key = first := (List.mem_cons.mp h).resolve_right hr
      subst hfirst
      have hother : ∀ other ∈ rest, store.cacheKey key ≠ store.cacheKey other :=
        fun other ho heq => hr (Confirmations.cacheKey_inj.mp heq ▸ ho)
      rw [get?_stampAll_of_not_mem _ _ _ hother, get?_stamp_self]

end World

namespace Availability

open Session (Ends Yields)

/-! ## Lists without repetitions -/

/-- Appending what is not there yet leaves out what was there before, and all repetitions. -/
theorem foldl_append_new (items seen : List String) :
    items.foldl (fun seen item => if seen.contains item then seen else seen ++ [item]) seen =
      seen ++ (items.filter fun item => !seen.contains item).eraseDups := by
  induction items generalizing seen with
  | nil => simp
  | cons item rest ih =>
    rw [List.foldl_cons, ih]
    by_cases hseen : seen.contains item = true
    · rw [if_pos hseen, List.filter_cons_of_neg (by simpa using hseen)]
    · have hrest : (rest.filter fun other => !(seen ++ [item]).contains other) =
          (rest.filter fun other => !seen.contains other).filter fun other => !other == item := by
        rw [List.filter_filter]
        refine List.filter_congr fun other _ => ?_
        simp [Bool.and_comm, Bool.beq_eq_decide_eq]
      rw [if_neg hseen, List.filter_cons_of_pos (by simpa using hseen), List.eraseDups_cons, hrest,
        List.append_assoc, List.singleton_append]

theorem eraseDups_eq_foldl (items : List String) :
    items.eraseDups =
      items.foldl (fun seen item => if seen.contains item then seen else seen ++ [item]) [] := by
  have hall : (items.filter fun item => !([] : List String).contains item) = items :=
    List.filter_eq_self.mpr fun _ _ => rfl
  rw [foldl_append_new, hall, List.nil_append]

theorem nodup_eraseDups (items : List String) : items.eraseDups.Nodup := by
  cases items with
  | nil => exact .nil
  | cons item rest =>
    rw [List.eraseDups_cons, List.nodup_cons]
    refine ⟨by simp, ?_⟩
    have hshorter := List.length_filter_le (fun other => !other == item) rest
    exact nodup_eraseDups (rest.filter fun other => !other == item)
termination_by items.length
decreasing_by
  subst_vars
  rw [List.length_cons]
  omega

/-! ## The parts of a check -/

theorem wanted_eq (hashes : List String) :
    wanted hashes = ((hashes.filter fun hash => !hash.isEmpty).map Text.upper).eraseDups := by
  rw [eraseDups_eq_foldl, List.foldl_map]
  rfl

/-- A hash is confirmed by a response: it is the capital form of a key with a description whose list
under the provider is not empty. -/
def Confirms (response : List (String × Json)) (hash : String) : Prop :=
  ∃ key members first rest, (key, Json.obj members) ∈ response ∧ Text.upper key = hash ∧
    Entries.get? members provider = some (.arr (first :: rest))

theorem isAvailable_iff {description : Json} :
    isAvailable description = true ↔ ∃ members first rest, description = .obj members ∧
      Entries.get? members provider = some (.arr (first :: rest)) := by
  unfold isAvailable
  constructor
  · intro h
    split at h
    · next first rest hmember =>
      cases description with
      | obj members => exact ⟨members, first, rest, rfl, hmember⟩
      | _ => cases hmember
    · cases h
  · rintro ⟨members, first, rest, rfl, hmember⟩
    simp [Json.member?, hmember]

/-- The confirmed hashes are the capital forms of the keys that confirm, each at the first one. -/
theorem confirmedBy_eq (requested : List String) (response : List (String × Json)) :
    confirmedBy requested response =
      ((response.filter fun (key, description) =>
        requested.contains (Text.upper key) && isAvailable description).map fun (key, _) =>
          Text.upper key).eraseDups := by
  rw [eraseDups_eq_foldl, List.foldl_map, List.foldl_filter]
  refine congrArg (fun step => response.foldl step []) ?_
  funext confirmed (key, description)
  dsimp only
  rw [Bool.and_right_comm]
  by_cases hconfirms : (requested.contains (Text.upper key) && isAvailable description) = true
  · rw [if_pos hconfirms]
    by_cases hold : confirmed.contains (Text.upper key) = true
    · rw [if_pos hold, hold, Bool.not_true, Bool.and_false, if_neg Bool.false_ne_true]
    · rw [if_neg hold, if_pos (Bool.and_eq_true_iff.mpr ⟨hconfirms, by simpa using hold⟩)]
  · rw [if_neg hconfirms, if_neg fun h => hconfirms (Bool.and_eq_true_iff.mp h).1]

/-- Exactly the requested hashes that the response confirms count as confirmed. -/
theorem mem_confirmedBy {requested : List String} {response : List (String × Json)}
    {hash : String} :
    hash ∈ confirmedBy requested response ↔ hash ∈ requested ∧ Confirms response hash := by
  simp only [confirmedBy_eq, List.mem_eraseDups, List.mem_map, List.mem_filter, Bool.and_eq_true,
    List.contains_iff_mem, isAvailable_iff]
  constructor
  · rintro ⟨⟨key, _⟩, ⟨hm, hreq, members, first, rest, rfl, hlist⟩, rfl⟩
    exact ⟨hreq, key, members, first, rest, hm, rfl, hlist⟩
  · rintro ⟨hreq, key, members, first, rest, hm, rfl, hlist⟩
    exact ⟨(key, .obj members), ⟨hm, hreq, members, first, rest, rfl, hlist⟩, rfl⟩

/-- Whether a hash is answered out of a world's cache. -/
def isKnown (policy : Policy) (world : World) (hash : String) : Bool :=
  policy.usesCache && world.trusts policy.store policy.age hash

/-- What is noted when the cache is asked about a hash. -/
def notes (token hash : String) : Confirmations.Notes where
  unread failure := ⟨.error, "availability_cache_read_failed",
    [("api_token", .str token), ("info_hash", .str hash), ("error", .str failure.message)]⟩
  missed := ⟨.debug, "availability_cache_miss", [("info_hash", .str hash)]⟩
  expired span := ⟨.debug, "availability_cache_expired",
    [("info_hash", .str hash), ("expired_since", .str span.toText)]⟩
  hit := ⟨.debug, "availability_cache_hit", [("info_hash", .str hash)]⟩

theorem isConfirmed_eq (policy : Policy) (token hash : String) :
    isConfirmed policy token hash = policy.store.consult policy.age (notes token hash) hash := rfl

theorem isConfirmed_yields (policy : Policy) (token hash : String) (world : World) :
    (isConfirmed policy token hash).Yields world 0
      (.ok (world.trusts policy.store policy.age hash)) [] :=
  isConfirmed_eq policy token hash ▸ Confirmations.consult_yields ..

theorem consultCache_cons (policy : Policy) (token hash : String) (rest : List String) :
    consultCache policy token (hash :: rest) =
      (if policy.usesCache then isConfirmed policy token hash else pure false) >>= fun confirmed =>
        consultCache policy token rest >>= fun (known, unresolved) =>
          if confirmed then pure (hash :: known, unresolved)
          else pure (known, hash :: unresolved) := by
  rw [consultCache]
  split <;> rfl

theorem consultCache_yields (policy : Policy) (token : String) (hashes : List String)
    (world : World) :
    (consultCache policy token hashes).Yields world 0
      (.ok (hashes.filter (isKnown policy world),
        hashes.filter fun hash => !isKnown policy world hash)) [] := by
  induction hashes with
  | nil => exact .pure _
  | cons hash rest ih =>
    have hone : Session.Yields
        (if policy.usesCache then isConfirmed policy token hash else pure false) world 0
          (.ok (isKnown policy world hash)) [] := by
      unfold isKnown
      split
      · next huse => simpa [huse] using isConfirmed_yields policy token hash world
      · next huse => simpa [huse] using Yields.pure false
    rw [consultCache_cons]
    refine Yields.bind_ok hone (Yields.bind_ok ih ?_)
    cases hknown : isKnown policy world hash with
    | true => simpa [hknown] using Yields.pure _
    | false => simpa [hknown] using Yields.pure _

theorem confirmAll_ends (policy : Policy) (token : String) (hashes : List String)
    (world : World) :
    (confirmAll policy token hashes).Ends world (.ok ()) (world.stampAll policy.store hashes)
      [] := by
  induction hashes generalizing world with
  | nil => exact .pure ()
  | cons hash rest ih =>
    obtain ⟨result, hconfirm⟩ := Confirmations.confirm_ends policy.store hash world
    rw [confirmAll, World.stampAll_cons]
    refine hconfirm.attempt.bind_ok ?_
    cases result with
    | ok _ => exact ih _
    | error failure => exact Ends.bind_ok (.log ..) (ih _)

/-- The hashes among those asked about that a reply confirms. -/
def heard [Json.Nesting] (asked : List String) : Reply → List String
  | .ok body =>
    match Json.readBytes body with
    | .ok (.obj response) => confirmedBy asked response
    | _ => []
  | .error _ => []

def request (base token : String) (asked : List String) : Call :=
  ⟨.get, requestUrl base asked, token, none⟩

theorem heard_of_ok [Json.Nesting] {purpose : String} {body : List UInt8}
    {response : List (String × Json)} (h : readObject purpose body = .ok response)
    (asked : List String) :
    heard asked (.ok body) = confirmedBy asked response := by
  simp [heard, readObject_eq_ok.mp h]

theorem heard_of_error [Json.Nesting] {purpose : String} {body : List UInt8} {failure : Failure}
    (h : readObject purpose body = .error failure) (asked : List String) :
    heard asked (.ok body) = [] := by
  unfold heard
  dsimp only
  split
  · next response hread =>
    rw [readObject_eq_ok.mpr hread] at h
    cases h
  · rfl

/-- Exactly the hashes asked about that an object in the reply confirms are heard of. -/
theorem mem_heard [Json.Nesting] {asked : List String} {reply : Reply} {hash : String} :
    hash ∈ heard asked reply ↔ hash ∈ asked ∧ ∃ body response, reply = .ok body ∧
      Json.readBytes body = .ok (.obj response) ∧ Confirms response hash := by
  constructor
  · intro h
    unfold heard at h
    split at h
    · split at h
      · next body _ response hread =>
        obtain ⟨hasked, hconfirms⟩ := mem_confirmedBy.mp h
        exact ⟨hasked, body, response, rfl, hread, hconfirms⟩
      · cases h
    · cases h
  · rintro ⟨hasked, body, response, rfl, hread, hconfirms⟩
    simpa [heard, hread] using mem_confirmedBy.mpr ⟨hasked, hconfirms⟩

theorem askService_ends [Json.Nesting] (policy : Policy) (base token : String) (asked : List String)
    (world : World) :
    (askService policy base token asked).Ends world (.ok (heard asked (world.reply 0)))
      ((world.spend 1).stampAll policy.store
        (if policy.usesCache then heard asked (world.reply 0) else []))
      [request base token asked] := by
  have hyields : (Session.get token (requestUrl base asked)).Yields world 0 (world.reply 0)
      [request base token asked] := .get ..
  have hget : (Session.get token (requestUrl base asked)).Ends world (world.reply 0) (world.spend 1)
      [request base token asked] := hyields
  unfold askService
  dsimp only
  cases hreply : world.reply 0 with
  | error failure =>
    rw [hreply] at hget
    rw [heard, ite_self]
    exact hget.bind_error.attempt.bind_last (Ends.bind_ok (.log ..) (.pure _))
  | ok body =>
    rw [hreply] at hget
    have hread : Session.Ends
        (.lift (readObject "Couldn't parse instant availability response" body)) (world.spend 1)
          (readObject "Couldn't parse instant availability response" body) (world.spend 1) [] :=
      ⟨[], rfl, rfl⟩
    refine (hget.bind_last hread).attempt.bind_last ?_
    cases hobject : readObject "Couldn't parse instant availability response" body with
    | error failure =>
      rw [heard_of_error hobject, ite_self]
      exact Ends.bind_ok (.log ..) (.pure _)
    | ok response =>
      rw [heard_of_ok hobject]
      dsimp only
      split
      · exact (confirmAll_ends ..).bind_ok (.pure _)
      · exact .pure _

/-! ## The whole check -/

/-- The hashes that a check answers out of the cache. -/
def known (policy : Policy) (world : World) (hashes : List String) : List String :=
  (wanted hashes).filter (isKnown policy world)

def asked (policy : Policy) (world : World) (hashes : List String) : List String :=
  (wanted hashes).filter fun hash => !isKnown policy world hash

theorem mem_known {policy : Policy} {world : World} {hashes : List String} {hash : String} :
    hash ∈ known policy world hashes ↔
      hash ∈ wanted hashes ∧ isKnown policy world hash = true :=
  List.mem_filter

theorem mem_asked {policy : Policy} {world : World} {hashes : List String} {hash : String} :
    hash ∈ asked policy world hashes ↔
      hash ∈ wanted hashes ∧ ¬ isKnown policy world hash = true := by
  simp [asked, List.mem_filter]

/-- The hashes that a check learns from the service. -/
def learned [Json.Nesting] (policy : Policy) (world : World) (hashes : List String) : List String :=
  heard (asked policy world hashes) (world.reply 0)

theorem heard_nil [Json.Nesting] (reply : Reply) : heard [] reply = [] := by
  rw [List.eq_nil_iff_forall_not_mem]
  exact fun hash hm => absurd (mem_heard.mp hm).1 List.not_mem_nil

/-- A check answers what is known and what it learns. It sends one request about all other hashes,
if there are any, and stamps what it learns if the cache is used. -/
theorem check_ends [Json.Nesting] (policy : Policy) (base token : String) (hashes : List String)
    (world : World) :
    (check policy base token hashes).Ends world
      (.ok (known policy world hashes ++ learned policy world hashes))
      ((if (asked policy world hashes).isEmpty then world else world.spend 1).stampAll policy.store
        (if policy.usesCache then learned policy world hashes else []))
      (if (asked policy world hashes).isEmpty then []
        else [request base token (asked policy world hashes)]) := by
  have hconsult : Ends _ world (.ok (known policy world hashes, asked policy world hashes)) world
      [] :=
    (consultCache_yields policy token (wanted hashes) world).ends
  unfold check
  dsimp only
  by_cases hall : (asked policy world hashes).isEmpty = true
  · have hlearned : learned policy world hashes = [] := by
      rw [learned, List.isEmpty_iff.mp hall, heard_nil]
    rw [if_pos hall, if_pos hall, hlearned, ite_self, List.append_nil]
    split
    · next hnone =>
      rw [known, List.isEmpty_iff.mp hnone]
      exact .pure []
    · refine hconsult.bind_ok ?_
      dsimp only
      rw [if_pos hall]
      exact .pure _
  · have hask := askService_ends policy base token (asked policy world hashes) world
    rw [if_neg hall, if_neg hall]
    split
    · next hnone => exact absurd (by simp [asked, List.isEmpty_iff.mp hnone]) hall
    · refine hconsult.bind_ok ?_
      dsimp only
      rw [if_neg hall]
      exact hask.bind_last (Ends.bind_ok (.log ..) (.pure _))

end Availability
end MagnetStream.Client
