import MagnetStream.Client.Session

/-!
# Confirmations

A confirmation is an entry of the cache that says when something was last found to be so. It is kept
under a namespace and a key, as a moment of universal time, and the cache may drop it when its time
to live is over.
-/

namespace MagnetStream.Client

/-- Where confirmations of one kind are kept. -/
structure Confirmations where
  namespaceName : String
  ttl : Int
deriving DecidableEq, Repr

namespace Confirmations

def cacheKey (store : Confirmations) (key : String) : String :=
  store.namespaceName ++ ":" ++ key

/-- The text that is kept for a moment. -/
def encode (moment : Calendar.Moment) : Except Failure String :=
  match moment.toUniversal? with
  | some moment => .ok moment.toText
  | none => .error .outsideCalendar

def decode : Json → Except Failure Calendar.Moment
  | .str text =>
    (Calendar.Moment.ofText text).mapError fun fault => .corruptEntry (.notMoment fault)
  | value => .error (.corruptEntry (.notText value.kindName))

/-- When something was last confirmed, if it ever was. -/
def find (store : Confirmations) (key : String) : Session (Option Calendar.Moment) :=
  .ask (.recall (store.cacheKey key)) fun
    | .error failure => .fail failure
    | .ok .null => pure none
    | .ok entry => .lift ((decode entry).map some)

def confirm (store : Confirmations) (key : String) : Session Unit := do
  let entry ← .lift (encode (← Session.now))
  .ask (.record (store.cacheKey key) (.str entry) store.ttl) .lift
  .log .debug "timestamp_saved" [("namespace", .str store.namespaceName), ("ttl", .int store.ttl)]

end Confirmations
end MagnetStream.Client
