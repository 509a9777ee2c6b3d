import MagnetStream.Proofs.Dialogue
import MagnetStream.Proofs.Log.Masking
import MagnetStream.Server.World

/-!
# The cache of a server

What a server does for its client's cache is what its storage does on its medium: nothing comes in
between (`runIn_onMedium`).
-/

namespace MagnetStream.Server

def Mark.ofStorage : Storage.Medium.Mark → Mark
  | .commanded command => .commanded command
  | .logged event => .logged event

/-- What is left of an action of the storage that took place on the medium of a world. -/
def World.after {α : Type} (world : World) (run : Run Storage.Medium Storage.Medium.Mark α) :
    Run World Mark α :=
  ⟨run.result, { world with medium := run.state }, run.trace.map Mark.ofStorage⟩

/-- Held by a server, an action of its storage takes place on its medium. -/
theorem runIn_onMedium {α : Type} (action : Storage.Action α) (world : World) :
    (onMedium action).runIn world =
      world.after (action.run (Storage.Medium.responder world.clock.instant) world.medium) := by
  induction action generalizing world with
  | done result => rfl
  | note event rest ih =>
    have hrun : (onMedium (.note event rest)).runIn world =
        ⟨((onMedium rest).runIn world).result, ((onMedium rest).runIn world).state,
          .logged event :: ((onMedium rest).runIn world).trace⟩ := rfl
    rw [hrun, ih]
    rfl
  | ask command next ih =>
    let given := Storage.Medium.answer world.clock.instant command world.medium
    let later : World := { world with medium := given.2 }
    have hrun : (onMedium (.ask command next)).runIn world =
        ⟨((onMedium (next given.1)).runIn later).result,
          ((onMedium (next given.1)).runIn later).state,
          .commanded command :: ((onMedium (next given.1)).runIn later).trace⟩ := rfl
    rw [hrun, ih]
    rfl

/-- A mark with another key of the storage. -/
def Mark.rekey (change : String → String) : Mark → Mark
  | .commanded (.read key) => .commanded (.read (change key))
  | .commanded (.write key entry ttl) => .commanded (.write (change key) entry ttl)
  | .logged event => .logged (event.rekey change)
  | mark => mark

end MagnetStream.Server
