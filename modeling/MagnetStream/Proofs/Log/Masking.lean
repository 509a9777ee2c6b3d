import MagnetStream.Log.Event

/-!
# What masking hides

A change of the named values of an event is seen in the masked event as far as it is seen of each of
them (`Event.masked_mapFields`). A key of the cache is no credential by its name, so its change is
seen in full (`Event.masked_rekey`).
-/

namespace MagnetStream.Log

def maskNamed (named : String × Json) : String × Json := (named.1, maskField named.1 named.2)

def Event.mapFields (change : String × Json → String × Json) (event : Event) : Event :=
  { event with fields := event.fields.map change }

@[simp] theorem Event.mapFields_id (event : Event) : event.mapFields id = event := by
  simp [mapFields]

/-- If masking turns one change of named values into another, it does so in events. -/
theorem Event.masked_mapFields {change seen : String × Json → String × Json}
    (h : ∀ named, maskNamed (change named) = seen (maskNamed named)) (event : Event) :
    (event.mapFields change).masked = event.masked.mapFields seen := by
  have hfields : (event.fields.map change).map maskNamed =
      (event.fields.map maskNamed).map seen := by
    rw [List.map_map, List.map_map]
    exact List.map_congr_left fun named _ => h named
  exact congrArg (Event.mk event.level event.name) hfields

/-- A named value with another text, if it stands under the name of a key. -/
def rekeyField (change : String → String) : String × Json → String × Json
  | (name, .str text) => (name, .str (if name = "key" then change text else text))
  | named => named

def Event.rekey (change : String → String) : Event → Event := Event.mapFields (rekeyField change)

/-- A key is not masked. -/
theorem Event.masked_rekey (change : String → String) (event : Event) :
    (event.rekey change).masked = event.masked.rekey change := by
  refine Event.masked_mapFields ?_ event
  rintro ⟨name, value⟩
  cases value with
  | str text =>
    by_cases hkey : name = "key"
    · subst hkey
      rfl
    · by_cases hsecret : name ∈ secretNames
      · simp [maskNamed, rekeyField, maskField, hkey, hsecret]
      · simp [maskNamed, rekeyField, maskField, hkey, hsecret]
  | _ => rfl

end MagnetStream.Log
