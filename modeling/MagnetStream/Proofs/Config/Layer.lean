import MagnetStream.Config.Layer
import MagnetStream.Proofs.Json.Overlay

/-!
# What layers say about settings

A setting has a spot in the settings. A layer gives a setting if it has something at the flat name
of its spot, or else at the spot itself (`Spot.given?`). The normal form of a layer holds what the
layer gives (`find?_normalize`), and of layers that are laid over each other, the highest one that
gives anything decides (`decides_foldl`). Only where two objects meet at a spot they are merged.
-/

namespace MagnetStream
namespace Config

/-! ## Where settings stand -/

/-- Where a setting stands in settings of normal form: at the top, or in a section. -/
inductive Spot where
  | top (name : String)
  | inside (sectionName name : String)
deriving DecidableEq

namespace Spot

/-- The spot belongs to settings of normal form. -/
def Known : Spot → Prop
  | top name => name ∈ Layer.topNames
  | inside sectionName _ => sectionName ∈ Layer.sections

instance (spot : Spot) : Decidable spot.Known :=
  match spot with
  | top _ => inferInstanceAs (Decidable (_ ∈ _))
  | inside _ _ => inferInstanceAs (Decidable (_ ∈ _))

/-- What stands at a spot. A section that is no object holds nothing. -/
def find? : Spot → Layer → Option Json
  | top name, layer => Entries.get? layer name
  | inside sectionName name, layer => (Entries.get? layer sectionName).bind (Json.member? name)

/-- The flat name of a spot in a table of flat names. -/
def flatIn? (spot : Spot) (rows : List (String × String × String)) : Option String :=
  (rows.find? fun (_, sectionName, name) => spot = .inside sectionName name).map Prod.fst

/-- What a layer gives for a spot: what has the flat name, or else what stands there. -/
def given? (spot : Spot) (layer : Layer) : Option Json :=
  ((spot.flatIn? Layer.flatNames).bind (Entries.get? layer)).or (spot.find? layer)

theorem find?_inside (sectionName name : String) (layer : Layer) :
    (inside sectionName name).find? layer =
      (Entries.get? layer sectionName).bind (Json.member? name) := rfl

theorem find?_inside_eq_some {sectionName name : String} {layer : Layer} {value : Json} :
    (inside sectionName name).find? layer = some value ↔
      ∃ members, Entries.get? layer sectionName = some (.obj members) ∧
        Entries.get? members name = some value := by
  rw [find?_inside]
  constructor
  · intro h
    obtain ⟨found, hfound, hmember⟩ := Option.bind_eq_some_iff.mp h
    cases found with
    | obj members => exact ⟨members, hfound, hmember⟩
    | _ => cases hmember
  · rintro ⟨members, hfound, hmember⟩
    rw [hfound]
    exact hmember

end Spot

namespace Layer

/-- The members of a section; a section that is no object has none. -/
def membersOf (layer : Layer) (sectionName : String) : List (String × Json) :=
  match Entries.get? layer sectionName with
  | some (.obj members) => members
  | _ => []

/-- In no section of a layer does a name stand twice. -/
def Distinct (layer : Layer) : Prop :=
  ∀ sectionName ∈ sections, (Entries.names (layer.membersOf sectionName)).Nodup

instance (layer : Layer) : Decidable layer.Distinct :=
  inferInstanceAs (Decidable (∀ sectionName ∈ sections, _))

/-- Every section of a layer is an object. -/
def Sectioned (layer : Layer) : Prop :=
  ∀ sectionName ∈ sections, ∀ value, Entries.get? layer sectionName = some value →
    ∃ members, value = .obj members

/-- A layer of normal form: no name stands twice, and every section is an object. -/
structure Normal (layer : Layer) : Prop where
  names : (Entries.names layer).Nodup
  distinct : layer.Distinct
  objects : layer.Sectioned

/-! ## One setting at a time -/

section Setting

variable {layer : Layer} {sectionName : String}

theorem topNames_ne {top : String} (htop : top ∈ topNames) (h : sectionName ∈ sections) :
    top ≠ sectionName := by
  rintro rfl
  revert htop
  have hapart : ∀ name ∈ sections, name ∉ topNames := by decide
  exact hapart top h

theorem membersOf_eq {layer : Layer} {members : List (String × Json)}
    (h : Entries.get? layer sectionName = some (.obj members)) :
    layer.membersOf sectionName = members := by
  rw [membersOf, h]

theorem get?_membersOf (layer : Layer) (sectionName name : String) :
    Entries.get? (membersOf layer sectionName) name =
      (Spot.inside sectionName name).find? layer := by
  rw [membersOf, Spot.find?_inside]
  cases Entries.get? layer sectionName with
  | none => rfl
  | some found => cases found <;> rfl

theorem setIn_eq (layer : Layer) (sectionName name : String) (value : Json) :
    setIn layer sectionName name value =
      Entries.insert layer sectionName
        (.obj (Entries.insert (layer.membersOf sectionName) name value)) := rfl

/-- Setting a setting changes what stands at its spot, and nothing else. -/
theorem find?_setIn (h : sectionName ∈ sections) (layer : Layer) (name : String) (value : Json)
    {spot : Spot} (hspot : spot.Known) :
    spot.find? (setIn layer sectionName name value) =
      if spot = .inside sectionName name then some value else spot.find? layer := by
  rw [setIn_eq]
  cases spot with
  | top top =>
    rw [if_neg nofun]
    exact Entries.get?_insert_of_ne (topNames_ne hspot h) ..
  | inside other key =>
    by_cases hother : other = sectionName
    · subst hother
      rw [Spot.find?_inside, Entries.get?_insert_self, Option.bind_some, Json.member?]
      by_cases hkey : key = name
      · rw [hkey, Entries.get?_insert_self, if_pos rfl]
      · rw [Entries.get?_insert_of_ne hkey, get?_membersOf, if_neg (by simpa using hkey)]
    · rw [Spot.find?_inside, Entries.get?_insert_of_ne hother, if_neg (by simp [hother])]
      rfl

theorem Sectioned.setIn (hlayer : layer.Sectioned) (sectionName name : String) (value : Json) :
    (layer.setIn sectionName name value).Sectioned := by
  intro other hother found hget
  rw [setIn_eq] at hget
  by_cases hsame : other = sectionName
  · rw [hsame, Entries.get?_insert_self, Option.some.injEq] at hget
    exact ⟨_, hget.symm⟩
  · rw [Entries.get?_insert_of_ne hsame] at hget
    exact hlayer other hother found hget

theorem Normal.setIn (hlayer : layer.Normal) (h : sectionName ∈ sections) (name : String)
    (value : Json) : (layer.setIn sectionName name value).Normal := by
  refine ⟨Entries.nodup_names_insert hlayer.names .., fun other hother => ?_,
    hlayer.objects.setIn sectionName name value⟩
  rw [setIn_eq]
  by_cases hsame : other = sectionName
  · subst hsame
    rw [membersOf_eq (Entries.get?_insert_self ..)]
    exact Entries.nodup_names_insert (hlayer.distinct other h) ..
  · rw [membersOf, Entries.get?_insert_of_ne hsame]
    exact hlayer.distinct other hother

end Setting

/-! ## The normal form -/

section NormalForm

variable {layer : Layer} {spot : Spot}

def sectionOf? (layer : Layer) (sectionName : String) : Option Json :=
  match Entries.get? layer sectionName with
  | some (.obj members) => some (.obj members)
  | _ => none

theorem sectionsOf_eq (layer : Layer) : layer.sectionsOf =
    sections.filterMap fun name => (layer.sectionOf? name).map (name, ·) := by
  refine congrArg (sections.filterMap ·) (funext fun name => ?_)
  unfold sectionOf?
  split <;> simp_all

theorem topOf_eq (layer : Layer) : layer.topOf =
    topNames.filterMap fun name => (Entries.get? layer name).map (name, ·) := rfl

/-- The sections that are objects, and the settings that belong to none. -/
def parts (layer : Layer) : Layer := sectionsOf layer ++ topOf layer

theorem get?_parts (layer : Layer) (name : String) : Entries.get? layer.parts name =
    (if name ∈ sections then layer.sectionOf? name else none).or
      (if name ∈ topNames then Entries.get? layer name else none) := by
  rw [parts, sectionsOf_eq, topOf_eq, ← Entries.get?_filterMap, ← Entries.get?_filterMap]
  exact List.lookup_append

theorem get?_parts_section {sectionName : String} (h : sectionName ∈ sections) :
    Entries.get? layer.parts sectionName = layer.sectionOf? sectionName := by
  have htop : sectionName ∉ topNames := fun htop => topNames_ne htop h rfl
  rw [get?_parts, if_pos h, if_neg htop, Option.or_none]

theorem find?_parts (hspot : spot.Known) : spot.find? layer.parts = spot.find? layer := by
  cases spot with
  | top top =>
    have htop : top ∈ topNames := hspot
    have hsection : top ∉ sections := fun h => topNames_ne htop h rfl
    rw [Spot.find?, get?_parts, if_neg hsection, if_pos htop, Option.none_or]
    rfl
  | inside sectionName name =>
    rw [Spot.find?_inside, Spot.find?_inside, get?_parts_section hspot]
    unfold sectionOf?
    cases Entries.get? layer sectionName with
    | none => rfl
    | some found => cases found <;> rfl

theorem membersOf_parts {sectionName : String} (h : sectionName ∈ sections) :
    layer.parts.membersOf sectionName = layer.membersOf sectionName := by
  rw [membersOf, membersOf, get?_parts_section h, sectionOf?]
  cases Entries.get? layer sectionName with
  | none => rfl
  | some found => cases found <;> rfl

theorem nodup_names_parts (layer : Layer) : (Entries.names layer.parts).Nodup := by
  have hapart : (sections ++ topNames).Nodup := by decide
  rw [parts, Entries.names, List.map_append, sectionsOf_eq, topOf_eq]
  exact hapart.sublist ((Entries.names_filterMap_sublist _ sections).append
    (Entries.names_filterMap_sublist _ topNames))

theorem sectioned_parts (layer : Layer) : layer.parts.Sectioned := by
  intro name hname value hget
  rw [get?_parts_section hname, sectionOf?] at hget
  split at hget
  · next found _ => exact ⟨found, (Option.some.inj hget).symm⟩
  · cases hget

theorem Distinct.normal_parts (h : layer.Distinct) : layer.parts.Normal := by
  refine ⟨nodup_names_parts layer, fun name hname => ?_, sectioned_parts layer⟩
  rw [membersOf_parts hname]
  exact h name hname

def setFlat (layer : Layer) (acc : Layer) : String × String × String → Layer
  | (flat, sectionName, name) =>
    match Entries.get? layer flat with
    | some value => acc.setIn sectionName name value
    | none => acc

theorem normalize_eq (layer : Layer) :
    layer.normalize = flatNames.foldl layer.setFlat layer.parts := rfl

theorem sections_flatNames : ∀ row ∈ flatNames, row.2.1 ∈ sections := by decide

/-- What holds of the parts of a layer and is kept when a setting in a section is set holds of the
normal form. -/
theorem normalize_induction {motive : Layer → Prop} (hparts : motive layer.parts)
    (hset : ∀ acc sectionName name value, sectionName ∈ sections → motive acc →
      motive (acc.setIn sectionName name value)) : motive layer.normalize := by
  have hfold : ∀ (rows : List (String × String × String)) (acc : Layer),
      (∀ row ∈ rows, row.2.1 ∈ sections) → motive acc → motive (rows.foldl layer.setFlat acc) := by
    intro rows
    induction rows with
    | nil => exact fun _ _ hacc => hacc
    | cons row rest ih =>
      intro acc hrows hacc
      obtain ⟨flat, sectionName, name⟩ := row
      refine ih _ (fun other ho => hrows other (List.mem_cons_of_mem _ ho)) ?_
      rw [setFlat]
      split
      · exact hset acc sectionName name _ (hrows _ List.mem_cons_self) hacc
      · exact hacc
  exact hfold flatNames layer.parts sections_flatNames hparts

/-- No name stands twice in a normal form, whatever a layer is like. -/
theorem nodup_names_normalize (layer : Layer) : (Entries.names layer.normalize).Nodup :=
  normalize_induction (motive := fun acc => (Entries.names acc).Nodup) (nodup_names_parts layer)
    fun _ _ _ _ _ hacc => Entries.nodup_names_insert hacc ..

theorem Distinct.normal_normalize (h : layer.Distinct) : layer.normalize.Normal :=
  normalize_induction h.normal_parts fun _ _ name value hsection hacc =>
    hacc.setIn hsection name value

/-- Setting what a layer has at the flat names of a table, one name for each spot, brings these
values to their spots. -/
theorem find?_foldl {rows : List (String × String × String)}
    (hsections : ∀ row ∈ rows, row.2.1 ∈ sections) (hrows : (rows.map Prod.snd).Nodup) (acc : Layer)
    (hspot : spot.Known) : spot.find? (rows.foldl layer.setFlat acc) =
      ((spot.flatIn? rows).bind (Entries.get? layer)).or (spot.find? acc) := by
  induction rows generalizing acc with
  | nil => rfl
  | cons row rest ih =>
    obtain ⟨flat, sectionName, name⟩ := row
    obtain ⟨hfirst, hrest⟩ := List.nodup_cons.mp hrows
    rw [List.foldl_cons, ih (fun other ho => hsections other (List.mem_cons_of_mem _ ho)) hrest]
    have hone : spot.find? (layer.setFlat acc (flat, sectionName, name)) =
        if spot = .inside sectionName name then (Entries.get? layer flat).or (spot.find? acc)
        else spot.find? acc := by
      rw [setFlat]
      cases Entries.get? layer flat with
      | none => exact (ite_self _).symm
      | some value => exact find?_setIn (hsections _ List.mem_cons_self) acc name value hspot
    rw [hone]
    by_cases hhere : spot = .inside sectionName name
    -- No later row is about this spot.
    · have hlater : spot.flatIn? rest = none := by
        rw [Spot.flatIn?, Option.map_eq_none_iff, List.find?_eq_none]
        rintro ⟨other, otherSection, otherName⟩ hm hsame
        rw [decide_eq_true_eq, hhere, Spot.inside.injEq] at hsame
        exact hfirst (List.mem_map.mpr ⟨_, hm, Prod.ext hsame.1.symm hsame.2.symm⟩)
      rw [if_pos hhere, hlater, Option.bind_none, Option.none_or, Spot.flatIn?,
        List.find?_cons_of_pos (by simpa using hhere)]
      rfl
    · rw [if_neg hhere, Spot.flatIn?, Spot.flatIn?,
        List.find?_cons_of_neg (by simpa using hhere)]

/-- The normal form of a layer holds what the layer gives. -/
theorem find?_normalize (layer : Layer) (hspot : spot.Known) :
    spot.find? layer.normalize = spot.given? layer := by
  rw [normalize_eq, find?_foldl sections_flatNames (by decide) _ hspot, find?_parts hspot]
  rfl

/-- Nothing else is left in a normal form. -/
theorem get?_normalize_of_unknown {name : String} (hsection : name ∉ sections)
    (htop : name ∉ topNames) : Entries.get? layer.normalize name = none := by
  refine normalize_induction (motive := fun acc => Entries.get? acc name = none) ?_ ?_
  · rw [get?_parts, if_neg hsection, if_neg htop]
    rfl
  · intro acc sectionName key value hknown hacc
    have hname : name ≠ sectionName := fun heq => hsection (heq ▸ hknown)
    rw [setIn_eq, Entries.get?_insert_of_ne hname, hacc]

end NormalForm

/-! ## One layer over another -/

/-- What is found was decided by something: it is there just when that is, and it is the same unless
it is an object. -/
structure Decides (decided found : Option Json) : Prop where
  isSome : found.isSome = decided.isSome
  eq_some : ∀ value, found = some value → (∀ members, value ≠ .obj members) → decided = some value

theorem Decides.refl (found : Option Json) : Decides found found := ⟨rfl, fun _ h _ => h⟩

theorem Decides.trans {decided between found : Option Json} (h : Decides decided between)
    (hnext : Decides between found) : Decides decided found :=
  ⟨hnext.isSome.trans h.isSome,
    fun value hfound hplain => h.eq_some value (hnext.eq_some value hfound hplain) hplain⟩

section Covering

variable {layer below : Layer} {spot : Spot}

/-- A layer that is laid over another one has the say on what it gives. -/
theorem find?_coveredBy (h : layer.Distinct) (hspot : spot.Known) (below : Layer) :
    spot.find? (below.coveredBy layer) =
      match spot.given? layer with
      | some value => some (value.atop (spot.find? below))
      | none => spot.find? below := by
  have hnormal := h.normal_normalize
  rw [coveredBy, ← find?_normalize layer hspot]
  cases spot with
  | top name => exact Json.get?_mergeMembers below hnormal.names name
  | inside sectionName name =>
    simp only [Spot.find?_inside, Json.get?_mergeMembers below hnormal.names sectionName]
    cases hsection : Entries.get? layer.normalize sectionName with
    | none => rfl
    | some value =>
      obtain ⟨members, rfl⟩ := hnormal.objects sectionName hspot value hsection
      have hmembers := hnormal.distinct sectionName hspot
      rw [membersOf_eq hsection] at hmembers
      -- A section is merged with the section below it, if there is one that is an object.
      cases Entries.get? below sectionName with
      | none => cases hget : Entries.get? members name <;> simp [Json.atop, Json.member?, hget]
      | some old =>
        cases old with
        | obj before => exact Json.get?_mergeMembers before hmembers name
        | _ =>
          cases hget : Entries.get? members name <;>
            simp [Json.atop, Json.overlay, Json.member?, hget]

/-- One layer over another: the one above decides if it gives anything. -/
theorem decides_coveredBy (h : layer.Distinct) (hspot : spot.Known) (below : Layer) :
    Decides ((spot.given? layer).or (spot.find? below)) (spot.find? (below.coveredBy layer)) := by
  rw [find?_coveredBy h hspot]
  cases hgiven : spot.given? layer with
  | none => exact .refl _
  | some given =>
    refine ⟨rfl, fun value hvalue hplain => ?_⟩
    exact congrArg some (Json.eq_of_atop_eq (Option.some.inj hvalue) hplain)

/-- Layers over each other: the highest one that gives anything decides. -/
theorem decides_foldl {layers : List Layer} (h : ∀ layer ∈ layers, layer.Distinct)
    (hspot : spot.Known) (below : Layer) :
    Decides ((layers.reverse.findSome? spot.given?).or (spot.find? below))
      (spot.find? (layers.foldl coveredBy below)) := by
  induction layers generalizing below with
  | nil => exact .refl _
  | cons layer rest ih =>
    have hrest := ih (fun other ho => h other (List.mem_cons_of_mem _ ho)) (below.coveredBy layer)
    rw [List.reverse_cons, List.findSome?_append, List.foldl_cons]
    cases hhigher : rest.reverse.findSome? spot.given? with
    | some value =>
      rw [hhigher] at hrest
      exact hrest
    | none =>
      rw [hhigher, Option.none_or] at hrest
      rw [Option.none_or, List.findSome?_singleton]
      exact (decides_coveredBy (h layer List.mem_cons_self) hspot below).trans hrest

theorem get?_coveredBy_of_unknown {name : String} (hsection : name ∉ sections)
    (htop : name ∉ topNames) (hbelow : Entries.get? below name = none) :
    Entries.get? (below.coveredBy layer) name = none := by
  rw [coveredBy, Json.get?_mergeMembers below (nodup_names_normalize layer),
    get?_normalize_of_unknown hsection htop]
  exact hbelow

theorem get?_foldl_of_unknown {layers : List Layer} (h : ∀ layer ∈ layers, layer.Distinct)
    {name : String} (hsection : name ∉ sections) (htop : name ∉ topNames)
    (hbelow : Entries.get? below name = none) :
    Entries.get? (layers.foldl coveredBy below) name = none := by
  induction layers generalizing below with
  | nil => exact hbelow
  | cons layer rest ih =>
    exact ih (fun other ho => h other (List.mem_cons_of_mem _ ho))
      (get?_coveredBy_of_unknown hsection htop hbelow)

end Covering

end Layer
end Config
end MagnetStream
