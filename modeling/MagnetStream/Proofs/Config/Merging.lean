import Mathlib.Data.List.Infix
import MagnetStream.Proofs.Config.Layer

/-!
# The laws of layers

Bringing a layer into normal form leaves nothing but sections, which are objects, and the settings
that belong to none, and what has this shape is its own normal form (`Shaped.normalize_perm`). The
shape is kept when one normal form is merged with another, so nothing has to be brought into normal
form again, and merging itself may be repeated and regrouped (`layers_merge_lawfully`). The order in
which names stand at the top is no part of what a layer says, and normal forms are the same up to
that order.
-/

namespace MagnetStream.Config

namespace Layer

/-- A layer has the shape of a normal form: no name stands twice, and there is nothing but sections,
which are objects, and settings that belong to none. -/
structure Shaped (layer : Layer) : Prop where
  names : (Entries.names layer).Nodup
  known : ∀ name ∈ Entries.names layer, name ∈ sections ∨ name ∈ topNames
  objects : layer.Sectioned

variable {layer above : Layer}

theorem shaped_normalize (layer : Layer) : layer.normalize.Shaped := by
  refine ⟨nodup_names_normalize layer, fun name hname => ?_, ?_⟩
  · by_contra hunknown
    obtain ⟨hsection, htop⟩ := not_or.mp hunknown
    exact Entries.get?_eq_none_iff.mp (get?_normalize_of_unknown hsection htop) hname
  · exact normalize_induction (sectioned_parts layer) fun _ sectionName name value _ hacc =>
      hacc.setIn sectionName name value

theorem Shaped.get?_of_unknown (h : layer.Shaped) {name : String} (hsection : name ∉ sections)
    (htop : name ∉ topNames) : Entries.get? layer name = none :=
  Entries.get?_eq_none fun hname => (h.known name hname).elim hsection htop

theorem Shaped.parts_perm (h : layer.Shaped) : layer.parts.Perm layer := by
  refine Entries.perm_of_get? (nodup_names_parts layer) h.names fun name => ?_
  by_cases hsection : name ∈ sections
  · rw [get?_parts_section hsection, sectionOf?]
    cases hget : Entries.get? layer name with
    | none => rfl
    | some value =>
      obtain ⟨members, rfl⟩ := h.objects name hsection value hget
      rfl
  · rw [get?_parts, if_neg hsection, Option.none_or]
    by_cases htop : name ∈ topNames
    · rw [if_pos htop]
    · rw [if_neg htop, h.get?_of_unknown hsection htop]

/-- What has the shape of a normal form says nothing at a flat name. -/
theorem Shaped.normalize_eq_parts (h : layer.Shaped) : layer.normalize = layer.parts := by
  have hflat : ∀ row ∈ flatNames, row.1 ∉ sections ∧ row.1 ∉ topNames := by decide
  have hkeep : ∀ (acc : Layer), ∀ row ∈ flatNames, layer.setFlat acc row = acc := by
    intro acc row hrow
    obtain ⟨hsection, htop⟩ := hflat row hrow
    rw [setFlat, h.get?_of_unknown hsection htop]
  rw [normalize_eq, List.foldl_ext layer.setFlat (fun acc _ => acc) layer.parts hkeep,
    List.foldl_fixed]

theorem Shaped.normalize_perm (h : layer.Shaped) : layer.normalize.Perm layer := by
  rw [h.normalize_eq_parts]
  exact h.parts_perm

theorem Shaped.merge (h : layer.Shaped) (habove : above.Shaped) :
    Shaped (Json.mergeMembers layer above) := by
  refine ⟨Json.nodup_names_mergeMembers h.names above, fun name hname => ?_,
    fun sectionName hsection value hget => ?_⟩
  · rw [Json.names_mergeMembers layer habove.names, List.mem_append] at hname
    exact hname.elim (h.known name) fun hm => habove.known name (List.mem_of_mem_filter hm)
  · rw [Json.get?_mergeMembers layer habove.names] at hget
    cases hupper : Entries.get? above sectionName with
    | none =>
      rw [hupper] at hget
      exact h.objects sectionName hsection value hget
    | some upper =>
      obtain ⟨members, rfl⟩ := habove.objects sectionName hsection upper hupper
      rw [hupper] at hget
      obtain rfl := Option.some.inj hget
      exact Json.not_isPlain.mp fun hplain => hplain members (Json.eq_of_atop_eq rfl hplain).symm

end Layer

open Layer

/-- A normal form has nothing but sections, which are objects, and the settings that belong to none.
It is its own normal form, and so is what comes of merging two of them, but for the order in which
names stand at the top. Merging the same layer a second time changes nothing. Of two layers that are
merged, the upper one has its plain values at their paths, and the lower one keeps what it has at a
path where the upper one has nothing, neither there nor anything plain on the way. Three layers may
be merged in either order unless the upper two have an object and something plain at the same path.
-/
theorem layers_merge_lawfully :
    (∀ layer : Layer, layer.normalize.Shaped ∧ layer.normalize.normalize.Perm layer.normalize) ∧
    (∀ below above : Layer, (normalize (Json.mergeMembers below.normalize above.normalize)).Perm
      (Json.mergeMembers below.normalize above.normalize)) ∧
    (∀ below above : Layer, (Json.obj above).Distinct →
      Json.mergeMembers (Json.mergeMembers below above) above = Json.mergeMembers below above ∧
      (∀ path value, (Json.obj above).at? path = some value → value.IsPlain →
        (Json.obj (Json.mergeMembers below above)).at? path = some value) ∧
      (∀ path value, (Json.obj below).at? path = some value → (Json.obj above).at? path = none →
        (∀ front found, front <+: path → (Json.obj above).at? front = some found →
          ¬ found.IsPlain) →
        (Json.obj (Json.mergeMembers below above)).at? path = some value) ∧
      ((Json.obj below).Distinct → (Json.obj (Json.mergeMembers below above)).Distinct)) ∧
    ∀ below between above : Layer, (Json.obj below).Distinct → (Json.obj between).Distinct →
      (Json.obj above).Distinct → Json.Compatible (.obj between) (.obj above) →
      Json.mergeMembers (Json.mergeMembers below between) above =
        Json.mergeMembers below (Json.mergeMembers between above) := by
  refine ⟨fun layer => ⟨shaped_normalize layer, (shaped_normalize layer).normalize_perm⟩,
    fun below above => ((shaped_normalize below).merge (shaped_normalize above)).normalize_perm,
    fun below above habove => ⟨?_, fun path value hat hplain => ?_,
      fun path value hat hnone hcut => ?_, fun hbelow => ?_⟩,
    fun below between above hbelow hbetween habove hcompatible => ?_⟩
  · exact Json.obj.inj (Json.overlay_overlay_self habove (.obj below))
  · exact Json.at?_overlay_top habove hat hplain (.obj below)
  · exact Json.at?_overlay_base habove hat hnone hcut
  · exact habove.overlay hbelow
  · exact Json.obj.inj (Json.overlay_assoc habove hbetween hbelow hcompatible)

/-- Three layers that speak of one section. -/
theorem layers_merge_lawfully_in_section :
    let below : Layer := [("environment", .str "dev"),
      ("cache", .obj [("backend", .str "redis"), ("dir", .str "./cache")])]
    let between : Layer := [("cache", .obj [("dir", .str "/srv")])]
    let above : Layer := [("cache", .obj [("max_concurrent", .int 3)]), ("app_name", .str "m")]
    (Json.obj (Json.mergeMembers below between)).at? ["cache", "dir"] = some (.str "/srv") ∧
    (Json.obj (Json.mergeMembers below between)).at? ["cache", "backend"] = some (.str "redis") ∧
    Json.mergeMembers (Json.mergeMembers below between) between =
      Json.mergeMembers below between ∧
    Json.mergeMembers (Json.mergeMembers below between) above =
      Json.mergeMembers below (Json.mergeMembers between above) := by
  intro below between above
  have hplain : ∀ text, (Json.str text).IsPlain := by rintro text _ ⟨⟩
  have hnumber : (Json.int 3).IsPlain := by rintro _ ⟨⟩
  have hbelow : (Json.obj below).Distinct := .of_members (by decide) (by
    simp only [below, List.forall_mem_cons]
    exact ⟨.plain (hplain _), .of_members (by decide) (by
      simp only [List.forall_mem_cons]
      exact ⟨.plain (hplain _), .plain (hplain _), nofun⟩), nofun⟩)
  have hbetween : (Json.obj between).Distinct := .of_members (by decide) (by
    simp only [between, List.forall_mem_cons]
    exact ⟨.of_members (by decide) (by
      simp only [List.forall_mem_cons]
      exact ⟨.plain (hplain _), nofun⟩), nofun⟩)
  have habove : (Json.obj above).Distinct := .of_members (by decide) (by
    simp only [above, List.forall_mem_cons]
    exact ⟨.of_members (by decide) (by
      simp only [List.forall_mem_cons]
      exact ⟨.plain hnumber, nofun⟩), .plain (hplain _), nofun⟩)
  -- The section is all that the upper two have in common, and they have no setting in common there.
  have hcompatible : Json.Compatible (.obj between) (.obj above) := by
    refine Json.compatible_obj.mpr fun name value upper hvalue hupper => ?_
    have hm := (Entries.mem_iff_get? hbetween.names).mpr hvalue
    obtain ⟨rfl, rfl⟩ := Prod.mk.inj (List.mem_singleton.mp hm)
    cases hupper
    refine Json.compatible_obj.mpr fun name value upper hvalue hupper => ?_
    have hm := (Entries.mem_iff_get? (by decide)).mpr hvalue
    obtain ⟨rfl, rfl⟩ := Prod.mk.inj (List.mem_singleton.mp hm)
    cases hupper
  obtain ⟨_, _, htwo, hthree⟩ := layers_merge_lawfully
  obtain ⟨hagain, htop, hbase, _⟩ := htwo below between hbetween
  refine ⟨htop _ _ rfl (hplain _), hbase _ _ rfl rfl ?_, hagain,
    hthree below between above hbelow hbetween habove hcompatible⟩
  intro front found hfront hfound
  have hm : front ∈ [[], ["cache"], ["cache", "backend"]] := (List.mem_inits front _).mpr hfront
  simp only [List.mem_cons, List.not_mem_nil, or_false] at hm
  obtain rfl | rfl | rfl := hm <;> cases hfound <;> exact Json.not_isPlain.mpr ⟨_, rfl⟩

end MagnetStream.Config
