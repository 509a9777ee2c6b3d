import MagnetStream.Json.Basic
import MagnetStream.Proofs.Entries

/-!
# One value over another

Where two objects meet they are merged member by member (`get?_mergeMembers`), everything else is
replaced. So a plain value on top is what stands at its path (`at?_overlay_top`), and what stands
below stays wherever the value on top is silent and nothing plain above it cuts it off
(`at?_overlay_base`). Laying a value over the same thing again changes nothing
(`overlay_overlay_self`), and in which order three values are laid over each other makes no
difference (`overlay_assoc`) unless the value in the middle is plain where the one on top is an
object, or the other way round.
-/

namespace MagnetStream.Json

/-- A value is no object. -/
def IsPlain (value : Json) : Prop := ∀ members, value ≠ .obj members

/-- What stands at a path through objects. -/
def at? (value : Json) : List String → Option Json
  | [] => some value
  | name :: path => (value.member? name).bind (at? · path)

/-- No name stands twice in a value that is an object, nor in any object inside it. -/
inductive Distinct : Json → Prop where
  | plain {value : Json} : value.IsPlain → Distinct value
  | obj {members : List (String × Json)} : (Entries.names members).Nodup →
      (∀ name value, Entries.get? members name = some value → Distinct value) →
        Distinct (.obj members)

/-- Wherever there is something in both of two values, both have an object there or neither has. -/
def Compatible (value other : Json) : Prop :=
  ∀ path found otherFound, value.at? path = some found → other.at? path = some otherFound →
    (found.IsPlain ↔ otherFound.IsPlain)

/-- A value laid over what is there, if anything is. -/
def atop (value : Json) : Option Json → Json
  | some old => overlay old value
  | none => value

variable {base middle top value : Json} {path : List String}

theorem not_isPlain : ¬ value.IsPlain ↔ ∃ members, value = .obj members := by
  simp [IsPlain]

theorem overlay_of_isPlain (h : top.IsPlain) (base : Json) : overlay base top = top := by
  cases top with
  | obj members => exact absurd rfl (h members)
  | _ => rfl

/-- On what is no object everything is laid as it is. -/
theorem overlay_on_isPlain (h : base.IsPlain) (top : Json) : overlay base top = top := by
  cases top with
  | obj members =>
    cases base with
    | obj old => exact absurd rfl (h old)
    | _ => rfl
  | _ => rfl

theorem overlay_obj (old members : List (String × Json)) :
    overlay (.obj old) (.obj members) = .obj (mergeMembers old members) := rfl

theorem atop_of_isPlain (h : value.IsPlain) (below : Option Json) : value.atop below = value := by
  cases below with
  | none => rfl
  | some old => exact overlay_of_isPlain h old

/-- Only objects are merged with what they are laid over. -/
theorem eq_of_atop_eq {result : Json} {below : Option Json} (h : value.atop below = result)
    (hresult : result.IsPlain) : value = result := by
  subst h
  cases below with
  | none => rfl
  | some old =>
    cases value with
    | obj members => cases old <;> exact absurd rfl (hresult _)
    | _ => rfl

/-! ## Members -/

section Members

variable {members : List (String × Json)}

theorem mergeMembers_cons (base : List (String × Json)) (name : String) (value : Json)
    (rest : List (String × Json)) : mergeMembers base ((name, value) :: rest) =
      mergeMembers (Entries.insert base name (value.atop (Entries.get? base name))) rest := by
  rw [mergeMembers]
  rfl

theorem get?_mergeMembers (base : List (String × Json)) (h : (Entries.names members).Nodup)
    (name : String) :
    Entries.get? (mergeMembers base members) name =
      match Entries.get? members name with
      | some value => some (value.atop (Entries.get? base name))
      | none => Entries.get? base name := by
  induction members generalizing base with
  | nil => rfl
  | cons head rest ih =>
    obtain ⟨first, value⟩ := head
    obtain ⟨hfirst, hrest⟩ := List.nodup_cons.mp h
    rw [mergeMembers_cons, ih _ hrest]
    by_cases hn : name = first
    · subst hn
      rw [Entries.get?_eq_none hfirst, Entries.get?_insert_self]
      simp [Entries.get?]
    · have hne : (name == first) = false := by simpa using hn
      rw [Entries.get?_insert_of_ne hn]
      simp [Entries.get?, List.lookup_cons, hne]

/-- The names that are new come behind those that were there. -/
theorem names_mergeMembers (base : List (String × Json)) (h : (Entries.names members).Nodup) :
    Entries.names (mergeMembers base members) =
      Entries.names base ++ (Entries.names members).filter (· ∉ Entries.names base) := by
  induction members generalizing base with
  | nil => exact (List.append_nil _).symm
  | cons head rest ih =>
    obtain ⟨first, value⟩ := head
    obtain ⟨hfirst, hrest⟩ := List.nodup_cons.mp h
    have hnames : Entries.names ((first, value) :: rest) = first :: Entries.names rest := rfl
    rw [mergeMembers_cons, ih _ hrest, hnames]
    by_cases hin : first ∈ Entries.names base
    · rw [Entries.names_insert_of_mem hin, List.filter_cons_of_neg (by simpa using hin)]
    · have hinsert (value : Json) :
          Entries.names (Entries.insert base first value) = Entries.names base ++ [first] := by
        rw [Entries.insert_of_not_mem hin]
        exact List.map_append ..
      have hrest : (Entries.names rest).filter (· ∉ Entries.names base ++ [first]) =
          (Entries.names rest).filter (· ∉ Entries.names base) := by
        refine List.filter_congr fun name hname => ?_
        have hne : name ≠ first := fun heq => hfirst (heq ▸ hname)
        simp [hne]
      rw [hinsert, hrest, List.filter_cons_of_pos (by simpa using hin), List.append_assoc,
        List.singleton_append]

theorem nodup_names_mergeMembers {base : List (String × Json)} (h : (Entries.names base).Nodup)
    (members : List (String × Json)) : (Entries.names (mergeMembers base members)).Nodup := by
  induction members generalizing base with
  | nil => exact h
  | cons head rest ih =>
    rw [mergeMembers_cons]
    exact ih (Entries.nodup_names_insert h ..)

/-- Members that change nothing where they stand change nothing at all. -/
theorem mergeMembers_eq_self {base : List (String × Json)}
    (h : ∀ name value, (name, value) ∈ members →
      ∃ old, Entries.get? base name = some old ∧ overlay old value = old) :
    mergeMembers base members = base := by
  induction members with
  | nil => rfl
  | cons head rest ih =>
    obtain ⟨first, value⟩ := head
    obtain ⟨old, hold, hsame⟩ := h first value List.mem_cons_self
    have hinsert : Entries.insert base first (value.atop (Entries.get? base first)) = base := by
      rw [hold]
      exact Entries.insert_of_get? (hold.trans (congrArg some hsame.symm))
    rw [mergeMembers_cons, hinsert]
    exact ih fun name other hm => h name other (List.mem_cons_of_mem _ hm)

end Members

/-! ## Values without repeated names -/

theorem Distinct.names {members : List (String × Json)} (h : (Json.obj members).Distinct) :
    (Entries.names members).Nodup := by
  cases h with
  | plain hplain => exact absurd rfl (hplain members)
  | obj hnames _ => exact hnames

theorem Distinct.inside {members : List (String × Json)} {name : String}
    (h : (Json.obj members).Distinct) (hget : Entries.get? members name = some value) :
    value.Distinct := by
  cases h with
  | plain hplain => exact absurd rfl (hplain members)
  | obj _ hinside => exact hinside name value hget

theorem Distinct.of_members {members : List (String × Json)} (h : (Entries.names members).Nodup)
    (hmembers : ∀ member ∈ members, member.2.Distinct) : (Json.obj members).Distinct :=
  .obj h fun _ _ hget => hmembers _ ((Entries.mem_iff_get? h).mpr hget)

theorem Distinct.overlay (htop : top.Distinct) (hbase : base.Distinct) :
    (overlay base top).Distinct := by
  induction htop generalizing base with
  | plain hplain =>
    rw [overlay_of_isPlain hplain]
    exact .plain hplain
  | @obj members hnames hinside ih =>
    by_cases hplain : base.IsPlain
    · rw [overlay_on_isPlain hplain]
      exact .obj hnames hinside
    · obtain ⟨old, rfl⟩ := not_isPlain.mp hplain
      refine .obj (nodup_names_mergeMembers hbase.names members) fun name value hget => ?_
      rw [get?_mergeMembers old hnames] at hget
      cases hmember : Entries.get? members name with
      | none =>
        rw [hmember] at hget
        exact hbase.inside hget
      | some upper =>
        rw [hmember] at hget
        obtain rfl := Option.some.inj hget
        cases hold : Entries.get? old name with
        | none => exact hinside name upper hmember
        | some lower => exact ih name upper hmember (hbase.inside hold)

/-! ## What stands at a path -/

theorem at?_cons_eq_some {name : String} :
    base.at? (name :: path) = some value ↔ ∃ members found, base = .obj members ∧
      Entries.get? members name = some found ∧ found.at? path = some value := by
  rw [at?, Option.bind_eq_some_iff]
  constructor
  · rintro ⟨found, hfound, hat⟩
    cases base with
    | obj members => exact ⟨members, found, rfl, hfound, hat⟩
    | _ => cases hfound
  · rintro ⟨members, found, rfl, hfound, hat⟩
    exact ⟨found, hfound, hat⟩

/-- A plain value on top stands at its path, whatever is below. -/
theorem at?_overlay_top (h : top.Distinct) (hat : top.at? path = some value)
    (hplain : value.IsPlain) (base : Json) : (overlay base top).at? path = some value := by
  induction path generalizing base top with
  | nil =>
    obtain rfl := Option.some.inj hat
    rw [overlay_of_isPlain hplain]
    rfl
  | cons name path ih =>
    obtain ⟨members, found, rfl, hfound, hrest⟩ := at?_cons_eq_some.mp hat
    by_cases hbase : base.IsPlain
    · rw [overlay_on_isPlain hbase]
      exact hat
    · obtain ⟨old, rfl⟩ := not_isPlain.mp hbase
      refine at?_cons_eq_some.mpr ⟨_, found.atop (Entries.get? old name), rfl, ?_, ?_⟩
      · rw [get?_mergeMembers old h.names, hfound]
      · cases Entries.get? old name with
        | none => exact hrest
        | some lower => exact ih (h.inside hfound) hrest lower

/-- What is below stays where the value on top has nothing, unless the path to it leads through
something plain there. -/
theorem at?_overlay_base (h : top.Distinct) (hat : base.at? path = some value)
    (hnone : top.at? path = none)
    (hcut : ∀ front found, front <+: path → top.at? front = some found → ¬ found.IsPlain) :
    (overlay base top).at? path = some value := by
  induction path generalizing base top with
  | nil => cases hnone
  | cons name path ih =>
    obtain ⟨old, lower, rfl, hlower, hrest⟩ := at?_cons_eq_some.mp hat
    obtain ⟨members, rfl⟩ := not_isPlain.mp (hcut [] top (List.nil_prefix ..) rfl)
    have hstep {found : Json} (hfound : Entries.get? members name = some found)
        (front : List String) : (obj members).at? (name :: front) = found.at? front := by
      rw [at?, member?, hfound]
      rfl
    refine at?_cons_eq_some.mpr ?_
    cases hfound : Entries.get? members name with
    | none => exact ⟨_, lower, rfl, by rw [get?_mergeMembers old h.names, hfound, hlower], hrest⟩
    | some found =>
      refine ⟨_, overlay lower found, rfl, ?_, ih (h.inside hfound) hrest ?_ ?_⟩
      · rw [get?_mergeMembers old h.names, hfound, hlower]
        rfl
      · rw [← hstep hfound, hnone]
      · intro front other hfront hother
        exact hcut (name :: front) other (List.cons_prefix_cons.mpr ⟨rfl, hfront⟩)
          ((hstep hfound front).trans hother)

/-! ## Laying values over each other again and again -/

/-- Laying a value over the same thing a second time changes nothing. -/
theorem overlay_overlay_self (h : top.Distinct) (base : Json) :
    overlay (overlay base top) top = overlay base top := by
  induction h generalizing base with
  | plain hplain => rw [overlay_of_isPlain hplain, overlay_of_isPlain hplain]
  | @obj members hnames hinside ih =>
    -- Nothing below is like something plain below, on which a value is laid as it is.
    have hatop (name : String) (value : Json) (hget : Entries.get? members name = some value)
        (below : Option Json) : overlay (value.atop below) value = value.atop below := by
      cases below with
      | some old => exact ih name value hget old
      | none =>
        have hnull : overlay .null value = value := 
          overlay_on_isPlain (by rintro _ ⟨⟩) value
        have hself := ih name value hget .null
        rwa [hnull] at hself
    by_cases hplain : base.IsPlain
    · rw [overlay_on_isPlain hplain, overlay_obj]
      refine congrArg obj (mergeMembers_eq_self fun name value hm => ?_)
      have hget := (Entries.mem_iff_get? hnames).mp hm
      exact ⟨value, hget, hatop name value hget none⟩
    · obtain ⟨old, rfl⟩ := not_isPlain.mp hplain
      rw [overlay_obj, overlay_obj]
      refine congrArg obj (mergeMembers_eq_self fun name value hm => ?_)
      have hget := (Entries.mem_iff_get? hnames).mp hm
      refine ⟨value.atop (Entries.get? old name), ?_, hatop name value hget _⟩
      rw [get?_mergeMembers old hnames, hget]

/-- Objects have objects at the same paths if the members they share do. -/
theorem compatible_obj {between members : List (String × Json)} :
    Compatible (obj between) (obj members) ↔
      ∀ name value upper, Entries.get? between name = some value →
        Entries.get? members name = some upper → Compatible value upper := by
  constructor
  · intro h name value upper hvalue hupper path found otherFound hfound hother
    exact h (name :: path) found otherFound
      (at?_cons_eq_some.mpr ⟨_, _, rfl, hvalue, hfound⟩)
      (at?_cons_eq_some.mpr ⟨_, _, rfl, hupper, hother⟩)
  · intro h path found otherFound hfound hother
    cases path with
    | nil =>
      obtain rfl := Option.some.inj hfound
      obtain rfl := Option.some.inj hother
      exact iff_of_false (not_isPlain.mpr ⟨_, rfl⟩) (not_isPlain.mpr ⟨_, rfl⟩)
    | cons name path =>
      obtain ⟨_, value, ⟨⟩, hvalue, hrest⟩ := at?_cons_eq_some.mp hfound
      obtain ⟨_, upper, ⟨⟩, hupper, hotherRest⟩ := at?_cons_eq_some.mp hother
      exact h name value upper hvalue hupper path found otherFound hrest hotherRest

/-- In which order three values are laid over each other makes no difference, as long as the upper
two have objects at the same paths. -/
theorem overlay_assoc (htop : top.Distinct) (hmiddle : middle.Distinct) (hbase : base.Distinct)
    (h : Compatible middle top) :
    overlay (overlay base middle) top = overlay base (overlay middle top) := by
  induction htop generalizing base middle with
  | plain hplain => simp only [overlay_of_isPlain hplain]
  | @obj members hnames hinside ih =>
    have hobject : ¬ middle.IsPlain := fun hplain => (h [] _ _ rfl rfl).mp hplain members rfl
    obtain ⟨between, rfl⟩ := not_isPlain.mp hobject
    by_cases hplain : base.IsPlain
    · rw [overlay_on_isPlain hplain, overlay_on_isPlain hplain]
    obtain ⟨old, rfl⟩ := not_isPlain.mp hplain
    have hmerged := nodup_names_mergeMembers hmiddle.names members
    simp only [overlay_obj]
    refine congrArg obj (Entries.eq_of_get? ?_ ?_ fun name => ?_)
    · exact nodup_names_mergeMembers (nodup_names_mergeMembers hbase.names between) members
    · rw [names_mergeMembers _ hnames, names_mergeMembers old hmiddle.names,
        names_mergeMembers old hmerged, names_mergeMembers between hnames, List.filter_append,
        List.filter_filter, List.append_assoc]
      congr 2
      refine List.filter_congr fun name _ => ?_
      by_cases hold : name ∈ Entries.names old <;> simp [hold]
    · rw [get?_mergeMembers _ hnames, get?_mergeMembers old hmiddle.names,
        get?_mergeMembers old hmerged, get?_mergeMembers between hnames]
      cases hupper : Entries.get? members name with
      | none => rfl
      | some upper =>
        cases hvalue : Entries.get? between name with
        | none => rfl
        | some value =>
          cases hlower : Entries.get? old name with
          | none => rfl
          | some lower =>
            exact congrArg some (ih name upper hupper (hmiddle.inside hvalue) (hbase.inside hlower)
              (compatible_obj.mp h name value upper hvalue hupper))

end MagnetStream.Json
