import MagnetStream.CommandLine.Options
import MagnetStream.Proofs.Result

/-!
# What a command line says

Words have effects, one after the other (`takeEffect_eq`). Each effect concerns one option at most
(`act_holds`), so options hold what the command line says last about each of them
(`holds_of_readOptions`), and what it says about one has no bearing on the others. A file of
variables that is given among words that speak of none changes nothing else (`readOptions_gives`).
-/

namespace MagnetStream.CommandLine

/-- What words bring about. -/
inductive Effect where
  | set (switch : Switch) (value : String)
  | vanish (switch : Switch)
  | stop (stop : Stop)

/-- What a row of words brings about, when others were left over in front of it. -/
def effects (left : List String) : List Word → List Effect
  | [] => if left.isEmpty then [] else [.stop (.usage (.unrecognized left))]
  | .plain word :: rest => effects (left ++ [word]) rest
  | .unknown word :: rest => effects (left ++ [word]) rest
  | .divider :: rest => effects (left ++ ["--"]) rest
  | .option name .help (some value) :: _ => [.stop (helpWith name value)]
  | .option _ .help none :: _ => [.stop .help]
  | .option _ switch (some value) :: rest =>
    (if value == "--" then .vanish switch else .set switch value) :: effects left rest
  | .option _ switch none :: .plain value :: rest => .set switch value :: effects left rest
  | .option _ switch none :: _ => [.stop (.usage (.noValue switch))]

def Options.act (options : Options) : Effect → Except Stop Options
  | .set switch value => options.set switch value
  | .vanish switch => .ok (options.vanish switch)
  | .stop stop => .error stop

/-- What is said about an option, an effect later. -/
def Effect.update (switch : Switch) (before : Given String) : Effect → Given String
  | .set other value => if other = switch then .value value else before
  | .vanish other => if other = switch then .vanished else before
  | .stop _ => before

/-- What a command line brings about, if its words are recognized. -/
def effectsOf (words : List String) : Except UsageFault (List Effect) :=
  (recognizeAll words).map (effects [])

/-- What a command line says last about an option; nothing if its words are not recognized. -/
def said (switch : Switch) (words : List String) : Given String :=
  match effectsOf words with
  | .ok row => row.foldl (Effect.update switch) .absent
  | .error _ => .absent

/-- Words that give an option a value and do nothing else: one word that holds both, or a name of
the option with the value behind it. -/
inductive Gives (switch : Switch) (value : String) : List String → Prop
  | joined {word name : String} : recognize word = .ok (.option name switch (some value)) →
      value ≠ "--" → Gives switch value [word]
  | apart {word name : String} : recognize word = .ok (.option name switch none) →
      recognize value = .ok (.plain value) → Gives switch value [word, value]

/-- Options that are given their values, one after the other. -/
inductive Complete : List String → Prop
  | nil : Complete []
  | cons {switch : Switch} {value : String} {form rest : List String} :
      switch ≠ .help → Gives switch value form → Complete rest → Complete (form ++ rest)

/-- A number is given just as a text is that writes it. -/
def Given.Reads : Given Int → Given String → Prop
  | .value n, .value text => Text.readInteger text = .ok n
  | .absent, .absent | .vanished, .vanished => True
  | _, _ => False

/-- Options hold what is said about one of them. The port is the number that its text writes, and
level and format of the log are never empty texts. -/
def Options.Holds (options : Options) : Switch → Given String → Prop
  | .help, _ => True
  | .host, given => options.host = given
  | .port, given => options.port.Reads given
  | .config, given => options.config = given
  | .dotenv, given => options.dotenv = given
  | .baseUrl, given => options.baseUrl = given
  | .logLevel, given => options.logLevel = given ∧ given ≠ .value ""
  | .logFormat, given => options.logFormat = given ∧ given ≠ .value ""

def Options.withDotenv (given : Given String) (options : Options) : Options :=
  { options with dotenv := given }

namespace OptionLemmas

variable {options final : Options} {switch : Switch} {value : String} {given before : Given String}
  {left words : List String} {found : List Word} {effect : Effect} {row : List Effect}

/-! ## One effect -/

theorem choose_eq_ok {α : Type} {words : List (String × α)}
    (h : choose switch words value = .ok given) :
    given = .value value ∧ value ∈ words.map Prod.fst := by
  unfold choose at h
  split at h
  · next hany =>
    cases h
    obtain ⟨row, hrow, hvalue⟩ := List.any_eq_true.mp hany
    exact ⟨rfl, List.mem_map.mpr ⟨row, hrow, eq_of_beq hvalue⟩⟩
  · cases h

theorem holds_empty (switch : Switch) : Options.empty.Holds switch .absent := by
  cases switch <;> simp [Options.Holds, Options.empty, Given.Reads]

/-- An option that is set holds its value, and all others what they held. -/
theorem set_holds (h : options.set switch value = .ok final) :
    final.Holds switch (.value value) ∧
      ∀ other ≠ switch, ∀ given, options.Holds other given → final.Holds other given := by
  cases switch with
  | help => cases h
  | host | config | dotenv | baseUrl =>
    cases h
    refine ⟨rfl, fun other hother given hheld => ?_⟩
    cases other <;> first | exact hheld | exact absurd rfl hother
  | port =>
    simp only [Options.set] at h
    split at h
    · next n hn =>
      cases h
      refine ⟨hn, fun other hother given hheld => ?_⟩
      cases other <;> first | exact hheld | exact absurd rfl hother
    · cases h
  | logLevel | logFormat =>
    obtain ⟨given, hchosen, hfinal⟩ := Except.bind_eq_ok.mp h
    obtain ⟨rfl, hvalue⟩ := choose_eq_ok hchosen
    cases hfinal
    refine ⟨⟨rfl, ?_⟩, fun other hother given hheld => ?_⟩
    · rintro ⟨⟩
      revert hvalue
      decide
    · cases other <;> first | exact hheld | exact absurd rfl hother

/-- An option whose value vanishes holds none, and all others what they held. -/
theorem vanish_holds (options : Options) (switch : Switch) :
    (options.vanish switch).Holds switch .vanished ∧
      ∀ other ≠ switch, ∀ given, options.Holds other given →
        (options.vanish switch).Holds other given := by
  refine ⟨by cases switch <;> simp [Options.Holds, Options.vanish, Given.Reads],
    fun other hother given hheld => ?_⟩
  cases switch <;> cases other <;> first | exact hheld | exact absurd rfl hother

theorem act_holds (h : options.act effect = .ok final) (hbefore : options.Holds switch before) :
    final.Holds switch (effect.update switch before) := by
  cases effect with
  | set other value =>
    obtain ⟨hset, hothers⟩ := set_holds h
    rw [Effect.update]
    split
    · next hsame => exact hsame ▸ hset
    · next hother => exact hothers switch (Ne.symm hother) before hbefore
  | vanish other =>
    cases h
    obtain ⟨hvanish, hothers⟩ := vanish_holds options other
    rw [Effect.update]
    split
    · next hsame => exact hsame ▸ hvanish
    · next hother => exact hothers switch (Ne.symm hother) before hbefore
  | stop stop => cases h

/-- What does not speak of the file of variables does the same whatever is held of it. -/
theorem act_withDotenv (h : effect.update .dotenv .absent = .absent) (given : Given String)
    (options : Options) :
    (options.withDotenv given).act effect = (options.act effect).map (.withDotenv given) := by
  cases effect with
  | set switch value =>
    cases switch with
    | dotenv => cases h
    | port =>
      simp only [Options.act, Options.set]
      cases Text.readInteger value <;> rfl
    | logLevel | logFormat =>
      simp only [Options.act, Options.set, choose]
      split <;> rfl
    | _ => rfl
  | vanish switch =>
    cases switch with
    | dotenv => cases h
    | _ => rfl
  | stop stop => rfl

/-! ## All effects -/

theorem takeEffect_eq (options : Options) (left : List String) (found : List Word) :
    takeEffect options left found = (effects left found).foldlM Options.act options := by
  fun_induction takeEffect options left found with
  | case1 options left h => simp [effects, h, pure, Except.pure]
  | case2 options left h => simp [effects, h, Options.act, bind, Except.bind]
  | case3 options left word rest ih => exact ih
  | case4 options left word rest ih => exact ih
  | case5 options left rest ih => exact ih
  | case6 options left name value rest => rfl
  | case7 options left name rest => rfl
  | case8 options left name switch value rest hhelp hvalue ih =>
    rw [effects, if_pos hvalue, ih]
    · rfl
    · exact hhelp
  | case9 options left name switch value rest hhelp hvalue ih =>
    rw [effects, if_neg hvalue, List.foldlM_cons]
    · exact congrArg (options.set switch value >>= ·) (funext ih)
    · exact hhelp
  | case10 options left name switch value rest hhelp ih =>
    rw [effects, List.foldlM_cons]
    · exact congrArg (options.set switch value >>= ·) (funext ih)
    · exact hhelp
  | case11 options left name switch rest hhelp hrest =>
    rw [effects]
    · rfl
    · exact hhelp
    · exact hrest

/-- Options hold what the effects say about them, if none of these stops. -/
theorem holds_of_foldlM (h : row.foldlM Options.act options = .ok final)
    (hbefore : options.Holds switch before) :
    final.Holds switch (row.foldl (Effect.update switch) before) := by
  induction row generalizing options before with
  | nil =>
    cases h
    exact hbefore
  | cons effect rest ih =>
    rw [List.foldlM_cons, Except.bind_eq_ok] at h
    obtain ⟨next, hnext, hrest⟩ := h
    exact ih hrest (act_holds hnext hbefore)

theorem readOptions_eq (words : List String) : readOptions words =
    (effectsOf words).mapError .usage >>= fun row => row.foldlM Options.act .empty := by
  rw [readOptions, effectsOf]
  cases recognizeAll words with
  | error fault => rfl
  | ok found => exact takeEffect_eq ..

/-- Options hold what the command line says last about each of them. -/
theorem holds_of_readOptions (h : readOptions words = .ok final) (switch : Switch) :
    final.Holds switch (said switch words) := by
  rw [readOptions_eq] at h
  obtain ⟨row, hrow, hfinal⟩ := Except.bind_eq_ok.mp h
  rw [said, Except.mapError_eq_ok.mp hrow]
  exact holds_of_foldlM hfinal (holds_empty switch)

/-- What is said about an option is not taken back. -/
theorem update_of_foldl (h : row.foldl (Effect.update switch) before = .absent) :
    before = .absent ∧ ∀ effect ∈ row, effect.update switch .absent = .absent := by
  induction row generalizing before with
  | nil => exact ⟨h, nofun⟩
  | cons effect rest ih =>
    obtain ⟨hupdate, hrest⟩ := ih h
    have hbefore : before = .absent ∧ effect.update switch .absent = .absent := by
      cases effect with
      | stop stop => exact ⟨hupdate, rfl⟩
      | _ =>
        simp only [Effect.update] at hupdate ⊢
        split at hupdate
        · cases hupdate
        · next hother => exact ⟨hupdate, if_neg hother⟩
    exact ⟨hbefore.1, List.forall_mem_cons.mpr ⟨hbefore.2, hrest⟩⟩

theorem foldlM_withDotenv (h : ∀ effect ∈ row, effect.update .dotenv .absent = .absent)
    (given : Given String) (options : Options) :
    row.foldlM Options.act (options.withDotenv given) =
      (row.foldlM Options.act options).map (.withDotenv given) := by
  induction row generalizing options with
  | nil => rfl
  | cons effect rest ih =>
    obtain ⟨heffect, hrest⟩ := List.forall_mem_cons.mp h
    rw [List.foldlM_cons, List.foldlM_cons, act_withDotenv heffect]
    cases options.act effect with
    | error stop => rfl
    | ok next => exact ih hrest next

/-! ## Words in front -/

/-- The mark behind which all words are plain is none of them. -/
theorem ne_divider {word : String} {recognized : Word} (h : recognize word = .ok recognized) :
    (word == "--") = false := by
  rw [beq_eq_false_iff_ne]
  rintro rfl
  have hmark : (recognize "--").toOption = none := by decide +kernel
  rw [h] at hmark
  cases hmark

theorem recognizeAll_cons {word : String} {recognized : Word} {rest : List String}
    (h : recognize word = .ok recognized) :
    recognizeAll (word :: rest) = (recognizeAll rest).map (recognized :: ·) := by
  rw [recognizeAll, if_neg (by simpa using ne_divider h), h]
  cases recognizeAll rest <;> rfl

/-- Words that give an option a value set it, before anything else takes effect. -/
theorem effectsOf_gives {form : List String} (h : Gives switch value form) (hhelp : switch ≠ .help)
    (words : List String) :
    effectsOf (form ++ words) = (effectsOf words).map (.set switch value :: ·) := by
  rw [effectsOf, effectsOf]
  cases h with
  | joined hword hvalue =>
    rw [List.singleton_append, recognizeAll_cons hword]
    cases recognizeAll words with
    | error fault => rfl
    | ok found =>
      show Except.ok (effects [] (.option _ switch (some value) :: found)) = _
      rw [effects, if_neg (by simpa using hvalue)]
      · rfl
      · exact hhelp
  | apart hword hvalue =>
    rw [List.cons_append, List.singleton_append, recognizeAll_cons hword, recognizeAll_cons hvalue]
    cases recognizeAll words with
    | error fault => rfl
    | ok found =>
      show Except.ok (effects [] (.option _ switch none :: .plain value :: found)) = _
      rw [effects]
      · rfl
      · exact hhelp

/-- Options that are given their values have their effects before anything else. -/
theorem effectsOf_complete {front : List String} (h : Complete front) :
    ∃ row, ∀ words, effectsOf (front ++ words) = (effectsOf words).map (row ++ ·) := by
  induction h with
  | nil =>
    refine ⟨[], fun words => ?_⟩
    rw [List.nil_append]
    cases effectsOf words <;> rfl
  | @cons switch value _ _ hhelp hform _ ih =>
    obtain ⟨row, hrow⟩ := ih
    refine ⟨.set switch value :: row, fun words => ?_⟩
    rw [List.append_assoc, effectsOf_gives hform hhelp, hrow]
    cases effectsOf words <;> rfl

/-- A file of variables that is given among words that do not speak of one is all that it changes.
-/
theorem readOptions_gives {front form : List String} {name : String} (hfront : Complete front)
    (hform : Gives .dotenv name form) (hwords : said .dotenv (front ++ words) = .absent) :
    readOptions (front ++ (form ++ words)) =
      (readOptions (front ++ words)).map (.withDotenv (.value name)) := by
  obtain ⟨first, hfirst⟩ := effectsOf_complete hfront
  rw [said, hfirst] at hwords
  rw [readOptions_eq, readOptions_eq, hfirst, hfirst, effectsOf_gives hform (by decide)]
  cases heffects : effectsOf words with
  | error fault => rfl
  | ok rest =>
    rw [heffects] at hwords
    have hsilent : ∀ effect ∈ rest, effect.update .dotenv .absent = .absent := fun effect hm =>
      (update_of_foldl hwords).2 effect (List.mem_append_right first hm)
    show (first ++ .set .dotenv name :: rest).foldlM Options.act .empty =
      ((first ++ rest).foldlM Options.act .empty).map _
    rw [List.foldlM_append, List.foldlM_append]
    cases first.foldlM Options.act .empty with
    | error stop => rfl
    | ok options => exact foldlM_withDotenv hsilent (.value name) options

end OptionLemmas
end MagnetStream.CommandLine
