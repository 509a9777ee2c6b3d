import MagnetStream.Log.Loggers
import MagnetStream.Proofs.Entries

/-!
# Loggers above loggers

A logger is within another one if it is that logger or has it among the known loggers above it. It
then has that name and a point in front of its own name (`Within.named`), and as long as no two
points in a row stand in its name, this is all that counts (`within_iff_named`). The rules that bear
on a logger are those that bear on the nearest logger above it that has a rule
(`bearingOn_of_nearest`).
-/

namespace MagnetStream.Log

/-- As far as the known loggers go, a logger is another one or below it. -/
def Within (known : List String) (top logger : String) : Prop := top ∈ lineage known logger

instance (known : List String) (top logger : String) : Decidable (Within known top logger) :=
  inferInstanceAs (Decidable (_ ∈ _))

/-- The name of a logger is another name, or goes on behind that name and a point. -/
def NamedWithin (top logger : String) : Prop :=
  logger = top ∨ top.toList ++ ['.'] <+: logger.toList

instance (top logger : String) : Decidable (NamedWithin top logger) :=
  inferInstanceAs (Decidable (_ ∨ _))

/-- No two points in a row stand in a name. -/
def Plain (logger : String) : Prop := ¬ ['.', '.'] <:+: logger.toList

namespace HierarchyLemmas

variable {known : List String} {top logger : String}

/-! ## Names read from their end -/

section FromTheEnd

variable {name : List Char}

/-- What is above a name is known, and stands in front of one of its points. -/
theorem suffix_of_mem_knownAbove (h : top ∈ knownAbove known name) :
    top ∈ known ∧ '.' :: top.toList.reverse <:+ name := by
  fun_induction knownAbove known name with
  | case1 last rest above hknown ih =>
    rcases List.mem_cons.mp h with rfl | hm
    · exact ⟨List.contains_iff_mem.mp hknown, by simp [above]⟩
    · exact ⟨(ih hm).1, (ih hm).2.trans (List.suffix_cons ..)⟩
  | case2 last rest above hknown ih =>
    refine ⟨(ih h).1, (ih h).2.trans ?_⟩
    exact (List.suffix_cons ..).trans (List.suffix_cons ..)
  | case3 c rest hpoint ih => exact ⟨(ih h).1, (ih h).2.trans (List.suffix_cons ..)⟩
  | case4 => cases h

/-- Behind a name in the list stand the names above that name, and in front of it names that have it
above them. -/
theorem knownAbove_split (h : top ∈ knownAbove known name) :
    ∃ front, knownAbove known name = front ++ top :: knownAbove known top.toList.reverse ∧
      ∀ other ∈ front, top ∈ knownAbove known other.toList.reverse := by
  fun_induction knownAbove known name with
  | case1 last rest above hknown ih =>
    have habove : above.toList.reverse = last :: rest := by simp [above]
    by_cases htop : top = above
    · subst htop
      exact ⟨[], by rw [habove, List.nil_append], fun _ hm => absurd hm List.not_mem_nil⟩
    · have hm := (List.mem_cons.mp h).resolve_left htop
      obtain ⟨front, hfront, hothers⟩ := ih hm
      refine ⟨above :: front, by rw [hfront, List.cons_append], fun other ho => ?_⟩
      rcases List.mem_cons.mp ho with rfl | ho
      · rwa [habove]
      · exact hothers other ho
  | case2 last rest above hknown ih => exact ih h
  | case3 c rest hpoint ih => exact ih h
  | case4 => cases h

/-- Without two points in a row, every known name in front of a point is above. -/
theorem mem_knownAbove_of_plain (hplain : ¬ ['.', '.'] <:+: name) (hknown : top ∈ known)
    (htop : top ≠ "") (h : '.' :: top.toList.reverse <:+ name) : top ∈ knownAbove known name := by
  have hne : top.toList.reverse ≠ [] := by simpa using htop
  fun_induction knownAbove known name with
  | case1 last rest above hcontains ih =>
    rcases List.suffix_cons_iff.mp h with heq | hbelow
    · have hrest : top.toList.reverse = last :: rest := (List.cons.inj heq).2
      rw [List.mem_cons]
      exact .inl (by simp [above, ← hrest])
    · refine List.mem_cons_of_mem _ (ih (fun hrow => hplain ?_) hbelow)
      exact hrow.trans (List.suffix_cons ..).isInfix
  | case2 last rest above hcontains ih =>
    have hlast : last ≠ '.' := by
      rintro rfl
      exact hplain ⟨[], rest, rfl⟩
    rcases List.suffix_cons_iff.mp h with heq | hbelow
    · have hrest : top.toList.reverse = last :: rest := (List.cons.inj heq).2
      refine absurd (List.contains_iff_mem.mpr ?_) hcontains
      simpa [above, ← hrest] using hknown
    · rcases List.suffix_cons_iff.mp hbelow with heq | hrest
      · exact absurd (List.cons.inj heq).1.symm hlast
      · refine ih (fun hrow => hplain ?_) hrest
        exact hrow.trans ((List.suffix_cons ..).trans (List.suffix_cons ..)).isInfix
  | case3 c rest hpoint ih =>
    rcases List.suffix_cons_iff.mp h with heq | hbelow
    · obtain ⟨hc, hrest⟩ := List.cons.inj heq
      cases rest with
      | nil => exact absurd hrest hne
      | cons last rest => exact absurd rfl (hpoint last rest hc.symm)
    · exact ih (fun hrow => hplain (hrow.trans (List.suffix_cons ..).isInfix)) hbelow
  | case4 => simp at h

theorem knownAbove_append (known : List String) {word : List Char} (h : '.' ∉ word)
    (name : List Char) : knownAbove known (word ++ name) = knownAbove known name := by
  induction word with
  | nil => rfl
  | cons c word ih =>
    obtain ⟨hc, hword⟩ := List.ne_and_not_mem_of_not_mem_cons h
    rw [List.cons_append, knownAbove, ih hword]
    exact fun _ _ heq => absurd heq.symm hc

theorem knownAbove_point (hknown : top ∈ known) (hempty : top ≠ "") :
    knownAbove known ('.' :: top.toList.reverse) = top :: knownAbove known top.toList.reverse := by
  have hne : top.toList.reverse ≠ [] := by simpa using hempty
  obtain ⟨last, rest, hrest⟩ := List.exists_cons_of_ne_nil hne
  have htop : String.ofList (last :: rest).reverse = top := by simp [← hrest]
  rw [hrest, knownAbove, htop, if_pos (List.contains_iff_mem.mpr hknown)]

end FromTheEnd

/-! ## Lineages -/

theorem reversed_suffix_iff : '.' :: top.toList.reverse <:+ logger.toList.reverse ↔
    top.toList ++ ['.'] <+: logger.toList := by
  have hreverse : '.' :: top.toList.reverse = (top.toList ++ ['.']).reverse := by simp
  rw [hreverse, List.reverse_suffix]

/-- A logger that is not the one above all others comes first in its lineage. -/
theorem lineage_eq (hempty : logger ≠ "") (hroot : logger ≠ rootName) :
    lineage known logger = logger :: knownAbove known logger.toList.reverse := by
  refine if_neg fun h => ?_
  rcases Bool.or_eq_true_iff.mp h with h | h
  · exact hempty (String.isEmpty_iff.mp h)
  · exact hroot (beq_iff_eq.mp h)

theorem lineage_of_point (h : '.' ∈ logger.toList) :
    lineage known logger = logger :: knownAbove known logger.toList.reverse := by
  refine lineage_eq ?_ ?_
  · rintro rfl
    cases h
  · rintro rfl
    revert h
    decide

theorem lineage_of_mem (h : top ∈ lineage known logger) :
    lineage known logger = logger :: knownAbove known logger.toList.reverse := by
  unfold lineage at h ⊢
  split at h
  · cases h
  · next hroot => rw [if_neg hroot]

/-- A name without points has nothing above it. -/
theorem lineage_word (hempty : logger ≠ "") (hroot : logger ≠ rootName)
    (hword : '.' ∉ logger.toList) : lineage known logger = [logger] := by
  have hnone : knownAbove known (logger.toList.reverse ++ []) = [] :=
    knownAbove_append known (by simpa using hword) []
  rw [lineage_eq hempty hroot, ← List.append_nil logger.toList.reverse, hnone]

/-- With one word more, a name has above it the name in front, if that is known, and what is above
that. -/
theorem lineage_append_word {word : String} (hknown : top ∈ known) (hempty : top ≠ "")
    (hroot : top ≠ rootName) (hword : '.' ∉ word.toList) :
    lineage known (top ++ "." ++ word) = (top ++ "." ++ word) :: lineage known top := by
  have hpoint : '.' ∈ (top ++ "." ++ word).toList := by simp
  have hend : (top ++ "." ++ word).toList.reverse =
      word.toList.reverse ++ '.' :: top.toList.reverse := by simp
  rw [lineage_of_point hpoint, lineage_eq hempty hroot, hend,
    knownAbove_append known (by simpa using hword), knownAbove_point hknown hempty]

theorem not_mem_knownAbove_self : top ∉ knownAbove known top.toList.reverse := by
  intro h
  have hlength := (suffix_of_mem_knownAbove h).2.length_le
  rw [List.length_cons] at hlength
  omega

/-- What is above a name is in its lineage. -/
theorem mem_lineage_of_mem_knownAbove (h : top ∈ knownAbove known logger.toList.reverse) :
    top ∈ lineage known logger := by
  have hpoint : '.' ∈ logger.toList.reverse :=
    (suffix_of_mem_knownAbove h).2.subset List.mem_cons_self
  rw [lineage_of_point (List.mem_reverse.mp hpoint)]
  exact List.mem_cons_of_mem _ h

end HierarchyLemmas

open HierarchyLemmas

namespace Within

variable {known : List String} {top first second logger : String}

theorem named (h : Within known top logger) : NamedWithin top logger := by
  rw [Within, lineage_of_mem h] at h
  rcases List.mem_cons.mp h with rfl | habove
  · exact .inl rfl
  · exact .inr (reversed_suffix_iff.mp (suffix_of_mem_knownAbove habove).2)

theorem trans (h : Within known first second) (h' : Within known second logger) :
    Within known first logger := by
  rw [Within, lineage_of_mem h'] at h'
  rcases List.mem_cons.mp h' with rfl | habove
  · exact h
  rw [Within, lineage_of_mem h] at h
  rcases List.mem_cons.mp h with rfl | hmore
  · exact mem_lineage_of_mem_knownAbove habove
  · obtain ⟨front, hfront, -⟩ := knownAbove_split habove
    refine mem_lineage_of_mem_knownAbove ?_
    rw [hfront]
    exact List.mem_append_right _ (List.mem_cons_of_mem _ hmore)

end Within

/-- Of two names within which a logger stands, one stands within the other. -/
theorem NamedWithin.comparable {first second logger : String} (h : NamedWithin first logger)
    (h' : NamedWithin second logger) : NamedWithin first second ∨ NamedWithin second first := by
  rcases h with rfl | hfirst
  · exact .inr h'
  rcases h' with rfl | hsecond
  · exact .inl (.inr hfirst)
  -- Both go on with a point, so the longer one has the shorter one and a point in front of it.
  have hchain : ∀ {short long : List Char}, short ++ ['.'] <+: logger.toList →
      long ++ ['.'] <+: logger.toList → short.length < long.length → short ++ ['.'] <+: long := by
    intro short long hshort hlong hless
    refine List.prefix_of_prefix_length_le hshort ((List.prefix_append ..).trans hlong) ?_
    rw [List.length_append]
    exact hless
  rcases Nat.lt_trichotomy first.toList.length second.toList.length with hless | hsame | hless
  · exact .inl (.inr (hchain hfirst hsecond hless))
  · have heq : first.toList ++ ['.'] = second.toList ++ ['.'] :=
      (List.prefix_of_prefix_length_le hfirst hsecond (by simp [hsame])).eq_of_length
        (by simp [hsame])
    exact .inl (.inl (String.toList_injective (List.append_cancel_right heq)).symm)
  · exact .inr (.inr (hchain hsecond hfirst hless))

/-- Where no two points in a row stand in the name of a logger, a known logger is above it just when
their names say so. -/
theorem within_iff_named {known : List String} {top logger : String} (hplain : Plain logger)
    (hknown : top ∈ known) (hempty : top ≠ "") (hroot : top ≠ rootName) :
    Within known top logger ↔ NamedWithin top logger := by
  refine ⟨Within.named, fun h => ?_⟩
  rcases h with rfl | hbelow
  · rw [Within, lineage_eq hempty hroot]
    exact List.mem_cons_self
  · refine mem_lineage_of_mem_knownAbove (mem_knownAbove_of_plain ?_ hknown hempty ?_)
    · intro hrow
      exact hplain (by simpa using List.reverse_infix.mpr hrow)
    · exact reversed_suffix_iff.mpr hbelow

/-! ## The rules that bear on a logger -/

namespace Rules

variable {rules : Rules} {known : List String} {top logger : String}

/-- Without any rule above it, a logger follows the root. -/
theorem bearingOn_of_none (h : ∀ other ∈ rules.loggers.names, ¬ Within known other logger) :
    rules.bearingOn known logger = [rules.root] := by
  have hnone : (lineage known logger).filterMap rules.loggers.get? = [] :=
    List.filterMap_eq_nil_iff.mpr fun other hm =>
      Entries.get?_eq_none fun hnamed => h other hnamed hm
  rw [bearingOn, hnone, List.nil_append]

/-- A logger follows a logger above it if no other one between them has a rule. -/
theorem bearingOn_of_nearest (h : Within known top logger) (hself : Within known top top)
    (hnearest : ∀ other ∈ rules.loggers.names, Within known top other →
      Within known other logger → other = top) :
    rules.bearingOn known logger = rules.bearingOn known top := by
  have hlineage := lineage_of_mem h
  by_cases hsame : top = logger
  · rw [hsame]
  have habove : top ∈ knownAbove known logger.toList.reverse := by
    rw [Within, hlineage] at h
    exact (List.mem_cons.mp h).resolve_left hsame
  obtain ⟨front, hfront, hbetween⟩ := knownAbove_split habove
  -- The names in front of the one above have that one above them, and so they have no rule.
  have hskip : (logger :: front).filterMap rules.loggers.get? = [] := by
    refine List.filterMap_eq_nil_iff.mpr fun other hm => Entries.get?_eq_none fun hnamed => ?_
    have hother : top ∈ knownAbove known other.toList.reverse := by
      rcases List.mem_cons.mp hm with rfl | hm
      · exact habove
      · exact hbetween other hm
    have hwithin : Within known other logger := by
      rw [Within, hlineage, hfront, ← List.cons_append]
      exact List.mem_append_left _ hm
    have heq := hnearest other hnamed (mem_lineage_of_mem_knownAbove hother) hwithin
    subst heq
    exact not_mem_knownAbove_self hother
  rw [bearingOn, bearingOn, hlineage, hfront, lineage_of_mem hself, ← List.cons_append,
    List.filterMap_append, hskip, List.nil_append]

end Rules
end MagnetStream.Log
