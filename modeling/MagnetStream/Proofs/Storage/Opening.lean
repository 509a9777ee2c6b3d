import Mathlib.Data.List.Induction
import MagnetStream.Proofs.Dialogue
import MagnetStream.Storage.Basic

/-!
# Opening and closing a storage

A storage is used again and again, and every answer of its medium may be trouble. `Happens` is
everything that a use of an open or closed storage can come to (`use_happens`), and `Steps` is a
history of uses (`history_steps`).
An opening that fails leaves the storage closed, and nothing is looked up or kept but between an
opening that succeeded and the next closing that did (`opening_all_or_nothing_iff`), with one
exception: a server whose sign of life fails with trouble of an unforeseen kind, or that is not let
go after it failed, is left open.
-/

namespace MagnetStream.Storage

abbrev Exchange := (command : Command) × Answer command

/-- A use that took place: what it brought, and what was said to the medium and answered. -/
structure Seen where
  use : Use
  result : Except Failure Json
  exchanges : List Exchange

/-- A medium of any kind, which answers out of a state. -/
abbrev AnyMedium (State : Type) := (command : Command) → State → Answer command × State

/-- Listens to everything that is said to a medium. -/
def listening {State : Type} (medium : AnyMedium State) :
    Responder Command Answer State (Option Exchange) where
  answer command state :=
    let (answer, state) := medium command state
    (answer, state, [some ⟨command, answer⟩])
  noted _ := none

/-- What is seen of uses that follow each other. -/
def history {State : Type} (storage : Storage) (medium : AnyMedium State) (isOpen : Bool)
    (state : State) : List Use → List Seen
  | [] => []
  | use :: rest =>
    let run := (storage.use isOpen use).run (listening medium) state
    match run.result with
    | .error _ => []
    | .ok used =>
      ⟨use, used.result, run.trace.filterMap id⟩ ::
        history storage medium used.isOpen run.state rest

namespace Seen

def Returned (seen : Seen) : Prop := ∃ value, seen.result = .ok value

/-- An opening for which the sign of life failed with trouble of an unforeseen kind, or after which
the server was not let go. -/
def LeftOpen (seen : Seen) : Prop :=
  seen.use = .connect ∧ ((∃ failure, ⟨.ping, .error (.unforeseen failure)⟩ ∈ seen.exchanges) ∨
    ∃ trouble, ⟨.disconnect, .error trouble⟩ ∈ seen.exchanges)

end Seen

/-- The use looks an entry up or keeps one. -/
def Use.IsAccess : Use → Prop
  | .get _ | .set .. => True
  | .connect | .close => False

/-- After these uses a storage is open: one of them opened it, or left it open, and none closed it
again. -/
def OpenAfter (before : List Seen) : Prop :=
  ∃ front opener middle, before = front ++ opener :: middle ∧ opener.use = .connect ∧
    (opener.Returned ∨ opener.LeftOpen) ∧ ∀ seen ∈ middle, seen.use = .close → ¬ seen.Returned

namespace OpeningLemmas

/-- What a use of a storage that is open or not can come to, and whether it is open afterwards. -/
inductive Happens (backend : Backend) : Bool → Seen → Bool → Prop where
  | connectedBefore : Happens backend true ⟨.connect, .ok .null, []⟩ true
  | connectFails (trouble : Trouble) :
      Happens backend false ⟨.connect, .error trouble.failure, [⟨.connect, .error trouble⟩]⟩ false
  | diskConnects (h : backend = .disk) :
      Happens backend false ⟨.connect, .ok .null, [⟨.connect, .ok ()⟩]⟩ true
  | serverConnects (h : backend = .redis) :
      Happens backend false ⟨.connect, .ok .null, [⟨.connect, .ok ()⟩, ⟨.ping, .ok ()⟩]⟩ true
  | pingFails (h : backend = .redis) (failure : Failure) :
      Happens backend false ⟨.connect, .error failure,
        [⟨.connect, .ok ()⟩, ⟨.ping, .error (.unforeseen failure)⟩]⟩ true
  | serverSilent (h : backend = .redis) (failure : Failure) :
      Happens backend false ⟨.connect, .error failure, [⟨.connect, .ok ()⟩,
        ⟨.ping, .error (.reported failure)⟩, ⟨.disconnect, .ok ()⟩]⟩ false
  | cleanupFails (h : backend = .redis) (failure : Failure) (trouble : Trouble) :
      Happens backend false ⟨.connect, .error trouble.failure, [⟨.connect, .ok ()⟩,
        ⟨.ping, .error (.reported failure)⟩, ⟨.disconnect, .error trouble⟩]⟩ true
  | closedBefore : Happens backend false ⟨.close, .ok .null, []⟩ false
  | closes : Happens backend true ⟨.close, .ok .null, [⟨.disconnect, .ok ()⟩]⟩ false
  | closeFails (trouble : Trouble) :
      Happens backend true ⟨.close, .error trouble.failure, [⟨.disconnect, .error trouble⟩]⟩ true
  | turnedAway (use : Use) (h : use.IsAccess) :
      Happens backend false ⟨use, .error (.storageClosed backend), []⟩ false
  | looksUp (key : String) (answer : Except Trouble (Option Json)) :
      Happens backend true ⟨.get key, (answer.mapError Trouble.failure).map (·.getD .null),
        [⟨.read key, answer⟩]⟩ true
  | keeps (key : String) (entry : Json) (ttl kept : Option Int) (answer : Except Trouble Unit) :
      Happens backend true ⟨.set key entry ttl,
        (answer.mapError Trouble.failure).map fun () => .null,
        [⟨.write key entry kept, answer⟩]⟩ true

/-- A history of uses, from open or closed to open or closed. -/
inductive Steps (backend : Backend) : Bool → List Seen → Bool → Prop where
  | nil (isOpen : Bool) : Steps backend isOpen [] isOpen
  | cons {first next last : Bool} {seen : Seen} {rest : List Seen} :
      Happens backend first seen next → Steps backend next rest last →
        Steps backend first (seen :: rest) last

variable {backend : Backend} {isOpen next : Bool} {seen : Seen} {before after : List Seen}

/-! ## One use -/

/-- However a medium answers, a dialogue has a value, and what was said satisfies `holds`. -/
def Comes {α : Type} (holds : α → List Exchange → Prop) : Action α → Prop
  | .done (.ok value) => holds value []
  | .done (.error _) => False
  | .note _ rest => Comes holds rest
  | .ask command next =>
    ∀ answer, Comes (fun value said => holds value (⟨command, answer⟩ :: said)) (next answer)

theorem Comes.run {α State : Type} {holds : α → List Exchange → Prop} {action : Action α}
    (h : Comes holds action) (medium : AnyMedium State) (state : State) :
    ∃ value, (action.run (listening medium) state).result = .ok value ∧
      holds value ((action.run (listening medium) state).trace.filterMap id) := by
  induction action generalizing holds state with
  | done result =>
    cases result with
    | ok value => exact ⟨value, rfl, h⟩
    | error failure => exact h.elim
  | note event rest ih => exact ih h state
  | ask command next ih => exact ih _ (h (medium command state).1) (medium command state).2

/-- Every use of a storage comes to something. -/
theorem use_happens (storage : Storage) (isOpen : Bool) (use : Use) :
    Comes (fun used said => Happens storage.backend isOpen ⟨use, used.result, said⟩ used.isOpen)
      (storage.use isOpen use) := by
  obtain ⟨backend, place, ttl⟩ := storage
  cases use with
  | connect =>
    cases isOpen with
    | true => exact .connectedBefore
    | false =>
      rintro (trouble | _)
      · exact .connectFails trouble
      · cases backend with
        | disk => exact .diskConnects rfl
        | redis =>
          rintro ((failure | failure) | _)
          · rintro (trouble | _)
            · exact .cleanupFails rfl failure trouble
            · exact .serverSilent rfl failure
          · exact .pingFails rfl failure
          · exact .serverConnects rfl
  | close =>
    cases isOpen with
    | true =>
      rintro (trouble | _)
      · exact .closeFails trouble
      · cases backend <;> exact .closes
    | false => exact .closedBefore
  | get key =>
    cases isOpen with
    | true =>
      rintro (trouble | found)
      · exact .looksUp key (.error trouble)
      · cases backend with
        | disk => exact .looksUp key (.ok found)
        | redis => cases found <;> exact .looksUp key (.ok _)
    | false => exact .turnedAway (.get key) trivial
  | set key entry ttl =>
    cases isOpen with
    | true =>
      rintro (trouble | _)
      · exact .keeps key entry ttl _ (.error trouble)
      · exact .keeps key entry ttl _ (.ok ())
    | false => exact .turnedAway (.set key entry ttl) trivial

/-- Only a storage that is closed can fail to open. -/
theorem closed_of_connect_fails (h : Happens backend isOpen seen next)
    (huse : seen.use = .connect) (hfails : ¬ seen.Returned) : isOpen = false := by
  cases h with
  | connectedBefore => exact absurd ⟨_, rfl⟩ hfails
  | closes | closeFails | looksUp | keeps => cases huse
  | _ => rfl

theorem not_leftOpen_of_disk (h : Happens .disk isOpen seen next) : ¬ seen.LeftOpen := by
  rintro ⟨huse, hleft⟩
  cases h with
  | connectedBefore | connectFails | diskConnects => simp at hleft
  | closedBefore | closes | closeFails | looksUp | keeps => cases huse
  | turnedAway use haccess =>
    cases huse
    exact haccess
  | serverConnects hbackend | pingFails hbackend | serverSilent hbackend | cleanupFails hbackend =>
    cases hbackend

/-- A closed storage turns every access away without asking the medium. -/
theorem turned_away (h : Happens backend false seen next) (haccess : seen.use.IsAccess) :
    seen.result = .error (.storageClosed backend) ∧ seen.exchanges = [] := by
  cases h with
  | turnedAway => exact ⟨rfl, rfl⟩
  | _ => exact haccess.elim

theorem access_asks (h : Happens backend true seen next) (haccess : seen.use.IsAccess) :
    seen.exchanges ≠ [] := by
  cases h with
  | looksUp | keeps => exact List.cons_ne_nil _ _
  | _ => exact haccess.elim

/-- Opening a closed storage connects to the medium. -/
theorem connects_afresh (h : Happens backend false seen next) (huse : seen.use = .connect) :
    ∃ answer rest, seen.exchanges = ⟨.connect, answer⟩ :: rest := by
  cases h with
  | closedBefore => cases huse
  | turnedAway use haccess =>
    cases huse
    exact haccess.elim
  | _ => exact ⟨_, _, rfl⟩

/-! ## All uses -/

theorem history_steps {State : Type} (storage : Storage) (medium : AnyMedium State) (isOpen : Bool)
    (state : State) (uses : List Use) :
    ∃ last, Steps storage.backend isOpen (history storage medium isOpen state uses) last := by
  induction uses generalizing isOpen state with
  | nil => exact ⟨isOpen, .nil isOpen⟩
  | cons use rest ih =>
    obtain ⟨used, hresult, hhappens⟩ := (use_happens storage isOpen use).run medium state
    rw [history, hresult]
    obtain ⟨last, hrest⟩ := ih used.isOpen
      ((storage.use isOpen use).run (listening medium) state).state
    exact ⟨last, .cons hhappens hrest⟩

/-- Nothing that is done with a storage goes unseen. -/
theorem use_history {State : Type} (storage : Storage) (medium : AnyMedium State) (isOpen : Bool)
    (state : State) (uses : List Use) :
    (history storage medium isOpen state uses).map Seen.use = uses := by
  induction uses generalizing isOpen state with
  | nil => rfl
  | cons use rest ih =>
    obtain ⟨used, hresult, _⟩ := (use_happens storage isOpen use).run medium state
    rw [history, hresult]
    exact congrArg (use :: ·) (ih used.isOpen _)

theorem steps_append {first last : Bool} :
    Steps backend first (before ++ after) last ↔
      ∃ middle, Steps backend first before middle ∧ Steps backend middle after last := by
  induction before generalizing first with
  | nil =>
    constructor
    · exact fun h => ⟨first, .nil first, h⟩
    · rintro ⟨_, ⟨⟩, h⟩
      exact h
  | cons seen rest ih =>
    constructor
    · rintro (_ | ⟨hseen, hrest⟩)
      obtain ⟨middle, hbefore, hafter⟩ := ih.mp hrest
      exact ⟨middle, .cons hseen hbefore, hafter⟩
    · rintro ⟨middle, _ | ⟨hseen, hbefore⟩, hafter⟩
      exact .cons hseen (ih.mpr ⟨middle, hbefore, hafter⟩)

theorem steps_concat {first last : Bool} :
    Steps backend first (before ++ [seen]) last ↔
      ∃ middle, Steps backend first before middle ∧ Happens backend middle seen last := by
  rw [steps_append]
  refine exists_congr fun middle => and_congr_right fun _ => ⟨?_, fun h => .cons h (.nil last)⟩
  rintro (_ | ⟨hseen, _ | _⟩)
  exact hseen

/-- A use opens a storage, or leaves it open, or it was open before and is not closed. -/
theorem openAfter_concat : OpenAfter (before ++ [seen]) ↔
    (seen.use = .connect ∧ (seen.Returned ∨ seen.LeftOpen)) ∨
      OpenAfter before ∧ (seen.use = .close → ¬ seen.Returned) := by
  constructor
  · rintro ⟨front, opener, middle, heq, huse, hopens, hmiddle⟩
    induction middle using List.reverseRecOn with
    | nil =>
      obtain ⟨_, hlast⟩ := List.append_inj' heq rfl
      obtain rfl : seen = opener := by simpa using hlast
      exact .inl ⟨huse, hopens⟩
    | append_singleton middle last _ =>
      rw [← List.cons_append, ← List.append_assoc] at heq
      obtain ⟨rfl, hlast⟩ := List.append_inj' heq rfl
      obtain rfl : seen = last := by simpa using hlast
      exact .inr ⟨⟨front, opener, middle, rfl, huse, hopens, fun other hm =>
        hmiddle other (List.mem_append_left _ hm)⟩, hmiddle seen (by simp)⟩
  · rintro (⟨huse, hopens⟩ | ⟨⟨front, opener, middle, rfl, huse, hopens, hmiddle⟩, hseen⟩)
    · exact ⟨before, seen, [], rfl, huse, hopens, List.forall_mem_nil _⟩
    · refine ⟨front, opener, middle ++ [seen], by simp, huse, hopens, fun other hm => ?_⟩
      rcases List.mem_append.mp hm with hm | hm
      · exact hmiddle other hm
      · obtain rfl := List.mem_singleton.mp hm
        exact hseen

theorem isOpen_of_happens (h : Happens backend isOpen seen next) :
    next = true ↔ (seen.use = .connect ∧ (seen.Returned ∨ seen.LeftOpen)) ∨
      isOpen = true ∧ (seen.use = .close → ¬ seen.Returned) := by
  cases h with
  | turnedAway use haccess => cases use <;> simp_all [Use.IsAccess]
  | _ => simp [Seen.Returned, Seen.LeftOpen]

/-- Along a history a storage is open just after the uses that leave it so. -/
theorem isOpen_iff (h : Steps backend false before isOpen) :
    isOpen = true ↔ OpenAfter before := by
  induction before using List.reverseRecOn generalizing isOpen with
  | nil =>
    cases h
    refine iff_of_false Bool.false_ne_true ?_
    rintro ⟨front, opener, middle, heq, _⟩
    simp at heq
  | append_singleton before seen ih =>
    obtain ⟨middle, hbefore, hseen⟩ := steps_concat.mp h
    rw [isOpen_of_happens hseen, openAfter_concat, ih hbefore]

end OpeningLemmas

open OpeningLemmas

/-- Whatever a medium answers, of every use in a history that begins with a closed storage it holds:
an opening that fails leaves the storage closed, unless the sign of life failed with trouble of an
unforeseen kind, or the server could not be let go after that. On a disk there is no such exception.
Opening a closed storage connects to the medium. An access reaches the medium just between an
opening that succeeded, or left the storage open nevertheless, and the next closing that succeeded,
and is turned away at any other time. -/
theorem opening_all_or_nothing_iff {State : Type} (storage : Storage) (medium : AnyMedium State)
    (state : State) (uses : List Use) (before after : List Seen) (seen : Seen)
    (h : history storage medium false state uses = before ++ seen :: after) :
    (seen.use = .connect → ¬ seen.Returned → (OpenAfter (before ++ [seen]) ↔ seen.LeftOpen)) ∧
    (storage.backend = .disk → ¬ seen.LeftOpen) ∧
    (seen.use = .connect → ¬ OpenAfter before →
      ∃ answer rest, seen.exchanges = ⟨.connect, answer⟩ :: rest) ∧
    (seen.use.IsAccess → (seen.exchanges ≠ [] ↔ OpenAfter before) ∧
      (¬ OpenAfter before → seen.result = .error (.storageClosed storage.backend))) := by
  obtain ⟨last, hsteps⟩ := history_steps storage medium false state uses
  rw [h] at hsteps
  obtain ⟨isOpen, hbefore, _ | ⟨hseen, _⟩⟩ := steps_append.mp hsteps
  have hopen := isOpen_iff hbefore
  refine ⟨fun huse hfails => ?_, fun hdisk => not_leftOpen_of_disk (hdisk ▸ hseen),
    fun huse hclosed => ?_, fun haccess => ?_⟩
  · have hclosed := closed_of_connect_fails hseen huse hfails
    rw [openAfter_concat, ← hopen, hclosed]
    simp [huse, hfails]
  · obtain rfl := Bool.eq_false_iff.mpr (mt hopen.mp hclosed)
    exact connects_afresh hseen huse
  · rw [← hopen]
    cases isOpen with
    | true => exact ⟨iff_of_true (access_asks hseen haccess) rfl, (absurd rfl ·)⟩
    | false =>
      obtain ⟨hresult, hnothing⟩ := turned_away hseen haccess
      exact ⟨iff_of_false (not_not_intro hnothing) Bool.false_ne_true, fun _ => hresult⟩

/-- A medium that answers every command, but for the sign of life. -/
def silentMedium (trouble : Trouble) : AnyMedium Unit
  | .connect, state => (.ok (), state)
  | .ping, state => (.error trouble, state)
  | .disconnect, state => (.ok (), state)
  | .read _, state => (.ok none, state)
  | .write .., state => (.ok (), state)

/-- A server that fails to open with trouble of an unforeseen kind: what is looked up is asked of
it nevertheless, and the next opening succeeds without another sign of life. -/
theorem failed_opening_leaves_server_open :
    history ⟨.redis, "redis://localhost", 60⟩ (silentMedium (.unforeseen .endlessTime)) false ()
        [.connect, .get "k", .connect] =
      [⟨.connect, .error .endlessTime,
          [⟨.connect, .ok ()⟩, ⟨.ping, .error (.unforeseen .endlessTime)⟩]⟩,
        ⟨.get "k", .ok .null, [⟨.read "k", .ok none⟩]⟩, ⟨.connect, .ok .null, []⟩] :=
  rfl

/-- A server that reports that it has no sign of life is let go, and nothing is asked of it. -/
theorem opening_all_or_nothing_iff_reported :
    let server : Storage := ⟨.redis, "redis://localhost", 60⟩
    let opening : Seen := ⟨.connect, .error .endlessTime, [⟨.connect, .ok ()⟩,
      ⟨.ping, .error (.reported .endlessTime)⟩, ⟨.disconnect, .ok ()⟩]⟩
    let lookup : Seen := ⟨.get "k", .error (.storageClosed .redis), []⟩
    history server (silentMedium (.reported .endlessTime)) false () [.connect, .get "k"] =
        [opening, lookup] ∧
      (OpenAfter [opening] ↔ opening.LeftOpen) ∧ ¬ OpenAfter [opening] := by
  intro server opening lookup
  have hhistory : history server (silentMedium (.reported .endlessTime)) false ()
      [.connect, .get "k"] = [opening, lookup] := rfl
  have hfails : ¬ opening.Returned := nofun
  obtain ⟨hconnect, _⟩ := opening_all_or_nothing_iff server (silentMedium (.reported .endlessTime))
    () [.connect, .get "k"] [] [lookup] opening hhistory
  have hiff := hconnect rfl hfails
  refine ⟨hhistory, hiff, fun hopen => ?_⟩
  obtain ⟨_, hleft⟩ := hiff.mp hopen
  simp [opening] at hleft

end MagnetStream.Storage
