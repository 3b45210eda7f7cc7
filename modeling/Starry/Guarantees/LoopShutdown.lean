import Starry.Source.EventLoopThread

/-!
# Quitting and joining a loop thread

`startLoop` returns as soon as `loop_` is set, before `loop()` has stored `quit_ = false`; a
`quit` that comes in between is erased, and the destructor then waits in `join` for a loop
that polls on (`early_quit_erased`). `quit_sticks` is about the runs in which that store comes
before every `quit` of another thread.

The destructor decides by a test of `loop_` whether there is a thread to join, and
`threadFunc` clears `loop_` and deletes the loop without regard to the destructor. A loop that
was asked to quit before is not joined, and one that is just leaving is used after its
deletion (`unjoined_or_dangling`). `joins_safely_iff` names the steps that must not come.
-/
namespace Starry.Guarantees.LoopShutdown

open Starry.Foundation
open Starry.Source
open Starry.Source.EventLoopThread

/-! ## What the stages say -/

/-- `threadFunc` has set `loop_` and not cleared it. -/
def showsLoop : ThreadStage → Bool
  | .notifying | .entering | .testing | .polling | .handling | .clearing => true
  | _ => false

/-- The loop has been constructed and not deleted. -/
def ownsLoop : ThreadStage → Bool
  | .unstarted | .constructing | .returned => false
  | _ => true

/-- `threadFunc` has set `loop_`. -/
def hasPublished : ThreadStage → Bool
  | .unstarted | .constructing | .initializing | .publishing => false
  | _ => true

structure Lifecycle (t : EventLoopThread) : Prop where
  shown : t.loop = showsLoop t.thread
  owned : t.quit.isSome = ownsLoop t.thread
  unstarted : t.owner = .constructed → t.thread = .unstarted
  waiting : t.owner = .waiting → t.thread ≠ .unstarted
  exiting : t.exiting = true → t.owner ≠ .constructed ∧ t.owner ≠ .waiting
  published : t.owner ≠ .waiting → t.thread ≠ .unstarted → hasPublished t.thread = true
  destructing : t.owner = .quitting ∨ t.owner = .waking ∨ t.owner = .joining →
    t.thread ≠ .unstarted
  joinable : t.owner ≠ .finished → (t.joinable = true ↔ t.thread ≠ .unstarted)

theorem lifecycle_new : Lifecycle EventLoopThread.new := by
  constructor <;> simp [EventLoopThread.new, showsLoop, ownsLoop]

variable {t t' : EventLoopThread}

/-! ## What a step leaves -/

theorem storeQuit_ok (success : t.storeQuit = .ok t') :
    t.quit.isSome = true ∧ t' = { t with quit := some true } := by
  unfold storeQuit at success
  split at success
  next => cases success
  next found =>
    cases success
    exact ⟨by rw [found]; rfl, rfl⟩

theorem wakeup_ok (success : t.wakeup = .ok t') :
    t.quit.isSome = true ∧ t' = { t with quitReturned := t.quitReturned + 1 } := by
  unfold wakeup at success
  split at success
  next => cases success
  next found =>
    cases success
    exact ⟨by rw [found]; rfl, rfl⟩

/-- The destructor quits the loop that it found published. -/
theorem destructorStores_ok (stepped : t.step .destructorStores = .ok t') :
    t.loop = true ∧ t.quit.isSome = true ∧
      t' = { t with quit := some true, owner := .waking } := by
  simp only [EventLoopThread.step] at stepped
  split at stepped
  next set =>
    obtain ⟨stored, success, moved⟩ := bind_eq_ok stepped
    obtain ⟨alive, rfl⟩ := storeQuit_ok success
    cases moved
    exact ⟨set, alive, rfl⟩
  next => cases stepped

theorem destructorWakes_ok (stepped : t.step .destructorWakes = .ok t') :
    t.quit.isSome = true ∧
      t' = { t with quitReturned := t.quitReturned + 1, owner := .joining } := by
  obtain ⟨woken, success, moved⟩ := bind_eq_ok stepped
  obtain ⟨alive, rfl⟩ := wakeup_ok success
  cases moved
  exact ⟨alive, rfl⟩

theorem otherStores_ok (stepped : t.step .otherStores = .ok t') :
    t.quit.isSome = true ∧ t' = { t with quit := some true, quitting := t.quitting + 1 } := by
  obtain ⟨stored, success, counted⟩ := bind_eq_ok stepped
  obtain ⟨alive, rfl⟩ := storeQuit_ok success
  cases counted
  exact ⟨alive, rfl⟩

theorem otherWakes_ok (stepped : t.step .otherWakes = .ok t') :
    t' = { t with quitReturned := t.quitReturned + 1, quitting := t.quitting - 1 } := by
  obtain ⟨woken, success, counted⟩ := bind_eq_ok stepped
  obtain ⟨-, rfl⟩ := wakeup_ok success
  cases counted
  rfl

theorem published_of_shows {stage : ThreadStage} (shows : showsLoop stage = true) :
    hasPublished stage = true := by
  cases stage <;> first | rfl | cases shows

theorem started_of_published {stage : ThreadStage} (published : hasPublished stage = true) :
    stage ≠ .unstarted := by
  rintro rfl
  cases published

namespace Lifecycle

theorem started (life : Lifecycle t) (set : t.loop = true) : t.thread ≠ .unstarted := by
  rw [life.shown] at set
  exact started_of_published (published_of_shows set)

/-- `threadFunc` goes on from `before`. -/
theorem moveThread (life : Lifecycle t) {before : ThreadStage} (here : t.thread = before)
    (stage : ThreadStage) {loop : Bool} {quit : Option Bool}
    (onward : before ≠ .unstarted ∧ stage ≠ .unstarted ∧
      (hasPublished before = true → hasPublished stage = true))
    (shown : loop = showsLoop stage) (owned : quit.isSome = ownsLoop stage) :
    Lifecycle { t with thread := stage, loop := loop, quit := quit } := by
  subst here
  obtain ⟨running, still, published⟩ := onward
  refine ⟨shown, owned, ?_, fun _ => still, life.exiting, ?_, fun _ => still, ?_⟩
  · intro early
    exact absurd (life.unstarted early) running
  · intro returned _
    exact published (life.published returned running)
  · intro unfinished
    exact (life.joinable unfinished).trans ⟨fun _ => still, fun _ => running⟩

/-- A move of `threadFunc` that leaves `loop_` and the loop as they are. -/
theorem moveOn (life : Lifecycle t) {before : ThreadStage} (here : t.thread = before)
    (stage : ThreadStage) (onward : before ≠ .unstarted ∧ stage ≠ .unstarted ∧
      (hasPublished before = true → hasPublished stage = true))
    (same : showsLoop before = showsLoop stage ∧ ownsLoop before = ownsLoop stage) :
    Lifecycle { t with thread := stage } :=
  life.moveThread here stage onward (by rw [life.shown, here, same.1])
    (by rw [life.owned, here, same.2])

/-- The owner goes on, after `startLoop` or without it. -/
theorem moveOwner (life : Lifecycle t) (owner : OwnerStage) {exiting joinable : Bool}
    (late : owner ≠ .constructed ∧ owner ≠ .waiting)
    (published : t.thread ≠ .unstarted → hasPublished t.thread = true)
    (destructing : owner = .quitting ∨ owner = .waking ∨ owner = .joining → t.thread ≠ .unstarted)
    (joined : owner ≠ .finished → (joinable = true ↔ t.thread ≠ .unstarted)) :
    Lifecycle { t with owner := owner, exiting := exiting, joinable := joinable } := by
  refine ⟨life.shown, life.owned, ?_, ?_, fun _ => late, fun _ => published, destructing, joined⟩
  · intro early
    exact absurd early late.1
  · intro waiting
    exact absurd waiting late.2

/-- A store to `quit_` of the loop that is there. -/
theorem store (life : Lifecycle t) (alive : t.quit.isSome = true) (value : Bool) :
    Lifecycle { t with quit := some value } :=
  ⟨life.shown, by rw [← life.owned, alive]; rfl, life.unstarted, life.waiting, life.exiting,
    life.published, life.destructing, life.joinable⟩

theorem count (life : Lifecycle t) (quitting quitReturned : Nat) :
    Lifecycle { t with quitting := quitting, quitReturned := quitReturned } :=
  ⟨life.shown, life.owned, life.unstarted, life.waiting, life.exiting, life.published,
    life.destructing, life.joinable⟩

theorem startLoop (life : Lifecycle t) (early : t.owner = .constructed) :
    Lifecycle { t with owner := .waiting, joinable := true, thread := .constructing } := by
  have idle := life.unstarted early
  have shown := life.shown
  have owned := life.owned
  rw [idle] at shown owned
  refine ⟨shown, owned, ?_, ?_, ?_, ?_, ?_, ?_⟩
  · intro again
    cases again
  · intro _ same
    cases same
  · intro leaving
    exact absurd early (life.exiting leaving).1
  · intro returned
    exact absurd rfl returned
  · simp
  · simp

/-- The destructor goes on from `before`, with a loop if it has seen one. -/
theorem destruct (life : Lifecycle t) {before : OwnerStage} (here : t.owner = before)
    (during : before = .testing ∨ before = .quitting ∨ before = .waking)
    (owner : OwnerStage) (late : owner ≠ .constructed ∧ owner ≠ .waiting)
    (seen : owner ≠ .finished → t.thread ≠ .unstarted) : Lifecycle { t with owner := owner } := by
  have early : t.owner ≠ .waiting ∧ t.owner ≠ .finished := by
    rw [here]
    rcases during with rfl | rfl | rfl <;> decide
  refine life.moveOwner owner late (life.published early.1) ?_ fun _ => life.joinable early.2
  intro destructing
  apply seen
  rintro rfl
  simp at destructing

theorem step {a : Act} (life : Lifecycle t) (allowed : t.Enabled a)
    (stepped : t.step a = .ok t') : Lifecycle t' := by
  cases a with
  | startLoop =>
    cases stepped
    exact life.startLoop allowed
  | startLoopReturns =>
    cases stepped
    obtain ⟨waiting, set | leaving⟩ := allowed
    · have shows := life.shown ▸ set
      refine life.moveOwner .started ⟨by decide, by decide⟩ (fun _ => published_of_shows shows)
        (by simp) fun _ => life.joinable (by rw [waiting]; decide)
    -- `exiting_` is set by the destructor, which a waiting owner has not entered
    · exact absurd waiting (life.exiting leaving).2
  | destruct =>
    cases stepped
    refine life.moveOwner .testing ⟨by decide, by decide⟩ ?_ (by simp) fun _ => life.joinable ?_
    · intro running
      rcases allowed with early | returned
      · exact absurd (life.unstarted early) running
      · exact life.published (by rw [returned]; decide) running
    · rcases allowed with early | returned
      · rw [early]; decide
      · rw [returned]; decide
  | testLoop =>
    cases stepped
    by_cases set : t.loop = true
    · simp only [set, if_true]
      exact set ▸ life.destruct allowed (.inl rfl) .quitting ⟨by decide, by decide⟩ fun _ =>
        life.started set
    · rw [if_neg set]
      exact life.destruct allowed (.inl rfl) .finished ⟨by decide, by decide⟩ fun unfinished =>
        absurd rfl unfinished
  | destructorStores =>
    have here : t.owner = .quitting := allowed
    obtain ⟨set, alive, rfl⟩ := destructorStores_ok stepped
    have seen := life.started set
    exact (life.store alive true).destruct here (.inr (.inl rfl)) .waking ⟨by decide, by decide⟩
      fun _ => seen
  | destructorWakes =>
    have here : t.owner = .waking := allowed
    obtain ⟨-, rfl⟩ := destructorWakes_ok stepped
    have seen := life.destructing (.inr (.inl here))
    have counted := life.count t.quitting (t.quitReturned + 1)
    exact counted.destruct here (.inr (.inr rfl)) .joining ⟨by decide, by decide⟩ fun _ => seen
  | join =>
    cases stepped
    refine life.moveOwner .finished ⟨by decide, by decide⟩ ?_ (by simp) fun unfinished =>
      absurd rfl unfinished
    exact life.published (by rw [allowed.1]; decide)
  | construct =>
    cases stepped
    have here : t.thread = .constructing := allowed
    exact life.moveThread here .initializing (by decide) (by rw [life.shown, here]; rfl) rfl
  | callbackReturns =>
    cases stepped
    exact life.moveOn allowed .publishing (by decide) (by decide)
  | publish =>
    cases stepped
    have here : t.thread = .publishing := allowed
    exact life.moveThread here .notifying (by decide) rfl (by rw [life.owned, here]; rfl)
  | notify =>
    cases stepped
    exact life.moveOn allowed .entering (by decide) (by decide)
  | enter =>
    cases stepped
    have here : t.thread = .entering := allowed
    exact life.moveThread here .testing (by decide) (by rw [life.shown, here]; rfl) rfl
  | testQuit =>
    cases stepped
    split
    · exact life.moveOn allowed .clearing (by decide) (by decide)
    · exact life.moveOn allowed .polling (by decide) (by decide)
  | pollReturns =>
    cases stepped
    exact life.moveOn allowed .handling (by decide) (by decide)
  | handle =>
    cases stepped
    exact life.moveOn allowed .testing (by decide) (by decide)
  | clearLoop =>
    cases stepped
    have here : t.thread = .clearing := allowed
    exact life.moveThread here .deleting (by decide) rfl (by rw [life.owned, here]; rfl)
  | deleteLoop =>
    cases stepped
    have here : t.thread = .deleting := allowed
    exact life.moveThread here .returned (by decide) (by rw [life.shown, here]; rfl) rfl
  | callbackQuits =>
    obtain ⟨alive, rfl⟩ := storeQuit_ok stepped
    exact life.store alive true
  | otherStores =>
    obtain ⟨alive, rfl⟩ := otherStores_ok stepped
    exact (life.store alive true).count _ _
  | otherWakes =>
    obtain rfl := otherWakes_ok stepped
    exact life.count _ _

end Lifecycle

/-! ## The destructor joins -/

structure JoinsSafely (t : EventLoopThread) : Prop where
  /-- A thread that can still be joined would end the process in its own destructor. -/
  joined : t.owner = .finished → t.joinable = false
  /-- The destructor does not use the loop after its deletion, nor a null `loop_`. -/
  stores : t.owner = .quitting → ∃ t', t.step .destructorStores = .ok t'
  wakes : t.owner = .waking → ∃ t', t.step .destructorWakes = .ok t'

/-- The destructor finds `loop_` set, if there is a thread; and `threadFunc` neither clears it
between that test and the store of `quit`, nor deletes the loop between the store and the
wake-up. -/
def Unhurried (t : EventLoopThread) : Act → Prop
  | .testLoop => t.loop = true ∨ t.joinable = false
  | .clearLoop => t.owner ≠ .quitting
  | .deleteLoop => t.owner ≠ .waking
  | _ => True

/-- `JoinsSafely` in terms of the state. -/
structure Safe (t : EventLoopThread) : Prop where
  joined : t.owner = .finished → t.joinable = false
  shown : t.owner = .quitting → t.loop = true
  alive : t.owner = .waking → t.quit.isSome = true

theorem storeQuit_yields (alive : t.quit.isSome = true) :
    t.storeQuit = .ok { t with quit := some true } := by
  obtain ⟨value, found⟩ := Option.isSome_iff_exists.mp alive
  simp only [storeQuit, found]

theorem wakeup_yields (alive : t.quit.isSome = true) :
    t.wakeup = .ok { t with quitReturned := t.quitReturned + 1 } := by
  obtain ⟨value, found⟩ := Option.isSome_iff_exists.mp alive
  simp only [wakeup, found]

theorem Lifecycle.alive (life : Lifecycle t) (set : t.loop = true) : t.quit.isSome = true := by
  rw [life.shown] at set
  rw [life.owned]
  cases stage : t.thread <;> rw [stage] at set <;> first | rfl | cases set

/-- The destructor joins safely where it has found the loop, or no thread to join. -/
theorem joinsSafely_iff (life : Lifecycle t) : JoinsSafely t ↔ Safe t := by
  constructor
  · rintro ⟨joined, stores, wakes⟩
    refine ⟨joined, fun quitting => ?_, fun waking => ?_⟩
    · obtain ⟨t', success⟩ := stores quitting
      exact (destructorStores_ok success).1
    · obtain ⟨t', success⟩ := wakes waking
      exact (destructorWakes_ok success).1
  · rintro ⟨joined, shown, alive⟩
    refine ⟨joined, fun quitting => ?_, fun waking => ?_⟩
    · have set := shown quitting
      simp only [EventLoopThread.step, set, if_true, storeQuit_yields (life.alive set)]
      exact ⟨_, rfl⟩
    · simp only [EventLoopThread.step, wakeup_yields (alive waking)]
      exact ⟨_, rfl⟩

/-- The owner does not move, and the loop stays for the destructor. -/
theorem Safe.frame (safe : Safe t) (owner : t'.owner = t.owner) (joinable : t'.joinable = t.joinable)
    (shown : t.loop = true → t'.loop = true) (alive : t.quit.isSome = true → t'.quit.isSome = true) :
    Safe t' := by
  refine ⟨?_, ?_, ?_⟩
  · rw [owner, joinable]
    exact safe.joined
  · intro quitting
    exact shown (safe.shown (owner ▸ quitting))
  · intro waking
    exact alive (safe.alive (owner ▸ waking))

theorem testLoop_safe :
    (t.loop = true ∨ t.joinable = false) ↔
      Safe { t with owner := if t.loop then .quitting else .finished } := by
  by_cases set : t.loop = true
  · simp only [set, true_or, if_true, true_iff]
    exact ⟨by simp, fun _ => rfl, by simp⟩
  · simp only [set, false_or, Bool.false_eq_true, if_false]
    exact ⟨fun idle => ⟨fun _ => idle, by simp, by simp⟩, fun safe => safe.joined rfl⟩

/-- A step that may be taken at any time keeps the destructor safe. -/
theorem step_safe_of_free {a : Act} (safe : Safe t)
    (free : a ≠ .testLoop ∧ a ≠ .clearLoop ∧ a ≠ .deleteLoop) (stepped : t.step a = .ok t') :
    Safe t' := by
  cases a with
  | testLoop => exact absurd rfl free.1
  | clearLoop => exact absurd rfl free.2.1
  | deleteLoop => exact absurd rfl free.2.2
  | startLoop | startLoopReturns | destruct =>
    cases stepped
    constructor <;> simp
  | destructorStores =>
    obtain ⟨-, -, rfl⟩ := destructorStores_ok stepped
    constructor <;> simp
  | destructorWakes =>
    obtain ⟨-, rfl⟩ := destructorWakes_ok stepped
    constructor <;> simp
  | join =>
    cases stepped
    constructor <;> simp
  | construct | enter =>
    cases stepped
    exact safe.frame rfl rfl id fun _ => rfl
  | publish =>
    cases stepped
    exact safe.frame rfl rfl (fun _ => rfl) id
  | callbackReturns | notify | testQuit | pollReturns | handle =>
    cases stepped
    exact safe.frame rfl rfl id id
  | callbackQuits =>
    obtain ⟨-, rfl⟩ := storeQuit_ok stepped
    exact safe.frame rfl rfl id fun _ => rfl
  | otherStores =>
    obtain ⟨-, rfl⟩ := otherStores_ok stepped
    exact safe.frame rfl rfl id fun _ => rfl
  | otherWakes =>
    obtain rfl := otherWakes_ok stepped
    exact safe.frame rfl rfl id id

/-- A step stays safe exactly if it is not the hurried one. -/
theorem step_safe {a : Act} (safe : Safe t) (stepped : t.step a = .ok t') :
    Unhurried t a ↔ Safe t' := by
  by_cases free : a ≠ .testLoop ∧ a ≠ .clearLoop ∧ a ≠ .deleteLoop
  · have kept := step_safe_of_free safe free stepped
    have met : Unhurried t a := by
      unfold Unhurried
      split
      · exact absurd rfl free.1
      · exact absurd rfl free.2.1
      · exact absurd rfl free.2.2
      · trivial
    exact iff_of_true met kept
  -- the three steps that the condition is about fail exactly when it does
  · cases a with
    | testLoop =>
      cases stepped
      exact testLoop_safe
    | clearLoop =>
      cases stepped
      constructor
      · intro elsewhere
        exact ⟨safe.joined, fun quitting => absurd quitting elsewhere, safe.alive⟩
      · intro safe' quitting
        exact absurd (safe'.shown quitting) (by simp)
    | deleteLoop =>
      cases stepped
      constructor
      · intro elsewhere
        exact ⟨safe.joined, safe.shown, fun waking => absurd waking elsewhere⟩
      · intro safe' waking
        exact absurd (safe'.alive waking) (by simp)
    | _ => exact absurd ⟨by decide, by decide, by decide⟩ free

/-- The runs in which the destructor never uses a loop that is gone, and never leaves a thread
unjoined, are the runs in which the loop stays while the destructor needs it. -/
theorem joins_safely_iff {actions : List Act} :
    (machine.restrict Unhurried).Run .new actions t ↔
      (machine.ensuring fun _ _ t => JoinsSafely t).Run .new actions t := by
  refine @Machine.restrict_iff_ensuring _ _ _ machine _ _ (fun t => Lifecycle t ∧ Safe t) _ _ _
    ?_ ?_ ⟨lifecycle_new, by constructor <;> simp [EventLoopThread.new]⟩
  · intro t a t' ⟨life, safe⟩ allowed stepped
    rw [joinsSafely_iff (life.step allowed stepped)]
    exact step_safe safe stepped
  · intro t a t' ⟨life, safe⟩ allowed met stepped
    exact ⟨life.step allowed stepped, (step_safe safe stepped).mp met⟩

/-- A callback ends the loop before the destructor runs, or while it runs. -/
def selfQuit : List Act :=
  [.startLoop, .construct, .callbackReturns, .publish, .startLoopReturns, .notify, .enter,
    .testQuit, .pollReturns, .callbackQuits, .handle, .testQuit]

/-- A loop that quits by itself: the thread is never joined, or a deleted loop is written to. -/
theorem unjoined_or_dangling :
    (∃ t, machine.Run .new (selfQuit ++ [.clearLoop, .deleteLoop, .destruct, .testLoop]) t ∧
      t.owner = .finished ∧ t.joinable = true ∧ ¬ JoinsSafely t) ∧
    ∃ t, machine.Run .new
        (selfQuit ++ [.destruct, .testLoop, .destructorStores, .clearLoop, .deleteLoop]) t ∧
      t.step .destructorWakes = .error (.undefinedBehaviour .eventloopCpp 105) ∧
      ¬ JoinsSafely t := by
  constructor
  · obtain ⟨t, run, holds⟩ := machine.exists_run_of_exec .new
      (selfQuit ++ ([.clearLoop, .deleteLoop, .destruct, .testLoop] : List Act))
      (fun t => decide (t.owner = .finished ∧ t.joinable = true)) (by decide +kernel)
    obtain ⟨finished, joinable⟩ := of_decide_eq_true holds
    refine ⟨t, run, finished, joinable, fun safely => ?_⟩
    rw [safely.joined finished] at joinable
    cases joinable
  · obtain ⟨t, run, holds⟩ := machine.exists_run_of_exec .new
      (selfQuit ++ ([.destruct, .testLoop, .destructorStores, .clearLoop, .deleteLoop] : List Act))
      (fun t => decide (t.owner = .waking ∧
        t.step .destructorWakes = .error (.undefinedBehaviour .eventloopCpp 105)))
      (by decide +kernel)
    obtain ⟨waking, faults⟩ := of_decide_eq_true holds
    refine ⟨t, run, faults, fun safely => ?_⟩
    obtain ⟨t', success⟩ := safely.wakes waking
    rw [faults] at success
    cases success

/-! ## A request to quit stays -/

structure QuitSticks (t : EventLoopThread) : Prop where
  /-- Once a `quit` has returned, the loop has `quit_` set for as long as it exists. -/
  kept : 0 < t.quitReturned → ∀ value, t.quit = some value → value = true
  /-- The destructor does not wait for a loop that polls without a reason to stop. -/
  ends : ¬ (t.owner = .joining ∧ t.thread = .polling ∧ t.quit = some false)

/-- Another thread, or the destructor, has stored `quit_ = true`. -/
def Requested (t : EventLoopThread) : Prop :=
  0 < t.quitting ∨ 0 < t.quitReturned ∨ t.owner = .waking

instance (t : EventLoopThread) : Decidable (Requested t) :=
  inferInstanceAs (Decidable (_ ∨ _ ∨ _))

/-- `loop()` stores `quit_ = false` before anyone has asked it to quit. -/
def Entered (t : EventLoopThread) (a : Act) : Prop := a = .enter → ¬ Requested t

instance (t : EventLoopThread) (a : Act) : Decidable (Entered t a) :=
  inferInstanceAs (Decidable (_ → _))

structure Sticky (t : EventLoopThread) : Prop where
  kept : Requested t → ∀ value, t.quit = some value → value = true
  /-- Only who has the loop asks it to quit. -/
  handed : Requested t → t.owner ≠ .waiting ∧ t.thread ≠ .unstarted
  joining : t.owner = .joining → 0 < t.quitReturned

namespace Sticky

/-- The owner moves, and nobody asks the loop to quit who had not done so before. -/
theorem moveOwner (sticky : Sticky t) (owner : OwnerStage) {exiting joinable : Bool}
    (quiet : owner ≠ .waiting ∧ owner ≠ .waking ∧ owner ≠ .joining) :
    Sticky { t with owner := owner, exiting := exiting, joinable := joinable } := by
  have before : Requested { t with owner := owner, exiting := exiting, joinable := joinable } →
      Requested t := by
    rintro (quitting | returned | waking)
    · exact .inl quitting
    · exact .inr (.inl returned)
    · exact absurd waking quiet.2.1
  refine ⟨fun requested => sticky.kept (before requested), fun requested => ⟨quiet.1, ?_⟩, ?_⟩
  · exact (sticky.handed (before requested)).2
  · intro joining
    exact absurd joining quiet.2.2

/-- `threadFunc` moves, and does not store `quit_ = false`. -/
theorem moveThread (sticky : Sticky t) (stage : ThreadStage) {loop : Bool} {quit : Option Bool}
    (onward : stage ≠ .unstarted) (same : quit = t.quit ∨ quit = none) :
    Sticky { t with thread := stage, loop := loop, quit := quit } := by
  refine ⟨?_, fun requested => ⟨(sticky.handed requested).1, onward⟩, sticky.joining⟩
  intro requested value found
  rcases same with rfl | rfl
  · exact sticky.kept requested value found
  · cases found

/-- Nobody has asked a loop to quit that is about to be constructed or entered. -/
theorem reset (sticky : Sticky t) (unasked : ¬ Requested t) (stage : ThreadStage) :
    Sticky { t with thread := stage, quit := some false } :=
  ⟨fun requested => absurd requested unasked, fun requested => absurd requested unasked,
    sticky.joining⟩

/-- `quit_ = true` is stored by someone who has the loop, or by a callback. -/
theorem of_store (owner : OwnerStage) (quitting : Nat)
    (asked : Requested { t with owner := owner, quitting := quitting } →
      owner ≠ .waiting ∧ t.thread ≠ .unstarted)
    (joining : owner = .joining → 0 < t.quitReturned) :
    Sticky { t with owner := owner, quit := some true, quitting := quitting } := by
  refine ⟨fun _ value found => ?_, asked, joining⟩
  cases found
  rfl

/-- A call of `quit` returns. -/
theorem wake (sticky : Sticky t) (asked : Requested t) (owner : OwnerStage) (quitting : Nat)
    (late : owner ≠ .waiting) :
    Sticky { t with owner := owner, quitting := quitting, quitReturned := t.quitReturned + 1 } :=
  ⟨fun _ => sticky.kept asked, fun _ => ⟨late, (sticky.handed asked).2⟩, fun _ => Nat.succ_pos _⟩

end Sticky

/-- Nobody has asked a loop to quit that is not constructed. -/
theorem unasked_of_construct (life : Lifecycle t) (sticky : Sticky t)
    (here : t.thread = .constructing) : ¬ Requested t := by
  intro requested
  obtain ⟨returned, running⟩ := sticky.handed requested
  have published := life.published returned running
  rw [here] at published
  cases published

/-- A request stays, but for the store of `quit_ = false` at the start of `loop()`. -/
theorem step_sticky {a : Act} (life : Lifecycle t) (sticky : Sticky t) (allowed : t.Enabled a)
    (entered : Entered t a) (stepped : t.step a = .ok t') : Sticky t' := by
  cases a with
  | startLoop =>
    cases stepped
    have unasked : ¬ Requested t := fun requested =>
      (sticky.handed requested).2 (life.unstarted allowed)
    have still : ¬ Requested
        { t with owner := .waiting, joinable := true, thread := .constructing } := by
      rintro (quitting | returned | waking)
      · exact unasked (.inl quitting)
      · exact unasked (.inr (.inl returned))
      · cases waking
    exact ⟨fun requested => absurd requested still, fun requested => absurd requested still, by simp⟩
  | startLoopReturns =>
    cases stepped
    exact sticky.moveOwner .started (by decide)
  | destruct =>
    cases stepped
    exact sticky.moveOwner .testing (by decide)
  | testLoop =>
    cases stepped
    split
    · exact sticky.moveOwner .quitting (by decide)
    · exact sticky.moveOwner .finished (by decide)
  | destructorStores =>
    obtain ⟨set, -, rfl⟩ := destructorStores_ok stepped
    exact .of_store .waking t.quitting (fun _ => ⟨by decide, life.started set⟩) (by simp)
  | destructorWakes =>
    obtain ⟨-, rfl⟩ := destructorWakes_ok stepped
    exact sticky.wake (.inr (.inr allowed)) .joining t.quitting (by decide)
  | join =>
    cases stepped
    exact sticky.moveOwner .finished (by decide)
  | construct =>
    cases stepped
    -- nobody else has the loop before it is published
    exact sticky.reset (unasked_of_construct life sticky allowed) .initializing
  | enter =>
    cases stepped
    exact sticky.reset (entered rfl) .testing
  | callbackReturns =>
    cases stepped
    exact sticky.moveThread .publishing (by decide) (.inl rfl)
  | publish =>
    cases stepped
    exact sticky.moveThread .notifying (by decide) (.inl rfl)
  | notify =>
    cases stepped
    exact sticky.moveThread .entering (by decide) (.inl rfl)
  | testQuit =>
    cases stepped
    split
    · exact sticky.moveThread .clearing (by decide) (.inl rfl)
    · exact sticky.moveThread .polling (by decide) (.inl rfl)
  | pollReturns =>
    cases stepped
    exact sticky.moveThread .handling (by decide) (.inl rfl)
  | handle =>
    cases stepped
    exact sticky.moveThread .testing (by decide) (.inl rfl)
  | clearLoop =>
    cases stepped
    exact sticky.moveThread .deleting (by decide) (.inl rfl)
  | deleteLoop =>
    cases stepped
    exact sticky.moveThread .returned (by decide) (.inr rfl)
  | callbackQuits =>
    obtain ⟨-, rfl⟩ := storeQuit_ok stepped
    exact .of_store t.owner t.quitting sticky.handed sticky.joining
  | otherStores =>
    have handed : t.thread ≠ .unstarted ∧ t.owner ≠ .waiting := of_decide_eq_true allowed
    obtain ⟨-, rfl⟩ := otherStores_ok stepped
    exact .of_store t.owner (t.quitting + 1) (fun _ => handed.symm) sticky.joining
  | otherWakes =>
    obtain rfl := otherWakes_ok stepped
    have late := (sticky.handed (.inl allowed)).1
    exact sticky.wake (.inl allowed) t.owner (t.quitting - 1) late

/-- When `loop()` has stored `quit_ = false` before every request, a request to quit stays. -/
theorem quit_sticks {actions : List Act} (run : (machine.restrict Entered).Run .new actions t) :
    QuitSticks t := by
  have invariant : Lifecycle t ∧ Sticky t := by
    refine @Machine.Run.invariant _ _ _ _ (fun t => Lifecycle t ∧ Sticky t) _ _ _ ?_
      ⟨lifecycle_new, by constructor <;> simp [EventLoopThread.new, Requested]⟩ run
    intro t a t' ⟨life, sticky⟩ allowed stepped
    exact ⟨life.step allowed.1 stepped, step_sticky life sticky allowed.1 allowed.2 stepped⟩
  obtain ⟨-, sticky⟩ := invariant
  refine ⟨fun returned => sticky.kept (.inr (.inl returned)), ?_⟩
  rintro ⟨joining, -, polls⟩
  have requested : Requested t := .inr (.inl (sticky.joining joining))
  cases sticky.kept requested false polls

/-- Another thread asks the loop to quit while it polls, and the destructor joins. -/
def lateQuit : List Act :=
  [.startLoop, .construct, .callbackReturns, .publish, .startLoopReturns, .notify, .enter,
    .testQuit, .otherStores, .otherWakes, .destruct, .testLoop, .destructorStores,
    .destructorWakes, .pollReturns, .handle, .testQuit, .clearLoop, .deleteLoop, .join]

theorem quit_sticks_late : ∃ t, (machine.restrict Entered).Run .new lateQuit t ∧
    t.joinable = false ∧ t.quitReturned = 2 ∧ QuitSticks t := by
  obtain ⟨t, run, holds⟩ := (machine.restrict Entered).exists_run_of_exec .new lateQuit
    (fun t => decide (t.joinable = false ∧ t.quitReturned = 2)) (by decide +kernel)
  obtain ⟨joined, returned⟩ := of_decide_eq_true holds
  exact ⟨t, run, joined, returned, quit_sticks run⟩

/-- The destructor's `quit` comes after `startLoop` has returned and before `loop()` has begun. -/
theorem early_quit_erased : ∃ t, machine.Run .new
      [.startLoop, .construct, .callbackReturns, .publish, .startLoopReturns, .destruct, .testLoop,
        .destructorStores, .destructorWakes, .notify, .enter, .testQuit] t ∧
    t.owner = .joining ∧ t.thread = .polling ∧ t.quit = some false ∧ ¬ QuitSticks t := by
  obtain ⟨t, run, holds⟩ := machine.exists_run_of_exec .new
    [.startLoop, .construct, .callbackReturns, .publish, .startLoopReturns, .destruct, .testLoop,
      .destructorStores, .destructorWakes, .notify, .enter, .testQuit]
    (fun t => decide (t.owner = .joining ∧ t.thread = .polling ∧ t.quit = some false))
    (by decide +kernel)
  have stuck := of_decide_eq_true holds
  exact ⟨t, run, stuck.1, stuck.2.1, stuck.2.2, fun sticks => sticks.ends stuck⟩

end Starry.Guarantees.LoopShutdown
