/-
Invariants about what the bridge goes by: the lifecycle with its settings, the settings
themselves, the sensitivity and the timer task. Most of what happens leaves all that
alone. Calls of the radio under the lock leave the settings of the lifecycle alone and
can use up its deadline. Only a few changes do more.
-/

import HidBridge.Proofs.Bridge.Visited

namespace HidBridge

namespace World

structure Surroundings where
  sensitivity : Nat
  settings : Settings
  deadlineMoved : Bool
  timer : TimerStage
  nested : List NestedAnswer

def surroundings (world : World) : Surroundings :=
  { sensitivity := world.bridge.sensitivity
    settings := world.bridge.settings
    deadlineMoved := world.bridge.deadlineMoved
    timer := world.timer
    nested := world.nested }

structure Lasting (Good : World → Prop) : Prop where
  follows : ∀ {before after : World}, Good before →
    before.bridge.lifecycle.Follows after.bridge.lifecycle →
    after.surroundings = before.surroundings → Good after
  note : ∀ {world : World} step answer, Good world → Good (world.note step answer)
  forget : ∀ {world : World}, Good world → Good { world with nested := [] }
  setTimer : ∀ {world : World} stage, (∀ deadline, stage ≠ .waiting deadline) → Good world →
    Good (world.setTimer stage)
  timerRead : ∀ {world : World}, Good world → Good world.timerRead
  timerHear : ∀ {world : World}, Good world → Good world.timerHear
  armDeadline : ∀ {world : World} asOf, Good world → Good (world.armDeadline asOf)
  adopt : ∀ {world : World} {key value changed},
    world.bridge.settings.apply key value = .ok changed → Good world → Good (world.adopt changed)

def Lasts (Good : World → Prop) (before after : World) : Prop := Good before → Good after

namespace Lasting

variable {Good : World → Prop} (lasting : Lasting Good) {world : World} {inside : Interlude}

include lasting

theorem aside {before after : World} (good : Good before)
    (lifecycle : after.bridge.lifecycle = before.bridge.lifecycle)
    (same : after.surroundings = before.surroundings) : Good after := by
  refine lasting.follows good ?_ same
  rw [lifecycle]
  exact .refl _

theorem begun_tearDown {asOf : Nat} {next : Lifecycle}
    (started : world.bridge.lifecycle.startCheck asOf world.links = (none, next))
    (good : Good world) : Good ((world.hold next).begun .tearDown) :=
  lasting.follows good (Lifecycle.follows_startCheck started) rfl

theorem begun_bringUp {next : Lifecycle}
    (resumed : world.bridge.lifecycle.startResume = some next)
    (good : Good world) : Good ((world.hold next).begun .bringUp) :=
  lasting.follows good (Lifecycle.follows_startResume resumed) rfl

theorem checkDeadline (asOf : Nat) (good : Good world)
    (calm : ∀ {next}, world.bridge.lifecycle.startCheck asOf world.links = (none, next) →
      Good ((world.hold next).begun .tearDown) →
      Good (inside .tearDown ((world.hold next).begun .tearDown))) :
    Good (world.checkDeadline inside asOf).2 := by
  unfold World.checkDeadline
  split
  · rename_i outcome next started
    exact lasting.follows good (Lifecycle.follows_startCheck started) rfl
  · rename_i next started
    exact lasting.follows (calm started (lasting.begun_tearDown started good))
      (Lifecycle.follows_endCheck _ _) rfl

theorem resumeRadio (good : Good world)
    (calm : ∀ {next}, world.bridge.lifecycle.startResume = some next →
      Good ((world.hold next).begun .bringUp) →
      Good (inside .bringUp ((world.hold next).begun .bringUp))) :
    Good (world.resumeRadio inside).2 := by
  unfold World.resumeRadio
  split
  · exact lasting.aside good rfl rfl
  · rename_i next resumed
    exact lasting.follows (calm resumed (lasting.begun_bringUp resumed good))
      (Lifecycle.follows_endResume _ _) rfl

theorem primitives : Primitives Coherent (Framed (Lasts Good)) := by
  have kept := coherent_primitives
  have aside {before after : World} (first : Keeps Coherent Guarded before after)
      (lifecycle : after.bridge.lifecycle = before.bridge.lifecycle)
      (same : after.surroundings = before.surroundings) :
      Keeps Coherent (Framed (Lasts Good)) before after :=
    framed first (fun good => lasting.aside good lifecycle same)
  exact
    { refl := fun world => { guarded := .refl world, extra := id }
      trans := fun earlier later =>
        { guarded := earlier.guarded.trans later.guarded
          extra := fun good => later.extra (earlier.extra good) }
      wait := fun time coherent => aside (kept.wait time coherent) rfl rfl
      connect := fun interfaceId descriptor coherent =>
        aside (kept.connect interfaceId descriptor coherent) rfl rfl
      disconnect := fun interfaceId coherent =>
        aside (kept.disconnect interfaceId coherent) rfl rfl
      submit := fun interfaceId reportId payload coherent =>
        aside (kept.submit interfaceId reportId payload coherent) rfl rfl
      submitTransfer := fun interfaceId transfer coherent =>
        aside (kept.submitTransfer interfaceId transfer coherent) rfl rfl
      receive := fun coherent received => aside (kept.receive coherent received) rfl rfl
      convert := by
        intro world owner report coherent
        cases owner <;> exact aside (kept.convert _ report coherent) rfl rfl
      sessionBusy := fun sessionBusy coherent =>
        aside (kept.sessionBusy sessionBusy coherent) rfl rfl
      links := fun usbDevice blePeer prioritySession coherent =>
        aside (kept.links usbDevice blePeer prioritySession coherent) rfl rfl
      failure := by
        intro world operation failure coherent
        cases failure with
        | none => exact aside (kept.failure operation none coherent) rfl rfl
        | some failure =>
            cases operation <;> exact aside (kept.failure _ (some failure) coherent) rfl rfl
      pending := fun pending coherent => aside (kept.pending pending coherent) rfl rfl
      note := fun step calm coherent taken =>
        framed
          (kept.note step (guarded_of_framed calm) coherent
            { inv := taken.inv, frame := taken.frame.guarded })
          (fun good => lasting.note step _ (taken.frame.extra good))
      spawn := by
        intro world task coherent
        cases task with
        | consumer => exact aside (kept.spawn .consumer coherent) rfl rfl
        | timer =>
            exact framed (kept.spawn .timer coherent)
              (lasting.setTimer .starting (fun _deadline => nofun))
      setConsumer := fun stage coherent => aside (kept.setConsumer stage coherent) rfl rfl
      setTimer := fun stage notWaiting coherent =>
        framed (kept.setTimer stage notWaiting coherent) (lasting.setTimer stage notWaiting)
      timerRead := fun coherent => framed (kept.timerRead coherent) lasting.timerRead
      timerHear := fun coherent => framed (kept.timerHear coherent) lasting.timerHear
      armDeadline := fun asOf coherent free =>
        framed (kept.armDeadline asOf coherent free) (lasting.armDeadline asOf)
      adopt := fun coherent free accepted =>
        framed (kept.adopt coherent free accepted) (lasting.adopt accepted)
      send := fun {world inside} message calm coherent awake =>
        framed (kept.send message (guarded_of_framed calm) coherent awake) (fun good =>
          have begun := coherent.begun_send awake message
          lasting.aside ((calm .send _ begun).frame.extra (lasting.aside good rfl rfl)) rfl rfl)
      checkDeadline := fun asOf calm coherent free =>
        framed (kept.checkDeadline asOf (guarded_of_framed calm) coherent free) (fun good =>
          lasting.checkDeadline asOf good (fun started held =>
            (calm .tearDown _ (coherent.begun_tearDown free started)).frame.extra held))
      resumeRadio := by
        intro world inside calm coherent free
        obtain ⟨resumed, awake⟩ := kept.resumeRadio (guarded_of_framed calm) coherent free
        refine ⟨framed resumed (fun good => ?_), awake⟩
        exact lasting.resumeRadio good (fun started held =>
          (calm .bringUp _ (coherent.begun_bringUp free started)).frame.extra held) }

theorem reachable (first : ∀ settings depth, Good (.new settings depth))
    (reached : world.Reachable) : Good world := by
  have forget {world : World} (coherent : world.Coherent) :
      Keeps Coherent (Framed (Lasts Good)) world { world with nested := [] } :=
    { inv := coherent.forget.inv
      frame := { guarded := coherent.forget.frame, extra := lasting.forget } }
  obtain ⟨settings, depth, kept⟩ := lasting.primitives.reachable coherent_new forget reached
  exact kept.frame.extra (first settings depth)

/-- An invariant that is about the lifecycle, the settings and what was noted alone holds
in every world that runs pass through. -/
theorem visited (first : ∀ settings depth, Good (.new settings depth))
    (beside : ∀ {before after : World}, after.core = before.core → Good before → Good after)
    (passed : world.Visited) : Good world := by
  have kept := lasting.primitives
  have calm := kept.interlude
  induction passed with
  | new settings depth => exact first settings depth
  | beside same _earlier ih => exact beside same ih
  | take depth step earlier ih =>
      exact (kept.take (calm depth) earlier.coherent step).frame.extra ih
  | process depth owner report earlier ih =>
      exact (kept.process (calm depth) earlier.coherent owner report).frame.extra ih
  | resume depth earlier ih =>
      exact (kept.resume (calm depth) earlier.coherent).1.frame.extra ih
  | check depth asOf earlier ih =>
      exact (kept.check (calm depth) earlier.coherent asOf).frame.extra ih
  | rearm asOf earlier ih => exact (kept.rearm earlier.coherent asOf).frame.extra ih
  | consumerTurn depth earlier ih =>
      exact (kept.consumerTurn (calm depth) earlier.coherent).frame.extra ih
  | timerTurn depth earlier ih =>
      exact (kept.runTimer (calm depth) earlier.coherent).frame.extra ih
  | note step answer _earlier ih => exact lasting.note step answer ih
  | forget _earlier ih => exact lasting.forget ih
  | bringingUp _free resumed _earlier ih => exact lasting.begun_bringUp resumed ih
  | takingDown _free started _earlier ih => exact lasting.begun_tearDown started ih
  | sending message _awake _earlier ih => exact lasting.aside ih rfl rfl

end Lasting

end World

end HidBridge
