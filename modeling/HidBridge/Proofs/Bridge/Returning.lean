/-
Whoever is in the middle of a call of the radio comes back. A report that is handled step by
step gives the session converter back, and the consumer task goes on to wait, whatever was
done inside the calls. So between two changes from outside nobody is in the middle of a call.
-/

import HidBridge.Proofs.Bridge.Reachable

namespace HidBridge

namespace World

/-- Whoever went into a call of the radio in between has come back. -/
structure Returns (before after : World) : Prop where
  session : after.sessionBusy = before.sessionBusy
  consumer : before.consumer.stage ≠ .busy → after.consumer.stage ≠ .busy

theorem Returns.refl (world : World) : Returns world world := ⟨rfl, id⟩

theorem Returns.trans {first second third : World} (earlier : Returns first second)
    (later : Returns second third) : Returns first third :=
  ⟨later.session.trans earlier.session, fun idle => later.consumer (earlier.consumer idle)⟩

theorem Returns.of_same {before after : World} (session : after.sessionBusy = before.sessionBusy)
    (consumer : after.consumer.stage = before.consumer.stage) : Returns before after := by
  refine ⟨session, ?_⟩
  rw [consumer]
  exact id

theorem Returns.waits {before after : World} {stage : ConsumerStage} (waits : stage ≠ .busy)
    (session : after.sessionBusy = before.sessionBusy) :
    Returns before (after.setConsumer stage) :=
  ⟨session, fun _idle => waits⟩

end World

def Interlude.Returns (inside : Interlude) : Prop :=
  ∀ operation world, World.Returns world (inside operation world)

namespace World

theorem returns_underLock {α : Type} {world : World} (milliseconds : Nat)
    {action : World → Except Fault α × World} (free : Returns world (action world).2) :
    Returns world (world.underLock milliseconds action).2 := by
  unfold underLock
  split
  · exact .of_same rfl rfl
  · exact free

theorem returns_rearm (world : World) (asOf : Nat) : Returns world (world.rearm asOf).2 :=
  returns_underLock _ (.of_same rfl rfl)

theorem returns_convert (world : World) (owner : ConverterOwner) (report : Report) :
    Returns world (world.convert owner report).2 := by
  cases owner <;> exact .of_same rfl rfl

theorem returns_timerRead (world : World) : Returns world world.timerRead := by
  unfold timerRead
  split
  · exact .of_same rfl rfl
  · exact .of_same rfl rfl

theorem returns_timerHear (world : World) : Returns world world.timerHear := by
  unfold timerHear
  split
  · have read := returns_timerRead { world with bridge := { world.bridge with deadlineMoved := false } }
    exact ⟨read.session, read.consumer⟩
  · exact .refl world

theorem returns_spawn (world : World) (task : Task) : Returns world (world.spawn task) := by
  cases task with
  | consumer =>
      have waits : (world.spawn .consumer).consumer.stage ≠ .busy := nofun
      exact ⟨rfl, fun _idle => waits⟩
  | timer => exact .of_same rfl rfl

section Inside

variable {inside : Interlude} (comesBack : inside.Returns) (world : World)

include comesBack

theorem returns_call (call : RadioCall) : Returns world (world.call inside call).2 := by
  have begun := comesBack call.operation { world with radio := world.radio.begin call }
  exact ⟨begun.session, begun.consumer⟩

theorem returns_resumeRadio : Returns world (world.resumeRadio inside).2 := by
  unfold resumeRadio
  split
  · exact .of_same rfl rfl
  · rename_i next _started
    have called := returns_call comesBack (world.hold next) .bringUp
    exact ⟨called.session, called.consumer⟩

theorem returns_checkDeadline (asOf : Nat) :
    Returns world (world.checkDeadline inside asOf).2 := by
  unfold checkDeadline
  split
  · exact .of_same rfl rfl
  · rename_i next _started
    have called := returns_call comesBack (world.hold next) .tearDown
    exact ⟨called.session, called.consumer⟩

theorem returns_check (asOf : Nat) : Returns world (world.check inside asOf).2 :=
  returns_underLock _ (returns_checkDeadline comesBack world asOf)

theorem returns_forward (message : Output.Message) :
    Returns world (world.forward inside message).2 := by
  unfold forward
  split
  · exact returns_call comesBack world (.send message)
  · exact .refl world

theorem returns_deliver (owner : ConverterOwner) (report : Report) :
    Returns world (world.deliver inside owner report).2 := by
  have converted := returns_convert world owner report
  rcases world.deliver_forms owner report inside with silent | ⟨message, forwarded⟩
  · rw [silent]
    exact converted
  · rw [forwarded]
    exact converted.trans (returns_forward comesBack _ message)

theorem returns_process (owner : ConverterOwner) (report : Report) :
    Returns world (world.process inside owner report).2 := by
  have delivered (awake : World) :
      Returns awake
        (if (awake.deliver inside owner report).2.pushesBack
            (awake.deliver inside owner report).1 then
          ((awake.deliver inside owner report).2.rearm
            (awake.deliver inside owner report).2.clock).2
        else (awake.deliver inside owner report).2) := by
    have first := returns_deliver comesBack awake owner report
    split
    · exact first.trans (returns_rearm _ _)
    · exact first
  have resumed : Returns world (world.resume inside).2 :=
    returns_underLock _ (returns_resumeRadio comesBack world)
  unfold process
  by_cases suspended : world.bridge.suspended = true
  · rw [if_pos suspended]
    cases result : world.resume inside with
    | mk ready awake =>
        rw [result] at resumed
        cases ready with
        | error fault => exact resumed
        | ok _ => exact resumed.trans (delivered awake)
  · rw [if_neg suspended]
    exact delivered world

theorem returns_pump : Returns world (world.pump inside).2 := by
  unfold pump
  split
  · exact .refl world
  · rename_i report intake _received
    by_cases busy : (world.setIntake intake).sessionBusy = true
    · have processed := returns_process comesBack (world.setIntake intake) .nobody report
      simp only [if_pos busy]
      exact ⟨processed.session, processed.consumer⟩
    · have processed :=
        returns_process comesBack { world.setIntake intake with sessionBusy := true } .session
          report
      simp only [if_neg busy]
      exact ⟨(Bool.eq_false_iff.mpr busy).symm, processed.consumer⟩

theorem waits_consumerDeliver (report : Report) :
    (world.consumerDeliver inside report).sessionBusy = world.sessionBusy ∧
      (world.consumerDeliver inside report).consumer.stage ≠ .busy := by
  have delivered := returns_deliver comesBack (world.setConsumer .busy) .consumer report
  unfold consumerDeliver
  dsimp only
  split
  · split
    · exact ⟨delivered.session, nofun⟩
    · exact ⟨delivered.session, nofun⟩
  · exact ⟨delivered.session, nofun⟩

theorem waits_consumerResume (report : Report) :
    (world.consumerResume inside report).sessionBusy = world.sessionBusy ∧
      (world.consumerResume inside report).consumer.stage ≠ .busy := by
  have resumed := returns_resumeRadio comesBack (world.setConsumer .busy)
  unfold consumerResume
  split
  · rename_i next result
    rw [result] at resumed
    obtain ⟨session, waits⟩ := waits_consumerDeliver comesBack next report
    exact ⟨session.trans resumed.session, waits⟩
  · rename_i fault next result
    rw [result] at resumed
    exact ⟨resumed.session, nofun⟩

theorem waits_consumerProcess (report : Report) :
    (world.consumerProcess inside report).sessionBusy = world.sessionBusy ∧
      (world.consumerProcess inside report).consumer.stage ≠ .busy := by
  unfold consumerProcess
  split
  · split
    · exact ⟨rfl, nofun⟩
    · exact waits_consumerResume comesBack world report
  · exact waits_consumerDeliver comesBack world report

theorem returns_consumerTurn : Returns world (world.consumerTurn inside) := by
  unfold consumerTurn
  split
  · exact .refl world
  · exact .refl world
  · split
    · exact .refl world
    · rename_i report intake _received
      obtain ⟨session, waits⟩ :=
        waits_consumerProcess comesBack (world.setIntake intake) report
      exact ⟨session, fun _idle => waits⟩
  · rename_i report limit _stage
    split
    · obtain ⟨session, waits⟩ := waits_consumerResume comesBack world report
      exact ⟨session, fun _idle => waits⟩
    · split
      · exact .waits nofun rfl
      · exact .refl world
  · split
    · exact .waits nofun rfl
    · split
      · exact .waits nofun rfl
      · exact .refl world

omit comesBack in
theorem returns_repeat {turn : World → World} (one : ∀ current, Returns current (turn current))
    (count : Nat) : Returns world (Nat.repeat turn count world) := by
  induction count with
  | zero => exact .refl world
  | succ count ih => exact ih.trans (one _)

theorem returns_timerCheck (asOf : Nat) : Returns world (world.timerCheck inside asOf) := by
  unfold timerCheck
  split
  · exact .of_same rfl rfl
  · have checked := returns_checkDeadline comesBack (world.setTimer .busy) asOf
    have read := checked.trans (returns_timerRead _)
    exact ⟨read.session, read.consumer⟩

theorem returns_runTimer : Returns world (world.runTimer inside) := by
  unfold runTimer
  split
  · exact .refl world
  · exact .refl world
  · exact returns_timerRead world
  · split
    · exact returns_timerRead world
    · split
      · exact .of_same rfl rfl
      · exact .refl world
  · split
    · exact returns_timerRead world
    · exact .refl world
  · exact returns_timerHear world
  · split
    · exact returns_timerCheck comesBack world _
    · exact returns_timerHear world
  · split
    · exact returns_timerCheck comesBack world _
    · split
      · exact returns_timerRead world
      · exact .refl world

theorem returns_settle : Returns world (world.settle inside) := by
  apply returns_repeat
  intro current
  have consumed := returns_repeat current (returns_consumerTurn comesBack) (current.workload + 2)
  exact consumed.trans (returns_runTimer comesBack _)

theorem returns_take (step : Step) : Returns world (world.take inside step).2 := by
  cases step with
  | connect interfaceId descriptor =>
      simp only [take, connect]
      split
      · exact .of_same rfl rfl
      · rename_i generation intake _connected
        have armed := returns_rearm (world.setIntake intake) world.clock
        exact ⟨armed.session, armed.consumer⟩
  | report interfaceId reportId payload => exact .of_same rfl rfl
  | disconnect interfaceId => exact .of_same rfl rfl
  | pump => exact returns_pump comesBack world
  | apply key value =>
      simp only [take, apply]
      split
      · exact .refl world
      · exact returns_underLock _ (.of_same rfl rfl)
  | settings => exact .refl world
  | activity => exact returns_underLock _ (.refl world)
  | check ahead => exact returns_check comesBack world _
  | rearm ahead => exact returns_rearm world _
  | converter interfaceId reportId => exact .refl world
  | links usbDevice blePeer prioritySession => exact .of_same rfl rfl
  | failures bringUp tearDown send =>
      cases bringUp <;> cases tearDown <;> cases send <;> exact .of_same rfl rfl
  | advance time =>
      have waited : Returns world (world.wait time) := .of_same rfl rfl
      simp only [take]
      exact waited.trans (returns_settle comesBack _)
  | spawn task => exact returns_spawn world task
  | during operation steps => exact .of_same rfl rfl

end Inside

theorem returns_interlude (depth : Nat) : (interlude depth).Returns := by
  induction depth with
  | zero =>
      intro _operation world
      exact .refl world
  | succ depth ih =>
      intro operation world
      simp only [interlude]
      cases taken : world.takePending operation with
      | none => exact .refl world
      | some both =>
          obtain ⟨found, _isFor, same⟩ := Option.map_eq_some_iff.mp taken
          rw [← same]
          have all (steps : List Step) (first : World) :
              Returns first (steps.foldl
                (fun current step => current.takeNested (interlude depth) step) first) := by
            induction steps generalizing first with
            | nil => exact .refl first
            | cons step rest later =>
                have taken := returns_take ih first step
                have noted : Returns first (first.takeNested (interlude depth) step) :=
                  ⟨taken.session, taken.consumer⟩
                exact noted.trans (later _)
          have ran := all found.steps { world with
            pending := world.pending.eraseP (fun pending => decide (pending.operation = operation)) }
          exact ⟨ran.session, ran.consumer⟩

/-- Between two changes from outside nobody is in the middle of a call of the radio. -/
theorem Reachable.idle {world : World} (reachable : world.Reachable) :
    world.sessionBusy = false ∧ world.consumer.stage ≠ .busy := by
  have next {before after : World} (returns : Returns before after)
      (idle : before.sessionBusy = false ∧ before.consumer.stage ≠ .busy) :
      after.sessionBusy = false ∧ after.consumer.stage ≠ .busy :=
    ⟨returns.session.trans idle.1, returns.consumer idle.2⟩
  induction reachable with
  | new settings depth => exact ⟨rfl, nofun⟩
  | take depth step _earlier ih => exact next (returns_take (returns_interlude depth) _ step) ih
  | process depth owner report _earlier ih =>
      exact next (returns_process (returns_interlude depth) _ owner report) ih
  | check depth asOf _earlier ih =>
      exact next (returns_check (returns_interlude depth) _ asOf) ih
  | rearm asOf _earlier ih => exact next (returns_rearm _ asOf) ih
  | consumerTurn depth _earlier ih =>
      exact next (returns_consumerTurn (returns_interlude depth) _) ih
  | timerTurn depth _earlier ih => exact next (returns_runTimer (returns_interlude depth) _) ih
  | forget _earlier ih => exact ih

end World

end HidBridge
