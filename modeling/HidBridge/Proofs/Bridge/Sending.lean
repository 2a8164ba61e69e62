/-
Messages and the state of the radio. Nothing is sent while the radio is down, and
a report that finds the radio suspended is sent only after the radio was brought
up, or not at all.
-/

import HidBridge.Proofs.Bridge.Visited

namespace HidBridge

namespace Radio

/-- What happens to the radio because of a report that finds it suspended. If it is
brought up, that comes first. -/
inductive Wakes (before : List RadioEvent) : List RadioEvent → Option Fault → Prop where
  | raised (more : List RadioEvent) :
    Wakes before (before ++ .began .bringUp :: .ended .bringUp none :: more) none
  | failed (cause : RadioFault) :
    Wakes before (before ++ [.began .bringUp, .ended .bringUp (some cause)])
      (some (.radio cause))
  | refused : Wakes before before (some .lockTimeout)

theorem leaves_of_ne {event : RadioEvent} (other : event ≠ .ended .bringUp none) :
    event.leaves false = false := by
  cases event with
  | began call => rfl
  | ended call failure =>
      cases call <;> cases failure <;> first | rfl | exact absurd rfl other

theorem raised_of_upAfter {before since : List RadioEvent} (down : upAfter before = false)
    (up : upAfter (before ++ since) = true) : .ended .bringUp none ∈ since := by
  induction since using List.reverseRecOn with
  | nil =>
      rw [List.append_nil, down] at up
      cases up
  | append_singleton since event ih =>
      rw [← List.append_assoc, upAfter_append] at up
      by_cases raises : event = .ended .bringUp none
      · rw [raises]
        exact List.mem_append_right _ (List.mem_singleton_self _)
      · cases between : upAfter (before ++ since) with
        | true => exact List.mem_append_left _ (ih between)
        | false =>
            rw [between, leaves_of_ne raises] at up
            cases up

end Radio

namespace World

/-- Events of the radio are never forgotten. None are added as long as the lock is
held and the radio is shown to be suspended. -/
def Appends (before after : World) : Prop :=
  ∃ more, after.radio.events = before.radio.events ++ more ∧
    (before.bridge.locked = true → before.bridge.suspended = true → more = [])

theorem Appends.of_eq {before after : World}
    (same : after.radio.events = before.radio.events) : Appends before after :=
  ⟨[], same.trans (List.append_nil _).symm, fun _held _suspended => rfl⟩

theorem Appends.trans {first second third : World} (guarded : Guarded first second)
    (earlier : Appends first second) (later : Appends second third) : Appends first third := by
  obtain ⟨one, first_eq, first_silent⟩ := earlier
  obtain ⟨other, second_eq, second_silent⟩ := later
  refine ⟨one ++ other, ?_, ?_⟩
  · rw [second_eq, first_eq, List.append_assoc]
  · intro held suspended
    have still : second.bridge.suspended = true :=
      (guarded.held held).suspended.trans suspended
    rw [first_silent held suspended, second_silent (guarded.locked.trans held) still]
    rfl

theorem Appends.call {world begun last after : World} {call : RadioCall}
    {failure : Option RadioFault} (inside : Appends begun last)
    (first : begun.radio.events = world.radio.events ++ [.began call])
    (final : after.radio.events = last.radio.events ++ [.ended call failure])
    (loud : ¬(world.bridge.locked = true ∧ world.bridge.suspended = true)) :
    Appends world after := by
  obtain ⟨more, same, _silent⟩ := inside
  refine ⟨.began call :: (more ++ [.ended call failure]), ?_, ?_⟩
  · rw [final, same, first, List.append_assoc, List.append_assoc]
    rfl
  · intro held suspended
    exact absurd ⟨held, suspended⟩ loud

theorem appends_framing : Framing Appends where
  trans := Appends.trans
  beside := fun same => .of_eq (congrArg Dealings.events same)
  connect := fun _interfaceId _descriptor => .of_eq rfl
  disconnect := fun _interfaceId => .of_eq rfl
  submit := fun _interfaceId _reportId _payload => .of_eq rfl
  submitTransfer := fun _interfaceId _transfer => .of_eq rfl
  receive := fun _received => .of_eq rfl
  convert := fun _owner _report => .of_eq (by rw [radio_convert])
  spawn := by
    intro world task
    cases task <;> exact .of_eq rfl
  send := by
    intro world last message failure awake inside
    refine inside.call rfl rfl ?_
    rintro ⟨_held, suspended⟩
    exact Bool.noConfusion (awake.symm.trans suspended)
  underLock := by
    intro world last call failure next lifecycle free inside
    refine inside.call rfl rfl ?_
    rintro ⟨held, _suspended⟩
    exact Bool.noConfusion (free.symm.trans held)

theorem Appends.wakes {world awake after : World} (appends : Appends awake after)
    (raised : awake.radio.events =
      world.radio.events ++ [.began .bringUp, .ended .bringUp none]) :
    Radio.Wakes world.radio.events after.radio.events none := by
  obtain ⟨more, same, _silent⟩ := appends
  rw [same, raised, List.append_assoc]
  exact .raised more

theorem process_of_error {world last : World} {inside : Interlude} {fault : Fault}
    (suspended : world.bridge.suspended = true)
    (tried : world.resume inside = (.error fault, last)) (owner : ConverterOwner)
    (report : Report) : world.process inside owner report = (.error fault, last) := by
  simp only [World.process, suspended, tried, if_true]

theorem process_of_ok {world awake : World} {inside : Interlude}
    (suspended : world.bridge.suspended = true)
    (tried : world.resume inside = (.ok (), awake)) (up : awake.bridge.suspended = false)
    (owner : ConverterOwner) (report : Report) :
    world.process inside owner report = awake.process inside owner report := by
  unfold World.process
  rw [suspended, up, if_pos rfl, if_neg Bool.false_ne_true, tried]

section Suspended

variable {world : World} (coherent : world.Coherent)
  (suspended : world.bridge.suspended = true) (depth : Nat)

include coherent suspended

theorem resumeRadio_suspended (free : world.bridge.locked = false) :
    (∃ awake, world.resumeRadio (interlude depth) = (.ok (), awake) ∧
      awake.Coherent ∧ awake.bridge.suspended = false ∧
      awake.radio.events =
        world.radio.events ++ [.began .bringUp, .ended .bringUp none]) ∨
    ∃ cause last, world.resumeRadio (interlude depth) = (.error (.radio cause), last) ∧
      last.radio.events =
        world.radio.events ++ [.began .bringUp, .ended .bringUp (some cause)] := by
  obtain ⟨resumed, up⟩ := appends_framing.primitives.resumeRadio
    (appends_framing.interlude depth) coherent free
  have outcome : ∃ failure, world.resumeRadio (interlude depth) =
        (failure.elim (.ok ()) (fun cause => .error (.radio cause)),
          (world.resumeRadio (interlude depth)).2) ∧
      (world.resumeRadio (interlude depth)).2.radio.events =
        world.radio.events ++ [.began .bringUp, .ended .bringUp failure] := by
    cases started : world.bridge.lifecycle.startResume with
    | none =>
        have active := Lifecycle.isSuspended_startResume_none started
        rw [coherent.now.free free, ← coherent.now.shown, suspended] at active
        cases active
    | some next =>
        -- The call holds the lock, and the flag is lowered only after it. So nothing
        -- happens to the radio inside.
        obtain ⟨more, same, silent⟩ := (appends_framing.interlude depth .bringUp _
          (coherent.begun_bringUp free started)).frame.extra
        rw [silent rfl suspended, List.append_nil] at same
        obtain ⟨failure, called⟩ := (world.hold next).call_eq (interlude depth) .bringUp
        unfold World.resumeRadio
        rw [started]
        dsimp only
        rw [called]
        refine ⟨failure, by cases failure <;> rfl, ?_⟩
        refine (congrArg (· ++ [RadioEvent.ended .bringUp failure]) same).trans ?_
        exact List.append_assoc _ _ _
  obtain ⟨failure, result, events⟩ := outcome
  cases failure with
  | none => exact Or.inl ⟨_, result, resumed.inv, up (congrArg Prod.fst result), events⟩
  | some cause => exact Or.inr ⟨cause, _, result, events⟩

theorem process_suspended (owner : ConverterOwner) (report : Report) :
    ∃ failure,
      Radio.Wakes world.radio.events
        (world.process (interlude depth) owner report).2.radio.events failure ∧
      (failure = some .lockTimeout ↔ world.bridge.locked = true) ∧
      ∀ fault, failure = some fault →
        (world.process (interlude depth) owner report).1 = .error fault := by
  cases locked : world.bridge.locked with
  | true =>
      have refused : world.resume (interlude depth) =
          (.error .lockTimeout, world.wait (Limits.lockWait * Limits.millisecond)) :=
        if_pos locked
      rw [process_of_error suspended refused]
      exact ⟨some .lockTimeout, .refused, ⟨fun _refused => rfl, fun _held => rfl⟩,
        fun fault same => congrArg _ (Option.some.inj same)⟩
  | false =>
      have tried : world.resume (interlude depth) = world.resumeRadio (interlude depth) :=
        if_neg (Bool.eq_false_iff.mp locked)
      rcases resumeRadio_suspended coherent suspended depth locked with
        ⟨awake, result, still, up, events⟩ | ⟨cause, last, result, events⟩
      · -- Now the report is handled as if the radio had been up before.
        have appended := (appends_framing.primitives.process
          (appends_framing.interlude depth) still owner report).frame.extra
        rw [process_of_ok suspended (tried.trans result) up]
        exact ⟨none, appended.wakes events, ⟨nofun, nofun⟩,
          fun _fault impossible => nomatch impossible⟩
      · rw [process_of_error suspended (tried.trans result)]
        dsimp only
        rw [events]
        exact ⟨_, .failed cause, ⟨nofun, nofun⟩,
          fun fault same => congrArg _ (Option.some.inj same)⟩

theorem consumerResume_suspended (free : world.bridge.locked = false) (report : Report) :
    ∃ failure,
      Radio.Wakes world.radio.events
        (world.consumerResume (interlude depth) report).radio.events failure ∧
      (failure ≠ none →
        (world.consumerResume (interlude depth) report).consumer.stage = .receiving) := by
  have busy := (coherent_primitives.setConsumer .busy coherent).inv
  unfold World.consumerResume
  rcases resumeRadio_suspended busy suspended depth free with
    ⟨awake, result, still, up, events⟩ | ⟨cause, last, result, events⟩
  · rw [result]
    have appended := (appends_framing.primitives.consumerDeliver
      (appends_framing.interlude depth) still up report).frame.extra
    exact ⟨none, appended.wakes events, fun impossible => absurd rfl impossible⟩
  · rw [result]
    dsimp only
    refine ⟨some (.radio cause), ?_, fun _failed => rfl⟩
    have same : (last.setConsumer .receiving).radio.events = _ := events
    rw [same]
    exact .failed cause

theorem consumerTurn_suspended :
    (world.consumerTurn (interlude depth)).radio.events = world.radio.events ∨
    ∃ failure,
      Radio.Wakes world.radio.events
        (world.consumerTurn (interlude depth)).radio.events failure ∧
      (failure ≠ none →
        (world.consumerTurn (interlude depth)).consumer.stage = .receiving) := by
  unfold World.consumerTurn
  split
  · exact Or.inl rfl
  · exact Or.inl rfl
  · split
    · exact Or.inl rfl
    · rename_i report intake received
      have taken := (coherent_primitives.receive coherent received).inv
      have still : (world.setIntake intake).bridge.suspended = true := suspended
      unfold World.consumerProcess
      rw [still, if_pos rfl]
      split
      · exact Or.inl rfl
      · rename_i unlocked
        exact Or.inr (consumerResume_suspended taken suspended depth
          (Bool.eq_false_iff.mpr unlocked) report)
  · rename_i report limit _stage
    split
    · rename_i unlocked
      exact Or.inr (consumerResume_suspended coherent suspended depth
        ((Bool.not_eq_true' _).mp unlocked) report)
    · split <;> exact Or.inl rfl
  · split
    · exact Or.inl rfl
    · split <;> exact Or.inl rfl

end Suspended

/-- A call that sends begins only while the radio is up, so since any instant at
which the radio was down it has been brought up. A report that finds the radio
suspended has it brought up before anything is sent. Otherwise it is dropped with a
fault, because the lock is held or the radio does not come up, and nothing is sent.
The consumer task leaves a suspended radio alone, or does the same. -/
theorem Visited.sends_awake {world : World} (visited : world.Visited) :
    (∀ earlier message later,
      world.radio.events = earlier ++ .began (.send message) :: later →
        Radio.upAfter earlier = true ∧
        ∀ before since, earlier = before ++ since → Radio.upAfter before = false →
          .ended .bringUp none ∈ since) ∧
    (world.bridge.suspended = true →
      world.radio.isUp = false ∧
      (∀ depth owner report, ∃ failure,
        Radio.Wakes world.radio.events
          (world.process (interlude depth) owner report).2.radio.events failure ∧
        (failure = some .lockTimeout ↔ world.bridge.locked = true) ∧
        ∀ fault, failure = some fault →
          (world.process (interlude depth) owner report).1 = .error fault) ∧
      ∀ depth,
        (world.consumerTurn (interlude depth)).radio.events = world.radio.events ∨
        ∃ failure,
          Radio.Wakes world.radio.events
            (world.consumerTurn (interlude depth)).radio.events failure ∧
          (failure ≠ none →
            (world.consumerTurn (interlude depth)).consumer.stage = .receiving)) := by
  have coherent := visited.coherent
  refine ⟨?_, ?_⟩
  · intro earlier message later same
    have up : Radio.upAfter earlier = true :=
      coherent.now.disciplined earlier (.began (.send message)) later same
    refine ⟨up, ?_⟩
    intro before since split down
    rw [split] at up
    exact Radio.raised_of_upAfter down up
  · intro suspended
    exact ⟨coherent.isUp_of_suspended suspended,
      process_suspended coherent suspended, consumerTurn_suspended coherent suspended⟩

def waking : World :=
  (asleep.hold { asleep.bridge.lifecycle with activity := .active }).begun .bringUp

def unwakeable : World :=
  (asleep.take (interlude 0) (.failures (some (some .initFailed)) none none)).2

theorem asleep_visited : asleep.Visited :=
  .take 1 _ (.take 0 _ (.take 0 _ (.new .default 4)))

def lateReport : Report :=
  { interfaceId := 1, reportId := 0, generation := 1, samples := [], payload := [0x02] }

/-- A report is dropped, be it because the lock is held or because the radio cannot
be brought up. -/
theorem lateReport_dropped :
    waking.Visited ∧ waking.radio.isUp = false ∧
      (waking.process (interlude 1) .nobody lateReport).1 = .error .lockTimeout ∧
      unwakeable.Visited ∧ unwakeable.radio.isUp = false ∧
      (unwakeable.process (interlude 1) .session lateReport).1 =
        .error (.radio .initFailed) := by
  have wakingVisited : waking.Visited :=
    .bringingUp (by decide +kernel) (by decide +kernel) asleep_visited
  have unwakeableVisited : unwakeable.Visited := .take 0 _ asleep_visited
  have one := wakingVisited.sends_awake.2 (by decide +kernel)
  have other := unwakeableVisited.sends_awake.2 (by decide +kernel)
  exact ⟨wakingVisited, one.1, by decide +kernel, unwakeableVisited, other.1,
    by decide +kernel⟩

end World

end HidBridge
