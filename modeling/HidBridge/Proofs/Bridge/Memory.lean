/-
What converters remember cannot be seen. Any converter that has been used with the
intake of a bridge and no other handles every report as a new one would: the
result, the calls of the radio and all that is left behind are the same, the
converter itself apart.
-/

import HidBridge.Proofs.Bridge.Frames
import HidBridge.Proofs.Intake.Staleness

namespace HidBridge

/-- The converter comes out of a run with an intake that is now as given, in which
so many connections were accepted. -/
def Converter.UsedWith (converter : Converter) (intake : Intake) (installs : Nat) : Prop :=
  ∃ depth sensitivity history,
    (Relay.new depth sensitivity).after history = { intake, converter } ∧
      (Relay.new depth sensitivity).installCount history = installs

theorem Converter.UsedWith.sound {converter : Converter} {intake : Intake} {installs : Nat}
    (used : converter.UsedWith intake installs) (few : installs < Limits.maxUInt32) :
    Relay.Sound { intake, converter } := by
  obtain ⟨depth, first, history, ends, count⟩ := used
  have room : (Relay.new depth first).intake.table.nextGeneration +
      (Relay.new depth first).installCount history ≤ Limits.maxUInt32 := by
    have start : (Relay.new depth first).intake.table.nextGeneration = 1 := rfl
    omega
  have sound := (Relay.sound_after (Relay.sound_new depth first) room).1
  rw [ends] at sound
  exact sound

theorem Converter.UsedWith.convert_eq {converter : Converter} {intake : Intake}
    {installs : Nat} (used : converter.UsedWith intake installs)
    (few : installs < Limits.maxUInt32) (sensitivity : Nat) (report : Report) :
    (Converter.convert { converter with sensitivity } intake.table.lookup report).1 =
      ((Converter.new sensitivity).convert intake.table.lookup report).1 :=
  ((used.sound few).agrees.setSensitivity sensitivity).convert_eq
    (Converter.agrees_new sensitivity _) rfl report

namespace World

/-! ### Histories of the converters of a bridge -/

def relay (world : World) (owner : ConverterOwner) : Relay :=
  { intake := world.bridge.intake, converter := world.converterOf owner }

/-- What happened to the intake and to the converter that an owner keeps can be told
as events of a relay. -/
def Traced (owner : ConverterOwner) (before after : World) : Prop :=
  ∃ events, (before.relay owner).after events = after.relay owner

theorem Traced.of_same {owner : ConverterOwner} {before after : World}
    (same : after.relay owner = before.relay owner) : Traced owner before after :=
  ⟨[], same.symm⟩

theorem Traced.single {owner : ConverterOwner} {before after : World} (event : Relay.Event)
    (same : (before.relay owner).take event = after.relay owner) : Traced owner before after :=
  ⟨[event], same⟩

theorem Traced.trans {owner : ConverterOwner} {first second third : World}
    (earlier : Traced owner first second) (later : Traced owner second third) :
    Traced owner first third := by
  obtain ⟨one, reached⟩ := earlier
  obtain ⟨other, ends⟩ := later
  refine ⟨one ++ other, ?_⟩
  rw [Relay.after_append, reached, ends]

theorem Traced.of_relay {owner : ConverterOwner} {first last before after : World}
    (traced : Traced owner first last) (starts : first.relay owner = before.relay owner)
    (ends : after.relay owner = last.relay owner) : Traced owner before after := by
  unfold Traced at traced ⊢
  rw [ends, ← starts]
  exact traced

section Keeps

variable {owner : ConverterOwner} (keeps : owner ≠ .nobody)

include keeps

theorem relay_of_same {before after : World}
    (intake : after.bridge.intake = before.bridge.intake)
    (session : after.session = before.session)
    (consumer : after.consumer.converter = before.consumer.converter) :
    after.relay owner = before.relay owner := by
  unfold relay converterOf
  rw [intake, session, consumer]
  cases owner with
  | nobody => exact absurd rfl keeps
  | session => rfl
  | consumer => rfl

theorem relay_setIntake (world : World) (intake : Intake) :
    { world.relay owner with intake } = (world.setIntake intake).relay owner := by
  cases owner with
  | nobody => exact absurd rfl keeps
  | session => rfl
  | consumer => rfl

theorem traced_receive {world : World} {report : Report} {intake : Intake}
    (received : world.bridge.intake.receive = some (report, intake)) :
    Traced owner world (world.setIntake intake) := by
  apply Traced.single .receive
  rw [← relay_setIntake keeps]
  unfold Relay.take relay
  dsimp only
  rw [received]

theorem traced_convert (world : World) (user : ConverterOwner) (report : Report) :
    Traced owner world (world.convert user report).2 := by
  by_cases own : user = owner
  · refine ⟨[.setSensitivity world.bridge.sensitivity, .convert report], ?_⟩
    rw [own]
    cases owner with
    | nobody => exact absurd rfl keeps
    | session => rfl
    | consumer => rfl
  · apply Traced.of_same
    cases owner with
    | nobody => exact absurd rfl keeps
    | session => cases user <;> first | rfl | exact absurd rfl own
    | consumer => cases user <;> first | rfl | exact absurd rfl own

theorem traced_spawn (world : World) (task : Task) : Traced owner world (world.spawn task) := by
  cases owner with
  | nobody => exact absurd rfl keeps
  | session => cases task <;> exact .of_same rfl
  | consumer =>
      cases task with
      | consumer => exact .single (.renew world.bridge.sensitivity) rfl
      | timer => exact .of_same rfl

theorem traced_framing : Framing (Traced owner) where
  trans := fun _guarded earlier later => earlier.trans later
  beside := fun same =>
    .of_same (relay_of_same keeps (congrArg Dealings.intake same)
      (congrArg Dealings.session same) (congrArg Dealings.consumer same))
  connect := fun interfaceId descriptor =>
    .single (.connect interfaceId descriptor) (relay_setIntake keeps _ _)
  disconnect := fun interfaceId =>
    .single (.disconnect interfaceId) (relay_setIntake keeps _ _)
  submit := fun interfaceId reportId payload =>
    .single (.submit interfaceId reportId payload) (relay_setIntake keeps _ _)
  submitTransfer := fun interfaceId transfer =>
    .single (.submitTransfer interfaceId transfer) (relay_setIntake keeps _ _)
  receive := traced_receive keeps
  convert := traced_convert keeps _
  spawn := traced_spawn keeps _
  send := fun _message _failure _awake inside =>
    inside.of_relay (relay_of_same keeps rfl rfl rfl) (relay_of_same keeps rfl rfl rfl)
  underLock := fun _call _failure _next _lifecycle _free inside =>
    inside.of_relay (relay_of_same keeps rfl rfl rfl) (relay_of_same keeps rfl rfl rfl)

theorem Reachable.history {world : World} (reachable : world.Reachable) :
    ∃ depth sensitivity events,
      (Relay.new depth sensitivity).after events = world.relay owner := by
  obtain ⟨settings, depth, events, ends⟩ := (traced_framing keeps).reachable reachable
  refine ⟨depth, settings.mouseSensitivity, events, ?_⟩
  rw [← ends]
  cases owner with
  | nobody => exact absurd rfl keeps
  | session => rfl
  | consumer => rfl

end Keeps

theorem Reachable.usedWith {world : World} (reachable : world.Reachable)
    (owner : ConverterOwner) :
    ∃ installs, (world.converterOf owner).UsedWith world.bridge.intake installs := by
  by_cases keeps : owner = .nobody
  · -- Nobody keeps a converter: there is a new one for each report.
    have session : ConverterOwner.session ≠ .nobody := nofun
    obtain ⟨depth, sensitivity, events, ends⟩ := reachable.history session
    refine ⟨_, depth, sensitivity, events ++ [.renew world.bridge.sensitivity], ?_, rfl⟩
    rw [keeps, Relay.after_append, ends]
    rfl
  · obtain ⟨depth, sensitivity, events, ends⟩ := reachable.history keeps
    exact ⟨_, depth, sensitivity, events, ends, rfl⟩

/-! ### A report with one converter and with another -/

section Converters

variable (world : World) (converter : Converter) (owner : ConverterOwner)

@[simp]
theorem clock_setConverter : (world.setConverter converter owner).clock = world.clock := by
  cases owner <;> rfl

@[simp]
theorem setConverter_twice (other : Converter) :
    (world.setConverter converter owner).setConverter other owner =
      world.setConverter other owner := by
  cases owner <;> rfl

theorem underLock_setConverter {α : Type} (milliseconds : Nat)
    {action : World → Except Fault α × World}
    (free : action (world.setConverter converter owner) =
      ((action world).1, (action world).2.setConverter converter owner)) :
    (world.setConverter converter owner).underLock milliseconds action =
      ((world.underLock milliseconds action).1,
        (world.underLock milliseconds action).2.setConverter converter owner) := by
  unfold underLock
  rw [bridge_setConverter]
  split
  · cases owner <;> rfl
  · exact free

theorem resumeRadio_setConverter :
    (world.setConverter converter owner).resumeRadio (interlude 0) =
      ((world.resumeRadio (interlude 0)).1,
        (world.resumeRadio (interlude 0)).2.setConverter converter owner) := by
  unfold resumeRadio
  rw [bridge_setConverter]
  cases world.bridge.lifecycle.startResume <;> cases owner <;> rfl

theorem resume_setConverter :
    (world.setConverter converter owner).resume (interlude 0) =
      ((world.resume (interlude 0)).1,
        (world.resume (interlude 0)).2.setConverter converter owner) :=
  underLock_setConverter world converter owner _
    (resumeRadio_setConverter world converter owner)

theorem rearm_setConverter (asOf : Nat) :
    (world.setConverter converter owner).rearm asOf =
      ((world.rearm asOf).1, (world.rearm asOf).2.setConverter converter owner) := by
  apply underLock_setConverter
  cases owner <;> rfl

theorem forward_setConverter (message : Output.Message) :
    (world.setConverter converter owner).forward (interlude 0) message =
      ((world.forward (interlude 0) message).1,
        (world.forward (interlude 0) message).2.setConverter converter owner) := by
  unfold forward
  rw [links_setConverter]
  split
  · cases owner <;> rfl
  · rfl

theorem pushesBack_setConverter (result : Except Fault Delivery) :
    (world.setConverter converter owner).pushesBack result = world.pushesBack result := by
  cases owner <;> rfl

theorem intake_resume :
    (world.resume (interlude 0)).2.bridge.intake = world.bridge.intake := by
  unfold resume underLock
  split
  · rfl
  · dsimp only [resumeRadio]
    cases world.bridge.lifecycle.startResume <;> rfl

end Converters

def Alike {α : Type} (owner : ConverterOwner) (first second : α × World) : Prop :=
  ∃ (result : α) (last : World) (one other : Converter),
    first = (result, last.setConverter one owner) ∧
      second = (result, last.setConverter other owner)

section Alike

variable {owner : ConverterOwner} {one other : Converter} {world : World} {report : Report}

theorem deliver_alike (keeps : owner ≠ .nobody)
    (same : ∀ sensitivity,
      (Converter.convert { one with sensitivity } world.bridge.intake.table.lookup report).1 =
        (Converter.convert { other with sensitivity } world.bridge.intake.table.lookup
          report).1) :
    Alike owner ((world.setConverter one owner).deliver (interlude 0) owner report)
      ((world.setConverter other owner).deliver (interlude 0) owner report) := by
  have converted (converter : Converter) :
      (world.setConverter converter owner).convert owner report =
        ((Converter.convert { converter with sensitivity := world.bridge.sensitivity }
            world.bridge.intake.table.lookup report).1,
          world.setConverter
            (Converter.convert { converter with sensitivity := world.bridge.sensitivity }
              world.bridge.intake.table.lookup report).2 owner) := by
    cases owner with
    | nobody => exact absurd rfl keeps
    | session => rfl
    | consumer => rfl
  unfold deliver
  rw [converted one, converted other, same]
  cases (Converter.convert { other with sensitivity := world.bridge.sensitivity }
    world.bridge.intake.table.lookup report).1 with
  | error fault => exact ⟨_, world, _, _, rfl, rfl⟩
  | ok message =>
      cases message with
      | none => exact ⟨_, world, _, _, rfl, rfl⟩
      | some message =>
          dsimp only
          rw [forward_setConverter, forward_setConverter]
          exact ⟨_, _, _, _, rfl, rfl⟩

theorem Alike.pushBack {first second : Except Fault Delivery × World}
    (alike : Alike owner first second) :
    Alike owner
      (first.1, if first.2.pushesBack first.1 then (first.2.rearm first.2.clock).2 else first.2)
      (second.1,
        if second.2.pushesBack second.1 then (second.2.rearm second.2.clock).2
        else second.2) := by
  obtain ⟨result, last, one, other, firstEq, secondEq⟩ := alike
  rw [firstEq, secondEq]
  dsimp only
  simp only [pushesBack_setConverter, clock_setConverter, rearm_setConverter]
  split
  · exact ⟨_, _, _, _, rfl, rfl⟩
  · exact ⟨_, _, _, _, rfl, rfl⟩

theorem process_alike (keeps : owner ≠ .nobody)
    (same : ∀ sensitivity,
      (Converter.convert { one with sensitivity } world.bridge.intake.table.lookup report).1 =
        (Converter.convert { other with sensitivity } world.bridge.intake.table.lookup
          report).1) :
    Alike owner ((world.setConverter one owner).process (interlude 0) owner report)
      ((world.setConverter other owner).process (interlude 0) owner report) := by
  unfold process
  rw [bridge_setConverter, bridge_setConverter]
  by_cases suspended : world.bridge.suspended = true
  · rw [if_pos suspended, if_pos suspended, resume_setConverter, resume_setConverter]
    cases (world.resume (interlude 0)).1 with
    | error fault => exact ⟨_, _, _, _, rfl, rfl⟩
    | ok _ =>
        refine (deliver_alike keeps ?_).pushBack
        rw [intake_resume]
        exact same
  · rw [if_neg suspended, if_neg suspended]
    exact (deliver_alike keeps same).pushBack

end Alike

/-- Whatever reports a converter has converted before, and whatever its sensitivity
was: if it was used with the intake of the bridge and no other, it makes no
difference whether a report is handled with it or with a new one. -/
theorem Reachable.process_fresh {world : World} (reachable : world.Reachable) :
    (∀ owner, ∃ installs,
      (world.converterOf owner).UsedWith world.bridge.intake installs) ∧
    ∀ converter installs, Converter.UsedWith converter world.bridge.intake installs →
      installs < Limits.maxUInt32 → ∀ owner report,
        let used := (world.setConverter converter owner).process (interlude 0) owner report
        let fresh :=
          (world.setConverter world.bridge.converter owner).process (interlude 0) owner report
        used.1 = fresh.1 ∧ used.2.radio = fresh.2.radio ∧ used.2.bridge = fresh.2.bridge ∧
          ∀ last, used.2.setConverter last owner = fresh.2.setConverter last owner := by
  refine ⟨reachable.usedWith, ?_⟩
  intro converter installs used few owner report
  by_cases keeps : owner = .nobody
  · rw [keeps]
    exact ⟨rfl, rfl, rfl, fun _last => rfl⟩
  · have alike : Alike owner
        ((world.setConverter converter owner).process (interlude 0) owner report)
        ((world.setConverter world.bridge.converter owner).process (interlude 0) owner report) :=
      process_alike keeps (fun sensitivity => used.convert_eq few sensitivity report)
    obtain ⟨result, last, one, other, usedEq, freshEq⟩ := alike
    dsimp only
    rw [usedEq, freshEq]
    dsimp only
    simp only [radio_setConverter, bridge_setConverter, setConverter_twice, implies_true,
      and_self]

def attached : World := ((new .default 4).take (interlude 0) (.connect 1 Relay.buttons)).2

def pressed : Report :=
  { interfaceId := 1
    reportId := 0
    generation := 1
    samples :=
      ((((Interface.ofDescriptor 1 Relay.buttons).input? 0).map Layout.fields).getD []).map
        (fun field => field.sample [0x02])
    payload := [0x02] }

/-- A converter that has converted the report before, and was told of another
sensitivity since. -/
def listener : Relay :=
  (Relay.new 4 300).after [.connect 1 Relay.buttons, .convert pressed, .setSensitivity 7]

theorem attached_process_listener :
    attached.Reachable ∧ listener.converter.UsedWith attached.bridge.intake 1 ∧
      listener.converter.cached? 1 0 ≠ none ∧
      ((attached.setConverter listener.converter .session).process (interlude 0) .session
        pressed).1 = .ok (.sent (.mouse (pressed.toMouse 100))) ∧
      ((attached.setConverter attached.bridge.converter .session).process (interlude 0) .session
        pressed).1 = .ok (.sent (.mouse (pressed.toMouse 100))) := by
  have reachable : attached.Reachable := .take 0 _ (.new .default 4)
  have intake : listener.intake = attached.bridge.intake := by decide +kernel
  have used : listener.converter.UsedWith attached.bridge.intake 1 :=
    ⟨4, 300, _, congrArg (fun intake => Relay.mk intake listener.converter) intake,
      by decide +kernel⟩
  have same := (reachable.process_fresh.2 _ _ used (by decide) .session pressed).1
  have fresh : ((attached.setConverter attached.bridge.converter .session).process
      (interlude 0) .session pressed).1 = .ok (.sent (.mouse (pressed.toMouse 100))) := by
    decide +kernel
  exact ⟨reachable, used, by decide +kernel, same.trans fresh, fresh⟩

end World

end HidBridge
