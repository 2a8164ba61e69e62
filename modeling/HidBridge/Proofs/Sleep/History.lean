/-
Runs of a lifecycle by itself: it is armed, disarmed, configured, checked and resumed in
any order, while the links and the ways in which the radio fails change. What a check
does is read off by looking back over the run, to the latest arming and to the settings
that were in force then.
-/

import HidBridge.Proofs.Sleep.Lifecycle
import Mathlib.Data.List.Induction

namespace HidBridge

/-- A check that found its deadline come, and was not kept from looking at the links. -/
def CheckOutcome.usesUp : CheckOutcome → Bool
  | .inert _ => true
  | .suspended => true
  | .tearDownFailed _ => true
  | .notDue => false
  | .alreadySuspended => false

def Radio.TakenDown (before after : Radio) : Prop :=
  ∃ failure, after.events = before.events ++ [.began .tearDown, .ended .tearDown failure]

namespace Sleep

structure Terms where
  timeout : Nat
  sleepEnabled : Bool
  deriving DecidableEq

inductive Event where
  | rearm (now : Nat)
  | disarm
  | configure (terms : Terms)
  | check (now : Nat) (links : Links)
  | resume
  | failure (operation : RadioOperation) (failure : Option RadioFault)
  deriving DecidableEq

structure State where
  lifecycle : Lifecycle
  radio : Radio
  deriving DecidableEq

namespace State

def new (terms : Terms) (radio : Radio) : State :=
  { lifecycle := .new terms.timeout terms.sleepEnabled, radio }

def check (state : State) (now : Nat) (links : Links) : CheckOutcome × State :=
  let (outcome, lifecycle, radio) := state.lifecycle.check state.radio now links
  (outcome, { lifecycle, radio })

/-- A deadline that the clock cannot show is not armed, and the run ends. -/
def take? (state : State) : Event → Option State
  | .rearm now => (state.lifecycle.rearm? now).map (fun lifecycle => { state with lifecycle })
  | .disarm => some { state with lifecycle := state.lifecycle.disarm }
  | .configure terms =>
    some { state with lifecycle := state.lifecycle.configure terms.timeout terms.sleepEnabled }
  | .check now links => some (state.check now links).2
  | .resume =>
    let (_, lifecycle, radio) := state.lifecycle.resume state.radio
    some { lifecycle, radio }
  | .failure operation failure =>
    some { state with radio := state.radio.setFailure failure operation }

def after? (state : State) (events : List Event) : Option State := events.foldlM take? state

theorem after?_append (state : State) (earlier later : List Event) :
    state.after? (earlier ++ later) =
      (state.after? earlier).bind (fun last => last.after? later) := by
  unfold after?
  rw [List.foldlM_append, Option.bind_eq_bind]

theorem after?_cons (state : State) (event : Event) (later : List Event) :
    state.after? (event :: later) =
      (state.take? event).bind (fun next => next.after? later) := by
  unfold after?
  rw [List.foldlM_cons, Option.bind_eq_bind]

theorem after?_append_single (state : State) (events : List Event) (event : Event) :
    state.after? (events ++ [event]) =
      (state.after? events).bind (fun last => last.take? event) := by
  rw [after?_append]
  simp only [after?, List.foldlM_cons, List.foldlM_nil, bind_pure]

def terms (state : State) : Terms := ⟨state.lifecycle.timeout, state.lifecycle.sleepEnabled⟩

/-- A check uses the deadline up if it has come, and calls the radio only if nothing is
against that. -/
theorem check_cases (state : State) (now : Nat) (links : Links) :
    (state.lifecycle.activity = .suspended ∧
      state.check now links = (.alreadySuspended, ⟨state.lifecycle.disarm, state.radio⟩)) ∨
    (state.lifecycle.activity = .active ∧ state.lifecycle.isDue now = false ∧
      state.check now links = (.notDue, state)) ∨
    (state.lifecycle.activity = .active ∧ state.lifecycle.isDue now = true ∧
      ∃ reason, links.hold? state.lifecycle.sleepEnabled = some reason ∧
        state.check now links = (.inert reason, ⟨state.lifecycle.disarm, state.radio⟩)) ∨
    (state.lifecycle.activity = .active ∧ state.lifecycle.isDue now = true ∧
      links.hold? state.lifecycle.sleepEnabled = none ∧
      (state.check now links).1.usesUp = true ∧
      (state.check now links).2.lifecycle.deadline = none ∧
      state.radio.TakenDown (state.check now links).2.radio) := by
  cases started : state.lifecycle.startCheck now links with
  | mk said next =>
      simp only [check, Lifecycle.check, started]
      rcases Lifecycle.startCheck_cases started with
        ⟨suspended, rfl, rfl⟩ | ⟨active, early, rfl, rfl⟩ |
          ⟨active, come, reason, held, rfl, rfl⟩ | ⟨active, come, free, rfl, rfl⟩
      · exact Or.inl ⟨suspended, rfl⟩
      · exact Or.inr (Or.inl ⟨active, early, rfl⟩)
      · exact Or.inr (Or.inr (Or.inl ⟨active, come, reason, held, rfl⟩))
      · refine Or.inr (Or.inr (Or.inr
          ⟨active, come, free, ?_, ?_, (state.radio.call .tearDown).1, List.append_assoc _ _ _⟩))
        · dsimp only
          cases (state.radio.call .tearDown).1 <;> rfl
        · exact Lifecycle.deadline_endCheck _ _

end State

/-! ### Looking back -/

def Event.terms? : Event → Option Terms
  | .configure terms => some terms
  | _ => none

/-- The terms in force after events, which are those given last. -/
def termsAfter (terms : Terms) (events : List Event) : Terms :=
  (events.filterMap Event.terms?).getLast?.getD terms

def State.keepsDeadline (state : State) : Event → Bool
  | .rearm _ => false
  | .disarm => false
  | .check now links => decide ((state.check now links).1 = .notDue)
  | _ => true

/-- The deadline is the instant of the latest rearming and the timeout in force at that
instant. Since then nothing has moved it or taken it away: it was not disarmed, and every
check has found that it had not come. -/
def ArmedBy (terms : Terms) (radio : Radio) (events : List Event) (deadline : Nat) : Prop :=
  ∃ earlier now since, events = earlier ++ .rearm now :: since ∧
    deadline = now + (termsAfter terms earlier).timeout ∧
    ∀ before event later state, since = before ++ event :: later →
      (State.new terms radio).after? (earlier ++ .rearm now :: before) = some state →
      state.keepsDeadline event = true

theorem termsAfter_append_single (terms : Terms) (events : List Event) (event : Event) :
    termsAfter terms (events ++ [event]) = event.terms?.getD (termsAfter terms events) := by
  unfold termsAfter
  rw [List.filterMap_append]
  cases said : event.terms? with
  | none => simp only [List.filterMap_cons, List.filterMap_nil, said, List.append_nil,
      Option.getD_none]
  | some given => simp only [List.filterMap_cons, List.filterMap_nil, said,
      List.getLast?_concat, Option.getD_some]

section Run

variable {terms : Terms} {radio : Radio} {events : List Event} {state next : State}

theorem armedBy_rearm (ran : (State.new terms radio).after? events = some state)
    (now deadline : Nat) :
    ArmedBy terms radio (events ++ [.rearm now]) deadline ↔
      deadline = now + (termsAfter terms events).timeout := by
  constructor
  · intro ⟨earlier, instant, since, same, armed, kept⟩
    rcases List.eq_nil_or_concat since with nil | ⟨init, last, concat⟩
    · rw [nil] at same
      obtain ⟨whole, single⟩ := List.append_inj' same rfl
      rw [whole, Event.rearm.inj (List.cons.inj single).1]
      exact armed
    · -- The last event is a rearming itself, so none before it is the latest one.
      rw [concat, List.concat_eq_append, ← List.cons_append, ← List.append_assoc] at same
      obtain ⟨whole, single⟩ := List.append_inj' same rfl
      rw [List.concat_eq_append] at concat
      rw [whole] at ran
      have keeps := kept init last [] state concat ran
      rw [← (List.cons.inj single).1] at keeps
      cases keeps
  · intro armed
    refine ⟨events, now, [], rfl, armed, ?_⟩
    intro before event later _state impossible
    exact absurd impossible (List.append_ne_nil_of_right_ne_nil before (List.cons_ne_nil _ _)).symm

theorem armedBy_other (ran : (State.new terms radio).after? events = some state) {event : Event}
    (other : ∀ now, event ≠ .rearm now) (deadline : Nat) :
    ArmedBy terms radio (events ++ [event]) deadline ↔
      state.keepsDeadline event = true ∧ ArmedBy terms radio events deadline := by
  constructor
  · intro ⟨earlier, instant, since, same, armed, kept⟩
    rcases List.eq_nil_or_concat since with nil | ⟨init, last, concat⟩
    · rw [nil] at same
      exact absurd (List.cons.inj (List.append_inj' same rfl).2).1 (other instant)
    · rw [List.concat_eq_append] at concat
      rw [concat, ← List.cons_append, ← List.append_assoc] at same
      obtain ⟨whole, single⟩ := List.append_inj' same rfl
      have isLast : event = last := (List.cons.inj single).1
      constructor
      · rw [whole] at ran
        rw [isLast]
        exact kept init last [] state concat ran
      · refine ⟨earlier, instant, init, whole, armed, ?_⟩
        intro before found later reached split
        apply kept before found (later ++ [last]) reached
        rw [concat, split, List.append_assoc, List.cons_append]
  · intro ⟨keeps, earlier, instant, since, same, armed, kept⟩
    refine ⟨earlier, instant, since ++ [event], ?_, armed, ?_⟩
    · rw [same, List.append_assoc, List.cons_append]
    · intro before found later reached split ranHere
      rcases List.eq_nil_or_concat later with nil | ⟨init, last, concat⟩
      · rw [nil] at split
        obtain ⟨whole, single⟩ := List.append_inj' split rfl
        rw [← whole, ← same, ran] at ranHere
        rw [← Option.some.inj ranHere, ← (List.cons.inj single).1]
        exact keeps
      · rw [concat, List.concat_eq_append, ← List.cons_append, ← List.append_assoc] at split
        exact kept before found init reached (List.append_inj' split rfl).1 ranHere

theorem terms_take? {event : Event} (taken : state.take? event = some next) :
    next.terms = event.terms?.getD state.terms := by
  have follows {after : Lifecycle} (same : Lifecycle.Follows state.lifecycle after) :
      State.terms ⟨after, next.radio⟩ = state.terms := by
    simp only [State.terms, same.timeout, same.sleepEnabled]
  cases event with
  | rearm now =>
      obtain ⟨after, armed, same⟩ := Option.map_eq_some_iff.mp taken
      rw [← same, (Lifecycle.rearm?_eq_some_iff.mp armed).2]
      rfl
  | disarm =>
      rw [← Option.some.inj taken]
      rfl
  | configure given =>
      rw [← Option.some.inj taken]
      rfl
  | check now links =>
      rw [← Option.some.inj taken]
      exact follows (state.lifecycle.follows_check state.radio now links)
  | resume =>
      rw [← Option.some.inj taken]
      exact follows (state.lifecycle.follows_resume state.radio)
  | failure operation failure =>
      rw [← Option.some.inj taken]
      rfl

theorem deadline_check (state : State) (now : Nat) (links : Links) :
    (state.check now links).2.lifecycle.deadline =
      if (state.check now links).1 = .notDue then state.lifecycle.deadline else none := by
  rcases state.check_cases now links with
    ⟨_suspended, result⟩ | ⟨_active, _early, result⟩ | ⟨_active, _come, _reason, _held, result⟩ |
      ⟨_active, _come, _free, fired, usedUp, _called⟩
  · rw [result]
    rfl
  · rw [result]
    rfl
  · rw [result]
    rfl
  · rw [usedUp, if_neg]
    intro notDue
    rw [notDue] at fired
    cases fired

theorem deadline_take? {event : Event} (taken : state.take? event = some next)
    (other : ∀ now, event ≠ .rearm now) :
    next.lifecycle.deadline =
      if state.keepsDeadline event then state.lifecycle.deadline else none := by
  cases event with
  | rearm now => exact absurd rfl (other now)
  | disarm =>
      rw [← Option.some.inj taken]
      rfl
  | configure given =>
      rw [← Option.some.inj taken]
      rfl
  | check now links =>
      rw [← Option.some.inj taken, deadline_check]
      simp only [State.keepsDeadline, decide_eq_true_eq]
  | resume =>
      rw [← Option.some.inj taken]
      exact state.lifecycle.deadline_resume state.radio
  | failure operation failure =>
      rw [← Option.some.inj taken]
      rfl

/-- What a lifecycle knows is what looking back over its run gives. -/
structure Remembers (terms : Terms) (radio : Radio) (events : List Event) (state : State) :
    Prop where
  inForce : state.terms = termsAfter terms events
  armed : ∀ deadline, state.lifecycle.deadline = some deadline ↔
    ArmedBy terms radio events deadline

theorem Remembers.take? (remembers : Remembers terms radio events state)
    (ran : (State.new terms radio).after? events = some state) {event : Event}
    (taken : state.take? event = some next) :
    Remembers terms radio (events ++ [event]) next where
  inForce := by rw [terms_take? taken, remembers.inForce, termsAfter_append_single]
  armed := by
    intro deadline
    by_cases rearmed : ∃ now, event = .rearm now
    · obtain ⟨now, rfl⟩ := rearmed
      obtain ⟨after, armed, same⟩ := Option.map_eq_some_iff.mp taken
      rw [armedBy_rearm ran, ← remembers.inForce, ← same,
        (Lifecycle.rearm?_eq_some_iff.mp armed).2]
      simp only [Lifecycle.rearm, State.terms, Option.some.injEq, eq_comm]
    · have other := not_exists.mp rearmed
      rw [armedBy_other ran other, deadline_take? taken other, ← remembers.armed]
      cases state.keepsDeadline event with
      | true => simp only [if_true, true_and]
      | false => simp only [Bool.false_eq_true, if_false, reduceCtorEq, false_and]

theorem remembers_after (ran : (State.new terms radio).after? events = some state) :
    Remembers terms radio events state := by
  induction events using List.reverseRecOn generalizing state with
  | nil =>
      rw [← Option.some.inj ran]
      refine { inForce := rfl, armed := ?_ }
      intro deadline
      constructor
      · intro impossible
        cases impossible
      · intro ⟨earlier, now, since, impossible, _armed, _kept⟩
        exact absurd impossible
          (List.append_ne_nil_of_right_ne_nil earlier (List.cons_ne_nil _ _)).symm
  | append_singleton events event ih =>
      rw [State.after?_append_single] at ran
      obtain ⟨before, earlier, taken⟩ := Option.bind_eq_some_iff.mp ran
      exact (ih earlier).take? earlier taken

end Run

/-! ### What a check does -/

section Check

variable (state : State) (now : Nat) (links : Links)

theorem check_calls :
    (state.radio.TakenDown (state.check now links).2.radio ↔
      state.lifecycle.activity = .active ∧ state.lifecycle.isDue now = true ∧
        links.hold? state.lifecycle.sleepEnabled = none) ∧
    ((state.check now links).2.radio = state.radio ∨
      state.radio.TakenDown (state.check now links).2.radio) := by
  have silent : ¬state.radio.TakenDown state.radio :=
    fun ⟨_failure, longer⟩ => List.cons_ne_nil _ _ (List.self_eq_append_right.mp longer)
  rcases state.check_cases now links with
    ⟨suspended, result⟩ | ⟨_active, early, result⟩ | ⟨_active, _come, reason, held, result⟩ |
      ⟨active, come, free, _said, _usedUp, called⟩
  · rw [result]
    refine ⟨iff_of_false silent ?_, Or.inl rfl⟩
    intro ⟨active, _come, _free⟩
    cases suspended.symm.trans active
  · rw [result]
    refine ⟨iff_of_false silent ?_, Or.inl rfl⟩
    intro ⟨_active, come, _free⟩
    cases early.symm.trans come
  · rw [result]
    refine ⟨iff_of_false silent ?_, Or.inl rfl⟩
    intro ⟨_active, _come, free⟩
    cases held.symm.trans free
  · exact ⟨iff_of_true called ⟨active, come, free⟩, Or.inr called⟩

theorem isDue_of_usesUp (fired : (state.check now links).1.usesUp = true) :
    state.lifecycle.isDue now = true := by
  rcases state.check_cases now links with
    ⟨_suspended, result⟩ | ⟨_active, _early, result⟩ | ⟨_active, come, _result⟩ |
      ⟨_active, come, _free, _result⟩
  · rw [result] at fired
    cases fired
  · rw [result] at fired
    cases fired
  · exact come
  · exact come

theorem lt_of_deadline_check {deadline : Nat}
    (armed : (state.check now links).2.lifecycle.deadline = some deadline) : now < deadline := by
  rcases state.check_cases now links with
    ⟨_suspended, result⟩ | ⟨_active, early, result⟩ | ⟨_active, _come, _reason, _held, result⟩ |
      ⟨_active, _come, _free, _said, usedUp, _called⟩
  · rw [result] at armed
    cases armed
  · rw [result] at armed
    refine Nat.lt_of_not_le ?_
    intro come
    rw [Lifecycle.isDue_iff.mpr ⟨deadline, armed, come⟩] at early
    cases early
  · rw [result] at armed
    cases armed
  · cases usedUp.symm.trans armed

theorem check_of_unarmed (unarmed : state.lifecycle.deadline = none) :
    (state.check now links).1 = .notDue ∨ (state.check now links).1 = .alreadySuspended := by
  have early : state.lifecycle.isDue now = false := by
    unfold Lifecycle.isDue
    rw [unarmed]
  rcases state.check_cases now links with
    ⟨_suspended, result⟩ | ⟨_active, _early, result⟩ | ⟨_active, come, _result⟩ |
      ⟨_active, come, _free, _result⟩
  · rw [result]
    exact Or.inr rfl
  · rw [result]
    exact Or.inl rfl
  · cases early.symm.trans come
  · cases early.symm.trans come

end Check

theorem unarmed_after {state last : State} {events : List Event}
    (unarmed : state.lifecycle.deadline = none) (never : ∀ now, .rearm now ∉ events)
    (ran : state.after? events = some last) : last.lifecycle.deadline = none := by
  induction events generalizing state with
  | nil =>
      rw [← Option.some.inj ran]
      exact unarmed
  | cons event rest ih =>
      rw [State.after?_cons] at ran
      obtain ⟨next, taken, later⟩ := Option.bind_eq_some_iff.mp ran
      have other (now : Nat) : event ≠ .rearm now :=
        fun same => never now (List.mem_cons.mpr (Or.inl same.symm))
      refine ih ?_ (fun now member => never now (List.mem_cons_of_mem _ member)) later
      rw [deadline_take? taken other, unarmed]
      exact ite_self none

/-- A radio is taken down only after a whole timeout without rearming, at the end of which
nothing speaks against it. In every run of a lifecycle the armed deadline is that of the
latest rearming, counted with the timeout in force at the time; a check calls the radio
exactly if the deadline has come, sleep is enabled and the links allow it; and a deadline
that was used up by a check is not used up by another one. -/
theorem suspends_after_quiet_time {terms : Terms} {radio : Radio} {events : List Event}
    {state : State} (ran : (State.new terms radio).after? events = some state) :
    (∀ deadline, state.lifecycle.deadline = some deadline ↔
      ArmedBy terms radio events deadline) ∧
    (∀ now links,
      (state.radio.TakenDown (state.check now links).2.radio ↔
        state.lifecycle.activity = .active ∧
          (∃ deadline, state.lifecycle.deadline = some deadline ∧ deadline ≤ now) ∧
          (termsAfter terms events).sleepEnabled = true ∧ links.usbDevice = true ∧
          links.blePeer = true ∧ links.prioritySession = false) ∧
      ((state.check now links).2.radio = state.radio ∨
        state.radio.TakenDown (state.check now links).2.radio) ∧
      ((state.check now links).1.usesUp = true →
        ∃ deadline, ArmedBy terms radio events deadline ∧ deadline ≤ now) ∧
      ∀ deadline, (state.check now links).2.lifecycle.deadline = some deadline →
        now < deadline) ∧
    ∀ earlier instant found since before,
      events = earlier ++ .check instant found :: since →
      (State.new terms radio).after? earlier = some before →
      (before.check instant found).1.usesUp = true → (∀ now, .rearm now ∉ since) →
      ∀ now links, (state.check now links).1 = .notDue ∨
        (state.check now links).1 = .alreadySuspended := by
  have remembers := remembers_after ran
  refine ⟨remembers.armed, ?_, ?_⟩
  · intro now links
    obtain ⟨calls, once⟩ := check_calls state now links
    refine ⟨?_, once, ?_, fun _deadline => lt_of_deadline_check state now links⟩
    · rw [calls, Lifecycle.isDue_iff, Links.hold?_eq_none_iff, ← remembers.inForce]
      rfl
    · intro fired
      obtain ⟨deadline, armed, come⟩ :=
        Lifecycle.isDue_iff.mp (isDue_of_usesUp state now links fired)
      exact ⟨deadline, (remembers.armed deadline).mp armed, come⟩
  · intro earlier instant found since before same reached fired never now links
    rw [same, State.after?_append, reached] at ran
    have usedUp : (before.check instant found).2.lifecycle.deadline = none := by
      rw [deadline_check, if_neg]
      intro notDue
      rw [notDue] at fired
      cases fired
    exact check_of_unarmed state now links (unarmed_after usedUp never ran)

/-- The radio cannot be taken down when the first deadline comes. The timeout that was
given in the meantime counts from the next rearming on. -/
def weary : List Event :=
  [.configure ⟨1000, true⟩, .rearm 5, .configure ⟨9, true⟩,
    .failure .tearDown (some .notConnected)]

def wearied : State :=
  { lifecycle :=
      { activity := .active, deadline := some 1005, timeout := 9, sleepEnabled := true }
    radio := { Radio.reliable with tearDownFailure := some .notConnected } }

def sleepless : List Event :=
  weary ++ .check 1005 ⟨true, true, false⟩ :: [.failure .tearDown none]

theorem weary_suspends :
    let woken := wearied.check 1005 ⟨true, true, false⟩
    let rested : State := { woken.2 with radio := woken.2.radio.setFailure none .tearDown }
    let rearmed : State := { rested with lifecycle := rested.lifecycle.rearm 2000 }
    ((State.new ⟨30, false⟩ .reliable).after? sleepless = some rested ∧
      woken.1.usesUp = true ∧
      ((rested.check 5000 ⟨true, true, false⟩).1 = .notDue ∨
        (rested.check 5000 ⟨true, true, false⟩).1 = .alreadySuspended)) ∧
    (State.new ⟨30, false⟩ .reliable).after? (sleepless ++ [.rearm 2000]) = some rearmed ∧
      rearmed.radio.TakenDown (rearmed.check 2009 ⟨true, true, false⟩).2.radio := by
  intro woken rested rearmed
  have before : (State.new ⟨30, false⟩ .reliable).after? weary = some wearied := by
    decide +kernel
  have first : (State.new ⟨30, false⟩ .reliable).after? sleepless = some rested := by
    decide +kernel
  have second :
      (State.new ⟨30, false⟩ .reliable).after? (sleepless ++ [.rearm 2000]) = some rearmed := by
    decide +kernel
  have fires : woken.1.usesUp = true := by decide +kernel
  obtain ⟨_armed, _checks, once⟩ := suspends_after_quiet_time first
  obtain ⟨_rearmed, checks, _once⟩ := suspends_after_quiet_time second
  refine ⟨⟨first, fires, ?_⟩, second, ?_⟩
  · exact once weary 1005 ⟨true, true, false⟩ [.failure .tearDown none] wearied rfl before fires
      (by simp only [List.mem_singleton, reduceCtorEq, not_false_eq_true, implies_true])
      5000 ⟨true, true, false⟩
  · exact (checks 2009 ⟨true, true, false⟩).1.mpr
      ⟨by decide +kernel, ⟨2009, by decide +kernel, Nat.le_refl _⟩, by decide +kernel, rfl, rfl,
        rfl⟩

end Sleep

end HidBridge
