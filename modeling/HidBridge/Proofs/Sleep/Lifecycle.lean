/-
What the operations of a lifecycle can do. A check comes to one of four ends. The halves
of checks and resumes leave the settings of the lifecycle alone, and leave the deadline
alone or use it up.
-/

import HidBridge.Sleep.Lifecycle

namespace HidBridge

theorem Links.hold?_eq_none_iff {links : Links} {sleepEnabled : Bool} :
    links.hold? sleepEnabled = none ↔
      sleepEnabled = true ∧ links.usbDevice = true ∧ links.blePeer = true ∧
        links.prioritySession = false := by
  obtain ⟨usbDevice, blePeer, prioritySession⟩ := links
  cases sleepEnabled <;> cases usbDevice <;> cases blePeer <;> cases prioritySession <;> decide

namespace Lifecycle

theorem isDue_iff {lifecycle : Lifecycle} {now : Nat} :
    lifecycle.isDue now = true ↔
      ∃ deadline, lifecycle.deadline = some deadline ∧ deadline ≤ now := by
  unfold isDue
  cases lifecycle.deadline with
  | none => simp only [Bool.false_eq_true, reduceCtorEq, false_and, exists_false]
  | some deadline => simp only [decide_eq_true_eq, Option.some.injEq, exists_eq_left']

theorem rearm?_eq_some_iff {lifecycle next : Lifecycle} {now : Nat} :
    lifecycle.rearm? now = some next ↔
      now + lifecycle.timeout ≤ Limits.maxInstant ∧ next = lifecycle.rearm now := by
  unfold rearm?
  split
  · rename_i shown
    simp only [Option.some.injEq, shown, true_and, eq_comm]
  · rename_i hidden
    simp only [reduceCtorEq, hidden, false_and]

section Check

variable {lifecycle next : Lifecycle} {now : Nat} {links : Links}
  {outcome : Option CheckOutcome}

/-- The first half of a check finds the radio suspended, or the deadline not there yet,
or a reason to stay awake, or nothing against taking the radio down. -/
theorem startCheck_cases (started : lifecycle.startCheck now links = (outcome, next)) :
    (lifecycle.activity = .suspended ∧
      outcome = some .alreadySuspended ∧ next = lifecycle.disarm) ∨
    (lifecycle.activity = .active ∧ lifecycle.isDue now = false ∧
      outcome = some .notDue ∧ next = lifecycle) ∨
    (lifecycle.activity = .active ∧ lifecycle.isDue now = true ∧
      ∃ reason, links.hold? lifecycle.sleepEnabled = some reason ∧
        outcome = some (.inert reason) ∧ next = lifecycle.disarm) ∨
    (lifecycle.activity = .active ∧ lifecycle.isDue now = true ∧
      links.hold? lifecycle.sleepEnabled = none ∧
        outcome = none ∧ next = { lifecycle.disarm with activity := .suspended }) := by
  unfold startCheck at started
  cases activity : lifecycle.activity with
  | suspended =>
      rw [activity] at started
      obtain ⟨said, same⟩ := Prod.mk.inj started
      exact Or.inl ⟨rfl, said.symm, same.symm⟩
  | active =>
      rw [activity] at started
      cases due : lifecycle.isDue now with
      | false =>
          rw [due] at started
          obtain ⟨said, same⟩ := Prod.mk.inj started
          exact Or.inr (Or.inl ⟨rfl, rfl, said.symm, same.symm⟩)
      | true =>
          rw [due] at started
          cases held : links.hold? lifecycle.sleepEnabled with
          | some reason =>
              rw [held] at started
              obtain ⟨said, same⟩ := Prod.mk.inj started
              exact Or.inr (Or.inr (Or.inl ⟨rfl, rfl, reason, rfl, said.symm, same.symm⟩))
          | none =>
              rw [held] at started
              obtain ⟨said, same⟩ := Prod.mk.inj started
              exact Or.inr (Or.inr (Or.inr ⟨rfl, rfl, rfl, said.symm, same.symm⟩))

theorem deadline_startCheck_due (started : lifecycle.startCheck now links = (outcome, next))
    (due : ∀ deadline, lifecycle.deadline = some deadline → deadline ≤ now) :
    next.deadline = none := by
  rcases startCheck_cases started with
    ⟨_suspended, _said, rfl⟩ | ⟨_active, early, _said, rfl⟩ |
      ⟨_active, _come, _reason, _held, _said, rfl⟩ | ⟨_active, _come, _free, _said, rfl⟩
  · rfl
  · cases armed : next.deadline with
    | none => rfl
    | some deadline =>
        have come := isDue_iff.mpr ⟨deadline, armed, due deadline armed⟩
        rw [early] at come
        cases come
  · rfl
  · rfl

end Check

/-! ### What both halves leave alone -/

/-- The settings of a lifecycle stay, and so does the deadline unless it is used up. -/
structure Follows (before after : Lifecycle) : Prop where
  timeout : after.timeout = before.timeout
  sleepEnabled : after.sleepEnabled = before.sleepEnabled
  deadline : after.deadline = none ∨ after.deadline = before.deadline

theorem Follows.refl (lifecycle : Lifecycle) : Follows lifecycle lifecycle :=
  ⟨rfl, rfl, Or.inr rfl⟩

theorem Follows.trans {first second third : Lifecycle} (earlier : Follows first second)
    (later : Follows second third) : Follows first third where
  timeout := later.timeout.trans earlier.timeout
  sleepEnabled := later.sleepEnabled.trans earlier.sleepEnabled
  deadline := by
    rcases later.deadline with usedUp | same
    · exact Or.inl usedUp
    · rw [same]
      exact earlier.deadline

theorem follows_disarm (lifecycle : Lifecycle) : Follows lifecycle lifecycle.disarm :=
  ⟨rfl, rfl, Or.inl rfl⟩

theorem follows_startCheck {lifecycle next : Lifecycle} {now : Nat} {links : Links}
    {outcome : Option CheckOutcome} (started : lifecycle.startCheck now links = (outcome, next)) :
    Follows lifecycle next := by
  rcases startCheck_cases started with
    ⟨_suspended, _said, rfl⟩ | ⟨_active, _early, _said, rfl⟩ |
      ⟨_active, _come, _reason, _held, _said, rfl⟩ | ⟨_active, _come, _free, _said, rfl⟩
  · exact follows_disarm lifecycle
  · exact .refl next
  · exact follows_disarm lifecycle
  · exact ⟨rfl, rfl, Or.inl rfl⟩

theorem deadline_endCheck (lifecycle : Lifecycle) (failure : Option RadioFault) :
    (lifecycle.endCheck failure).2.deadline = lifecycle.deadline := by
  cases failure <;> rfl

theorem follows_endCheck (lifecycle : Lifecycle) (failure : Option RadioFault) :
    Follows lifecycle (lifecycle.endCheck failure).2 := by
  cases failure <;> exact ⟨rfl, rfl, Or.inr rfl⟩

theorem startResume_eq_some_iff {lifecycle next : Lifecycle} :
    lifecycle.startResume = some next ↔
      lifecycle.activity = .suspended ∧ next = { lifecycle with activity := .active } := by
  unfold startResume
  cases lifecycle.activity with
  | active => simp only [reduceCtorEq, false_and]
  | suspended => simp only [Option.some.injEq, true_and, eq_comm]

theorem deadline_startResume {lifecycle next : Lifecycle}
    (resumed : lifecycle.startResume = some next) : next.deadline = lifecycle.deadline := by
  rw [(startResume_eq_some_iff.mp resumed).2]

theorem deadline_endResume (lifecycle : Lifecycle) (failure : Option RadioFault) :
    (lifecycle.endResume failure).2.deadline = lifecycle.deadline := by
  cases failure <;> rfl

theorem follows_startResume {lifecycle next : Lifecycle}
    (resumed : lifecycle.startResume = some next) : Follows lifecycle next := by
  rw [(startResume_eq_some_iff.mp resumed).2]
  exact ⟨rfl, rfl, Or.inr rfl⟩

theorem follows_endResume (lifecycle : Lifecycle) (failure : Option RadioFault) :
    Follows lifecycle (lifecycle.endResume failure).2 := by
  cases failure <;> exact ⟨rfl, rfl, Or.inr rfl⟩

theorem follows_check (lifecycle : Lifecycle) (radio : Radio) (now : Nat) (links : Links) :
    Follows lifecycle (lifecycle.check radio now links).2.1 := by
  cases started : lifecycle.startCheck now links with
  | mk early first =>
      have begun := follows_startCheck started
      cases early with
      | some outcome =>
          simp only [check, started]
          exact begun
      | none =>
          simp only [check, started]
          exact begun.trans (follows_endCheck first _)

theorem follows_resume (lifecycle : Lifecycle) (radio : Radio) :
    Follows lifecycle (lifecycle.resume radio).2.1 := by
  cases started : lifecycle.startResume with
  | none =>
      simp only [resume, started]
      exact .refl lifecycle
  | some next =>
      simp only [resume, started]
      exact (follows_startResume started).trans (follows_endResume next _)

theorem deadline_resume (lifecycle : Lifecycle) (radio : Radio) :
    (lifecycle.resume radio).2.1.deadline = lifecycle.deadline := by
  cases started : lifecycle.startResume with
  | none => simp only [resume, started]
  | some next =>
      simp only [resume, started]
      exact (deadline_endResume next _).trans (deadline_startResume started)

end Lifecycle

end HidBridge
