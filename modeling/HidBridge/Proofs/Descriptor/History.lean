/-
What the items before a place of a descriptor say about it, read off by looking
back over them. A value that holds until it is changed is that of the last item
that set it. A value that holds for one main item is looked for among the items
after the last main item only. No number of items that are remembered limits
this reading, and it agrees with what the items leave in a context.
-/

import HidBridge.Descriptor.Declarations
import Mathlib.Data.List.Induction

namespace HidBridge.Descriptor

namespace ShortItem

def global? (tag : Nat) (item : ShortItem) : Option ShortItem :=
  if item.kind = .globalItem ∧ item.tag = tag then some item else none

def local? (tag : Nat) (item : ShortItem) : Option Nat :=
  if item.kind = .localItem ∧ item.tag = tag then some (item.data % 0x10000) else none

end ShortItem

/-- The items before a place, earliest first. -/
abbrev History := List ShortItem

namespace History

/-- What was said last of all that `said?` hears. -/
def last? {α : Type} (history : History) (said? : ShortItem → Option α) : Option α :=
  history.reverse.findSome? said?

def sinceMain (history : History) : History :=
  (history.reverse.takeWhile (fun item => decide (item.kind ≠ .mainItem))).reverse

def setting {α : Type} (history : History) (tag : Nat) (value : ShortItem → α) (unset : α) : α :=
  ((history.last? (ShortItem.global? tag)).map value).getD unset

def page (history : History) : Nat := history.setting 0x0 (fun item => item.data % 0x10000) 0

def logicalMinimum (history : History) : Int := history.setting 0x1 ShortItem.signed 0

def logicalMaximum (history : History) : Int := history.setting 0x2 ShortItem.signed 0

def unitSize (history : History) : Nat := history.setting 0x7 ShortItem.data 0

def unitCount (history : History) : Nat := history.setting 0x9 ShortItem.data 0

def reportId (history : History) : ReportId :=
  history.setting 0x8 (fun item => UInt8.ofNat item.data) 0

def usages (history : History) : List Nat := history.sinceMain.filterMap (ShortItem.local? 0x0)

/-- The usage declared last, for whichever main item. -/
def currentUsage (history : History) : Nat := (history.last? (ShortItem.local? 0x0)).getD 0

def usageMinimum (history : History) : Nat :=
  (history.sinceMain.last? (ShortItem.local? 0x1)).getD 0

def usageMaximum (history : History) : Nat :=
  (history.sinceMain.last? (ShortItem.local? 0x2)).getD 0

def hasRange (history : History) : Bool :=
  history.sinceMain.any (fun item =>
    (item.local? 0x1).isSome || (item.local? 0x2).isSome)

/-- The listed usage of one unit, or the last one listed, or the current one. -/
def usageOf (history : History) (unit : Nat) : Nat :=
  history.usages[unit]?.getD (history.usages.getLast?.getD history.currentUsage)

/-- A range that ends before it begins has one usage. -/
def rangeLength (history : History) : Nat :=
  if history.usageMaximum < history.usageMinimum then 1
  else history.usageMaximum - history.usageMinimum + 1

variable {α : Type}

theorem last?_append (history : History) (item : ShortItem) (said? : ShortItem → Option α) :
    last? (history ++ [item]) said? = (said? item).or (history.last? said?) := by
  simp only [last?, List.reverse_append, List.reverse_singleton, List.singleton_append,
    List.findSome?_cons]
  cases said? item <;> rfl

theorem sinceMain_append_main (history : History) {item : ShortItem}
    (kind : item.kind = .mainItem) : sinceMain (history ++ [item]) = [] := by
  simp only [sinceMain, List.reverse_append, List.reverse_singleton, List.singleton_append,
    List.takeWhile_cons, kind, ne_eq, not_true_eq_false, decide_false, Bool.false_eq_true,
    if_false, List.reverse_nil]

theorem sinceMain_append_other (history : History) {item : ShortItem}
    (kind : item.kind ≠ .mainItem) :
    sinceMain (history ++ [item]) = history.sinceMain ++ [item] := by
  unfold sinceMain
  rw [List.reverse_append, List.reverse_singleton, List.singleton_append, List.takeWhile_cons,
    if_pos (decide_eq_true kind), List.reverse_cons]

theorem setting_append_global (history : History) {item : ShortItem}
    (kind : item.kind = .globalItem) (tag : Nat) (value : ShortItem → α) (unset : α) :
    setting (history ++ [item]) tag value unset =
      if item.tag = tag then value item else history.setting tag value unset := by
  unfold setting
  rw [last?_append]
  by_cases same : item.tag = tag
  · simp only [ShortItem.global?, kind, same, and_self, if_true, Option.some_or, Option.map_some,
      Option.getD_some]
  · simp only [ShortItem.global?, same, and_false, if_false, Option.none_or]

theorem setting_append_other (history : History) {item : ShortItem}
    (kind : item.kind ≠ .globalItem) (tag : Nat) (value : ShortItem → α) (unset : α) :
    setting (history ++ [item]) tag value unset = history.setting tag value unset := by
  unfold setting
  rw [last?_append]
  simp only [ShortItem.global?, kind, false_and, if_false, Option.none_or]

def globals (history : History) : Globals :=
  { page := history.page
    logicalMinimum := history.logicalMinimum
    logicalMaximum := history.logicalMaximum
    unitSize := history.unitSize
    unitCount := history.unitCount
    reportId := history.reportId }

/-- The values that hold for one main item, as the history gives them, with as
many usages as a context lists. -/
def locals (history : History) : Locals :=
  { usages := history.usages.take Limits.usages
    current := history.currentUsage
    usageMinimum := history.usageMinimum
    usageMaximum := history.usageMaximum
    hasRange := history.hasRange }

theorem globals_append_global (history : History) {item : ShortItem}
    (kind : item.kind = .globalItem) :
    globals (history ++ [item]) = history.globals.take item := by
  have said (tag : Nat) {β : Type} (value : ShortItem → β) (unset : β) :=
    setting_append_global history kind tag value unset
  unfold Globals.take
  split
  case h_7 page minimum maximum size number count =>
    simp only [globals, History.page, logicalMinimum, logicalMaximum, unitSize, unitCount,
      reportId, said, if_neg page, if_neg minimum, if_neg maximum, if_neg size, if_neg number,
      if_neg count]
  all_goals
    rename_i tag
    simp only [globals, page, logicalMinimum, logicalMaximum, unitSize, unitCount, reportId, said,
      tag]
    rfl

theorem globals_append_other (history : History) {item : ShortItem}
    (kind : item.kind ≠ .globalItem) : globals (history ++ [item]) = history.globals := by
  simp only [globals, page, logicalMinimum, logicalMaximum, unitSize, unitCount, reportId,
    setting_append_other history kind]

theorem locals_append_main (history : History) {item : ShortItem}
    (kind : item.kind = .mainItem) : locals (history ++ [item]) = history.locals.reset := by
  have heard : item.local? 0x0 = none := if_neg (by rw [kind]; exact fun both => nomatch both.1)
  simp only [locals, usages, currentUsage, usageMinimum, usageMaximum, hasRange,
    sinceMain_append_main history kind, last?_append, heard, Option.none_or]
  rfl

theorem take_append_single (listed : List Nat) (usage : Nat) :
    (listed ++ [usage]).take Limits.usages =
      if (listed.take Limits.usages).length < Limits.usages then
        listed.take Limits.usages ++ [usage]
      else listed.take Limits.usages := by
  rw [List.length_take]
  split
  · rename_i room
    have whole : listed.length + 1 ≤ Limits.usages := by omega
    have longer : (listed ++ [usage]).length ≤ Limits.usages := by
      rw [List.length_append, List.length_singleton]
      exact whole
    rw [List.take_of_length_le longer, List.take_of_length_le (Nat.le_of_succ_le whole)]
  · rename_i full
    exact List.take_append_of_le_length (by omega)

theorem locals_append (history : History) {item : ShortItem} (notMain : item.kind ≠ .mainItem) :
    locals (history ++ [item]) =
      { usages := (history.usages ++ (item.local? 0x0).toList).take Limits.usages
        current := (item.local? 0x0).getD history.currentUsage
        usageMinimum := (item.local? 0x1).getD history.usageMinimum
        usageMaximum := (item.local? 0x2).getD history.usageMaximum
        hasRange := history.hasRange ||
          ((item.local? 0x1).isSome || (item.local? 0x2).isSome) } := by
  have last (said? : ShortItem → Option Nat) (before : History) (unset : Nat) :
      (last? (before ++ [item]) said?).getD unset =
        (said? item).getD ((before.last? said?).getD unset) := by
    rw [last?_append]
    cases said? item <;> rfl
  have listed : usages (history ++ [item]) = history.usages ++ (item.local? 0x0).toList := by
    unfold usages
    rw [sinceMain_append_other history notMain, List.filterMap_append]
    cases found : item.local? 0x0 <;>
      simp only [List.filterMap_cons, List.filterMap_nil, found, Option.toList]
  simp only [locals, listed, currentUsage, usageMinimum, usageMaximum, hasRange,
    sinceMain_append_other history notMain, last, List.any_append, List.any_cons, List.any_nil,
    Bool.or_false]

theorem locals_append_local (history : History) {item : ShortItem}
    (kind : item.kind = .localItem) : locals (history ++ [item]) = history.locals.take item := by
  have heard {tag : Nat} (same : item.tag = tag) : item.local? tag = some (item.data % 0x10000) :=
    if_pos ⟨kind, same⟩
  have unheard (tag : Nat) (different : item.tag ≠ tag) : item.local? tag = none :=
    if_neg (fun both => different both.2)
  rw [locals_append history (by rw [kind]; exact nofun)]
  unfold Locals.take
  dsimp only
  split
  case h_1 tag =>
    simp only [heard tag, unheard 0x1 (by rw [tag]; decide),
      unheard 0x2 (by rw [tag]; decide), Option.toList, Option.getD_some,
      Option.getD_none, Option.isSome_none, Bool.or_false, take_append_single]
    rfl
  case h_2 tag =>
    simp only [unheard 0x0 (by rw [tag]; decide), heard tag,
      unheard 0x2 (by rw [tag]; decide), Option.toList, List.append_nil,
      Option.getD_some, Option.getD_none, Option.isSome_some, Bool.true_or, Bool.or_true]
    rfl
  case h_3 tag =>
    simp only [unheard 0x0 (by rw [tag]; decide),
      unheard 0x1 (by rw [tag]; decide), heard tag, Option.toList, List.append_nil,
      Option.getD_some, Option.getD_none, Option.isSome_some, Bool.or_true]
    rfl
  case h_4 listed first last =>
    simp only [unheard 0x0 listed, unheard 0x1 first, unheard 0x2 last, Option.toList, List.append_nil,
      Option.getD_none, Option.isSome_none, Bool.or_false]
    rfl

theorem locals_append_other (history : History) {item : ShortItem}
    (notMain : item.kind ≠ .mainItem) (notLocal : item.kind ≠ .localItem) :
    locals (history ++ [item]) = history.locals := by
  have heard (tag : Nat) : item.local? tag = none := if_neg (fun both => notLocal both.1)
  rw [locals_append history notMain]
  simp only [heard, Option.toList, List.append_nil, Option.getD_none, Option.isSome_none,
    Bool.or_false]
  rfl

end History

namespace Context

def after (context : Context) (items : List ShortItem) : Context := items.foldl take context

theorem after_append (context : Context) (items : List ShortItem) (item : ShortItem) :
    context.after (items ++ [item]) = (context.after items).take item := by
  unfold after
  rw [List.foldl_append, List.foldl_cons, List.foldl_nil]

/-- Looking back gives what the items leave in the context. -/
theorem after_initial (history : History) :
    (initial.after history).globals = history.globals ∧
      (initial.after history).locals = history.locals := by
  induction history using List.reverseRecOn with
  | nil => exact ⟨rfl, rfl⟩
  | append_singleton history item ih =>
      rw [after_append]
      cases kind : item.kind with
      | mainItem =>
          rw [History.globals_append_other history (by rw [kind]; exact nofun),
            History.locals_append_main history kind, ← ih.1, ← ih.2]
          simp only [take, kind, and_self]
      | globalItem =>
          rw [History.globals_append_global history kind,
            History.locals_append_other history (by rw [kind]; exact nofun)
              (by rw [kind]; exact nofun), ← ih.1, ← ih.2]
          simp only [take, kind, and_self]
      | localItem =>
          rw [History.globals_append_other history (by rw [kind]; exact nofun),
            History.locals_append_local history kind, ← ih.1, ← ih.2]
          simp only [take, kind, and_self]
      | reserved =>
          rw [History.globals_append_other history (by rw [kind]; exact nofun),
            History.locals_append_other history (by rw [kind]; exact nofun)
              (by rw [kind]; exact nofun), ← ih.1, ← ih.2]
          simp only [take, kind, and_self]

end Context

end HidBridge.Descriptor
