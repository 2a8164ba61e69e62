/-
A table is a finite map with a place for four interfaces. What calls answer, and what is
found after them, is what the map says, wherever the table keeps its entries: they may
change places between two calls. Each layout that is stored gets the next generation.
-/

import HidBridge.Proofs.Intake.Table
import Mathlib.Data.Finmap

namespace HidBridge

/-- The layouts of each interface that is attached, and how many were stored in all. -/
structure Directory where
  map : Finmap (fun _ : InterfaceId => Attached)
  stored : Nat

namespace Directory

def empty : Directory := { map := ∅, stored := 0 }

def others (directory : Directory) (interfaceId : InterfaceId) : Finset InterfaceId :=
  directory.map.keys.erase interfaceId

def insert (directory : Directory) (interface : Interface) : Except Fault Nat × Directory :=
  if (directory.others interface.id).card < Limits.interfaces then
    let generation := directory.stored + 1
    (.ok generation,
      { map := directory.map.insert interface.id { generation, interface }
        stored := generation })
  else (.error .interfaceTableFull, directory)

def remove (directory : Directory) (interfaceId : InterfaceId) : Bool × Directory :=
  (decide (interfaceId ∈ directory.map.keys),
    { directory with map := directory.map.erase interfaceId })

end Directory

namespace Table

inductive Call where
  | insert (interface : Interface)
  | remove (interfaceId : InterfaceId)

inductive Reply where
  | inserted (result : Except Fault Nat)
  | removed (found : Bool)

def Reply.generation? : Reply → Option Nat
  | .inserted (.ok generation) => some generation
  | _ => none

def call (table : Table) : Call → Reply × Table
  | .insert interface =>
    let (result, next) := table.insert interface
    (.inserted result, next)
  | .remove interfaceId =>
    let (found, next) := table.remove interfaceId
    (.removed found, next)

end Table

def Directory.call (directory : Directory) : Table.Call → Table.Reply × Directory
  | .insert interface =>
    let (result, next) := directory.insert interface
    (.inserted result, next)
  | .remove interfaceId =>
    let (found, next) := directory.remove interfaceId
    (.removed found, next)

namespace Table

def run {State : Type} (step : State → Call → Reply × State) (first : State)
    (calls : List Call) : List Reply × State :=
  calls.foldl
    (fun before call => (before.1 ++ [(step before.2 call).1], (step before.2 call).2))
    ([], first)

/-- Calls with their replies, and a table after them. Between the calls its entries may
change places, as when the last one fills the gap of one that was removed. -/
inductive Course : List Call → List Reply → Table → Prop where
  | empty : Course [] [] .empty
  | call {calls : List Call} {replies : List Reply} {table : Table} (call : Call) :
    Course calls replies table →
      Course (calls ++ [call]) (replies ++ [(table.call call).1]) (table.call call).2
  | reorder {calls : List Call} {replies : List Reply} {table : Table}
    {entries : List Attached} : entries.Perm table.entries → Course calls replies table →
      Course calls replies { table with entries }

def generations (replies : List Reply) : List Nat := replies.filterMap Reply.generation?

theorem run_append_single {State : Type} (step : State → Call → Reply × State) (first : State)
    (calls : List Call) (call : Call) :
    run step first (calls ++ [call]) =
      ((run step first calls).1 ++ [(step (run step first calls).2 call).1],
        (step (run step first calls).2 call).2) := List.foldl_append

theorem course_run (calls : List Call) :
    Course calls (run call .empty calls).1 (run call .empty calls).2 := by
  induction calls using List.reverseRecOn with
  | nil => exact .empty
  | append_singleton calls call ih =>
      rw [run_append_single]
      exact .call call ih

/-! ### One call -/

theorem nodup_ids_insert {table : Table} (distinct : table.ids.Nodup) (interface : Interface) :
    (table.insert interface).2.ids.Nodup := by
  rcases table.insert_forms interface with
    ⟨_known, stored⟩ | ⟨new, _room, stored⟩ | ⟨_new, _full, refused⟩
  · rw [stored, ids, store, Keyed.keys_replace]
    exact distinct
  · rw [stored]
    exact Keyed.nodup_append distinct new
  · rw [refused]
    exact distinct

theorem length_ids_insert {table : Table} (places : table.ids.length ≤ Limits.interfaces)
    (interface : Interface) : (table.insert interface).2.ids.length ≤ Limits.interfaces := by
  rcases table.insert_forms interface with
    ⟨_known, stored⟩ | ⟨_new, room, stored⟩ | ⟨_new, _full, refused⟩
  · rw [stored, ids, store, Keyed.keys_replace]
    exact places
  · rw [stored, ids, store, List.length_map, List.length_append]
    exact room
  · rw [refused]
    exact places

/-- A table with the contents of a directory, in any order. -/
structure Represents (table : Table) (directory : Directory) : Prop where
  distinct : table.ids.Nodup
  places : table.ids.length ≤ Limits.interfaces
  get? : ∀ interfaceId, table.get? interfaceId = directory.map.lookup interfaceId
  dated : table.Dated
  next : table.nextGeneration = directory.stored + 1

theorem represents_empty : empty.Represents .empty where
  distinct := List.nodup_nil
  places := Nat.zero_le _
  get? := fun _interfaceId => rfl
  dated := dated_empty
  next := rfl

namespace Represents

variable {table : Table} {directory : Directory} (represents : table.Represents directory)

include represents

theorem mem_keys_iff {interfaceId : InterfaceId} :
    interfaceId ∈ directory.map.keys ↔ interfaceId ∈ table.ids := by
  rw [Finmap.mem_keys, ← not_iff_not, ← Finmap.lookup_eq_none, ← represents.get?]
  exact Keyed.get?_eq_none_iff

theorem keys_eq : directory.map.keys = table.ids.toFinset :=
  Finset.ext fun _interfaceId => represents.mem_keys_iff.trans List.mem_toFinset.symm

theorem card_keys : directory.map.keys.card = table.size := by
  rw [represents.keys_eq, List.toFinset_card_of_nodup represents.distinct]
  exact List.length_map _

theorem reorder {entries : List Attached} (reordered : entries.Perm table.entries) :
    Represents { table with entries } directory := by
  have found (interfaceId : InterfaceId) :
      Table.get? { table with entries } interfaceId = table.get? interfaceId :=
    Keyed.get?_perm represents.distinct reordered interfaceId
  have ids : (Table.ids { table with entries }).Perm table.ids := reordered.map _
  exact
    { distinct := ids.nodup_iff.mpr represents.distinct
      places := ids.length_eq.le.trans represents.places
      get? := fun interfaceId => (found interfaceId).trans (represents.get? interfaceId)
      dated := fun interfaceId entry kept =>
        represents.dated interfaceId entry ((found interfaceId).symm.trans kept)
      next := represents.next }

theorem card_others (interfaceId : InterfaceId) :
    (directory.others interfaceId).card = Limits.interfaces ↔
      interfaceId ∉ table.ids ∧ Limits.interfaces ≤ table.ids.length := by
  have size : directory.map.keys.card = table.ids.length :=
    represents.card_keys.trans (List.length_map _).symm
  have places := represents.places
  unfold Directory.others
  by_cases known : interfaceId ∈ table.ids
  · have some : 0 < table.ids.length := List.length_pos_of_mem known
    rw [Finset.card_erase_of_mem (represents.mem_keys_iff.mpr known), size]
    exact iff_of_false (by omega) (fun both => both.1 known)
  · rw [Finset.erase_eq_of_notMem (mt represents.mem_keys_iff.mp known), size,
      and_iff_right known]
    exact ⟨Eq.ge, Nat.le_antisymm places⟩

theorem card_others_le (interfaceId : InterfaceId) :
    (directory.others interfaceId).card ≤ Limits.interfaces := by
  have size : directory.map.keys.card = table.ids.length :=
    represents.card_keys.trans (List.length_map _).symm
  exact (Finset.card_le_card (Finset.erase_subset _ _)).trans (size.trans_le represents.places)

theorem insert_cases (interface : Interface) :
    ((directory.others interface.id).card = Limits.interfaces ∧
      table.insert interface = (.error .interfaceTableFull, table)) ∨
    ((directory.others interface.id).card < Limits.interfaces ∧
      ∃ entries, table.insert interface = (.ok table.nextGeneration, table.store entries) ∧
        (table.store entries).get? interface.id =
          some { generation := table.nextGeneration, interface } ∧
        ∀ other, other ≠ interface.id →
          (table.store entries).get? other = table.get? other) := by
  have full := represents.card_others interface.id
  rcases table.insert_cases interface with ⟨refused, unknown, places⟩ | ⟨entries, stored, found⟩
  · have absent : interface.id ∉ table.ids := Keyed.get?_eq_none_iff.mp unknown
    exact Or.inl ⟨full.mpr ⟨absent, places.trans (List.length_map _).ge⟩, refused⟩
  · refine Or.inr ⟨?_, entries, stored, found⟩
    refine (represents.card_others_le interface.id).lt_of_ne fun all => ?_
    obtain ⟨absent, places⟩ := full.mp all
    rcases table.insert_forms interface with
      ⟨known, _same⟩ | ⟨_new, room, _more⟩ | ⟨_new, _full, refused⟩
    · exact absent known
    · exact Nat.not_lt_of_le places ((List.length_map _).trans_lt room)
    · cases refused.symm.trans stored

theorem insert (interface : Interface) :
    (table.insert interface).1 = (directory.insert interface).1 ∧
      ((directory.insert interface).2.stored < Limits.maxUInt32 →
        (table.insert interface).2.Represents (directory.insert interface).2) := by
  have distinct := nodup_ids_insert represents.distinct interface
  have places := length_ids_insert represents.places interface
  have dated := represents.dated.insert interface
  have next := represents.next
  rcases represents.insert_cases interface with
    ⟨all, refused⟩ | ⟨free, entries, stored, own, others⟩
  · rw [refused, Directory.insert, if_neg all.not_lt]
    exact ⟨rfl, fun _few => represents⟩
  · rw [stored] at distinct places dated
    rw [stored, Directory.insert, if_pos free]
    refine ⟨congrArg Except.ok next, fun few => ?_⟩
    have room : table.nextGeneration < Limits.maxUInt32 := next ▸ few
    refine
      { distinct
        places
        get? := ?_
        dated := dated (fun given said => Except.ok.inj said ▸ room)
        next := (succGeneration_of_lt room).trans (congrArg _ next) }
    intro interfaceId
    by_cases same : interfaceId = interface.id
    · rw [same, own, Finmap.lookup_insert, next]
    · rw [others _ same, Finmap.lookup_insert_of_ne _ same, represents.get?]

theorem remove (interfaceId : InterfaceId) :
    (table.remove interfaceId).1 = (directory.remove interfaceId).1 ∧
      (table.remove interfaceId).2.Represents (directory.remove interfaceId).2 := by
  have fewer : (table.remove interfaceId).2.ids.Sublist table.ids := List.filter_sublist.map _
  have known : table.entries.any (fun entry => entry.isFor interfaceId) = true ↔
      interfaceId ∈ directory.map.keys := any_isFor_iff.trans represents.mem_keys_iff.symm
  constructor
  · exact Bool.eq_iff_iff.mpr (known.trans decide_eq_true_iff.symm)
  · refine
      { distinct := represents.distinct.sublist fewer
        places := fewer.length_le.trans represents.places
        get? := ?_
        dated := represents.dated.remove interfaceId
        next := represents.next }
    intro asked
    by_cases same : asked = interfaceId
    · rw [same, get?_remove_same]
      exact (Finmap.lookup_erase interfaceId directory.map).symm
    · rw [get?_remove_other _ same, represents.get?]
      exact (Finmap.lookup_erase_ne same).symm

theorem call (call : Call) :
    (table.call call).1 = (directory.call call).1 ∧
      ((directory.call call).2.stored < Limits.maxUInt32 →
        (table.call call).2.Represents (directory.call call).2) := by
  cases call with
  | insert interface =>
      obtain ⟨same, stored⟩ := represents.insert interface
      exact ⟨congrArg Reply.inserted same, stored⟩
  | remove interfaceId =>
      obtain ⟨same, removed⟩ := represents.remove interfaceId
      exact ⟨congrArg Reply.removed same, fun _few => removed⟩

end Represents

/-! ### Any number of calls -/

def reference (calls : List Call) : List Reply × Directory := run Directory.call .empty calls

theorem generation?_call (directory : Directory) (call : Call) :
    (directory.call call).1.generation? = none ∧
      (directory.call call).2.stored = directory.stored ∨
    (directory.call call).1.generation? = some (directory.stored + 1) ∧
      (directory.call call).2.stored = directory.stored + 1 := by
  cases call with
  | insert interface =>
      by_cases free : (directory.others interface.id).card < Limits.interfaces
      · rw [Directory.call, Directory.insert, if_pos free]
        exact Or.inr ⟨rfl, rfl⟩
      · rw [Directory.call, Directory.insert, if_neg free]
        exact Or.inl ⟨rfl, rfl⟩
  | remove interfaceId => exact Or.inl ⟨rfl, rfl⟩

theorem generations_reference (calls : List Call) :
    generations (reference calls).1 = List.range' 1 (reference calls).2.stored := by
  unfold reference
  induction calls using List.reverseRecOn with
  | nil => rfl
  | append_singleton calls call ih =>
      rw [run_append_single]
      unfold generations at ih ⊢
      rw [List.filterMap_append, ih]
      rcases generation?_call (run Directory.call .empty calls).2 call with
        ⟨given, stored⟩ | ⟨given, stored⟩
      · rw [List.filterMap_cons_none given, List.filterMap_nil, List.append_nil, stored]
      · rw [List.filterMap_cons_some given, List.filterMap_nil, stored, List.range'_1_concat,
          Nat.add_comm 1]

theorem Course.represents {calls : List Call} {replies : List Reply} {table : Table}
    (course : Course calls replies table)
    (few : (generations replies).length < Limits.maxUInt32) :
    replies = (reference calls).1 ∧ table.Represents (reference calls).2 := by
  induction course with
  | empty => exact ⟨rfl, represents_empty⟩
  | @call calls replies table call course ih =>
      have fewer : (generations replies).length < Limits.maxUInt32 := by
        unfold generations at few ⊢
        rw [List.filterMap_append, List.length_append] at few
        omega
      obtain ⟨same, represents⟩ := ih fewer
      obtain ⟨reply, next⟩ := represents.call call
      have replied : replies ++ [(table.call call).1] = (reference (calls ++ [call])).1 := by
        rw [reference, run_append_single, ← reference, ← same, reply]
      refine ⟨replied, ?_⟩
      rw [replied, generations_reference, List.length_range'] at few
      rw [reference, run_append_single] at few ⊢
      exact next few
  | reorder reordered _course ih =>
      obtain ⟨same, represents⟩ := ih few
      exact ⟨same, represents.reorder reordered⟩

/-- A table answers calls as the finite map does, wherever it keeps its entries, as long as
there are generations left. Layouts are refused exactly if four other interfaces are stored,
and then nothing changes. The generations are 1, 2, 3 and so on, and none is given twice. -/
theorem Course.refines_map {calls : List Call} {replies : List Reply} {table : Table}
    (course : Course calls replies table)
    (few : (generations replies).length < Limits.maxUInt32) :
    let map := (reference calls).2.map
    replies = (reference calls).1 ∧
      (∀ interfaceId, table.get? interfaceId = map.lookup interfaceId) ∧
      table.size = map.keys.card ∧ (table.isEmpty = true ↔ map.keys = ∅) ∧
      (∀ interface,
        if (map.keys.erase interface.id).card = Limits.interfaces then
          table.insert interface = (.error .interfaceTableFull, table)
        else (table.insert interface).1 = .ok table.nextGeneration) ∧
      generations replies = List.range' 1 (generations replies).length ∧
      (generations replies).Nodup ∧
      table.nextGeneration = (generations replies).length + 1 ∧
      (table.entries.map (fun entry => entry.interface.id)).Nodup ∧
      ∀ entry, entry ∈ table.entries → entry.generation < table.nextGeneration := by
  obtain ⟨same, represents⟩ := course.represents few
  have given := generations_reference calls
  have count : (generations replies).length = (reference calls).2.stored := by
    rw [same, given, List.length_range']
  refine ⟨same, represents.get?, represents.card_keys.symm, ?_, ?_, ?_, ?_, ?_,
    represents.distinct, ?_⟩
  · rw [← Finset.card_eq_zero, represents.card_keys]
    exact List.isEmpty_iff.trans List.length_eq_zero_iff.symm
  · intro interface
    rcases represents.insert_cases interface with ⟨all, refused⟩ | ⟨free, _entries, stored, _found⟩
    · exact (if_pos all).mpr refused
    · refine (if_neg free.ne).mpr ?_
      rw [stored]
  · rw [count, same, given]
  · rw [same, given]
    exact List.nodup_range'
  · rw [represents.next, count]
  · intro entry member
    exact represents.dated entry.id entry
      ((Keyed.get?_eq_some_iff represents.distinct).mpr ⟨member, rfl⟩)

/-- Four interfaces, one more that is refused, one whose layouts are replaced, and one that
is removed. -/
def turnover : List Call :=
  [.insert (.empty 1 false), .insert (.empty 2 false), .insert (.empty 3 false),
    .insert (.empty 4 false), .insert (.empty 5 false), .insert (.empty 2 true), .remove 1]

/-- The last entry has filled the gap of the one that was removed. -/
theorem turnover_refines :
    let table : Table :=
      { entries :=
          [{ generation := 4, interface := .empty 4 false },
            { generation := 5, interface := .empty 2 true },
            { generation := 3, interface := .empty 3 false }]
        nextGeneration := 6 }
    ∃ replies, Course turnover replies table ∧ (generations replies).length < Limits.maxUInt32 ∧
      generations replies = [1, 2, 3, 4, 5] ∧
      (∀ interfaceId, table.get? interfaceId = (reference turnover).2.map.lookup interfaceId) ∧
      table.size = (reference turnover).2.map.keys.card := by
  intro table
  have ran := course_run turnover
  have moved : table.entries.Perm (run call .empty turnover).2.entries := by decide
  have few : (generations (run call .empty turnover).1).length < Limits.maxUInt32 := by decide
  have course : Course turnover (run call .empty turnover).1 table := .reorder moved ran
  obtain ⟨_replies, found, size, _rest⟩ := course.refines_map few
  exact ⟨_, course, few, rfl, found, size⟩

end Table

end HidBridge
