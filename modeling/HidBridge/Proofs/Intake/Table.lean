/-
What a table answers after it has changed. Storing layouts and forgetting them
concern one interface only, and a generation that is given away is larger than
all that are stored, until generations start over.
-/

import HidBridge.Intake.Table
import HidBridge.Proofs.Keyed
import HidBridge.Proofs.Layout.Append

namespace HidBridge

namespace Attached

def id (entry : Attached) : InterfaceId := entry.interface.id

theorem isFor_iff {entry : Attached} {interfaceId : InterfaceId} :
    entry.isFor interfaceId = true ↔ entry.interface.id = interfaceId := beq_iff_eq

theorem isFor_other {entry : Attached} {interfaceId other : InterfaceId}
    (same : entry.isFor interfaceId = true) (different : other ≠ interfaceId) :
    entry.isFor other = false := by
  apply Bool.eq_false_iff.mpr
  intro both
  exact different ((isFor_iff.mp both).symm.trans (isFor_iff.mp same))

end Attached

namespace Table

def ids (table : Table) : List InterfaceId := table.entries.map Attached.id

theorem any_isFor_iff {table : Table} {interfaceId : InterfaceId} :
    table.entries.any (fun entry => entry.isFor interfaceId) = true ↔
      interfaceId ∈ table.ids := Keyed.any_eq_true_iff

/-- Layouts come in place of those of their interface, or last, or are refused because every
place is taken by another interface. -/
theorem insert_forms (table : Table) (interface : Interface) :
    let entry : Attached := { generation := table.nextGeneration, interface }
    (interface.id ∈ table.ids ∧
      table.insert interface =
        (.ok table.nextGeneration,
          table.store (Keyed.replace Attached.id table.entries entry))) ∨
    (interface.id ∉ table.ids ∧ table.entries.length < Limits.interfaces ∧
      table.insert interface =
        (.ok table.nextGeneration, table.store (table.entries ++ [entry]))) ∨
    (interface.id ∉ table.ids ∧ Limits.interfaces ≤ table.entries.length ∧
      table.insert interface = (.error .interfaceTableFull, table)) := by
  intro entry
  unfold insert
  by_cases present : table.entries.any (fun old => old.isFor interface.id) = true
  · exact Or.inl ⟨any_isFor_iff.mp present, if_pos present⟩
  · have new := mt any_isFor_iff.mpr present
    by_cases room : table.entries.length < Limits.interfaces
    · exact Or.inr (Or.inl ⟨new, room, (if_neg present).trans (if_pos room)⟩)
    · exact Or.inr (Or.inr
        ⟨new, Nat.le_of_not_lt room, (if_neg present).trans (if_neg room)⟩)

/-- What storing layouts can come to. Either every place is taken by another
interface and nothing changes, or the layouts are stored with a generation of
their own and the answers for other interfaces stay. -/
theorem insert_cases (table : Table) (interface : Interface) :
    (table.insert interface = (.error .interfaceTableFull, table) ∧
      table.get? interface.id = none ∧ Limits.interfaces ≤ table.entries.length) ∨
    ∃ entries, table.insert interface = (.ok table.nextGeneration, table.store entries) ∧
      (table.store entries).get? interface.id =
        some { generation := table.nextGeneration, interface } ∧
      ∀ other, other ≠ interface.id → (table.store entries).get? other = table.get? other := by
  let entry : Attached := { generation := table.nextGeneration, interface }
  have own : interface.id = entry.id := rfl
  rw [own]
  rcases table.insert_forms interface with
    ⟨known, stored⟩ | ⟨new, _room, stored⟩ | ⟨new, full, refused⟩
  · refine Or.inr ⟨_, stored, Keyed.get?_replace_same known, ?_⟩
    intro other different
    exact Keyed.get?_replace_other _ different
  · refine Or.inr ⟨_, stored, Keyed.get?_append_same new, ?_⟩
    intro other different
    exact Keyed.get?_append_other _ different
  · exact Or.inl ⟨refused, Keyed.get?_eq_none_iff.mpr new, full⟩

theorem get?_remove_same (table : Table) (interfaceId : InterfaceId) :
    (table.remove interfaceId).2.get? interfaceId = none := by
  apply List.find?_eq_none.mpr
  intro entry member
  have kept := (List.mem_filter.mp member).2
  rw [Bool.not_eq_true'] at kept
  rw [kept]
  exact Bool.false_ne_true

theorem get?_remove_other (table : Table) {interfaceId other : InterfaceId}
    (different : other ≠ interfaceId) :
    (table.remove interfaceId).2.get? other = table.get? other := by
  unfold get? remove
  rw [List.find?_filter]
  refine congrArg (fun wanted => table.entries.find? wanted) (funext fun entry => ?_)
  cases same : entry.isFor other with
  | true =>
      rw [Attached.isFor_other same (Ne.symm different)]
      rfl
  | false =>
      simp only [Bool.false_eq_true, and_false, decide_false]

theorem succGeneration_of_lt {generation : Nat} (room : generation < Limits.maxUInt32) :
    succGeneration generation = generation + 1 := if_pos room

/-- Every stored generation was given away before the next one. -/
def Dated (table : Table) : Prop :=
  ∀ interfaceId entry, table.get? interfaceId = some entry →
    entry.generation < table.nextGeneration

theorem dated_empty : empty.Dated := by
  intro _interfaceId _entry found
  cases found

theorem Dated.insert {table : Table} (dated : table.Dated) (interface : Interface)
    (room : ∀ generation, (table.insert interface).1 = .ok generation →
      generation < Limits.maxUInt32) :
    (table.insert interface).2.Dated := by
  rcases table.insert_cases interface with ⟨refused, _unknown, _full⟩ | ⟨entries, stored, own, others⟩
  · rw [refused]
    exact dated
  · have next : (table.store entries).nextGeneration = table.nextGeneration + 1 :=
      succGeneration_of_lt (room _ (by rw [stored]))
    rw [stored]
    intro interfaceId entry found
    rw [next]
    by_cases same : interfaceId = interface.id
    · rw [same, own] at found
      rw [← Option.some.inj found]
      exact Nat.lt_succ_self _
    · rw [others interfaceId same] at found
      exact Nat.lt_succ_of_lt (dated interfaceId entry found)

theorem Dated.remove {table : Table} (dated : table.Dated) (interfaceId : InterfaceId) :
    (table.remove interfaceId).2.Dated := by
  intro other entry found
  by_cases same : other = interfaceId
  · rw [same, get?_remove_same] at found
    cases found
  · rw [table.get?_remove_other same] at found
    exact dated other entry found

end Table

namespace Interface

theorem id_declare (interface : Interface) (declaration : Declaration) :
    (interface.declare declaration).id = interface.id := by
  rcases interface.declare_cases declaration with
    ⟨_known, declared⟩ | ⟨_unknown, _room, declared⟩ | ⟨_unknown, _full, declared⟩ <;>
    rw [declared]

theorem id_ofDescriptor (id : InterfaceId) (bytes : List UInt8) :
    (ofDescriptor id bytes).id = id := by
  have kept (declarations : List Declaration) (interface : Interface) :
      (declarations.foldl declare interface).id = interface.id := by
    induction declarations generalizing interface with
    | nil => rfl
    | cons declaration rest ih => rw [List.foldl_cons, ih, id_declare]
  exact kept _ _

theorem input?_reportId {interface : Interface} {reportId : ReportId} {layout : Layout}
    (found : interface.input? reportId = some layout) :
    interface.input? layout.reportId = some layout := by
  have serves := List.find?_some found
  have own := (Layout.serves_iff.mp serves).1
  unfold input? layout? at found ⊢
  rw [own]
  cases names : interface.namesReports with
  | true =>
      simp only [names, if_true] at found ⊢
      exact found
  | false =>
      simp only [names, Bool.false_eq_true, if_false] at found ⊢
      exact found

end Interface

end HidBridge
