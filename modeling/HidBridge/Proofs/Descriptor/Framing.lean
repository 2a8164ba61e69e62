/-
Where items begin and end. The first bytes of an item declare its length, so an item can be cut
off the front of a descriptor, then the next one, until what is left is an item that has been
begun at most. The reader, which takes one byte at a time, hands out the same items, and no other
sequence of items is written in the same way.
-/

import HidBridge.Proofs.Descriptor.Reading
import Mathlib.Logic.ExistsUnique

namespace HidBridge.Descriptor

instance : (item : Item) → Decidable item.WellFormed
  | .short item =>
    inferInstanceAs (Decidable (item.tag < 16 ∧ item.data < Nat.pow 256 item.width.bytes ∧
      item.lead ≠ longLead))
  | .long _ body => inferInstanceAs (Decidable (body.length < 256))

/-- The bytes are the beginning of an item, but not all of it. No bytes at all are one, too. -/
def Begun (bytes : List UInt8) : Prop :=
  ∃ item : Item, item.WellFormed ∧ bytes <+: item.encode ∧ bytes ≠ item.encode

theorem begun_of_missing (item : Item) (missing : List UInt8) {bytes : List UInt8}
    (wellFormed : item.WellFormed) (some_missing : missing ≠ [])
    (written : item.encode = bytes ++ missing) : Begun bytes := by
  refine ⟨item, wellFormed, ⟨missing, written.symm⟩, ?_⟩
  intro whole
  rw [← whole] at written
  exact some_missing (List.self_eq_append_right.mp written)

/-- No item is the beginning of another one. -/
theorem Begun.incomplete {bytes : List UInt8} (begun : Begun bytes) {item : Item}
    (wellFormed : item.WellFormed) : ¬item.encode <+: bytes := by
  intro ⟨more, inside⟩
  obtain ⟨other, otherWellFormed, ⟨rest, written⟩, notWhole⟩ := begun
  rw [← inside] at written notWhole
  have read := items_encode_append otherWellFormed []
  rw [List.append_nil, ← written, List.append_assoc, items_encode_append wellFormed] at read
  have same : item = other := (List.cons.inj read).1
  rw [List.append_assoc, same] at written
  have nothing := (List.append_eq_nil_iff.mp (List.append_right_eq_self.mp written)).1
  rw [nothing, List.append_nil, same] at notWhole
  exact notWhole rfl

theorem Stage.Sound.begun {stage : Stage} (sound : stage.Sound) : Begun stage.held := by
  have someZero {missing : Nat} (positive : 1 ≤ missing) :
      List.replicate missing (0 : UInt8) ≠ [] := by
    intro none
    rw [List.replicate_eq_nil_iff] at none
    omega
  cases stage with
  | between =>
      exact begun_of_missing (.long 0 []) [longLead, 0, 0] (Nat.succ_pos 255)
        (List.cons_ne_nil _ _) rfl
  | shortBody lead taken missing =>
      obtain ⟨notLong, positive, fits⟩ := sound
      have length : (taken.reverse ++ List.replicate missing 0).length =
          (Width.ofCode (lead.toNat % 4)).bytes := by
        rw [List.length_append, List.length_reverse, List.length_replicate, fits]
      exact begun_of_missing _ _ (ShortItem.wellFormed_ofBytes notLong length)
        (someZero positive) (ShortItem.encode_ofBytes length)
  | longSize =>
      exact begun_of_missing (.long 0 []) [0, 0] (Nat.succ_pos 255) (List.cons_ne_nil _ _) rfl
  | longTag size =>
      have length : (List.replicate size.toNat (0 : UInt8)).length = size.toNat :=
        List.length_replicate
      refine begun_of_missing (.long 0 (List.replicate size.toNat 0))
        (0 :: List.replicate size.toNat 0) ?_ (List.cons_ne_nil _ _) ?_
      · simp only [Item.WellFormed, length]
        exact size.toNat_lt
      · simp only [Item.encode, length, UInt8.ofNat_toNat]
        rfl
  | longBody size tag taken missing =>
      obtain ⟨positive, fits⟩ := sound
      have length : (taken.reverse ++ List.replicate missing 0).length = size.toNat := by
        rw [List.length_append, List.length_reverse, List.length_replicate, fits]
      refine begun_of_missing (.long tag (taken.reverse ++ List.replicate missing 0)) _ ?_
        (someZero positive) ?_
      · simp only [Item.WellFormed, length]
        exact size.toNat_lt
      · simp only [Item.encode, length, UInt8.ofNat_toNat]
        rfl

def unread (bytes : List UInt8) : List UInt8 := (Stage.between.after bytes).held

theorem begun_unread (bytes : List UInt8) : Begun (unread bytes) :=
  (Stage.sound_after Stage.sound_between bytes).begun

/-- Items that are written in bytes, one behind the other, with what is left over. -/
structure Written (items : List Item) (rest bytes : List UInt8) : Prop where
  wellFormed : ∀ item, item ∈ items → item.WellFormed
  begun : Begun rest
  bytes : items.flatMap Item.encode ++ rest = bytes

theorem written_iff {listed : List Item} {rest bytes : List UInt8} :
    Written listed rest bytes ↔ items bytes = listed ∧ unread bytes = rest := by
  constructor
  · intro written
    have incomplete (item : Item) (complete : item.WellFormed) : ¬item.encode <+: rest :=
      written.begun.incomplete complete
    have read : items bytes = listed :=
      items_eq_iff.mpr ⟨written.wellFormed, rest, written.bytes.symm, incomplete⟩
    have again := written_items bytes
    rw [read, ← written.bytes] at again
    exact ⟨read, (written.bytes ▸ List.append_cancel_left again).symm⟩
  · intro ⟨read, left⟩
    rw [← read, ← left]
    exact
      { wellFormed := fun _item member => wellFormed_of_mem_items member
        begun := begun_unread bytes
        bytes := (written_items bytes).symm }

/-! ### Cutting items off -/

def cutShort? (lead : UInt8) (behind : List UInt8) : Option (Item × List UInt8) :=
  let width := (Width.ofCode (lead.toNat % 4)).bytes
  if width ≤ behind.length then
    some (.short (.ofBytes lead (behind.take width)), behind.drop width)
  else none

def cutLong? : List UInt8 → Option (Item × List UInt8)
  | size :: tag :: behind =>
    if size.toNat ≤ behind.length then
      some (.long tag (behind.take size.toNat), behind.drop size.toNat)
    else none
  | _ => none

/-- The first item, by the length that its first bytes declare, and the bytes behind it. -/
def cut? : List UInt8 → Option (Item × List UInt8)
  | [] => none
  | lead :: behind => if lead = longLead then cutLong? behind else cutShort? lead behind

theorem cut?_encode_append {item : Item} (wellFormed : item.WellFormed) (rest : List UInt8) :
    cut? (item.encode ++ rest) = some (item, rest) := by
  cases item with
  | short item =>
      obtain ⟨width, same⟩ := ShortItem.ofBytes_encode wellFormed
      have length := Words.length_toBytes item.width.bytes item.data
      have enough : item.width.bytes ≤
          (Words.toBytes item.width.bytes item.data ++ rest).length := by
        rw [List.length_append, length]
        exact Nat.le_add_right _ _
      rw [Item.encode, List.cons_append, cut?, if_neg wellFormed.2.2, cutShort?,
        width, if_pos enough, List.take_left' length, List.drop_left' length, same]
  | long tag body =>
      have size : (UInt8.ofNat body.length).toNat = body.length := Nat.mod_eq_of_lt wellFormed
      have enough : body.length ≤ (body ++ rest).length := by
        rw [List.length_append]
        exact Nat.le_add_right _ _
      rw [Item.encode, List.cons_append, List.cons_append, List.cons_append, cut?, if_pos rfl,
        cutLong?, size, if_pos enough, List.take_left, List.drop_left]

theorem cutShort?_eq_some {lead : UInt8} {behind rest : List UInt8} {item : Item}
    (notLong : lead ≠ longLead) (cut : cutShort? lead behind = some (item, rest)) :
    item.WellFormed ∧ item.encode ++ rest = lead :: behind := by
  unfold cutShort? at cut
  dsimp only at cut
  split at cut
  · rename_i enough
    obtain ⟨itemEq, restEq⟩ := Prod.mk.inj (Option.some.inj cut)
    have length : (behind.take (Width.ofCode (lead.toNat % 4)).bytes).length =
        (Width.ofCode (lead.toNat % 4)).bytes := List.length_take_of_le enough
    rw [← itemEq, ← restEq]
    refine ⟨ShortItem.wellFormed_ofBytes notLong length, ?_⟩
    rw [ShortItem.encode_ofBytes length, List.cons_append, List.take_append_drop]
  · cases cut

theorem cutLong?_eq_some {behind rest : List UInt8} {item : Item}
    (cut : cutLong? behind = some (item, rest)) :
    item.WellFormed ∧ item.encode ++ rest = longLead :: behind := by
  unfold cutLong? at cut
  split at cut
  · rename_i size tag body
    split at cut
    · rename_i enough
      obtain ⟨itemEq, restEq⟩ := Prod.mk.inj (Option.some.inj cut)
      have length : (body.take size.toNat).length = size.toNat := List.length_take_of_le enough
      rw [← itemEq, ← restEq]
      refine ⟨?_, ?_⟩
      · rw [Item.WellFormed, length]
        exact size.toNat_lt
      · simp only [Item.encode, length, UInt8.ofNat_toNat, List.cons_append,
          List.take_append_drop]
    · cases cut
  · cases cut

theorem cut?_eq_some_iff {bytes rest : List UInt8} {item : Item} :
    cut? bytes = some (item, rest) ↔ item.WellFormed ∧ item.encode ++ rest = bytes := by
  constructor
  · intro cut
    cases bytes with
    | nil => cases cut
    | cons lead behind =>
        rw [cut?] at cut
        split at cut
        · rename_i long
          rw [long]
          exact cutLong?_eq_some cut
        · rename_i short
          exact cutShort?_eq_some short cut
  · intro ⟨wellFormed, bytes⟩
    rw [← bytes]
    exact cut?_encode_append wellFormed rest

theorem cut?_eq_none_iff {bytes : List UInt8} : cut? bytes = none ↔ Begun bytes := by
  constructor
  · intro none
    have written := written_items bytes
    cases read : items bytes with
    | nil =>
        rw [read, List.flatMap_nil, List.nil_append] at written
        rw [written]
        exact begun_unread bytes
    | cons item more =>
        have complete : item.WellFormed := wellFormed_of_mem_items (read ▸ List.mem_cons_self)
        rw [read, List.flatMap_cons, List.append_assoc] at written
        rw [written, cut?_encode_append complete] at none
        cases none
  · intro begun
    cases cut : cut? bytes with
    | none => rfl
    | some parts =>
        obtain ⟨complete, bytes⟩ := cut?_eq_some_iff.mp cut
        exact absurd ⟨_, bytes⟩ (begun.incomplete complete)

/-- Cutting off items, one after another, until none is left to cut off. -/
inductive CutsInto : List UInt8 → List Item → List UInt8 → Prop where
  | ends {bytes : List UInt8} : cut? bytes = none → CutsInto bytes [] bytes
  | cuts {bytes behind rest : List UInt8} {item : Item} {more : List Item} :
    cut? bytes = some (item, behind) → CutsInto behind more rest →
    CutsInto bytes (item :: more) rest

theorem cutsInto_iff {listed : List Item} {rest bytes : List UInt8} :
    CutsInto bytes listed rest ↔ Written listed rest bytes := by
  constructor
  · intro cutting
    induction cutting with
    | ends none =>
        exact { wellFormed := nofun, begun := cut?_eq_none_iff.mp none, bytes := rfl }
    | cuts cut _later ih =>
        obtain ⟨complete, bytes⟩ := cut?_eq_some_iff.mp cut
        refine { wellFormed := ?_, begun := ih.begun, bytes := ?_ }
        · exact List.forall_mem_cons.mpr ⟨complete, ih.wellFormed⟩
        · rw [List.flatMap_cons, List.append_assoc, ih.bytes, bytes]
  · intro ⟨wellFormed, begun, written⟩
    induction listed generalizing bytes with
    | nil =>
        rw [← written]
        exact .ends (cut?_eq_none_iff.mpr begun)
    | cons item more ih =>
        rw [List.flatMap_cons, List.append_assoc] at written
        have complete := List.forall_mem_cons.mp wellFormed
        exact .cuts (cut?_eq_some_iff.mpr ⟨complete.1, written⟩) (ih complete.2 rfl)

/-- Reading undoes writing. Items that are written one behind the other, with less than an item
behind them, are read: the short ones among them are handed out, in their order, and no others.
And any bytes are written so, in one way only. Cutting items off the front of the bytes comes to
an end, with the same items, which written again are the bytes that were used up. -/
theorem items_undo_encode :
    (∀ (listed : List Item) (rest : List UInt8),
      (∀ item, item ∈ listed → item.WellFormed) → Begun rest →
      shortItems (listed.flatMap Item.encode ++ rest) = listed.filterMap Item.short?) ∧
      ∀ bytes,
        (∃! parts : List Item × List UInt8,
          (∀ item, item ∈ parts.1 → item.WellFormed) ∧ Begun parts.2 ∧
            parts.1.flatMap Item.encode ++ parts.2 = bytes) ∧
        CutsInto bytes (items bytes) (unread bytes) ∧
        (items bytes).flatMap Item.encode ++ unread bytes = bytes ∧
        shortItems ((items bytes).flatMap Item.encode) = shortItems bytes := by
  constructor
  · intro listed rest wellFormed begun
    have read := (written_iff.mp ⟨wellFormed, begun, rfl⟩).1
    rw [shortItems, read]
  · intro bytes
    have written : Written (items bytes) (unread bytes) bytes := written_iff.mpr ⟨rfl, rfl⟩
    have nothing : Written (items bytes) [] ((items bytes).flatMap Item.encode) :=
      { wellFormed := written.wellFormed
        begun := Stage.sound_between.begun
        bytes := List.append_nil _ }
    refine ⟨?_, cutsInto_iff.mpr written, written.bytes, ?_⟩
    · refine ⟨(items bytes, unread bytes), ⟨written.wellFormed, written.begun, written.bytes⟩, ?_⟩
      intro parts ⟨wellFormed, begun, same⟩
      have read := written_iff.mp ⟨wellFormed, begun, same⟩
      exact Prod.ext read.1.symm read.2.symm
    · rw [shortItems, (written_iff.mp nothing).1, shortItems]

/-- A short item, a long one and another short one, then a short item without its data. -/
theorem items_undo_encode_mixed :
    let listed : List Item :=
      [.short ⟨.globalItem, 0x0, .two, 0x0107⟩, .long 0x10 [0x05, 0x07],
        .short ⟨.mainItem, 0xC, .none, 0⟩]
    (∀ item, item ∈ listed → item.WellFormed) ∧ Begun [0x75] ∧
      shortItems ([0x06, 0x07, 0x01, 0xFE, 0x02, 0x10, 0x05, 0x07, 0xC0] ++ [0x75]) =
        [⟨.globalItem, 0x0, .two, 0x0107⟩, ⟨.mainItem, 0xC, .none, 0⟩] := by
  intro listed
  have wellFormed : ∀ item, item ∈ listed → item.WellFormed := by decide
  have begun : Begun [0x75] := cut?_eq_none_iff.mp rfl
  exact ⟨wellFormed, begun, items_undo_encode.1 listed [0x75] wellFormed begun⟩

end HidBridge.Descriptor
