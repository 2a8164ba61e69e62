/-
Reading a descriptor undoes writing it. The items that are handed out lie one behind the
other from the first byte on, and what is left over is the beginning of an item at most.
So of a descriptor that was cut off, those items are read that end before the cut.
-/

import HidBridge.Descriptor.Item

namespace HidBridge.Descriptor

theorem Kind.code_ofCode {code : Nat} (small : code < 4) : (Kind.ofCode code).code = code := by
  revert code
  decide

theorem Width.code_ofCode {code : Nat} (small : code < 4) : (Width.ofCode code).code = code := by
  revert code
  decide

theorem Width.ofCode_code (width : Width) : Width.ofCode width.code = width := by
  cases width <;> rfl

theorem Kind.ofCode_code (kind : Kind) : Kind.ofCode kind.code = kind := by
  cases kind <;> rfl

theorem Width.code_lt (width : Width) : width.code < 4 := by
  cases width <;> decide

theorem Kind.code_lt (kind : Kind) : kind.code < 4 := by
  cases kind <;> decide

namespace ShortItem

theorem lead_ofBytes (lead : UInt8) (body : List UInt8) : (ofBytes lead body).lead = lead := by
  have kind := Kind.code_ofCode (Nat.mod_lt (lead.toNat / 4) (Nat.succ_pos 3))
  have width := Width.code_ofCode (Nat.mod_lt lead.toNat (Nat.succ_pos 3))
  have sum : 16 * (lead.toNat / 16) + 4 * (lead.toNat / 4 % 4) + lead.toNat % 4 = lead.toNat := by
    omega
  simp only [ShortItem.lead, ofBytes, kind, width, sum, UInt8.ofNat_toNat]

theorem encode_ofBytes {lead : UInt8} {body : List UInt8}
    (fits : body.length = (Width.ofCode (lead.toNat % 4)).bytes) :
    (Item.short (ofBytes lead body)).encode = lead :: body := by
  have data : Words.toBytes (ofBytes lead body).width.bytes (ofBytes lead body).data = body := by
    have bytes : (ofBytes lead body).width.bytes = body.length := fits.symm
    rw [bytes]
    exact Words.toBytes_ofBytes body
  rw [Item.encode, lead_ofBytes, data]

theorem wellFormed_ofBytes {lead : UInt8} {body : List UInt8} (notLong : lead ≠ longLead)
    (fits : body.length = (Width.ofCode (lead.toNat % 4)).bytes) :
    (Item.short (ofBytes lead body)).WellFormed := by
  have small : lead.toNat < 256 := lead.toNat_lt
  refine ⟨?_, ?_, ?_⟩
  · simp only [ofBytes]
    omega
  · have bound := Words.ofBytes_lt body
    rw [fits] at bound
    exact bound
  · rw [lead_ofBytes]
    exact notLong

theorem ofBytes_encode {item : ShortItem} (wellFormed : (Item.short item).WellFormed) :
    (Width.ofCode (item.lead.toNat % 4)).bytes = item.width.bytes ∧
      ofBytes item.lead (Words.toBytes item.width.bytes item.data) = item := by
  obtain ⟨tag, data, _notLong⟩ := wellFormed
  have kind := item.kind.code_lt
  have width := item.width.code_lt
  have lead : item.lead.toNat = 16 * item.tag + 4 * item.kind.code + item.width.code :=
    Nat.mod_eq_of_lt (by omega)
  have widthCode : item.lead.toNat % 4 = item.width.code := by omega
  have kindCode : item.lead.toNat / 4 % 4 = item.kind.code := by omega
  have tagCode : item.lead.toNat / 16 = item.tag := by omega
  refine ⟨by rw [widthCode, Width.ofCode_code], ?_⟩
  rw [ofBytes, widthCode, kindCode, tagCode, Width.ofCode_code, Kind.ofCode_code,
    Words.ofBytes_toBytes, Nat.mod_eq_of_lt data]

end ShortItem

namespace Stage

def Sound : Stage → Prop
  | .between => True
  | .shortBody lead taken missing =>
    lead ≠ longLead ∧ 1 ≤ missing ∧
      taken.length + missing = (Width.ofCode (lead.toNat % 4)).bytes
  | .longSize => True
  | .longTag _ => True
  | .longBody size _ taken missing => 1 ≤ missing ∧ taken.length + missing = size.toNat

theorem sound_between : Stage.between.Sound := trivial

inductive Ends (bytes : List UInt8) : Stage × Option Item → Prop where
  | goesOn (stage : Stage) : stage.Sound → stage.held = bytes → Ends bytes (stage, none)
  | handsOut (item : Item) : item.WellFormed → item.encode = bytes →
    Ends bytes (.between, some item)

theorem ends_awaitShort {lead : UInt8} {taken : List UInt8} {missing : Nat}
    (notLong : lead ≠ longLead)
    (fits : taken.length + missing = (Width.ofCode (lead.toNat % 4)).bytes) :
    Ends (lead :: taken.reverse) (awaitShort lead taken missing) := by
  cases missing with
  | zero =>
      have length : taken.reverse.length = (Width.ofCode (lead.toNat % 4)).bytes :=
        List.length_reverse.trans fits
      exact .handsOut _ (ShortItem.wellFormed_ofBytes notLong length)
        (ShortItem.encode_ofBytes length)
  | succ missing => exact .goesOn _ ⟨notLong, Nat.succ_pos missing, fits⟩ rfl

theorem ends_awaitLong {size : UInt8} (tag : UInt8) {taken : List UInt8} {missing : Nat}
    (fits : taken.length + missing = size.toNat) :
    Ends (longLead :: size :: tag :: taken.reverse) (awaitLong size tag taken missing) := by
  cases missing with
  | zero =>
      have length : taken.reverse.length = size.toNat := List.length_reverse.trans fits
      refine .handsOut _ ?_ ?_
      · simp only [Item.WellFormed, length]
        exact size.toNat_lt
      · simp only [Item.encode, length, UInt8.ofNat_toNat]
  | succ missing => exact .goesOn _ ⟨Nat.succ_pos missing, fits⟩ rfl

theorem ends_take {stage : Stage} (sound : stage.Sound) (byte : UInt8) :
    Ends (stage.held ++ [byte]) (stage.take byte) := by
  cases stage with
  | between =>
      by_cases long : byte = longLead
      · rw [long]
        exact .goesOn .longSize trivial rfl
      · have short : Stage.take byte .between =
            awaitShort byte [] (Width.ofCode (byte.toNat % 4)).bytes := if_neg long
        rw [short]
        have nothing : ([] : List UInt8).length + (Width.ofCode (byte.toNat % 4)).bytes =
            (Width.ofCode (byte.toNat % 4)).bytes := Nat.zero_add _
        exact ends_awaitShort long nothing
  | shortBody lead taken missing =>
      obtain ⟨notLong, some_missing, fits⟩ := sound
      have longer : (byte :: taken).length + (missing - 1) =
          (Width.ofCode (lead.toNat % 4)).bytes := by
        rw [List.length_cons]
        omega
      have ends := ends_awaitShort notLong longer
      rw [List.reverse_cons] at ends
      exact ends
  | longSize => exact .goesOn (.longTag byte) trivial rfl
  | longTag size =>
      have nothing : ([] : List UInt8).length + size.toNat = size.toNat := Nat.zero_add _
      exact ends_awaitLong byte nothing
  | longBody size tag taken missing =>
      obtain ⟨some_missing, fits⟩ := sound
      have longer : (byte :: taken).length + (missing - 1) = size.toNat := by
        rw [List.length_cons]
        omega
      have ends := ends_awaitLong tag longer
      rw [List.reverse_cons] at ends
      exact ends

theorem items_cons (stage : Stage) (byte : UInt8) (rest : List UInt8) :
    stage.items (byte :: rest) =
      (stage.take byte).2.toList ++ (stage.take byte).1.items rest := by
  rw [items]
  rcases stage.take byte with ⟨next, _ | item⟩ <;> rfl

section Sound

variable {stage : Stage} (sound : stage.Sound)

include sound

theorem sound_take (byte : UInt8) : (stage.take byte).1.Sound := by
  have ends := ends_take sound byte
  generalize stage.take byte = taken at ends
  cases ends with
  | goesOn next still _held => exact still
  | handsOut item _wellFormed _encoded => trivial

theorem sound_after (bytes : List UInt8) : (stage.after bytes).Sound := by
  induction bytes generalizing stage with
  | nil => exact sound
  | cons byte rest ih => exact ih (sound_take sound byte)

theorem wellFormed_items {bytes : List UInt8} {item : Item} (member : item ∈ stage.items bytes) :
    item.WellFormed := by
  induction bytes generalizing stage with
  | nil => cases member
  | cons byte rest ih =>
      have next := sound_take sound byte
      have ends := ends_take sound byte
      rw [items_cons] at member
      generalize stage.take byte = taken at ends next member
      rcases List.mem_append.mp member with first | later
      · cases ends with
        | goesOn stage _still _held => cases first
        | handsOut found wellFormed _encoded =>
            rw [List.mem_singleton.mp first]
            exact wellFormed
      · exact ih next later

/-- No byte is lost, and none is read twice. -/
theorem flatMap_encode_items (bytes : List UInt8) :
    (stage.items bytes).flatMap Item.encode ++ (stage.after bytes).held = stage.held ++ bytes := by
  induction bytes generalizing stage with
  | nil => exact (List.append_nil _).symm
  | cons byte rest ih =>
      have later := ih (sound_take sound byte)
      have ends := ends_take sound byte
      rw [items_cons, after, List.flatMap_append, List.append_assoc]
      generalize stage.take byte = taken at ends later ⊢
      rw [later, ← List.singleton_append, ← List.append_assoc, ← List.append_assoc]
      cases ends with
      | goesOn next _still held => rw [← held]; rfl
      | handsOut item _wellFormed encoded =>
          rw [← encoded]
          simp only [Option.toList, List.flatMap_cons, List.flatMap_nil, held, List.append_nil]

theorem held_lt_encode {bytes : List UInt8} {item : Item} {more : List Item}
    (read : stage.items bytes = item :: more) : stage.held.length < item.encode.length := by
  induction bytes generalizing stage with
  | nil => cases read
  | cons byte rest ih =>
      have next := sound_take sound byte
      have ends := ends_take sound byte
      rw [items_cons] at read
      generalize stage.take byte = taken at ends next read
      have longer : (stage.held ++ [byte]).length = stage.held.length + 1 :=
        List.length_append
      cases ends with
      | goesOn stage _still held =>
          have later := ih next read
          rw [held] at later
          omega
      | handsOut found _wellFormed encoded =>
          have same := (List.cons.inj read).1
          rw [same] at encoded
          rw [encoded]
          omega

end Sound

theorem items_awaitShort (lead : UInt8) (taken body more : List UInt8) :
    let (next, ended) := awaitShort lead taken body.length
    ended.toList ++ next.items (body ++ more) =
      .short (.ofBytes lead (taken.reverse ++ body)) :: Stage.between.items more := by
  induction body generalizing taken with
  | nil => simp only [List.length_nil, awaitShort, Option.toList, List.append_nil,
      List.nil_append, List.singleton_append]
  | cons byte rest ih =>
      have later := ih (byte :: taken)
      rw [List.reverse_cons, List.append_assoc, List.singleton_append] at later
      exact (items_cons _ byte (rest ++ more)).trans later

theorem items_awaitLong (size tag : UInt8) (taken body more : List UInt8) :
    let (next, ended) := awaitLong size tag taken body.length
    ended.toList ++ next.items (body ++ more) =
      .long tag (taken.reverse ++ body) :: Stage.between.items more := by
  induction body generalizing taken with
  | nil => simp only [List.length_nil, awaitLong, Option.toList, List.append_nil,
      List.nil_append, List.singleton_append]
  | cons byte rest ih =>
      have later := ih (byte :: taken)
      rw [List.reverse_cons, List.append_assoc, List.singleton_append] at later
      exact (items_cons _ byte (rest ++ more)).trans later

end Stage

theorem items_encode_append {item : Item} (wellFormed : item.WellFormed) (more : List UInt8) :
    items (item.encode ++ more) = item :: items more := by
  cases item with
  | short item =>
      obtain ⟨width, same⟩ := ShortItem.ofBytes_encode wellFormed
      obtain ⟨_tag, _data, notLong⟩ := wellFormed
      have length : (Words.toBytes item.width.bytes item.data).length =
          (Width.ofCode (item.lead.toNat % 4)).bytes := by
        rw [width, Words.length_toBytes]
      have read := Stage.items_awaitShort item.lead []
        (Words.toBytes item.width.bytes item.data) more
      have first : Stage.between.take item.lead =
          Stage.awaitShort item.lead [] (Width.ofCode (item.lead.toNat % 4)).bytes :=
        if_neg notLong
      rw [length, List.reverse_nil, List.nil_append, same] at read
      rw [items, Item.encode, List.cons_append, Stage.items_cons, first]
      exact read
  | long tag body =>
      have size : (UInt8.ofNat body.length).toNat = body.length := Nat.mod_eq_of_lt wellFormed
      have read := Stage.items_awaitLong (UInt8.ofNat body.length) tag [] body more
      have third : (Stage.longTag (UInt8.ofNat body.length)).take tag =
          Stage.awaitLong (UInt8.ofNat body.length) tag [] body.length := by
        rw [Stage.take, size]
      rw [List.reverse_nil, List.nil_append] at read
      rw [items, Item.encode, List.cons_append, List.cons_append, List.cons_append,
        Stage.items_cons, Stage.items_cons, Stage.items_cons]
      exact (congrArg (fun ended => ended.2.toList ++ ended.1.items (body ++ more)) third).trans
        read

theorem items_flatMap_encode_append {listed : List Item}
    (wellFormed : ∀ item, item ∈ listed → item.WellFormed) (more : List UInt8) :
    items (listed.flatMap Item.encode ++ more) = listed ++ items more := by
  induction listed with
  | nil => rfl
  | cons item rest ih =>
      have later := ih (fun other member => wellFormed other (List.mem_cons_of_mem _ member))
      have first := wellFormed item List.mem_cons_self
      rw [List.flatMap_cons, List.append_assoc, items_encode_append first, later,
        List.cons_append]

theorem wellFormed_of_mem_items {bytes : List UInt8} {item : Item}
    (member : item ∈ items bytes) : item.WellFormed :=
  Stage.wellFormed_items Stage.sound_between member

theorem written_items (bytes : List UInt8) :
    bytes = (items bytes).flatMap Item.encode ++ (Stage.between.after bytes).held :=
  (Stage.flatMap_encode_items Stage.sound_between bytes).symm

/-- A descriptor consists of its items, one behind the other, and of a rest with which no
complete item begins. It does so in one way only. -/
theorem items_eq_iff {bytes : List UInt8} {listed : List Item} :
    items bytes = listed ↔
      (∀ item, item ∈ listed → item.WellFormed) ∧
      ∃ rest, bytes = listed.flatMap Item.encode ++ rest ∧
        ∀ item : Item, item.WellFormed → ¬item.encode <+: rest := by
  constructor
  · intro read
    have written := written_items bytes
    rw [read] at written
    have wellFormed (item : Item) (member : item ∈ listed) : item.WellFormed := by
      rw [← read] at member
      exact wellFormed_of_mem_items member
    refine ⟨wellFormed, _, written, ?_⟩
    intro item complete ⟨more, rest⟩
    rw [← rest] at written
    rw [written, items_flatMap_encode_append wellFormed, items_encode_append complete] at read
    exact absurd (List.self_eq_append_right.mp read.symm) (List.cons_ne_nil _ _)
  · intro ⟨wellFormed, rest, written, incomplete⟩
    rw [written, items_flatMap_encode_append wellFormed]
    cases left : items rest with
    | nil => exact List.append_nil listed
    | cons item more =>
        have present : item ∈ items rest := by
          rw [left]
          exact List.mem_cons_self
        have complete := wellFormed_of_mem_items present
        have begins := written_items rest
        rw [left, List.flatMap_cons, List.append_assoc] at begins
        exact absurd ⟨_, begins.symm⟩ (incomplete item complete)

/-- A long item, and a short one without its data. -/
example : items [0xFE, 0x01, 0x00, 0x07, 0x75] = [.long 0x00 [0x07]] := by decide

/-! ### Where items end -/

/-- Items with the offset at which each ends, when the first one starts at an offset. -/
def located : Nat → List Item → List (Item × Nat)
  | _, [] => []
  | start, item :: rest =>
    (item, start + item.encode.length) :: located (start + item.encode.length) rest

def endingBy (limit : Nat) (items : List Item) : List Item :=
  ((located 0 items).filter (fun placed => decide (placed.2 ≤ limit))).map Prod.fst

theorem located_append (start : Nat) (first second : List Item) :
    located start (first ++ second) =
      located start first ++
        located (start + (first.flatMap Item.encode).length) second := by
  induction first generalizing start with
  | nil => rfl
  | cons item rest ih =>
      rw [List.cons_append, located, ih, located, List.cons_append, List.flatMap_cons,
        List.length_append, Nat.add_assoc]

theorem map_fst_located (start : Nat) (items : List Item) :
    (located start items).map Prod.fst = items := by
  induction items generalizing start with
  | nil => rfl
  | cons item rest ih => rw [located, List.map_cons, ih]

theorem end_le_of_mem_located {start : Nat} {items : List Item} {placed : Item × Nat}
    (member : placed ∈ located start items) :
    placed.2 ≤ start + (items.flatMap Item.encode).length := by
  induction items generalizing start with
  | nil => cases member
  | cons item rest ih =>
      rw [List.flatMap_cons, List.length_append]
      rcases List.mem_cons.mp member with first | later
      · rw [first]
        omega
      · have bound := ih later
        omega

theorem start_le_of_mem_located {start : Nat} {items : List Item} {placed : Item × Nat}
    (member : placed ∈ located start items) : start ≤ placed.2 := by
  induction items generalizing start with
  | nil => cases member
  | cons item rest ih =>
      rcases List.mem_cons.mp member with first | later
      · rw [first]
        exact Nat.le_add_right _ _
      · have bound := ih later
        omega

/-- Of a descriptor that was cut off, the items are those that end before the cut. -/
theorem items_take (bytes : List UInt8) (limit : Nat) :
    items (bytes.take limit) = endingBy limit (items bytes) := by
  have whole : items bytes =
      items (bytes.take limit) ++
        (Stage.between.after (bytes.take limit)).items (bytes.drop limit) := by
    have both := Stage.items_append .between (bytes.take limit) (bytes.drop limit)
    rw [List.take_append_drop] at both
    exact both
  have written := congrArg List.length (written_items (bytes.take limit))
  rw [List.length_append, List.length_take] at written
  rw [whole, endingBy, located_append, List.filter_append, List.map_append, Nat.zero_add]
  have early : (located 0 (items (bytes.take limit))).filter
      (fun placed => decide (placed.2 ≤ limit)) = located 0 (items (bytes.take limit)) := by
    refine List.filter_eq_self.mpr ?_
    intro placed member
    have bound := end_le_of_mem_located member
    exact decide_eq_true (by omega)
  have late : (located ((items (bytes.take limit)).flatMap Item.encode).length
      ((Stage.between.after (bytes.take limit)).items (bytes.drop limit))).filter
        (fun placed => decide (placed.2 ≤ limit)) = [] := by
    refine List.filter_eq_nil_iff.mpr ?_
    intro placed member
    cases later : (Stage.between.after (bytes.take limit)).items (bytes.drop limit) with
    | nil =>
        rw [later] at member
        cases member
    | cons item more =>
        have begun := Stage.held_lt_encode
          (Stage.sound_after Stage.sound_between (bytes.take limit)) later
        have beyond : limit < bytes.length := by
          refine Nat.lt_of_not_le ?_
          intro short
          rw [List.drop_eq_nil_of_le short] at later
          cases later
        rw [later] at member
        rcases List.mem_cons.mp member with first | other
        · rw [first]
          simp only [decide_eq_true_eq]
          omega
        · have bound := start_le_of_mem_located other
          simp only [decide_eq_true_eq]
          omega
  rw [early, late, map_fst_located, List.map_nil, List.append_nil]

end HidBridge.Descriptor
