/-
Where the fields of a report lie. A report takes what it can of each of its entries, one
after another. Of an entry that is cut short it withholds the rest of the bits, and nothing
makes up for them, so the fields of later entries lie too early by as many bits. Unused bits
behind a range are different: what passes the longest report fills it, and nothing follows.
-/

import HidBridge.Proofs.Layout.Exact
import HidBridge.Proofs.Layout.Reports

namespace HidBridge

namespace Descriptor

/-- What a report takes of entries, behind so many fields and bits. -/
def grants : (used start : Nat) → List Entry → List Grant
  | _, _, [] => []
  | used, start, entry :: rest =>
    entry.grant used start ::
      grants (used + (entry.grant used start).count) (start + (entry.grant used start).bits) rest

/-- Bits of the entry by which the report has not become longer. -/
def Grant.withheld (grant : Grant) : Nat := grant.entry.bits - grant.bits

def withheld : List Grant → Nat
  | [] => 0
  | grant :: rest => grant.withheld + withheld rest

theorem withheld_eq_zero_iff {grants : List Grant} :
    withheld grants = 0 ↔ ∀ grant, grant ∈ grants → grant.withheld = 0 := by
  induction grants with
  | nil =>
      constructor
      · intro _none grant member
        cases member
      · intro _none
        rfl
  | cons first rest ih => rw [withheld, Nat.add_eq_zero_iff, ih, List.forall_mem_cons]

theorem map_entry_grants (used start : Nat) (entries : List Entry) :
    (grants used start entries).map Grant.entry = entries := by
  induction entries generalizing used start with
  | nil => rfl
  | cons entry rest ih => rw [grants, List.map_cons, ih, Entry.grant_entry]

theorem Entry.grant_bits_le (entry : Entry) (used start : Nat) :
    (entry.grant used start).bits ≤ entry.bits := by
  unfold Grant.bits
  split
  · exact Nat.min_le_left _ _
  · exact Nat.le_trans (Nat.mul_le_mul_right _ (Nat.min_le_left _ _)) entry.length_mul_fieldBits_le

section Step

variable {entry : Entry} {used start : Nat} (few : used ≤ Limits.reportFields)
  (short : start ≤ Limits.reportBits)

include few short

theorem Entry.grant_fits :
    used + (entry.grant used start).count ≤ Limits.reportFields ∧
      start + (entry.grant used start).bits ≤ Limits.reportBits := by
  have places := (Layout.le_places_iff few short entry.fieldBits_pos _).mp
    (Nat.min_le_right entry.fields.length (Layout.places used start entry.fieldBits))
  refine ⟨places.1, ?_⟩
  unfold Grant.bits
  split
  · rw [grant_entry, grant_start]
    omega
  · exact places.2

/-- An entry is cut short, and bits of it are withheld, only if it passes the longest report
or takes the last field. -/
theorem Entry.grant_cases
    (roomLeft : used + (entry.grant used start).count < Limits.reportFields)
    (bitsLeft : start + (entry.grant used start).bits < Limits.reportBits) :
    ((entry.grant used start).withheld = 0 ↔ (entry.grant used start).Whole) ∧
      (¬(entry.grant used start).Whole → Limits.reportBits < start + entry.bits) := by
  by_cases whole : (entry.grant used start).Whole
  · have bits : (entry.grant used start).bits = min entry.bits (Limits.reportBits - start) :=
      if_pos whole
    refine ⟨⟨fun _ => whole, fun _ => ?_⟩, fun cut => absurd whole cut⟩
    simp only [Grant.withheld, grant_entry]
    omega
  · have bits : (entry.grant used start).bits =
        (entry.grant used start).count * entry.fieldBits := if_neg whole
    have fewer : (entry.grant used start).count < entry.fields.length :=
      Nat.lt_of_le_of_ne (Nat.min_le_left _ _) whole
    have next : ((entry.grant used start).count + 1) * entry.fieldBits ≤ entry.bits :=
      Nat.le_trans (Nat.mul_le_mul_right _ fewer) entry.length_mul_fieldBits_le
    have positive := entry.fieldBits_pos
    have refused : ¬(entry.grant used start).count + 1 ≤
        Layout.places used start entry.fieldBits := by
      have least : (entry.grant used start).count =
        min entry.fields.length (Layout.places used start entry.fieldBits) := rfl
      omega
    have passes := mt (Layout.le_places_iff few short positive _).mpr refused
    rw [Nat.succ_mul] at next passes
    refine ⟨⟨fun nothing => ?_, fun all => absurd all whole⟩, fun _ => by omega⟩
    simp only [Grant.withheld, grant_entry] at nothing
    omega

end Step

theorem count_of_full {used start : Nat} {entries : List Entry}
    (full : Limits.reportFields ≤ used ∨ Limits.reportBits ≤ start) :
    ∀ grant, grant ∈ grants used start entries → grant.count = 0 := by
  induction entries generalizing used start with
  | nil =>
      intro grant member
      cases member
  | cons entry rest ih =>
      have still : Limits.reportFields ≤ used + (entry.grant used start).count ∨
          Limits.reportBits ≤ start + (entry.grant used start).bits := by omega
      have later := ih still
      refine List.forall_mem_cons.mpr ⟨?_, later⟩
      have nowhere : Layout.places used start entry.fieldBits = 0 := by
        unfold Layout.places
        rcases full with table | bits
        · rw [Nat.sub_eq_zero_of_le table, Nat.zero_min]
        · rw [Nat.sub_eq_zero_of_le bits, Nat.zero_div, Nat.min_zero]
      show min _ _ = 0
      rw [nowhere, Nat.min_zero]

theorem start_add_withheld {used start : Nat} {entries : List Entry} {earlier later : List Grant}
    {grant : Grant} (split : grants used start entries = earlier ++ grant :: later) :
    grant.start + withheld earlier = start + totalBits (earlier.map Grant.entry) := by
  induction earlier generalizing used start entries with
  | nil =>
      cases entries with
      | nil => cases split
      | cons entry rest =>
          have head := (List.cons.inj split).1
          rw [← head]
          rfl
  | cons first earlier ih =>
      cases entries with
      | nil => cases split
      | cons entry rest =>
          obtain ⟨head, tail⟩ := List.cons.inj split
          have less := entry.grant_bits_le used start
          have total := ih tail
          simp only [withheld, List.map_cons, totalBits, ← head, Grant.withheld, Entry.grant_entry]
          omega

/-- Before an entry of which a field is taken, bits are withheld of those entries that were
cut short, and each of these passes the longest report. -/
theorem cut_before {used start : Nat} (few : used ≤ Limits.reportFields)
    (short : start ≤ Limits.reportBits) {entries : List Entry} {earlier later : List Grant}
    {grant : Grant} (split : grants used start entries = earlier ++ grant :: later)
    (taken : 0 < grant.count) :
    ∀ cut, cut ∈ earlier → (cut.withheld = 0 ↔ cut.Whole) ∧
      (¬cut.Whole → Limits.reportBits < cut.start + cut.entry.bits) := by
  induction earlier generalizing used start entries with
  | nil =>
      intro cut member
      cases member
  | cons first earlier ih =>
      cases entries with
      | nil => cases split
      | cons entry rest =>
          obtain ⟨head, tail⟩ := List.cons.inj split
          have fits := entry.grant_fits few short
          have present : grant ∈ grants (used + (entry.grant used start).count)
              (start + (entry.grant used start).bits) rest := by
            rw [tail]
            exact List.mem_append_right _ List.mem_cons_self
          have room : ¬(Limits.reportFields ≤ used + (entry.grant used start).count ∨
              Limits.reportBits ≤ start + (entry.grant used start).bits) := by
            intro full
            have none := count_of_full full grant present
            omega
          have own := entry.grant_cases few short (by omega) (by omega)
          refine List.forall_mem_cons.mpr ⟨?_, ih fits.1 fits.2 tail⟩
          rw [← head]
          exact own

end Descriptor

namespace Layout

open Descriptor

theorem fields_emit_all {layout : Layout} (few : layout.fields.length ≤ Limits.reportFields)
    (short : layout.bits ≤ Limits.reportBits) (entries : List Entry) :
    (entries.foldl (fun layout entry => layout.emit entry.declaration.emission) layout).fields =
      layout.fields ++ (grants layout.fields.length layout.bits entries).flatMap Grant.fields := by
  induction entries generalizing layout with
  | nil => exact (List.append_nil _).symm
  | cons entry rest ih =>
      have fits := entry.grant_fits few short
      have length : (entry.grant layout.fields.length layout.bits).fields.length =
          (entry.grant layout.fields.length layout.bits).count := by
        rw [Grant.fields, List.length_map, List.length_take]
        exact Nat.min_eq_left (Nat.min_le_left _ _)
      have granted : layout.emit entry.declaration.emission = _ := Entry.emit_grant few short
      have table : (layout.emit entry.declaration.emission).fields.length =
          layout.fields.length + (entry.grant layout.fields.length layout.bits).count := by
        rw [granted, extend, List.length_append, length]
      have bits : (layout.emit entry.declaration.emission).bits =
          layout.bits + (entry.grant layout.fields.length layout.bits).bits := by
        rw [granted, extend]
      rw [List.foldl_cons, ih (Nat.le_trans (Nat.le_of_eq table) fits.1)
        (Nat.le_trans (Nat.le_of_eq bits) fits.2), table, bits, grants, List.flatMap_cons, granted,
        extend, List.append_assoc]

theorem fields_ofReport (report : ReportId × Direction) (entries : List Entry) :
    (ofReport report (entries.map Entry.declaration)).fields =
      (grants 0 0 (entriesOf report entries)).flatMap Grant.fields := by
  have own : (entries.map Entry.declaration).filter
      (fun declaration => decide (declaration.report = report)) =
        (entriesOf report entries).map Entry.declaration := by
    rw [List.filter_map]
    refine congrArg _ (List.filter_congr ?_)
    intro entry _member
    exact congrArg (fun named => decide (named = report)) entry.report_declaration
  unfold ofReport
  rw [own, List.foldl_map]
  exact fields_emit_all (Nat.zero_le _) (Nat.zero_le _) _

end Layout

namespace Interface

open Descriptor

theorem fields_of_mem {id : InterfaceId} {bytes : List UInt8} {layout : Layout}
    (member : layout ∈ (ofDescriptor id bytes).layouts) :
    layout.fields =
      (grants 0 0 (entriesOf layout.report (entries (shortItems bytes)))).flatMap
        Grant.fields := by
  rw [ofDescriptor, layouts_ofItems] at member
  obtain ⟨report, _early, same⟩ := List.mem_map.mp member
  have declared := declarations_eq [] (shortItems bytes)
  rw [show Context.initial.after [] = Context.initial from rfl] at declared
  have named := Layout.report_ofReport report (Context.initial.declarations (shortItems bytes))
  rw [← same, named, declared]
  exact Layout.fields_ofReport report _

theorem exists_entry_of_mem {id : InterfaceId} {bytes : List UInt8} {layout : Layout}
    (member : layout ∈ (ofDescriptor id bytes).layouts) {field : Field}
    (present : field ∈ layout.fields) :
    ∃ entry : Entry, ∃ own, own ∈ entry.fields ∧ ∃ start, field = own.shift start := by
  rw [fields_of_mem member] at present
  obtain ⟨grant, _granted, placed⟩ := List.mem_flatMap.mp present
  obtain ⟨own, taken, same⟩ := List.mem_map.mp placed
  exact ⟨grant.entry, own, List.mem_of_mem_take taken, grant.start, same.symm⟩

/-- A report has, for each of its entries in turn, the first fields of the entry. They lie
behind the bits of all earlier entries without those that were withheld. So the fields of an
entry lie where they are declared exactly if no entry before it was cut short, and else too
early. An entry that was cut short before them is one that passes the longest report. -/
theorem fields_ofDescriptor (id : InterfaceId) {bytes : List UInt8} {layout : Layout}
    (member : layout ∈ (ofDescriptor id bytes).layouts) :
    let own := entriesOf layout.report (entries (shortItems bytes))
    (grants 0 0 own).map Grant.entry = own ∧
      layout.fields = (grants 0 0 own).flatMap Grant.fields ∧
      ∀ earlier grant later, grants 0 0 own = earlier ++ grant :: later →
        grant.start + withheld earlier = totalBits (earlier.map Grant.entry) ∧
          (0 < grant.count →
            (grant.start = totalBits (earlier.map Grant.entry) ↔
              ∀ cut, cut ∈ earlier → cut.Whole) ∧
            ∀ cut, cut ∈ earlier → ¬cut.Whole →
              Limits.reportBits < cut.start + cut.entry.bits) := by
  intro own
  refine ⟨map_entry_grants 0 0 own, fields_of_mem member, ?_⟩
  · intro earlier grant later split
    have total := start_add_withheld split
    rw [Nat.zero_add] at total
    refine ⟨total, fun taken => ?_⟩
    have cuts := cut_before (Nat.zero_le _) (Nat.zero_le _) split taken
    refine ⟨?_, fun cut before => (cuts cut before).2⟩
    calc
      grant.start = totalBits (earlier.map Grant.entry) ↔ withheld earlier = 0 := by omega
      _ ↔ ∀ cut, cut ∈ earlier → cut.withheld = 0 := withheld_eq_zero_iff
      _ ↔ ∀ cut, cut ∈ earlier → cut.Whole :=
        forall₂_congr (fun cut before => (cuts cut before).1)

/-- Eight bits, then padding for which the report is too short, then eight more bits. -/
def oversized : List UInt8 :=
  [0x05, 0x01, 0x09, 0x30, 0x75, 0x08, 0x95, 0x01, 0x81, 0x06,
    0x95, 0x40, 0x81, 0x03,
    0x95, 0x01, 0x09, 0x31, 0x81, 0x06]

theorem oversized_placed :
    ∃ layout, layout ∈ (ofDescriptor 0 oversized).layouts ∧
      layout.fields =
        (grants 0 0 (entriesOf layout.report (entries (shortItems oversized)))).flatMap
          Grant.fields ∧
      (grants 0 0 (entriesOf (0, .input) (entries (shortItems oversized)))).map
          (fun grant => (grant.start, grant.count, grant.withheld)) =
        [(0, 1, 0), (8, 0, 512), (8, 1, 0)] := by
  have nonempty : (ofDescriptor 0 oversized).layouts ≠ [] := by decide
  have placed := fields_ofDescriptor 0 (List.head_mem nonempty)
  exact ⟨_, List.head_mem nonempty, placed.2.1, by decide⟩

/-- Usage 0x31 is declared behind 520 bits, which is past the end of any report, and its field
lies at bit 8. -/
theorem lateField_too_early :
    let own := entriesOf (0, .input) (entries (shortItems oversized))
    (ofDescriptor 0 oversized).layouts.map (fun layout =>
        (layout.report, layout.fields.map (fun field => (field.usage, field.offset)))) =
        [((0, .input), [(0x30, 0), (0x31, 8)])] ∧
      own.map (fun entry => entry.fields.map (fun field => (field.usage, field.offset))) =
        [[(0x30, 0)], [(0, 0)], [(0x31, 0)]] ∧
      totalBits (own.take 2) = 520 ∧ Limits.reportBits = 512 := by
  decide

end Interface

end HidBridge
