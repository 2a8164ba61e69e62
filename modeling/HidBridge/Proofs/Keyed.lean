/-
Entries of a list that are found by their key. An entry takes the place of those with the
same key, or comes last. As long as no two entries have the same key, what is found does
not depend on their order. And lists without their repetitions: one more element comes last
if it is new, and else changes nothing.
-/

import Mathlib.Data.List.Induction
import Mathlib.Data.List.Nodup

namespace HidBridge

namespace Keyed

variable {α κ : Type} [BEq κ] [LawfulBEq κ]

def get? (key : α → κ) (entries : List α) (asked : κ) : Option α :=
  entries.find? (fun entry => key entry == asked)

def replace (key : α → κ) (entries : List α) (entry : α) : List α :=
  entries.map (fun old => if key old == key entry then entry else old)

variable {key : α → κ} {entries rest : List α} {entry first : α} {asked : κ}

theorem get?_cons_same (same : key first = asked) :
    get? key (first :: rest) asked = some first :=
  List.find?_cons_of_pos (beq_iff_eq.mpr same)

theorem get?_cons_other (other : key first ≠ asked) :
    get? key (first :: rest) asked = get? key rest asked :=
  List.find?_cons_of_neg (mt eq_of_beq other)

theorem key_of_get? (found : get? key entries asked = some entry) : key entry = asked := by
  have wanted := List.find?_some found
  exact eq_of_beq wanted

theorem get?_eq_none_iff : get? key entries asked = none ↔ asked ∉ entries.map key := by
  unfold get?
  rw [List.find?_eq_none, List.mem_map, not_exists]
  refine forall_congr' fun old => ?_
  rw [beq_iff_eq, not_and]

theorem any_eq_true_iff :
    entries.any (fun old => key old == asked) = true ↔ asked ∈ entries.map key := by
  simp only [List.any_eq_true, List.mem_map, beq_iff_eq]

/-! ### After a change -/

theorem replace_cons_same (same : key first = key entry) :
    replace key (first :: rest) entry = entry :: replace key rest entry :=
  congrArg (fun head => head :: replace key rest entry) (if_pos (beq_iff_eq.mpr same))

theorem replace_cons_other (other : key first ≠ key entry) :
    replace key (first :: rest) entry = first :: replace key rest entry :=
  congrArg (fun head => head :: replace key rest entry) (if_neg (mt eq_of_beq other))

omit [LawfulBEq κ] in
theorem mem_replace (member : first ∈ replace key entries entry) :
    first = entry ∨ first ∈ entries := by
  obtain ⟨old, present, same⟩ := List.mem_map.mp member
  split at same
  · exact Or.inl same.symm
  · exact Or.inr (same ▸ present)

theorem keys_replace (entries : List α) (entry : α) :
    (replace key entries entry).map key = entries.map key := by
  induction entries with
  | nil => rfl
  | cons first rest ih =>
      by_cases same : key first = key entry
      · rw [replace_cons_same same, List.map_cons, List.map_cons, ih, same]
      · rw [replace_cons_other same, List.map_cons, List.map_cons, ih]

theorem get?_replace_same (known : key entry ∈ entries.map key) :
    get? key (replace key entries entry) (key entry) = some entry := by
  induction entries with
  | nil => cases known
  | cons first rest ih =>
      by_cases same : key first = key entry
      · rw [replace_cons_same same, get?_cons_same rfl]
      · rw [replace_cons_other same, get?_cons_other same]
        exact ih ((List.mem_cons.mp known).resolve_left (Ne.symm same))

theorem get?_replace_other (entries : List α) (other : asked ≠ key entry) :
    get? key (replace key entries entry) asked = get? key entries asked := by
  induction entries with
  | nil => rfl
  | cons first rest ih =>
      by_cases same : key first = key entry
      · have passed : key first ≠ asked := same ▸ other.symm
        rw [replace_cons_same same, get?_cons_other other.symm, get?_cons_other passed, ih]
      · rw [replace_cons_other same]
        by_cases wanted : key first = asked
        · rw [get?_cons_same wanted, get?_cons_same wanted]
        · rw [get?_cons_other wanted, get?_cons_other wanted, ih]

theorem get?_append_same (new : key entry ∉ entries.map key) :
    get? key (entries ++ [entry]) (key entry) = some entry := by
  have absent := get?_eq_none_iff.mpr new
  unfold get? at absent ⊢
  rw [List.find?_append, absent, Option.none_or]
  exact get?_cons_same rfl

theorem get?_append_other (entries : List α) (other : asked ≠ key entry) :
    get? key (entries ++ [entry]) asked = get? key entries asked := by
  have last : get? key [entry] asked = none := get?_cons_other other.symm
  unfold get? at last ⊢
  rw [List.find?_append, last, Option.or_none]

/-! ### No key is there twice -/

omit [BEq κ] [LawfulBEq κ] in
theorem nodup_append (distinct : (entries.map key).Nodup) (new : key entry ∉ entries.map key) :
    ((entries ++ [entry]).map key).Nodup := by
  rw [List.map_append, List.map_cons, List.map_nil, ← List.concat_eq_append]
  exact distinct.concat new

theorem get?_eq_some_iff (distinct : (entries.map key).Nodup) :
    get? key entries asked = some entry ↔ entry ∈ entries ∧ key entry = asked := by
  constructor
  · intro found
    exact ⟨List.mem_of_find?_eq_some found, key_of_get? found⟩
  · rintro ⟨member, rfl⟩
    induction entries with
    | nil => cases member
    | cons first rest ih =>
        rw [List.map_cons, List.nodup_cons] at distinct
        rcases List.mem_cons.mp member with rfl | inRest
        · exact get?_cons_same rfl
        · have different : key first ≠ key entry :=
            fun same => distinct.1 (same ▸ List.mem_map_of_mem inRest)
          rw [get?_cons_other different]
          exact ih distinct.2 inRest

theorem get?_perm {others : List α} (distinct : (entries.map key).Nodup)
    (reordered : others.Perm entries) (asked : κ) :
    get? key others asked = get? key entries asked := by
  have alike := (reordered.map key).nodup_iff.mpr distinct
  refine Option.ext fun entry => ?_
  rw [get?_eq_some_iff alike, get?_eq_some_iff distinct, reordered.mem_iff]

end Keyed

/-! ### Each element where it is used first -/

section FirstUses

variable {α : Type} [BEq α] [LawfulBEq α] {list : List α} {last : α}

theorem eraseDups_append_known (known : last ∈ list) :
    (list ++ [last]).eraseDups = list.eraseDups := by
  have present := List.elem_iff.mpr known
  simp only [List.eraseDups_append, List.removeAll, List.filter_cons, present, Bool.not_true,
    Bool.false_eq_true, if_false, List.filter_nil, List.eraseDups_nil, List.append_nil]

theorem eraseDups_append_new (new : last ∉ list) :
    (list ++ [last]).eraseDups = list.eraseDups ++ [last] := by
  have absent : List.elem last list = false :=
    Bool.eq_false_iff.mpr (fun present => new (List.elem_iff.mp present))
  simp only [List.eraseDups_append, List.removeAll, List.filter_cons, absent, Bool.not_false,
    if_true, List.filter_nil, List.eraseDups_cons, List.eraseDups_nil]

theorem nodup_eraseDups (list : List α) : list.eraseDups.Nodup := by
  induction list using List.reverseRecOn with
  | nil => exact List.nodup_nil
  | append_singleton list last ih =>
      by_cases known : last ∈ list
      · rw [eraseDups_append_known known]
        exact ih
      · rw [eraseDups_append_new known, ← List.concat_eq_append]
        exact ih.concat (fun member => known (List.mem_eraseDups.mp member))

end FirstUses

end HidBridge
