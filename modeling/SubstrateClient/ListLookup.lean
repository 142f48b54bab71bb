import Mathlib.Data.List.Forall2
import Mathlib.Data.List.Nodup

/-!
# Looking entries up in lists

Lists of pairs serve as maps, and lists related entry by entry as two views of one sequence.  With
distinct keys a lookup, a search and membership say the same.
-/

namespace ListLookup

variable {α β γ κ : Type}

/-! ## Lists related entry by entry -/

/-- A list related entry by entry has a partner for each of its members. -/
theorem exists_related_of_mem {related : α → β → Prop} {left : List α} {right : List β}
    (each : List.Forall₂ related left right) {value : β} (member : value ∈ right) :
    ∃ partner ∈ left, related partner value := by
  induction each with
  | nil => cases member
  | cons first _ ih =>
      rcases List.mem_cons.mp member with rfl | member
      · exact ⟨_, List.mem_cons_self, first⟩
      · obtain ⟨partner, found, holds⟩ := ih member
        exact ⟨partner, List.mem_cons_of_mem _ found, holds⟩

theorem exists_related_of_mem_left {related : α → β → Prop} {left : List α}
    {right : List β} (each : List.Forall₂ related left right) {value : α} (member : value ∈ left) :
    ∃ partner ∈ right, related value partner :=
  exists_related_of_mem each.flip member

theorem exists_pair_of_mem {paired : α → β → Prop} {parts : List α} {values : List β}
    (each : List.Forall₂ paired parts values) {part : α} (member : part ∈ parts) :
    ∃ value, (part, value) ∈ parts.zip values := by
  induction each with
  | nil => cases member
  | cons _ _ ih =>
      rcases List.mem_cons.mp member with rfl | later
      · exact ⟨_, List.mem_cons_self⟩
      · obtain ⟨value, pair⟩ := ih later
        exact ⟨value, List.mem_cons_of_mem _ pair⟩

/-! ## Lists of pairs -/

/-- What a lookup finds is in the list. -/
theorem mem_of_lookup [BEq κ] [LawfulBEq κ] {pairs : List (κ × α)} {key : κ} {value : α}
    (found : pairs.lookup key = some value) : (key, value) ∈ pairs := by
  obtain ⟨_, _, rfl, _⟩ := List.lookup_eq_some_iff.mp found
  exact List.mem_append_right _ List.mem_cons_self

/-- In a list of pairs with distinct keys, looking up a key finds its pair. -/
theorem lookup_eq_some_iff_mem [BEq κ] [LawfulBEq κ] {pairs : List (κ × α)}
    (distinct : (pairs.map Prod.fst).Nodup) {key : κ} {value : α} :
    pairs.lookup key = some value ↔ (key, value) ∈ pairs := by
  refine ⟨mem_of_lookup, fun member => ?_⟩
  induction pairs with
  | nil => cases member
  | cons pair pairs ih =>
      obtain ⟨head, first⟩ := pair
      rw [List.map_cons, List.nodup_cons] at distinct
      rw [List.lookup_cons]
      rcases List.mem_cons.mp member with same | later
      · cases same
        rw [beq_self_eq_true]
      · have apart : key ≠ head := by
          rintro rfl
          exact distinct.1 (List.mem_map.mpr ⟨(key, value), later, rfl⟩)
        rw [beq_false_of_ne apart]
        exact ih distinct.2 later

/-- A lookup finds something exactly for the keys of the list. -/
theorem exists_lookup_iff [BEq κ] [LawfulBEq κ] (key : κ) (pairs : List (κ × α)) :
    (∃ value, pairs.lookup key = some value) ↔ key ∈ pairs.map Prod.fst := by
  constructor
  · rintro ⟨value, found⟩
    exact List.mem_map.mpr ⟨(key, value), mem_of_lookup found, rfl⟩
  · intro member
    obtain ⟨entry, found, rfl⟩ := List.mem_map.mp member
    rw [← Option.isSome_iff_exists, ← Option.ne_none_iff_isSome, Ne, List.lookup_eq_none_iff]
    intro apart
    simpa using apart entry found

section Related

variable [BEq κ] {related : α → β → Prop} {left : List (κ × α)} {right : List (κ × β)}

/-- Related maps have the same keys, with related values. -/
theorem lookup_related
    (each : List.Forall₂ (fun first second => first.1 = second.1 ∧ related first.2 second.2) left right)
    (key : κ) :
    (left.lookup key = none ∧ right.lookup key = none) ∨
      ∃ first second, left.lookup key = some first ∧ right.lookup key = some second ∧
        related first second := by
  induction each with
  | nil => exact .inl ⟨rfl, rfl⟩
  | @cons first second _ _ pair _ ih =>
      obtain ⟨same, holds⟩ := pair
      rw [List.lookup_cons, List.lookup_cons, ← same]
      cases key == first.1 with
      | true => exact .inr ⟨first.2, second.2, rfl, rfl, holds⟩
      | false => exact ih

theorem related_of_lookup
    (each : List.Forall₂ (fun first second => first.1 = second.1 ∧ related first.2 second.2) left right)
    {key : κ} {first : α} {second : β} (found : left.lookup key = some first)
    (found' : right.lookup key = some second) : related first second := by
  rcases lookup_related each key with ⟨none_left, _⟩ | ⟨first', second', left_eq, right_eq, holds⟩
  · rw [found] at none_left
    cases none_left
  · rw [found] at left_eq
    rw [found'] at right_eq
    cases left_eq
    cases right_eq
    exact holds

theorem exists_lookup
    (each : List.Forall₂ (fun first second => first.1 = second.1 ∧ related first.2 second.2) left right)
    {key : κ} {first : α} (found : left.lookup key = some first) :
    ∃ second, right.lookup key = some second ∧ related first second := by
  rcases lookup_related each key with ⟨none_left, _⟩ | ⟨first', second, left_eq, right_eq, holds⟩
  · rw [found] at none_left
    cases none_left
  · rw [found] at left_eq
    cases left_eq
    exact ⟨second, right_eq, holds⟩

end Related

/-! ## Searches -/

/-- With distinct keys, finding an entry by its key finds the only one. -/
theorem find?_key_eq_some [DecidableEq κ] {key : α → κ} {entries : List α}
    (distinct : (entries.map key).Nodup) {wanted : κ} {entry : α} :
    (entries.find? fun entry => key entry = wanted) = some entry ↔
      entry ∈ entries ∧ key entry = wanted := by
  constructor
  · intro found
    exact ⟨List.mem_of_find?_eq_some found, by simpa using List.find?_some found⟩
  · rintro ⟨member, rfl⟩
    cases found : entries.find? fun other => key other = key entry with
    | none =>
        have missing := List.find?_eq_none.mp found entry member
        simp at missing
    | some other =>
        have same_key : key other = key entry := by simpa using List.find?_some found
        have other_member := List.mem_of_find?_eq_some found
        rw [List.inj_on_of_nodup_map distinct other_member member same_key]

/-- Two scans of one list, each over its own view of the entries, agree if they agree entry by entry. -/
theorem map_findSome?_map {δ ε : Type} {entries : List α} {left : α → β} {right : α → γ}
    {pick : β → Option δ} {convert : δ → ε} {pick' : γ → Option ε}
    (each : ∀ entry ∈ entries, (pick (left entry)).map convert = pick' (right entry)) :
    ((entries.map left).findSome? pick).map convert = (entries.map right).findSome? pick' := by
  induction entries with
  | nil => rfl
  | cons entry entries ih =>
      have later := ih fun other member => each other (List.mem_cons_of_mem _ member)
      rw [List.map_cons, List.map_cons, List.findSome?_cons, List.findSome?_cons,
        ← each entry List.mem_cons_self]
      cases pick (left entry) with
      | none => exact later
      | some found => rfl

/-- A scan that can stop at one entry only stops there. -/
theorem findSome?_eq_some_iff {pick : α → Option β} {entries : List α}
    (single : ∀ first ∈ entries, ∀ second ∈ entries, (pick first).isSome → (pick second).isSome →
      first = second) {value : β} :
    entries.findSome? pick = some value ↔ ∃ entry ∈ entries, pick entry = some value := by
  refine ⟨List.exists_of_findSome?_eq_some, fun ⟨entry, member, picked⟩ => ?_⟩
  cases found : entries.findSome? pick with
  | none =>
      have missing := List.findSome?_eq_none_iff.mp found entry member
      rw [picked] at missing
      cases missing
  | some other =>
      obtain ⟨stop, stop_member, stop_picked⟩ := List.exists_of_findSome?_eq_some found
      have same := single stop stop_member entry member (by simp [stop_picked]) (by simp [picked])
      rw [← picked, ← stop_picked, same]

end ListLookup
