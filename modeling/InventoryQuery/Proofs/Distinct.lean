import InventoryQuery.Distinct
import Mathlib.Data.List.Nodup

/-!
# First occurrences

What remains of a list when repeated keys are dropped: the elements before which no other has their
key, in their order.
-/

namespace InventoryQuery

/-- The elements at the places before which no other has their key. -/
def leadersBy {α β : Type} [DecidableEq β] (key : α → β) (list : List α) : List α :=
  (list.zipIdx.filter fun (a, i) ↦ key a ∉ (list.take i).map key).map (·.1)

variable {α β : Type} [DecidableEq β] {key : α → β} {list : List α}

/-- The keys that were seen before the list starts count like those in it. -/
theorem firstsAfter_eq_filter_zipIdx (key : α → β) (seen : List β) (list : List α) :
    firstsAfter key seen list =
      (list.zipIdx.filter fun (a, i) ↦ key a ∉ seen ∧ key a ∉ (list.take i).map key).map (·.1) := by
  induction list generalizing seen with
  | nil => rfl
  | cons a rest ih =>
    have hrest (seen : List β) (h : key a ∈ seen) :
        ((rest.zipIdx 1).filter fun (b, i) ↦
          key b ∉ seen ∧ key b ∉ ((a :: rest).take i).map key).map (·.1) =
        firstsAfter key seen rest := by
      rw [ih, List.zipIdx_succ, List.filter_map, List.map_map]
      congr 1
      apply List.filter_congr
      intro pair _
      simp only [Function.comp_apply, List.take_succ_cons, List.map_cons, List.mem_cons, not_or]
      grind
    rw [firstsAfter, List.zipIdx_cons, List.filter_cons]
    by_cases hseen : key a ∈ seen
    · rw [if_pos hseen, if_neg (by simp [hseen])]
      exact (hrest seen hseen).symm
    · rw [if_neg hseen, if_pos (by simp [hseen]), List.map_cons,
        ← hrest (key a :: seen) List.mem_cons_self]
      congr 2
      apply List.filter_congr
      intro pair hpair
      have hpos : 1 ≤ pair.2 := (List.mem_zipIdx hpair).1
      obtain ⟨i, hi⟩ := Nat.exists_eq_add_of_le' hpos
      simp only [hi, List.take_succ_cons, List.map_cons, List.mem_cons, not_or]
      grind

theorem firstsBy_eq_leadersBy (key : α → β) (list : List α) :
    firstsBy key list = leadersBy key list := by
  rw [firstsBy, firstsAfter_eq_filter_zipIdx]
  simp [leadersBy]

theorem leadersBy_sublist (key : α → β) (list : List α) : (leadersBy key list).Sublist list := by
  have hplaces : list.zipIdx.map (·.1) = list := List.zipIdx_map_fst 0 list
  conv_rhs => rw [← hplaces]
  exact List.filter_sublist.map _

theorem mem_firstsAfter {seen : List β} {a : α} (h : a ∈ firstsAfter key seen list) :
    a ∈ list ∧ key a ∉ seen := by
  induction list generalizing seen with
  | nil => simp [firstsAfter] at h
  | cons b rest ih =>
    rw [firstsAfter] at h
    split at h
    · exact ⟨List.mem_cons_of_mem b (ih h).1, (ih h).2⟩
    · next hb =>
      rcases List.mem_cons.1 h with rfl | h
      · exact ⟨List.mem_cons_self, hb⟩
      · obtain ⟨hmem, hseen⟩ := ih h
        exact ⟨List.mem_cons_of_mem b hmem, fun hk ↦ hseen (List.mem_cons_of_mem _ hk)⟩

theorem mem_of_mem_firstsBy {a : α} (h : a ∈ firstsBy key list) : a ∈ list := (mem_firstsAfter h).1

theorem exists_mem_firstsAfter {seen : List β} {a : α} (ha : a ∈ list) (hseen : key a ∉ seen) :
    ∃ b ∈ firstsAfter key seen list, key b = key a := by
  induction list generalizing seen with
  | nil => simp at ha
  | cons b rest ih =>
    rw [firstsAfter]
    split
    · next hb =>
      have hrest : a ∈ rest := (List.mem_cons.1 ha).resolve_left fun h ↦ hseen (h ▸ hb)
      exact ih hrest hseen
    · by_cases hab : key b = key a
      · exact ⟨b, List.mem_cons_self, hab⟩
      · have hrest : a ∈ rest := (List.mem_cons.1 ha).resolve_left fun h ↦ hab (h ▸ rfl)
        have hnot : key a ∉ key b :: seen := by simpa using ⟨Ne.symm hab, hseen⟩
        obtain ⟨d, hd, hkey⟩ := ih hrest hnot
        exact ⟨d, List.mem_cons_of_mem b hd, hkey⟩

/-- Every key of a list stays. -/
theorem exists_mem_firstsBy {a : α} (ha : a ∈ list) : ∃ b ∈ firstsBy key list, key b = key a :=
  exists_mem_firstsAfter ha List.not_mem_nil

theorem nodup_map_firstsAfter (key : α → β) (seen : List β) (list : List α) :
    ((firstsAfter key seen list).map key).Nodup := by
  induction list generalizing seen with
  | nil => exact List.nodup_nil
  | cons a rest ih =>
    rw [firstsAfter]
    split
    · exact ih seen
    · refine List.nodup_cons.2 ⟨fun h ↦ ?_, ih (key a :: seen)⟩
      obtain ⟨b, hb, hkey⟩ := List.mem_map.1 h
      exact (mem_firstsAfter hb).2 (hkey ▸ List.mem_cons_self)

theorem nodup_map_firstsBy (key : α → β) (list : List α) : ((firstsBy key list).map key).Nodup :=
  nodup_map_firstsAfter key [] list

theorem firstsAfter_eq_self {seen : List β} (h : (list.map key).Nodup)
    (hseen : ∀ a ∈ list, key a ∉ seen) : firstsAfter key seen list = list := by
  induction list generalizing seen with
  | nil => rfl
  | cons a rest ih =>
    rw [List.map_cons, List.nodup_cons] at h
    rw [firstsAfter, if_neg (hseen a List.mem_cons_self), ih h.2]
    intro b hb hmem
    rcases List.mem_cons.1 hmem with hkey | hmem
    · exact h.1 (hkey ▸ List.mem_map_of_mem hb)
    · exact hseen b (List.mem_cons_of_mem a hb) hmem

/-- Nothing is dropped where no key is repeated. -/
theorem firstsBy_eq_self (h : (list.map key).Nodup) : firstsBy key list = list :=
  firstsAfter_eq_self h fun _ _ ↦ List.not_mem_nil

/-- What stays is the first element with its key. -/
theorem mem_firstsAfter_iff {seen : List β} {a : α} :
    a ∈ firstsAfter key seen list ↔
      key a ∉ seen ∧ list.find? (fun b ↦ key b = key a) = some a := by
  induction list generalizing seen with
  | nil => simp [firstsAfter]
  | cons b rest ih =>
    rw [firstsAfter]
    by_cases hkey : key b = key a
    · rw [List.find?_cons_of_pos (by simpa using hkey)]
      split
      · next hb => simp [ih, ← hkey, hb]
      · next hb =>
        have hrest : a ∉ firstsAfter key (key b :: seen) rest := fun h ↦
          (mem_firstsAfter h).2 (by simp [hkey])
        rw [List.mem_cons, or_iff_left hrest, ← hkey, and_iff_right hb, Option.some.injEq, eq_comm]
    · rw [List.find?_cons_of_neg (by simpa using hkey)]
      split
      · exact ih
      · have hne : a ≠ b := by
          rintro rfl
          exact hkey rfl
        rw [List.mem_cons, or_iff_right hne, ih, List.mem_cons, not_or,
          and_iff_right (Ne.symm hkey)]

/-- Only which keys were seen counts. -/
theorem firstsAfter_congr {seen seen' : List β} (h : ∀ k, k ∈ seen ↔ k ∈ seen') :
    firstsAfter key seen list = firstsAfter key seen' list := by
  induction list generalizing seen seen' with
  | nil => rfl
  | cons a rest ih =>
    have hcons : ∀ k, k ∈ key a :: seen ↔ k ∈ key a :: seen' := fun k ↦ by
      rw [List.mem_cons, List.mem_cons, h k]
    simp only [firstsAfter, h (key a), ih h, ih hcons]

/-- An element takes nothing from the others but those with its key. -/
theorem firstsAfter_cons_sublist {seen : List β} (b : α) :
    (firstsAfter key (key b :: seen) list).Sublist (firstsAfter key seen (b :: list)) := by
  rw [firstsAfter]
  split
  · next hb =>
    have hsame : ∀ k, k ∈ key b :: seen ↔ k ∈ seen := by simp [hb]
    rw [firstsAfter_congr hsame]
  · exact List.sublist_cons_self b _

/-- Where more elements are let in, those stay in their order whose key no new element takes. -/
theorem filter_firstsAfter_sublist {few many : α → Bool} (hmore : ∀ a, few a = true → many a = true)
    (seen seen' : List β) :
    ((firstsAfter key seen (list.filter few)).filter fun a ↦
        key a ∉ seen' ∧ ((list.filter many).find? fun b ↦ key b = key a).any few).Sublist
      (firstsAfter key seen' (list.filter many)) := by
  induction list generalizing seen seen' with
  | nil => simp [firstsAfter]
  | cons b rest ih =>
    cases hmany : many b with
    | false =>
      have hfew : few b = false := by
        by_contra h
        rw [hmore b (by simpa using h)] at hmany
        cases hmany
      simp only [List.filter_cons, hfew, hmany, Bool.false_eq_true, if_false]
      exact ih seen seen'
    | true =>
      -- Behind `b` its key is taken in both lists, or no element with it is kept.
      have htail (before : List β) (hb : few b = true → key b ∈ before) :
          ((firstsAfter key before (rest.filter few)).filter fun a ↦
              key a ∉ seen' ∧ ((b :: rest.filter many).find? fun b ↦ key b = key a).any few).Sublist
            (firstsAfter key (key b :: seen') (rest.filter many)) := by
        convert ih before (key b :: seen') using 1
        apply List.filter_congr
        intro a ha
        by_cases hkey : key b = key a
        · have hnone : few b = false := by
            by_contra h
            exact (mem_firstsAfter ha).2 (hkey ▸ hb (by simpa using h))
          simp [hkey, hnone]
        · simp [hkey, Ne.symm hkey]
      have hwide : (firstsAfter key (key b :: seen') (rest.filter many)).Sublist
          (firstsAfter key seen' (b :: rest.filter many)) := firstsAfter_cons_sublist b
      rw [List.filter_cons_of_pos hmany]
      cases hfew : few b with
      | false =>
        rw [List.filter_cons_of_neg (by simp [hfew])]
        exact (htail seen (by simp [hfew])).trans hwide
      | true =>
        rw [List.filter_cons_of_pos hfew, firstsAfter.eq_2 key seen]
        split
        · next hb => exact (htail seen fun _ ↦ hb).trans hwide
        · have hrest := htail (key b :: seen) fun _ ↦ List.mem_cons_self
          by_cases hb' : key b ∈ seen'
          · rw [List.filter_cons_of_neg (by simp [hb'])]
            exact hrest.trans hwide
          · rw [List.filter_cons_of_pos (by simp [hb', hfew]), firstsAfter, if_neg hb']
            exact hrest.cons_cons b

theorem filter_firstsBy_sublist {few many : α → Bool} (hmore : ∀ a, few a = true → many a = true)
    (list : List α) :
    ((firstsBy key (list.filter few)).filter fun a ↦
        ((list.filter many).find? fun b ↦ key b = key a).any few).Sublist
      (firstsBy key (list.filter many)) := by
  simpa [firstsBy] using filter_firstsAfter_sublist hmore [] []

theorem find?_firstsAfter_id {α : Type} [DecidableEq α] {test : α → Bool} {seen list : List α}
    (hseen : ∀ a ∈ seen, test a = false) :
    (firstsAfter id seen list).find? test = list.find? test := by
  induction list generalizing seen with
  | nil => rfl
  | cons a rest ih =>
    rw [firstsAfter]
    split
    · next ha => rw [ih hseen, List.find?_cons_of_neg (by simp [hseen a ha])]
    · cases hfound : test a with
      | true => rw [List.find?_cons_of_pos hfound, List.find?_cons_of_pos hfound]
      | false =>
        have hboth : ∀ b ∈ id a :: seen, test b = false := List.forall_mem_cons.2 ⟨hfound, hseen⟩
        rw [List.find?_cons_of_neg (by simp [hfound]), List.find?_cons_of_neg (by simp [hfound]),
          ih hboth]

/-- A search finds nothing new among repeated elements. -/
theorem find?_firstsBy_id {α : Type} [DecidableEq α] (test : α → Bool) (list : List α) :
    (firstsBy id list).find? test = list.find? test :=
  find?_firstsAfter_id fun _ h ↦ nomatch h

end InventoryQuery
