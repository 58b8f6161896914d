import Mathlib.Data.List.Basic

/-!
# Smartlists

Modelled from the spec: `smartlist_t` (`lib/container/smartlist.c`, not among the sources) is an
array of pointers. Two of its operations change the order of what they keep: `smartlist_del`
fills the gap with the last element, and so do `SMARTLIST_DEL_CURRENT` inside a
`SMARTLIST_FOREACH` loop and `smartlist_remove`, which then visit the moved element next. The loop is `smartlistForeachDel`;
whatever its order, it keeps what the body keeps (`smartlistForeachDel_perm`).
`SMARTLIST_DEL_CURRENT_KEEPORDER` closes the gap instead and steps the index back, so that loop is
a filter (`smartlistForeachDelKeeporderAll_eq`).
-/

namespace Nuon.Container

variable {α : Type}

/-- Modelled from the spec: `smartlist_del(sl, idx)`: the last element moves into slot `idx`. -/
def smartlistDel (l : List α) (idx : Nat) : List α :=
  match l.getLast? with
  | none => l
  | some last => (l.set idx last).dropLast

/-- Modelled from the spec: a `SMARTLIST_FOREACH` loop from slot `idx` whose body rewrites the
current element or deletes it with `SMARTLIST_DEL_CURRENT`; after a deletion the element moved into
the slot is visited next. Each visit moves past one element or removes one, so `fuel` = the length
is enough. -/
def smartlistForeachDel (body : α → Option α) : Nat → Nat → List α → List α
  | 0, _, l => l
  | fuel + 1, idx, l =>
    match l[idx]? with
    | none => l
    | some x =>
      match body x with
      | none => smartlistForeachDel body fuel idx (smartlistDel l idx)
      | some y => smartlistForeachDel body fuel (idx + 1) (l.set idx y)

/-- Modelled from the spec: the whole loop. -/
def smartlistForeachDelAll (body : α → Option α) (l : List α) : List α :=
  smartlistForeachDel body l.length 0 l

/-- Modelled from the spec: `smartlist_remove(sl, element)`: delete every slot holding `element`,
the loop above with the pointer comparison as body. -/
def smartlistRemove (isElement : α → Bool) (l : List α) : List α :=
  smartlistForeachDelAll (fun x => if isElement x then none else some x) l

/-! ## What the loop keeps -/

private theorem smartlistDel_last (pre : List α) (x : α) :
    smartlistDel (pre ++ [x]) pre.length = pre := by
  simp [smartlistDel, List.getLast?_concat]

private theorem smartlistDel_middle (pre post : List α) (x last : α) :
    smartlistDel (pre ++ x :: post ++ [last]) pre.length = pre ++ last :: post := by
  rw [smartlistDel, List.getLast?_concat]
  simp [List.set_append_right]
  rw [← List.cons_append, List.dropLast_concat]

/-- `smartlist_del` keeps the slots before `idx` and, after it, the others in another order. -/
theorem smartlistDel_spec {l : List α} {idx : Nat} (inRange : idx < l.length) :
    (smartlistDel l idx).take idx = l.take idx ∧
      List.Perm ((smartlistDel l idx).drop idx) (l.drop (idx + 1)) ∧
      (smartlistDel l idx).length + 1 = l.length := by
  obtain ⟨pre, x, post, rfl, rfl⟩ : ∃ pre x post, l = pre ++ x :: post ∧ pre.length = idx :=
    ⟨l.take idx, l[idx], l.drop (idx + 1), by simp, by simp; omega⟩
  rcases List.eq_nil_or_concat post with rfl | ⟨post, last, rfl⟩
  · simp [smartlistDel_last]
  · simp only [List.concat_eq_append] at inRange ⊢
    rw [← List.cons_append, ← List.append_assoc, smartlistDel_middle]
    refine ⟨by simp, by simpa using (List.perm_append_singleton last post).symm, by simp; omega⟩

/-- `smartlist_del` removes slot `idx`, in some order. -/
theorem smartlistDel_perm {l : List α} {idx : Nat} (inRange : idx < l.length) :
    List.Perm (smartlistDel l idx) (l.eraseIdx idx) := by
  obtain ⟨before, after, -⟩ := smartlistDel_spec inRange
  rw [← List.take_append_drop idx (smartlistDel l idx), before, List.eraseIdx_eq_take_drop_succ]
  exact after.append_left _

/-- Running the loop from slot `idx` keeps the slots before it and what the body keeps of the
rest. -/
theorem smartlistForeachDel_perm (body : α → Option α) :
    ∀ (fuel idx : Nat) (l : List α), l.length ≤ idx + fuel →
      List.Perm (smartlistForeachDel body fuel idx l) (l.take idx ++ (l.drop idx).filterMap body)
  | 0, idx, l, enough => by
    rw [Nat.add_zero] at enough
    simp [smartlistForeachDel, List.take_of_length_le enough, List.drop_of_length_le enough]
  | fuel + 1, idx, l, enough => by
    unfold smartlistForeachDel
    cases visit : l[idx]? with
    | none =>
      have done : l.length ≤ idx := List.getElem?_eq_none_iff.mp visit
      simp [List.take_of_length_le done, List.drop_of_length_le done]
    | some x =>
      obtain ⟨inRange, rfl⟩ := List.getElem?_eq_some_iff.mp visit
      have rest : l.drop idx = l[idx] :: l.drop (idx + 1) := List.drop_eq_getElem_cons inRange
      dsimp only
      cases kept : body l[idx] with
      | none =>
        dsimp only
        obtain ⟨before, after, shorter⟩ := smartlistDel_spec inRange
        have deleted := smartlistForeachDel_perm body fuel idx (smartlistDel l idx) (by omega)
        rw [before] at deleted
        refine deleted.trans (List.Perm.append_left _ ?_)
        rw [rest, List.filterMap_cons_none kept]
        exact after.filterMap body
      | some y =>
        dsimp only
        refine (smartlistForeachDel_perm body fuel (idx + 1) (l.set idx y)
          (by simp only [List.length_set]; omega)).trans ?_
        rw [rest, List.filterMap_cons_some kept, List.drop_set_of_lt _ _ (Nat.lt_succ_self idx),
          List.take_succ, List.set_take, List.set_eq_of_length_le (by simp [Nat.min_le_left]),
          List.getElem?_set_self inRange]
        simp

/-- The whole loop keeps exactly what the body keeps, in some order. -/
theorem smartlistForeachDelAll_perm (body : α → Option α) (l : List α) :
    List.Perm (smartlistForeachDelAll body l) (l.filterMap body) := by
  simpa using smartlistForeachDel_perm body l.length 0 l (by omega)

/-! ## Deleting in order -/

/-- Modelled from the spec: a `SMARTLIST_FOREACH` loop from slot `idx` whose body deletes the
current element with `SMARTLIST_DEL_CURRENT_KEEPORDER` unless `keep` holds of it.
`smartlist_del_keeporder` moves the later slots down, and the macro steps the index back, so the
next element is visited next. -/
def smartlistForeachDelKeeporder (keep : α → Bool) : Nat → Nat → List α → List α
  | 0, _, l => l
  | fuel + 1, idx, l =>
    match l[idx]? with
    | none => l
    | some x =>
      if keep x then smartlistForeachDelKeeporder keep fuel (idx + 1) l
      else smartlistForeachDelKeeporder keep fuel idx (l.eraseIdx idx)

/-- Modelled from the spec: the whole loop. -/
def smartlistForeachDelKeeporderAll (keep : α → Bool) (l : List α) : List α :=
  smartlistForeachDelKeeporder keep l.length 0 l

/-- Running the loop from slot `idx` keeps the slots before it and filters the rest. -/
theorem smartlistForeachDelKeeporder_eq (keep : α → Bool) :
    ∀ (fuel idx : Nat) (l : List α), l.length ≤ idx + fuel →
      smartlistForeachDelKeeporder keep fuel idx l = l.take idx ++ (l.drop idx).filter keep
  | 0, idx, l, enough => by
    rw [Nat.add_zero] at enough
    simp [smartlistForeachDelKeeporder, List.take_of_length_le enough,
      List.drop_of_length_le enough]
  | fuel + 1, idx, l, enough => by
    unfold smartlistForeachDelKeeporder
    cases visit : l[idx]? with
    | none =>
      have done : l.length ≤ idx := List.getElem?_eq_none_iff.mp visit
      simp [List.take_of_length_le done, List.drop_of_length_le done]
    | some x =>
      obtain ⟨inRange, rfl⟩ := List.getElem?_eq_some_iff.mp visit
      have rest : l.drop idx = l[idx] :: l.drop (idx + 1) := List.drop_eq_getElem_cons inRange
      dsimp only
      by_cases kept : keep l[idx]
      · rw [if_pos kept, smartlistForeachDelKeeporder_eq keep fuel (idx + 1) l (by omega), rest,
          List.filter_cons_of_pos kept, List.take_succ, List.getElem?_eq_getElem inRange,
          Option.toList_some, List.append_assoc, List.singleton_append]
      · have before : (l.take idx).length = idx := List.length_take_of_le inRange.le
        rw [if_neg kept, smartlistForeachDelKeeporder_eq keep fuel idx _
            (by rw [List.length_eraseIdx_of_lt inRange]; omega),
          rest, List.filter_cons_of_neg kept, List.eraseIdx_eq_take_drop_succ,
          List.take_left' before, List.drop_left' before]

/-- The whole loop keeps, in order, the elements `keep` holds of. -/
theorem smartlistForeachDelKeeporderAll_eq (keep : α → Bool) (l : List α) :
    smartlistForeachDelKeeporderAll keep l = l.filter keep := by
  simpa using smartlistForeachDelKeeporder_eq keep l.length 0 l (by omega)

end Nuon.Container
