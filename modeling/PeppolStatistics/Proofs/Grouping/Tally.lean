import Mathlib.Data.Finset.Card
import Mathlib.Data.List.Induction
import PeppolStatistics.Grouping.Counts

/-!
# What a tally counts

`GroupCounts.ofItems` goes through the items once and keeps a tally. `CountsOf` says what the
figures of some items are without the tally: numbers of items by direction, and sizes of sets of
end users.

* `Tally.Covers` is the invariant of the loop, `covers_add` its step, `covers_foldl` its run;
* `countsOf_ofItems`: the figures of some items are the ones that `CountsOf` names;
* `ofItems_perm`: they do not depend on the order of the items.
-/

namespace PeppolStatistics

/-! ## 1. The figures, said on their own -/

/-- The end users of some items, each once. -/
def endUserSet (items : List Item) : Finset String := (items.map (·.endUserId)).toFinset

theorem mem_endUserSet {items : List Item} {u : String} :
    u ∈ endUserSet items ↔ ∃ i ∈ items, i.endUserId = u := by
  rw [endUserSet, List.mem_toFinset, List.mem_map]

/-- The items of one direction. -/
def ofDirection (d : Direction) (items : List Item) : List Item :=
  items.filter fun i => i.direction = d

theorem mem_ofDirection {d : Direction} {items : List Item} {i : Item} :
    i ∈ ofDirection d items ↔ i ∈ items ∧ i.direction = d := by
  simp [ofDirection]

/-- **Some figures are those of some items**: the messages of each direction, and the distinct
    end users of the sent items, of the received items and of all items. -/
structure GroupCounts.CountsOf (c : GroupCounts) (items : List Item) : Prop where
  incoming : c.incoming = (ofDirection .receiving items).length
  outgoing : c.outgoing = (ofDirection .sending items).length
  sendingEndUsers : c.sendingEndUsers = (endUserSet (ofDirection .sending items)).card
  receivingEndUsers : c.receivingEndUsers = (endUserSet (ofDirection .receiving items)).card
  sendingOrReceivingEndUsers : c.sendingOrReceivingEndUsers = (endUserSet items).card

theorem endUserSet_perm {xs ys : List Item} (h : xs.Perm ys) : endUserSet xs = endUserSet ys :=
  List.toFinset_eq_of_perm _ _ (h.map _)

theorem GroupCounts.CountsOf.perm {c : GroupCounts} {xs ys : List Item} (hc : c.CountsOf xs)
    (h : xs.Perm ys) : c.CountsOf ys := by
  have hs : (ofDirection .sending xs).Perm (ofDirection .sending ys) := h.filter _
  have hr : (ofDirection .receiving xs).Perm (ofDirection .receiving ys) := h.filter _
  exact
    { incoming := hr.length_eq ▸ hc.incoming
      outgoing := hs.length_eq ▸ hc.outgoing
      sendingEndUsers := endUserSet_perm hs ▸ hc.sendingEndUsers
      receivingEndUsers := endUserSet_perm hr ▸ hc.receivingEndUsers
      sendingOrReceivingEndUsers := endUserSet_perm h ▸ hc.sendingOrReceivingEndUsers }

/-- Some items have one set of figures only. -/
theorem GroupCounts.CountsOf.unique {c c' : GroupCounts} {items : List Item}
    (h : c.CountsOf items) (h' : c'.CountsOf items) : c = c' := by
  obtain ⟨h₁, h₂, h₃, h₄, h₅⟩ := h
  obtain ⟨h₁', h₂', h₃', h₄', h₅'⟩ := h'
  cases c
  cases c'
  simp only [GroupCounts.mk.injEq]
  exact ⟨h₁.trans h₁'.symm, h₂.trans h₂'.symm, h₃.trans h₃'.symm, h₄.trans h₄'.symm,
    h₅.trans h₅'.symm⟩

/-! ## 2. The loop -/

namespace Tally

/-- What a tally knows after some items: the messages of each direction, and the end users of
    each direction, none twice. -/
structure Covers (t : Tally) (items : List Item) : Prop where
  incoming : t.incoming = (ofDirection .receiving items).length
  outgoing : t.outgoing = (ofDirection .sending items).length
  nodup_senders : t.senders.Nodup
  nodup_receivers : t.receivers.Nodup
  mem_senders : ∀ u, u ∈ t.senders ↔ ∃ i ∈ ofDirection .sending items, i.endUserId = u
  mem_receivers : ∀ u, u ∈ t.receivers ↔ ∃ i ∈ ofDirection .receiving items, i.endUserId = u

theorem covers_nil : Covers {} [] where
  incoming := rfl
  outgoing := rfl
  nodup_senders := List.nodup_nil
  nodup_receivers := List.nodup_nil
  mem_senders _ := by simp [ofDirection]
  mem_receivers _ := by simp [ofDirection]

theorem ofDirection_concat_self (items : List Item) (i : Item) :
    ofDirection i.direction (items ++ [i]) = ofDirection i.direction items ++ [i] := by
  simp [ofDirection]

theorem ofDirection_concat_other {d : Direction} {i : Item} (h : i.direction ≠ d)
    (items : List Item) : ofDirection d (items ++ [i]) = ofDirection d items := by
  simp [ofDirection, h]

/-- The end users of one direction after one more item of it. -/
theorem mem_insert_user {users : List String} {members : List Item}
    (h : ∀ u, u ∈ users ↔ ∃ i ∈ members, i.endUserId = u) (i : Item) (u : String) :
    u ∈ users.insert i.endUserId ↔ ∃ j ∈ members ++ [i], j.endUserId = u := by
  rw [List.mem_insert_iff, h u]
  constructor
  · rintro (rfl | ⟨j, hj, rfl⟩)
    · exact ⟨i, by simp, rfl⟩
    · exact ⟨j, List.mem_append_left _ hj, rfl⟩
  · rintro ⟨j, hj, rfl⟩
    rcases List.mem_append.mp hj with hj | hj
    · exact Or.inr ⟨j, hj, rfl⟩
    · rw [List.mem_singleton.mp hj]
      exact Or.inl rfl

/-- **One step of the loop keeps the invariant.** -/
theorem covers_add {t : Tally} {items : List Item} (h : t.Covers items) (i : Item) :
    (t.add i).Covers (items ++ [i]) := by
  cases hd : i.direction with
  | receiving =>
    have hr : ofDirection .receiving (items ++ [i]) = ofDirection .receiving items ++ [i] :=
      hd ▸ ofDirection_concat_self items i
    have hs : ofDirection .sending (items ++ [i]) = ofDirection .sending items :=
      ofDirection_concat_other (by rw [hd]; decide) items
    rw [add, if_pos (by rw [Item.isReceiving, hd]; rfl)]
    constructor
    · rw [hr, List.length_append, h.incoming]
      simp
    · rw [hs]
      exact h.outgoing
    · exact h.nodup_senders
    · exact h.nodup_receivers.insert
    · rw [hs]
      exact h.mem_senders
    · rw [hr]
      exact mem_insert_user h.mem_receivers i
  | sending =>
    have hs : ofDirection .sending (items ++ [i]) = ofDirection .sending items ++ [i] :=
      hd ▸ ofDirection_concat_self items i
    have hr : ofDirection .receiving (items ++ [i]) = ofDirection .receiving items :=
      ofDirection_concat_other (by rw [hd]; decide) items
    rw [add, if_neg (by rw [Item.isReceiving, hd]; decide)]
    constructor
    · rw [hr]
      exact h.incoming
    · rw [hs, List.length_append, h.outgoing]
      simp
    · exact h.nodup_senders.insert
    · exact h.nodup_receivers
    · rw [hs]
      exact mem_insert_user h.mem_senders i
    · rw [hr]
      exact h.mem_receivers

/-- The whole loop: the tally covers all items. -/
theorem covers_foldl (items : List Item) : (items.foldl add {}).Covers items := by
  induction items using List.reverseRecOn with
  | nil => exact covers_nil
  | append_singleton items i ih =>
    rw [List.foldl_append]
    exact covers_add ih i

/-! ## 3. The figures of a tally -/

/-- A list without repetitions is as long as the set of its members is large. -/
theorem length_eq_card {users : List String} {s : Finset String} (hn : users.Nodup)
    (h : ∀ u, u ∈ users ↔ u ∈ s) : users.length = s.card := by
  rw [← List.toFinset_card_of_nodup hn]
  congr 1
  ext u
  rw [List.mem_toFinset]
  exact h u

theorem Covers.nodup_endUsers {t : Tally} {items : List Item} (h : t.Covers items) :
    t.endUsers.Nodup :=
  List.Nodup.union _ h.nodup_receivers

theorem Covers.mem_endUsers {t : Tally} {items : List Item} (h : t.Covers items) (u : String) :
    u ∈ t.endUsers ↔ u ∈ endUserSet items := by
  have hu : u ∈ t.endUsers ↔ u ∈ t.senders ∨ u ∈ t.receivers := List.mem_union_iff
  rw [hu, h.mem_senders, h.mem_receivers, mem_endUserSet]
  constructor
  · rintro (⟨i, hi, rfl⟩ | ⟨i, hi, rfl⟩)
    · exact ⟨i, (mem_ofDirection.mp hi).1, rfl⟩
    · exact ⟨i, (mem_ofDirection.mp hi).1, rfl⟩
  · rintro ⟨i, hi, rfl⟩
    cases hd : i.direction with
    | sending => exact Or.inl ⟨i, mem_ofDirection.mpr ⟨hi, hd⟩, rfl⟩
    | receiving => exact Or.inr ⟨i, mem_ofDirection.mpr ⟨hi, hd⟩, rfl⟩

theorem Covers.countsOf {t : Tally} {items : List Item} (h : t.Covers items) :
    t.counts.CountsOf items where
  incoming := h.incoming
  outgoing := h.outgoing
  sendingEndUsers := congrArg Nat.cast
    (length_eq_card h.nodup_senders fun u => (h.mem_senders u).trans mem_endUserSet.symm)
  receivingEndUsers := congrArg Nat.cast
    (length_eq_card h.nodup_receivers fun u => (h.mem_receivers u).trans mem_endUserSet.symm)
  sendingOrReceivingEndUsers := congrArg Nat.cast (length_eq_card h.nodup_endUsers h.mem_endUsers)

end Tally

namespace GroupCounts

/-- **The figures of some items are what they are meant to be.** -/
theorem countsOf_ofItems (items : List Item) : (ofItems items).CountsOf items :=
  (Tally.covers_foldl items).countsOf

/-- The figures do not depend on the order of the items. -/
theorem ofItems_perm {xs ys : List Item} (h : xs.Perm ys) : ofItems xs = ofItems ys :=
  ((countsOf_ofItems xs).perm h).unique (countsOf_ofItems ys)

end GroupCounts

end PeppolStatistics
