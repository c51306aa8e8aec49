import MutationViewer.Proofs.Source.Moves

/-!
# The nearest location with a candidate

A traversal that runs past an end of its location searches by distances, and the
settings say where a distance beyond the document leads.  Here the search is told
as one through a list: the locations that are met in the direction, the nearest
first and, in a ring, the active one last.
-/

namespace MutationViewer
namespace Direction

/-- The items that are met in a direction, the nearest first.  A ring leads on to
the other end and at last back to the current item. -/
def ahead {Item : Type} (direction : Direction) (ring : Bool) (before : List Item)
    (current : Item) (after : List Item) : List Item :=
  match direction with
  | forward => after ++ if ring then before ++ [current] else []
  | backward => before.reverse ++ if ring then (current :: after).reverse else []

theorem length_ahead_le {Item : Type} (direction : Direction) (ring : Bool) (before : List Item)
    (current : Item) (after : List Item) :
    (direction.ahead ring before current after).length ≤ (before ++ current :: after).length := by
  cases direction <;> cases ring <;> simp [ahead] <;> omega

theorem mem_of_mem_ahead {Item : Type} {direction : Direction} {ring : Bool}
    {before after : List Item} {current item : Item}
    (met : item ∈ direction.ahead ring before current after) :
    item ∈ before ++ current :: after := by
  cases direction <;> cases ring <;> simp [ahead] at met ⊢ <;> tauto

/-- Items in the order in which a direction meets them. -/
def met {Item : Type} : Direction -> List Item -> List Item
  | forward, items => items
  | backward, items => items.reverse

theorem firstMet_eq {Item : Type} (direction : Direction) (items : List Item) :
    direction.firstMet items = (direction.met items).head? := by
  cases direction with
  | forward => rfl
  | backward => exact List.head?_reverse.symm

theorem firstMet_eq_none_iff {Item : Type} {direction : Direction} {items : List Item} :
    direction.firstMet items = none ↔ items = [] := by
  cases direction with
  | forward => exact List.head?_eq_none_iff
  | backward => exact List.getLast?_eq_none_iff

@[simp] theorem mem_met {Item : Type} {direction : Direction} {items : List Item} {item : Item} :
    item ∈ direction.met items ↔ item ∈ items := by
  cases direction <;> simp [met]

/-- What is ahead in a direction is ahead, forward, of items in the order in which
the direction meets them. -/
theorem ahead_of_met {Item : Type} {direction : Direction} {items earlier later : List Item}
    {current : Item} (split : direction.met items = earlier ++ current :: later) :
    ∃ before after, items = before ++ current :: after ∧ forall ring,
      direction.ahead ring before current after = forward.ahead ring earlier current later := by
  cases direction with
  | forward => exact ⟨earlier, later, split, fun ring => rfl⟩
  | backward =>
      refine ⟨later.reverse, earlier.reverse, ?_, fun ring => ?_⟩
      · rw [← List.reverse_reverse items, show items.reverse = _ from split]
        simp
      · simp [ahead]

/-- Met first, after what is left of a group of items, is the first item of the groups
ahead; and that is what is met first in the list of all the items. -/
theorem head?_ahead_flatMap {Group Item : Type} (items : Group -> List Item) (ring : Bool)
    {before after : List Group} {group : Group} {earlier later : List Item} {current : Item}
    (split : items group = earlier ++ current :: later) :
    later.head?.or ((forward.ahead ring before group after).findSome? fun other =>
        (items other).head?) =
      (forward.ahead ring (before.flatMap items ++ earlier) current
        (later ++ after.flatMap items)).head? := by
  rw [← List.head?_flatMap, ← List.head?_append]
  cases ring with
  | false => simp [ahead]
  | true =>
      have longer : later ++ (forward.ahead true before group after).flatMap items =
          forward.ahead true (before.flatMap items ++ earlier) current
            (later ++ after.flatMap items) ++ later := by
        simp [ahead, split]
      rw [longer, List.head?_append_of_ne_nil _ (by simp [ahead])]

theorem findSome?_congr {Item Found : Type} {items : List Item}
    {find other : Item -> Option Found} (same : ∀ item ∈ items, find item = other item) :
    items.findSome? find = items.findSome? other := by
  induction items with
  | nil => rfl
  | cons item items ih =>
      rw [List.findSome?_cons, List.findSome?_cons, same item List.mem_cons_self,
        ih fun later member => same later (List.mem_cons_of_mem _ member)]

variable {count origin distance : Nat} (ring : Bool)

theorem place?_forward (inside : origin < count) (near : distance ≤ count) :
    forward.place? count ring origin distance =
      if origin + distance < count then some (origin + distance)
      else if ring then some (origin + distance - count) else none := by
  have target : (origin : Int) + forward.step * distance = (origin + distance : Nat) := by
    simp [step]
  unfold place?
  rw [target]
  by_cases fits : origin + distance < count
  · rw [if_pos (by omega), if_pos fits, Int.toNat_natCast]
  · have wrapped : (origin + distance) % count = origin + distance - count := by
      rw [Nat.mod_eq_sub_mod (by omega), Nat.mod_eq_of_lt (by omega)]
    rw [if_neg (by omega), if_neg fits, ← Int.natCast_emod, Int.toNat_natCast, wrapped]

theorem place?_backward (inside : origin < count) (near : distance ≤ count) :
    backward.place? count ring origin distance =
      if distance ≤ origin then some (origin - distance)
      else if ring then some (origin + count - distance) else none := by
  have target : (origin : Int) + backward.step * distance = origin - distance := by
    simp [step, Int.sub_eq_add_neg]
  unfold place?
  rw [target]
  by_cases fits : distance ≤ origin
  · rw [if_pos (by omega), if_pos fits, ← Int.natCast_sub fits, Int.toNat_natCast]
  · have wrapped : ((origin : Int) - distance) % count = (origin + count - distance : Nat) := by
      rw [← Int.add_emod_right, Int.emod_eq_of_lt (by omega) (by omega)]
      omega
    rw [if_neg (by omega), if_neg fits, wrapped, Int.toNat_natCast]

theorem getElem?_ahead {Item : Type} (direction : Direction) (before : List Item)
    (current : Item) (after : List Item) (positive : 0 < distance)
    (near : distance ≤ (before ++ current :: after).length) :
    (direction.ahead ring before current after)[distance - 1]? =
      (direction.place? (before ++ current :: after).length ring before.length distance).bind
        fun place => (before ++ current :: after)[place]? := by
  have inside : before.length < (before ++ current :: after).length := by simp
  cases direction with
  | forward =>
      rw [place?_forward ring inside near]
      simp only [List.length_append, List.length_cons] at near ⊢
      by_cases fits : before.length + distance < before.length + (after.length + 1)
      · rw [if_pos fits, Option.bind_some, ahead, List.getElem?_append_left (by omega),
          List.getElem?_append_right (by omega), List.getElem?_cons,
          if_neg (by omega)]
        congr 1
        omega
      · rw [if_neg fits, ahead, List.getElem?_append_right (by omega)]
        cases ring with
        | false => rfl
        | true =>
            have same : before.length + distance - (before.length + (after.length + 1)) =
                distance - 1 - after.length := by omega
            simp only [if_true, Option.bind_some]
            rw [same, List.append_cons before current after]
            exact (List.getElem?_append_left (by simp; omega)).symm
  | backward =>
      rw [place?_backward ring inside near]
      simp only [List.length_append, List.length_cons] at near ⊢
      by_cases fits : distance ≤ before.length
      · rw [if_pos fits, Option.bind_some, ahead, List.getElem?_append_left (by simp; omega),
          List.getElem?_reverse (by omega), List.getElem?_append_left (by omega)]
        congr 1
        omega
      · rw [if_neg fits, ahead, List.getElem?_append_right (by simp; omega)]
        cases ring with
        | false => rfl
        | true =>
            simp only [if_true, Option.bind_some, List.length_reverse]
            rw [List.getElem?_reverse (by simp; omega), List.getElem?_append_right (by omega),
              List.length_cons]
            congr 1
            omega

/-- Searching through places up to a bound is searching through the items. -/
theorem findSome?_getElem? {Item Found : Type} (items : List Item) (find : Item -> Option Found)
    (enough : items.length ≤ count) :
    (List.range' 1 count).findSome? (fun distance => items[distance - 1]?.bind find) =
      items.findSome? find := by
  have padded : (List.range' 1 count).map (fun distance => items[distance - 1]?) =
      items.map some ++ List.replicate (count - items.length) none := by
    apply List.ext_getElem
    · simp
      omega
    · intro place inside _
      simp only [List.length_map, List.length_range'] at inside
      by_cases within : place < items.length
      · simp [List.getElem_append_left, within]
      · rw [List.getElem_append_right (by simpa using within)]
        simp [Nat.not_lt.mp within]
  have composed := congrArg (List.findSome? fun item => item.bind find) padded
  rw [List.findSome?_map, List.findSome?_append, List.findSome?_map, List.findSome?_replicate]
    at composed
  simpa [Function.comp_def] using composed

end Direction

/-! ## Locations in a direction -/

namespace Viewer

variable {viewer : Viewer} {before after : List Location} {location : Location}

/-- The locations that a traversal meets are those in its direction. -/
theorem locationAt?_eq (coherent : viewer.report.Coherent)
    (located : viewer.selection.location = some location)
    (split : viewer.report.locations = before ++ location :: after) (direction : Direction)
    {distance : Nat} (positive : 0 < distance)
    (near : distance ≤ viewer.report.locations.length) :
    viewer.locationAt? direction distance =
      (direction.ahead viewer.settings.ring before location after)[distance - 1]? := by
  have origin : viewer.origin direction = before.length := by
    simp [Viewer.origin, located, coherent.position?_of_split split]
  rw [split] at near
  rw [locationAt?, origin, split, Direction.getElem?_ahead _ _ _ _ _ positive near]

/-- A traversal goes on to the first mutant that is met in the nearest location that
has one. -/
theorem nextCandidate?_eq (coherent : viewer.report.Coherent)
    (located : viewer.selection.location = some location)
    (split : viewer.report.locations = before ++ location :: after) (direction : Direction) :
    viewer.nextCandidate? direction =
      (direction.ahead viewer.settings.ring before location after).findSome? fun other =>
        direction.firstMet (viewer.filters.candidatesAt viewer.report other) := by
  have enough := direction.length_ahead_le viewer.settings.ring before location after
  rw [← split] at enough
  rw [← Direction.findSome?_getElem? _ _ enough]
  apply Direction.findSome?_congr
  intro distance member
  have range := List.mem_range'_1.mp member
  rw [locationAt?_eq coherent located split direction (by omega) (by omega)]

end Viewer
end MutationViewer
