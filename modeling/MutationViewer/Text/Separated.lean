/-!
# Separated text

Joining puts a separator between neighbours; splitting cuts at each place where
the separator stands, from the left and without overlaps.  Joining the parts of
a split gives the text back.  The converse asks that no part holds the
separator and that none arises where two parts meet it.
-/

namespace MutationViewer
namespace Text

/-- Put the first characters of a text in front of the first part. -/
def extendFirst (character : Char) : List (List Char) -> List (List Char)
  | [] => [[character]]
  | part :: parts => (character :: part) :: parts

/-- Cut a text at the separator `first :: more`. -/
def splitAtEach (first : Char) (more : List Char) : List Char -> List (List Char)
  | [] => [[]]
  | character :: rest =>
      if character = first && more.isPrefixOf rest then
        [] :: splitAtEach first more (rest.drop more.length)
      else extendFirst character (splitAtEach first more rest)
termination_by text => text.length
decreasing_by
  · rw [List.length_drop, List.length_cons]
    omega
  · exact Nat.lt_succ_self _

theorem splitAtEach_nil (first : Char) (more : List Char) :
    splitAtEach first more [] = [[]] := by
  rw [splitAtEach]

theorem splitAtEach_ne_nil (first : Char) (more text : List Char) :
    splitAtEach first more text ≠ [] := by
  cases text with
  | nil => simp [splitAtEach]
  | cons character rest =>
      rw [splitAtEach]
      split
      · simp
      · cases splitAtEach first more rest <;> simp [extendFirst]

private theorem intercalate_extendFirst (separator : List Char) (character : Char)
    (parts : List (List Char)) (nonempty : parts ≠ []) :
    separator.intercalate (extendFirst character parts) =
      character :: separator.intercalate parts := by
  cases parts with
  | nil => exact absurd rfl nonempty
  | cons part parts => cases parts <;> simp [extendFirst, List.intercalate, List.intersperse]

private theorem intercalate_nil_cons (separator : List Char)
    (parts : List (List Char)) (nonempty : parts ≠ []) :
    separator.intercalate ([] :: parts) = separator ++ separator.intercalate parts := by
  cases parts with
  | nil => exact absurd rfl nonempty
  | cons part parts => simp [List.intercalate, List.intersperse]

/-- Nothing but separators is lost by cutting. -/
theorem intercalate_splitAtEach (first : Char) (more text : List Char) :
    (first :: more).intercalate (splitAtEach first more text) = text := by
  fun_induction splitAtEach first more text with
  | case1 => simp [List.intercalate, List.intersperse]
  | case2 character rest stands ih =>
      simp only [Bool.and_eq_true, decide_eq_true_eq, List.isPrefixOf_iff_prefix] at stands
      obtain ⟨rfl, ⟨tail, rfl⟩⟩ := stands
      rw [intercalate_nil_cons _ _ (splitAtEach_ne_nil _ _ _), ih]
      simp
  | case3 character rest stands ih =>
      rw [intercalate_extendFirst _ _ _ (splitAtEach_ne_nil _ _ _), ih]

/-- The parts with the separator between neighbours. -/
def join (separator : String) (parts : List String) : String :=
  String.ofList (separator.toList.intercalate (parts.map String.toList))

theorem join_singleton (separator part : String) : join separator [part] = part := by
  simp [join]

/-- The parts between the separators.  Nothing can be cut at an empty one. -/
def split? (separator text : String) : Option (List String) :=
  match separator.toList with
  | [] => none
  | first :: more => some ((splitAtEach first more text.toList).map String.ofList)

theorem split?_eq_none_iff (separator text : String) :
    split? separator text = none ↔ separator = "" := by
  unfold split?
  split
  · next empty => simp_all
  · next first more cons =>
      have nonempty : separator ≠ "" := by
        rintro rfl
        simp at cons
      simp [nonempty]

theorem join_of_split? {separator text : String} {parts : List String}
    (cut : split? separator text = some parts) : join separator parts = text := by
  unfold split? at cut
  split at cut
  · exact absurd cut (by simp)
  · next first more cons =>
      cases cut
      have forget : (String.toList ∘ String.ofList : List Char -> List Char) = id := by
        funext characters
        simp
      rw [join, cons, List.map_map, forget, List.map_id, intercalate_splitAtEach,
        String.ofList_toList]

end Text
end MutationViewer
