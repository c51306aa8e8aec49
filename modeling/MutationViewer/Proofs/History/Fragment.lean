import Mathlib.Data.List.DropRight
import MutationViewer.History

/-!
# Texts in their kept form

Bringing a text into its kept form only ever drops characters, blanks at its ends and a
mark behind those at its beginning.  So a text is in its kept form exactly if it neither
begins with a blank or a mark nor ends with a blank.  The form that is kept need not be
such a text itself: it never ends with a blank, but behind the mark that is dropped a blank
or another mark may stand.
-/

namespace MutationViewer
namespace Text

def EndsBlank (text : String) : Prop :=
  ∃ character ∈ text.toList.getLast?, isBlank character = true

instance (text : String) : Decidable (EndsBlank text) :=
  decidable_of_iff (text.toList.getLast?.any isBlank = true) (Option.any_eq_true _ _)

theorem endsBlank_append {first second : String} (some : second ≠ "") :
    EndsBlank (first ++ second) ↔ EndsBlank second := by
  have nonempty : second.toList ≠ [] := fun empty => some (String.toList_eq_nil_iff.mp empty)
  rw [EndsBlank, EndsBlank, String.toList_append, List.getLast?_append_of_ne_nil _ nonempty]

theorem trimEnd_eq_rdropWhile (text : List Char) : trimEnd text = text.rdropWhile isBlank := rfl

theorem trim_isInfix (text : List Char) : trim text <:+: text :=
  (List.rdropWhile_prefix isBlank (trimStart text)).isInfix.trans
    (List.dropWhile_suffix isBlank).isInfix

theorem trimEnd_eq_self_iff {text : List Char} :
    trimEnd text = text ↔ ∀ character ∈ text.getLast?, isBlank character = false := by
  rw [trimEnd_eq_rdropWhile, List.rdropWhile_eq_self_iff]
  cases text using List.reverseRecOn with
  | nil => simp
  | append_singleton front last => simp

theorem not_isBlank_of_getLast?_trim {text : List Char} :
    ∀ character ∈ (trim text).getLast?, isBlank character = false :=
  trimEnd_eq_self_iff.mp (List.rdropWhile_idempotent isBlank (trimStart text))

theorem trim_eq_self_iff {text : List Char} :
    trim text = text ↔ (∀ character ∈ text.head?, isBlank character = false) ∧
      ∀ character ∈ text.getLast?, isBlank character = false := by
  have start : trimStart text = text ↔ ∀ character ∈ text.head?, isBlank character = false := by
    cases text with
    | nil => simp [trimStart]
    | cons character rest => simp [trimStart, List.dropWhile_eq_self_iff]
  rw [← start, ← trimEnd_eq_self_iff]
  constructor
  · intro same
    have startLength := List.length_dropWhile_le isBlank text
    have stopLength := (List.rdropWhile_prefix isBlank (trimStart text)).length_le
    change (trim text).length ≤ _ at stopLength
    rw [same] at stopLength
    have startSame : trimStart text = text :=
      (List.dropWhile_suffix isBlank).eq_of_length (Nat.le_antisymm startLength stopLength)
    refine ⟨startSame, ?_⟩
    rw [trim, startSame] at same
    exact same
  · rintro ⟨startSame, stopSame⟩
    rw [trim, startSame, stopSame]

end Text

namespace Fragment

open Text

theorem dropMark_suffix (text : List Char) : dropMark text <:+ text := by
  unfold dropMark
  split
  · exact List.suffix_cons _ _
  · exact List.suffix_refl text

theorem dropMark_eq_self_iff {text : List Char} :
    dropMark text = text ↔ ∀ character ∈ text.head?, character ≠ '#' := by
  unfold dropMark
  split
  · simp
  · next unmarked =>
      refine iff_of_true rfl ?_
      intro character first marked
      rcases List.head?_eq_some_iff.mp first with ⟨rest, rfl⟩
      exact unmarked rest (by rw [marked])

theorem toList_normalize_isInfix (raw : String) : (normalize raw).toList <:+: raw.toList := by
  rw [normalize, String.toList_ofList]
  exact (dropMark_suffix _).isInfix.trans (trim_isInfix raw.toList)

theorem length_normalize_le (raw : String) : (normalize raw).length ≤ raw.length := by
  simpa only [String.length_toList] using (toList_normalize_isInfix raw).length_le

theorem normalize_eq_self_of_length_le {raw : String} (kept : raw.length ≤ (normalize raw).length) :
    normalize raw = raw := by
  apply String.toList_injective
  apply (toList_normalize_isInfix raw).sublist.eq_of_length
  simpa only [String.length_toList] using Nat.le_antisymm (length_normalize_le raw) kept

/-- What has been dropped does not come back: another fragment is a shorter one. -/
theorem length_normalize_lt {raw : String} (changed : normalize raw ≠ raw) :
    (normalize raw).length < raw.length :=
  Nat.lt_of_not_le fun kept => changed (normalize_eq_self_of_length_le kept)

/-- The text begins neither with a blank nor with a mark. -/
def BeginsBare (text : String) : Prop :=
  ∀ character ∈ text.toList.head?, isBlank character = false ∧ character ≠ '#'

/-- A text is in its kept form exactly if nothing is cut from either end. -/
theorem normalize_eq_self_iff (text : String) :
    normalize text = text ↔ BeginsBare text ∧ ¬ EndsBlank text := by
  have kept : normalize text = text ↔ dropMark (trim text.toList) = text.toList := by
    rw [normalize, ← String.toList_inj, String.toList_ofList]
  have unended : ¬ EndsBlank text ↔
      ∀ character ∈ text.toList.getLast?, isBlank character = false := by
    simp [EndsBlank]
  have both : dropMark (trim text.toList) = text.toList ↔
      trim text.toList = text.toList ∧ dropMark text.toList = text.toList := by
    constructor
    · intro same
      have trimmed := trim_isInfix text.toList
      have dropped := (dropMark_suffix (trim text.toList)).length_le
      rw [same] at dropped
      have trimSame := trimmed.sublist.eq_of_length (Nat.le_antisymm trimmed.length_le dropped)
      rw [trimSame] at same
      exact ⟨trimSame, same⟩
    · rintro ⟨trimSame, dropSame⟩
      rw [trimSame, dropSame]
  rw [kept, both, trim_eq_self_iff, dropMark_eq_self_iff, unended, BeginsBare]
  constructor
  · rintro ⟨⟨start, stop⟩, unmarked⟩
    exact ⟨fun character first => ⟨start character first, unmarked character first⟩, stop⟩
  · rintro ⟨start, stop⟩
    exact ⟨⟨fun character first => (start character first).1, stop⟩,
      fun character first => (start character first).2⟩

theorem not_endsBlank_normalize (raw : String) : ¬ EndsBlank (normalize raw) := by
  rintro ⟨character, last, blank⟩
  rw [normalize, String.toList_ofList] at last
  rcases dropMark_suffix (Text.trim raw.toList) with ⟨front, whole⟩
  have ends : character ∈ (Text.trim raw.toList).getLast? := by
    rw [← whole, List.getLast?_append, Option.mem_def.mp last]
    rfl
  rw [not_isBlank_of_getLast?_trim character ends] at blank
  cases blank

/-- A second time nothing is dropped exactly if neither a blank nor a mark was uncovered. -/
theorem normalize_normalize_iff (raw : String) :
    normalize (normalize raw) = normalize raw ↔ BeginsBare (normalize raw) := by
  rw [normalize_eq_self_iff, and_iff_left (not_endsBlank_normalize raw)]

end Fragment
end MutationViewer
