import Mathlib.Data.List.Infix
import MutationViewer.Proofs.History.Fragment
import MutationViewer.Proofs.Tree.Reading

/-!
# Separators of any length

What is read from an address is a path of folders that writes to it, however long the
separator is and wherever it stands in the root marker or in the names.  Conversely, that
anything is read from the address of a folder rests on the joined names being cut where
they were joined.  Cutting goes from the left, so where a name ends with a beginning of the
separator, the separator may be met too early, and the cut goes through the joint.

This cannot happen if the separator has no border, that is, no proper beginning that is its
end as well; separators of one character have none.  With every other separator there is a
folder whose own address names nothing.
-/

namespace MutationViewer
namespace Text

/-- A beginning of the text is its end as well, and neither empty nor the whole of it. -/
def Bordered (text : List Char) : Prop :=
  ∃ border, border ≠ [] ∧ border ≠ text ∧ border <+: text ∧ border <:+ text

instance (text : List Char) : Decidable (Bordered text) :=
  decidable_of_iff (∃ border ∈ text.tails, border ≠ [] ∧ border ≠ text ∧ border <+: text) (by
    simp only [Bordered, List.mem_tails]
    exact exists_congr fun border => by tauto)

/-- A separator without a border that stands at the beginning of a name and what follows is
within the name, unless the name is empty. -/
theorem prefix_of_unbordered {separator name rest : List Char} (unbordered : ¬ Bordered separator)
    (some : name ≠ []) (stands : separator <+: name ++ (separator ++ rest)) :
    separator <+: name := by
  by_cases within : separator.length ≤ name.length
  · exact List.prefix_of_prefix_length_le stands (List.prefix_append name _) within
  · -- Otherwise what sticks out of the name is where the separator begins and ends.
    obtain ⟨border, rfl⟩ : name <+: separator :=
      List.prefix_of_prefix_length_le (List.prefix_append name _) stands (by omega)
    rw [List.prefix_append_right_inj] at stands
    rw [List.length_append] at within
    have longer : border.length ≤ (name ++ border).length := by simp
    refine absurd ⟨border, ?_, ?_, ?_, List.suffix_append name border⟩ unbordered
    · rintro rfl
      simp at within
    · simpa using Ne.symm some
    · exact List.prefix_of_prefix_length_le stands (List.prefix_append _ rest) longer

theorem extendFirst_append {character : Char} {parts : List (List Char)} (some : parts ≠ [])
    (more : List (List Char)) :
    extendFirst character (parts ++ more) = extendFirst character parts ++ more := by
  cases parts with
  | nil => exact absurd rfl some
  | cons part parts => rfl

theorem splitAtEach_separator (first : Char) (more text : List Char) :
    splitAtEach first more (first :: more ++ text) = [] :: splitAtEach first more text := by
  rw [List.cons_append, splitAtEach]
  simp

theorem splitAtEach_append {first : Char} {more : List Char}
    (unbordered : ¬ Bordered (first :: more)) (name rest : List Char) :
    splitAtEach first more (name ++ (first :: more ++ rest)) =
      splitAtEach first more name ++ splitAtEach first more rest := by
  fun_induction splitAtEach first more name with
  | case1 => exact splitAtEach_separator first more rest
  | case2 character tail stands ih =>
      simp only [Bool.and_eq_true, decide_eq_true_eq, List.isPrefixOf_iff_prefix] at stands
      obtain ⟨rfl, left, rfl⟩ := stands
      rw [List.drop_left] at ih ⊢
      have regrouped : character :: (more ++ left) ++ (character :: more ++ rest) =
          character :: more ++ (left ++ (character :: more ++ rest)) := by simp
      rw [regrouped, splitAtEach_separator, ih, List.cons_append]
  | case3 character tail stands ih =>
      rw [List.cons_append, splitAtEach, if_neg, ih, extendFirst_append (splitAtEach_ne_nil _ _ _)]
      simp only [Bool.and_eq_true, decide_eq_true_eq, List.isPrefixOf_iff_prefix] at stands ⊢
      rintro ⟨rfl, early⟩
      have beyond : character :: more <+: (character :: tail) ++ (character :: more ++ rest) := by
        simpa using early
      have within := prefix_of_unbordered unbordered (List.cons_ne_nil character tail) beyond
      exact stands ⟨rfl, by simpa using within⟩

theorem split?_append {separator first second : String} {before after : List String}
    (unbordered : ¬ Bordered separator.toList) (cut : split? separator first = some before)
    (cutAfter : split? separator second = some after) :
    split? separator (first ++ separator ++ second) = some (before ++ after) := by
  unfold split? at cut cutAfter ⊢
  cases parts : separator.toList with
  | nil =>
      rw [parts] at cut
      cases cut
  | cons character more =>
      rw [parts] at cut cutAfter unbordered
      cases cut
      cases cutAfter
      simp only [String.toList_append, parts, List.append_assoc]
      rw [splitAtEach_append unbordered, List.map_append]

theorem exists_split?_separator {separator : String} (separated : separator ≠ "") (text : String) :
    ∃ parts, split? separator (separator ++ text) = some ("" :: parts) := by
  unfold split?
  cases parts : separator.toList with
  | nil => exact absurd (String.toList_eq_nil_iff.mp parts) separated
  | cons character more =>
      refine ⟨(splitAtEach character more text.toList).map String.ofList, ?_⟩
      rw [String.toList_append, parts]
      dsimp only
      rw [splitAtEach_separator, List.map_cons]

/-! ## Joints -/

/-- The parts into which the joined texts are cut can be divided into runs that join to these
texts again, so that no cut goes through a joint. -/
def CutAtJoints (separator : String) (texts : List String) : Prop :=
  ∃ runs : List (List String), (∀ run ∈ runs, run ≠ []) ∧ runs.map (join separator) = texts ∧
    split? separator (join separator texts) = some runs.flatten

theorem exists_split? {separator : String} (separated : separator ≠ "") (text : String) :
    ∃ parts, split? separator text = some parts := by
  cases cut : split? separator text with
  | none => exact absurd ((split?_eq_none_iff _ _).mp cut) separated
  | some parts => exact ⟨parts, rfl⟩

theorem cutAtJoints_of_unbordered {separator : String} (separated : separator ≠ "")
    (unbordered : ¬ Bordered separator.toList) {texts : List String} (some : texts ≠ []) :
    CutAtJoints separator texts := by
  induction texts with
  | nil => exact absurd rfl some
  | cons text texts ih =>
      rcases exists_split? separated text with ⟨run, cut⟩
      have runSome := ne_nil_of_split? cut
      have joined := join_of_split? cut
      cases texts with
      | nil => exact ⟨[run], by simpa using runSome, by simp [joined], by simpa [join_singleton]⟩
      | cons next texts =>
          rcases ih (List.cons_ne_nil next texts) with ⟨runs, nonempty, names, cutAfter⟩
          refine ⟨run :: runs, List.forall_mem_cons.mpr ⟨runSome, nonempty⟩, ?_, ?_⟩
          · rw [List.map_cons, names, joined]
          · rw [join_cons (List.cons_ne_nil next texts)]
            exact split?_append unbordered cut cutAfter

end Text

namespace AddressFormat

/-- The kept form of an address that begins with an ordinary character is decided at its end. -/
theorem normalize_write_eq_self_iff {format : AddressFormat} {character : Char} {rest : List Char}
    (marker : format.rootMarker.toList = character :: rest)
    (plain : Text.isBlank character = false ∧ character ≠ '#') (path : List String) :
    Fragment.normalize (format.write path) = format.write path ↔
      ¬ Text.EndsBlank (format.write path) := by
  have first : (format.write path).toList.head? = some character := by
    by_cases ended : path = []
    · rw [ended, write_nil, marker, List.head?_cons]
    · simp [write_of_ne_nil ended, marker]
  rw [Fragment.normalize_eq_self_iff, Fragment.BeginsBare, first]
  simpa using fun _ => plain

end AddressFormat

namespace Tree

variable {format : AddressFormat} {root : Tree}

/-- Every name of a path of folders leads from a folder on the way to a child that is a folder. -/
theorem HasFolder.exists_child {path : List String} (folders : root.HasFolder path)
    {before after : List String} {name : String} (split : path = before ++ name :: after) :
    ∃ parent child, root.walk before = some parent ∧ parent.child? name = some child ∧
      child.isFolder = true := by
  rw [HasFolder, split, walk_append] at folders
  cases walked : root.walk before with
  | none =>
      rw [walked] at folders
      cases folders
  | some parent =>
      rw [walked, Option.bind_some] at folders
      rcases hasFolder_cons_iff.mp folders with ⟨child, found, -⟩
      rcases Option.filter_eq_some_iff.mp found with ⟨named, folder⟩
      exact ⟨parent, child, rfl, named, folder⟩

/-- Take any tree, any root marker and any separator that is not empty.  Reading a fragment
comes to an end.  If it gives a path, each name of the path leads from a folder to a child that
is a folder, from the root on, and the path writes to the fragment in its kept form. -/
theorem located_path_writes_fragment (separated : format.separator ≠ "") (raw : Option String) :
    (∃ found, root.locate format raw = .ok found) ∧
      forall path, root.locate format raw = .ok (some path) ->
        (forall before name after, path = before ++ name :: after ->
          ∃ parent child, root.walk before = some parent ∧ parent.child? name = some child ∧
            child.isFolder = true) ∧
        format.write path = Fragment.ofOption raw := by
  refine ⟨exists_locateNormal separated _, ?_⟩
  intro path located
  rcases locateNormal_sound located with ⟨folders, written⟩
  exact ⟨fun before name after => folders.exists_child, written⟩

/-- A root with one folder, in which there is another one. -/
def nestedTree (outer inner : String) : Tree :=
  .folder ⟨"root", none, none⟩
    [.folder ⟨outer, none, none⟩ [.folder ⟨inner, none, none⟩ []]]

/-- The separator stands in the root marker and in a name, and the last name is empty. -/
theorem located_path_writes_fragment_with_colons :
    "::" ≠ "" ∧
      (nestedTree "c::d" "").locate ⟨"a::b", "::"⟩ (some " #a::b::c::d::") =
        .ok (some ["c::d", ""]) ∧
      AddressFormat.write ⟨"a::b", "::"⟩ ["c::d", ""] = Fragment.ofOption (some " #a::b::c::d::") ∧
      ∃ parent child, (nestedTree "c::d" "").walk ["c::d"] = some parent ∧
        parent.child? "" = some child ∧ child.isFolder = true := by
  have separated : "::" ≠ "" := by decide
  have located : (nestedTree "c::d" "").locate ⟨"a::b", "::"⟩ (some " #a::b::c::d::") =
      .ok (some ["c::d", ""]) := by
    cbv
  rcases (@located_path_writes_fragment ⟨"a::b", "::"⟩ _ separated _).2 _ located
    with ⟨leads, written⟩
  exact ⟨separated, located, written, leads ["c::d"] "" [] rfl⟩

/-! ## What can be read -/

/-- Something is read from the address of a folder exactly if some folder of that address has
names that are cut apart where they were joined. -/
theorem exists_locateNormal_write_iff (separated : format.separator ≠ "") {path : List String} :
    (∃ found, locateNormal format root (format.write path) = .ok (some found)) ↔
      ∃ other, root.HasFolder other ∧ format.write other = format.write path ∧
        (other ≠ [] -> Text.CutAtJoints format.separator other) := by
  constructor
  · rintro ⟨found, located⟩
    rcases locateNormal_sound located with ⟨folders, written⟩
    refine ⟨found, folders, written, fun some => ?_⟩
    rcases Text.exists_split? separated (Text.join format.separator found) with ⟨parts, cut⟩
    rw [← written, locateNormal_write_of_split some cut, Except.ok.injEq] at located
    rcases exists_runs_of_readTokens located with ⟨-, runs, nonempty, whole, names⟩
    exact ⟨runs, nonempty, names, whole ▸ cut⟩
  · rintro ⟨other, folders, written, cutAtJoints⟩
    rw [← written]
    by_cases ended : other = []
    · rw [ended, AddressFormat.write_nil, locateNormal_rootMarker]
      exact ⟨[], rfl⟩
    · rcases cutAtJoints ended with ⟨runs, nonempty, rfl, cut⟩
      rcases exists_readTokens nonempty folders with ⟨found, read⟩
      exact ⟨found, by rw [locateNormal_write_of_split ended cut, read]⟩

/-- Nothing is read from tokens that begin with an empty one, if no folder has a name that
begins with it. -/
theorem readTokens_eq_none {separator : String} {base : Tree}
    (unnamed : forall more, base.folder? (Text.join separator ("" :: more)) = none)
    (rest : List String) : readTokens separator base ("" :: rest) = none := by
  rw [readTokens_of_ne_nil separator base (List.cons_ne_nil "" rest), List.findSome?_eq_none_iff]
  intro cut member
  have whole := Cut.run_append_rest member
  rcases List.exists_cons_of_ne_nil (Cut.run_ne_nil member) with ⟨token, more, run⟩
  rw [run, List.cons_append] at whole
  rw [run, (List.cons.inj whole).1, unnamed more, Option.bind_none]

theorem hasFolder_nestedTree (outer inner : String) :
    (nestedTree outer inner).HasFolder [outer, inner] := by
  simp [HasFolder, walk, folder?, child?, children, nestedTree, name, entry, isFolder,
    Option.filter]

theorem folder?_nestedTree_of_ne {outer inner name : String} (different : name ≠ outer) :
    (nestedTree outer inner).folder? name = none := by
  simp [folder?, child?, children, nestedTree, Tree.name, entry, Ne.symm different]

/-- If the separator has a border, a folder whose name is what stands before the border cannot
be passed through: the separator is met at the beginning of the name. -/
theorem exists_unread_of_bordered {separator : String}
    (bordered : Text.Bordered separator.toList) :
    ∃ outer, locateNormal ⟨"root", separator⟩ (nestedTree outer "x")
      (AddressFormat.write ⟨"root", separator⟩ [outer, "x"]) = .ok none := by
  obtain ⟨border, borderSome, proper, ⟨after, start⟩, ⟨before, stop⟩⟩ := bordered
  have separated : separator ≠ "" := by
    rintro rfl
    exact borderSome (List.prefix_nil.mp ⟨after, start⟩)
  have joined : Text.join separator [String.ofList before, "x"] =
      separator ++ String.ofList (after ++ ['x']) := by
    apply String.toList_injective
    rw [Text.join_cons (List.cons_ne_nil "x" []), Text.join_singleton]
    simp only [String.toList_append, String.toList_ofList]
    calc before ++ separator.toList ++ ['x']
        = before ++ (border ++ after) ++ ['x'] := by rw [start]
      _ = before ++ border ++ (after ++ ['x']) := by simp
      _ = separator.toList ++ (after ++ ['x']) := by rw [stop]
  refine ⟨String.ofList before, ?_⟩
  rcases Text.exists_split?_separator separated (String.ofList (after ++ ['x'])) with ⟨parts, cut⟩
  rw [← joined] at cut
  rw [@locateNormal_write_of_split ⟨"root", separator⟩ _ _ _ (List.cons_ne_nil _ _) cut,
    readTokens_eq_none]
  intro more
  apply folder?_nestedTree_of_ne
  -- What begins with the separator, or is empty, is not as long as the name.
  cases more with
  | nil =>
      intro same
      have empty : [] = before := by simpa [Text.join_singleton] using congrArg String.toList same
      exact proper (by rw [← stop, ← empty, List.nil_append])
  | cons token more =>
      intro same
      have lengths := congrArg String.length same
      have whole := congrArg List.length stop
      have positive := List.length_pos_iff.mpr borderSome
      rw [Text.join_cons (List.cons_ne_nil token more)] at lengths
      simp only [String.length_append, String.length_ofList, List.length_append,
        String.length_toList] at lengths whole
      omega

/-- Take a separator that is not empty.  Something is read from the address of a folder, if the
address is in its kept form, exactly if some folder of that address has names that are cut apart
where they were joined.  With any root marker, in any tree and for any folder this is so exactly
if the separator has no border. -/
theorem own_address_resolves_iff {separator : String} (separated : separator ≠ "") :
    (forall marker (root : Tree) path, root.HasFolder path ->
      Fragment.normalize (AddressFormat.write ⟨marker, separator⟩ path) =
        AddressFormat.write ⟨marker, separator⟩ path ->
      ((∃ found, root.locate ⟨marker, separator⟩
          (some (AddressFormat.write ⟨marker, separator⟩ path)) = .ok (some found)) ↔
        ∃ other, root.HasFolder other ∧
          AddressFormat.write ⟨marker, separator⟩ other =
            AddressFormat.write ⟨marker, separator⟩ path ∧
          (other ≠ [] -> Text.CutAtJoints separator other))) ∧
    ((forall marker (root : Tree) path, root.HasFolder path ->
      Fragment.normalize (AddressFormat.write ⟨marker, separator⟩ path) =
        AddressFormat.write ⟨marker, separator⟩ path ->
      ∃ found, root.locate ⟨marker, separator⟩
        (some (AddressFormat.write ⟨marker, separator⟩ path)) = .ok (some found)) ↔
      ¬ Text.Bordered separator.toList) := by
  have pointwise : forall marker (root : Tree) path,
      Fragment.normalize (AddressFormat.write ⟨marker, separator⟩ path) =
        AddressFormat.write ⟨marker, separator⟩ path ->
      root.locate ⟨marker, separator⟩ (some (AddressFormat.write ⟨marker, separator⟩ path)) =
        locateNormal ⟨marker, separator⟩ root (AddressFormat.write ⟨marker, separator⟩ path) := by
    intro marker root path kept
    rw [locate, Fragment.ofOption_some, kept]
  refine ⟨?_, ?_, ?_⟩
  · intro marker root path _ kept
    rw [pointwise marker root path kept]
    exact @exists_locateNormal_write_iff ⟨marker, separator⟩ root separated path
  · intro resolves bordered
    rcases exists_unread_of_bordered bordered with ⟨outer, unread⟩
    have marker : "root".toList = ['r', 'o', 'o', 't'] := by decide
    have kept : Fragment.normalize (AddressFormat.write ⟨"root", separator⟩ [outer, "x"]) =
        AddressFormat.write ⟨"root", separator⟩ [outer, "x"] := by
      rw [AddressFormat.normalize_write_eq_self_iff marker (by decide)]
      rw [show [outer, "x"] = [outer] ++ ["x"] from rfl, AddressFormat.write_concat,
        Text.endsBlank_append (by decide)]
      decide
    rcases resolves "root" (nestedTree outer "x") [outer, "x"] (hasFolder_nestedTree outer "x") kept
      with ⟨found, located⟩
    rw [pointwise _ _ _ kept, unread] at located
    cases located
  · intro unbordered marker root path folders kept
    rw [pointwise marker root path kept, exists_locateNormal_write_iff separated]
    exact ⟨path, folders, rfl, Text.cutAtJoints_of_unbordered separated unbordered⟩

/-- With an arrow between the names, which ends with another character than it begins with, a
folder is found although its name ends with the beginning of an arrow and the next one begins
with the end of one. -/
theorem own_address_resolves_with_arrows :
    "->" ≠ "" ∧ ¬ Text.Bordered "->".toList ∧
      (nestedTree "a-" ">b").HasFolder ["a-", ">b"] ∧
      AddressFormat.write ⟨"root", "->"⟩ ["a-", ">b"] = "root->a-->>b" ∧
      ∃ found, (nestedTree "a-" ">b").locate ⟨"root", "->"⟩ (some "root->a-->>b") =
        .ok (some found) := by
  have unbordered : ¬ Text.Bordered "->".toList := by decide
  have written : AddressFormat.write ⟨"root", "->"⟩ ["a-", ">b"] = "root->a-->>b" := by
    decide +kernel
  have folders := hasFolder_nestedTree "a-" ">b"
  have separated : "->" ≠ "" := by decide
  refine ⟨separated, unbordered, folders, written, ?_⟩
  have resolves := (own_address_resolves_iff separated).2.mpr unbordered "root" _ _ folders
    (by decide +kernel)
  rwa [written] at resolves

/-- With two marks between the names, a name that ends with a mark is cut too early. -/
theorem doubled_mark_cuts_name :
    "__" ≠ "" ∧ (nestedTree "a_" "b").HasFolder ["a_", "b"] ∧
      Fragment.normalize (AddressFormat.write ⟨"root", "__"⟩ ["a_", "b"]) =
        AddressFormat.write ⟨"root", "__"⟩ ["a_", "b"] ∧
      (nestedTree "a_" "b").locate ⟨"root", "__"⟩
        (some (AddressFormat.write ⟨"root", "__"⟩ ["a_", "b"])) = .ok none := by
  have located : (nestedTree "a_" "b").locate ⟨"root", "__"⟩
      (some (AddressFormat.write ⟨"root", "__"⟩ ["a_", "b"])) = .ok none := by
    cbv
  exact ⟨by decide, hasFolder_nestedTree "a_" "b", by decide +kernel, located⟩

end Tree
end MutationViewer
