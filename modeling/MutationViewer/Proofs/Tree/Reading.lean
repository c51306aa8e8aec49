import MutationViewer.Tree.Address

/-!
# Writing and reading addresses

What is read from an address is a path through folders that writes to this very
address.  Conversely, if some path through folders writes to an address, then
something is read from it, though it need not be the same path.  The first holds
for every separator; the second rests on a text being cut where its parts were
joined, which is sure for separators of one character.
-/

namespace MutationViewer
namespace Text

theorem join_eq_intercalate (separator : String) (parts : List String) :
    join separator parts = separator.intercalate parts := by
  apply String.toList_injective
  rw [String.toList_intercalate, join, String.toList_ofList]

theorem join_append {separator : String} {first second : List String} (some : first ≠ [])
    (more : second ≠ []) :
    join separator (first ++ second) =
      join separator first ++ separator ++ join separator second := by
  simp only [join_eq_intercalate]
  exact String.intercalate_append_of_ne_nil some more

theorem join_cons {separator part : String} {parts : List String} (more : parts ≠ []) :
    join separator (part :: parts) = part ++ separator ++ join separator parts := by
  simp only [join_eq_intercalate]
  exact String.intercalate_cons_of_ne_nil more

/-- Joining what groups of parts join to is joining all the parts. -/
theorem join_map_join {separator : String} {runs : List (List String)}
    (nonempty : ∀ run ∈ runs, run ≠ []) :
    join separator (runs.map (join separator)) = join separator runs.flatten := by
  induction runs with
  | nil => rfl
  | cons run runs ih =>
      have joined := ih fun other member => nonempty other (List.mem_cons_of_mem _ member)
      have runSome := nonempty run List.mem_cons_self
      cases runs with
      | nil => simp [join_singleton]
      | cons next runs =>
          have nextSome : next ≠ [] := nonempty next (by simp)
          have more : (next :: runs).flatten ≠ [] := by simp [nextSome]
          rw [List.map_cons, join_cons (by simp), joined, ← join_append runSome more]
          rfl

theorem isPrefixOf?_eq_some_iff {start text rest : List Char} :
    start.isPrefixOf? text = some rest ↔ text = start ++ rest := by
  induction start generalizing text with
  | nil =>
      change some text = some rest ↔ _
      simp
  | cons character start ih =>
      cases text with
      | nil =>
          change none = some rest ↔ _
          simp
      | cons other text =>
          change (if character == other then start.isPrefixOf? text else none) = some rest ↔ _
          by_cases same : character = other
          · simp [same, ih]
          · simp [same, Ne.symm same]

theorem ne_nil_of_split? {separator text : String} {parts : List String}
    (cut : split? separator text = some parts) : parts ≠ [] := by
  unfold split? at cut
  split at cut
  · cases cut
  · cases cut
    simp [splitAtEach_ne_nil]

/-- The parts of a text between the marks. -/
def tokens (mark : Char) (text : String) : List String :=
  (text.toList.splitOn mark).map String.ofList

variable {mark : Char}

theorem splitAtEach_eq_splitOn (mark : Char) (text : List Char) :
    splitAtEach mark [] text = text.splitOn mark := by
  induction text with
  | nil => rw [splitAtEach_nil, List.splitOn_nil]
  | cons character rest ih =>
      rw [splitAtEach, List.splitOn_cons_eq_if_modifyHead]
      by_cases stands : character = mark
      · simp [stands, ih]
      · cases parts : rest.splitOn mark with
        | nil => exact absurd parts (List.splitOn_ne_nil mark rest)
        | cons part parts => simp [stands, ih, parts, extendFirst]

theorem split?_singleton (mark : Char) (text : String) :
    split? (String.singleton mark) text = some (tokens mark text) := by
  simp [split?, tokens, splitAtEach_eq_splitOn]

theorem join_tokens (mark : Char) (text : String) :
    join (String.singleton mark) (tokens mark text) = text :=
  join_of_split? (split?_singleton mark text)

theorem tokens_ne_nil (mark : Char) (text : String) : tokens mark text ≠ [] := by
  simp [tokens]

theorem tokens_append (mark : Char) (first second : String) :
    tokens mark (first ++ String.singleton mark ++ second) =
      tokens mark first ++ tokens mark second := by
  simp [tokens, List.splitOn_append_cons_self]

/-- Joined texts are cut where they were joined, and wherever they hold the mark
themselves. -/
theorem tokens_join {parts : List String} (some : parts ≠ []) :
    tokens mark (join (String.singleton mark) parts) = parts.flatMap (tokens mark) := by
  induction parts with
  | nil => exact absurd rfl some
  | cons part parts ih =>
      cases parts with
      | nil => simp [join_singleton]
      | cons next parts =>
          rw [join_cons (List.cons_ne_nil next parts), tokens_append, ih (by simp)]
          simp only [List.flatMap_cons]

end Text

namespace Tree

/-! ## Reading tokens -/

/-- Taking the children of these names in turn leads from folder to folder. -/
def HasFolder (root : Tree) (path : List String) : Prop :=
  (root.walk path).isSome

theorem hasFolder_nil (root : Tree) : root.HasFolder [] := rfl

theorem hasFolder_cons_iff {root : Tree} {name : String} {path : List String} :
    root.HasFolder (name :: path) ↔ ∃ child, root.folder? name = some child ∧
      child.HasFolder path := by
  unfold HasFolder
  cases found : root.folder? name with
  | none => simp [walk, found]
  | some child => simp [walk, found]

theorem folder?_name {root child : Tree} {name : String} (found : root.folder? name = some child) :
    child.name = name :=
  child?_name (Option.filter_eq_some_iff.mp found).1

end Tree

theorem Cut.run_ne_nil {tokens : List String} {cut : Cut tokens} (member : cut ∈ Cut.all tokens) :
    cut.run ≠ [] := by
  intro empty
  have whole := Cut.run_append_rest member
  have shorter := cut.shorter
  rw [empty, List.nil_append] at whole
  rw [whole] at shorter
  exact Nat.lt_irrefl _ shorter

/-- Every division with a run that is not empty is among the cuts. -/
theorem Cut.exists_mem_all {run rest : List String} (nonempty : run ≠ []) :
    ∃ cut ∈ Cut.all (run ++ rest), cut.run = run ∧ cut.rest = rest := by
  have bound : rest.length < (run ++ rest).length := by
    rw [List.length_append]
    have positive := List.length_pos_iff.mpr nonempty
    omega
  have taken : (run ++ rest).length - rest.length = run.length := by
    rw [List.length_append, Nat.add_sub_cancel]
  refine ⟨_, List.mem_map_of_mem (List.mem_finRange ⟨rest.length, bound⟩), ?_, ?_⟩
  · dsimp only
    rw [taken, List.take_left]
  · dsimp only
    rw [taken, List.drop_left]

namespace Tree

theorem readTokens_of_ne_nil (separator : String) (base : Tree) {tokens : List String}
    (nonempty : tokens ≠ []) :
    readTokens separator base tokens = (Cut.all tokens).findSome? fun cut =>
      (base.folder? (Text.join separator cut.run)).bind fun child =>
        (readTokens separator child cut.rest).map fun path => child.name :: path := by
  rw [readTokens]
  rw [if_neg (by simpa using nonempty)]
  congr 1
  funext cut
  cases base.folder? (Text.join separator cut.run) <;> rfl

/-- What is read below a folder is a path of folders, and the tokens can be divided into
runs that join to its names. -/
theorem exists_runs_of_readTokens {separator : String} {base : Tree} {tokens path : List String}
    (read : readTokens separator base tokens = some path) :
    base.HasFolder path ∧ ∃ runs : List (List String), (∀ run ∈ runs, run ≠ []) ∧
      runs.flatten = tokens ∧ runs.map (Text.join separator) = path := by
  induction length : tokens.length using Nat.strongRecOn generalizing base tokens path with
  | ind bound ih =>
      by_cases some : tokens = []
      · subst some
        rw [readTokens_nil, Option.some.injEq] at read
        subst read
        exact ⟨hasFolder_nil base, [], by simp⟩
      · rw [readTokens_of_ne_nil separator base some] at read
        rcases List.exists_of_findSome?_eq_some read with ⟨cut, member, taken⟩
        rcases Option.bind_eq_some_iff.mp taken with ⟨child, found, taken⟩
        rcases Option.map_eq_some_iff.mp taken with ⟨below, readBelow, rfl⟩
        have name := folder?_name found
        rcases ih cut.rest.length (length ▸ cut.shorter) readBelow rfl with
          ⟨folders, runs, nonempty, whole, joined⟩
        refine ⟨hasFolder_cons_iff.mpr ⟨child, name ▸ found, folders⟩, cut.run :: runs, ?_, ?_, ?_⟩
        · exact List.forall_mem_cons.mpr ⟨Cut.run_ne_nil member, nonempty⟩
        · rw [List.flatten_cons, whole, Cut.run_append_rest member]
        · rw [List.map_cons, joined, name]

theorem readTokens_sound {separator : String} {base : Tree} {tokens path : List String}
    (read : readTokens separator base tokens = some path) :
    base.HasFolder path ∧ (path = [] ↔ tokens = []) ∧
      Text.join separator path = Text.join separator tokens := by
  rcases exists_runs_of_readTokens read with ⟨folders, runs, nonempty, rfl, rfl⟩
  refine ⟨folders, ?_, Text.join_map_join nonempty⟩
  rw [List.map_eq_nil_iff, List.flatten_eq_nil_iff]
  constructor
  · rintro rfl
    simp
  · intro empty
    cases runs with
    | nil => rfl
    | cons run runs =>
        exact absurd (empty run List.mem_cons_self) (nonempty run List.mem_cons_self)

/-- Wherever the tokens can be divided into runs that name folders, something is
read from them. -/
theorem exists_readTokens {separator : String} {base : Tree} {runs : List (List String)}
    (nonempty : ∀ run ∈ runs, run ≠ [])
    (folders : base.HasFolder (runs.map (Text.join separator))) :
    ∃ path, readTokens separator base runs.flatten = some path := by
  induction runs generalizing base with
  | nil => exact ⟨[], readTokens_nil separator base⟩
  | cons run runs ih =>
      rcases hasFolder_cons_iff.mp folders with ⟨child, found, below⟩
      have runSome := nonempty run List.mem_cons_self
      rcases ih (fun other member => nonempty other (List.mem_cons_of_mem _ member)) below
        with ⟨path, read⟩
      rcases Cut.exists_mem_all runSome with ⟨cut, member, runEq, restEq⟩
      have tokensSome : run ++ runs.flatten ≠ [] := by simp [runSome]
      rw [List.flatten_cons, readTokens_of_ne_nil separator base tokensSome]
      apply Option.isSome_iff_exists.mp
      rw [List.findSome?_isSome_iff]
      refine ⟨cut, member, ?_⟩
      rw [runEq, found, Option.bind_some, restEq, read]
      rfl

theorem exists_readTokens_flatMap (mark : Char) {base : Tree} {path : List String}
    (folders : base.HasFolder path) :
    ∃ read, readTokens (String.singleton mark) base (path.flatMap (Text.tokens mark)) =
      some read := by
  have names : (path.map (Text.tokens mark)).map (Text.join (String.singleton mark)) = path := by
    simp [Function.comp_def, Text.join_tokens]
  have runs : ∀ run ∈ path.map (Text.tokens mark), run ≠ [] := by
    intro run member
    rcases List.mem_map.mp member with ⟨name, -, rfl⟩
    exact Text.tokens_ne_nil mark name
  rw [List.flatMap_def]
  exact exists_readTokens runs (names.symm ▸ folders)

end Tree

/-! ## Addresses -/

namespace AddressFormat

variable {format : AddressFormat}

theorem write_nil : format.write [] = format.rootMarker :=
  Text.join_singleton _ _

theorem write_of_ne_nil {path : List String} (some : path ≠ []) :
    format.write path =
      format.rootMarker ++ format.separator ++ Text.join format.separator path :=
  Text.join_cons some

theorem write_concat (path : List String) (name : String) :
    format.write (path ++ [name]) = format.write path ++ format.separator ++ name := by
  have joined := @Text.join_append format.separator _ _ (List.cons_ne_nil format.rootMarker path)
    (List.cons_ne_nil name [])
  rwa [Text.join_singleton] at joined

theorem write_ne_rootMarker {path : List String} (separated : format.separator ≠ "")
    (some : path ≠ []) : format.write path ≠ format.rootMarker := by
  intro same
  have lengths := congrArg String.length same
  rw [write_of_ne_nil some, String.length_append, String.length_append] at lengths
  have positive : format.separator.length ≠ 0 := by simpa using separated
  omega

/-- The text goes on behind the root marker. -/
def GoesOn (format : AddressFormat) (text : String) : Prop :=
  ∃ more, more ≠ "" ∧ text = format.rootMarker ++ more

/-- An address begins with the root marker, so it is empty only if the marker is. -/
theorem rootMarker_of_write_empty {path : List String} (empty : format.write path = "") :
    format.rootMarker = "" := by
  by_cases ended : path = []
  · rwa [ended, write_nil] at empty
  · rw [write_of_ne_nil ended, String.append_eq_empty_iff, String.append_eq_empty_iff] at empty
    exact empty.1.1

end AddressFormat

namespace Tree

variable {format : AddressFormat} {root : Tree}

theorem locateNormal_rootMarker :
    locateNormal format root format.rootMarker = .ok (some []) := by
  rw [locateNormal, if_pos rfl]

/-- From an address below the root what stands behind the root marker and the separator is cut
into tokens, and these are read. -/
theorem locateNormal_below {rest : String}
    (below : format.rootMarker ++ format.separator ++ rest ≠ format.rootMarker) :
    locateNormal format root (format.rootMarker ++ format.separator ++ rest) =
      match Text.split? format.separator rest with
      | none => .error .emptySeparator
      | some tokens => .ok (readTokens format.separator root tokens) := by
  have begins : (format.rootMarker ++ format.separator).toList.isPrefixOf?
      (format.rootMarker ++ format.separator ++ rest).toList = some rest.toList := by
    rw [Text.isPrefixOf?_eq_some_iff, String.toList_append]
  rw [locateNormal, if_neg below, begins]
  cases cut : Text.split? format.separator rest with
  | none => simp only [String.ofList_toList, cut]
  | some tokens => simp only [String.ofList_toList, cut]

/-- A fragment is the address of the root or has the form of one below it, or it leads nowhere. -/
theorem locateNormal_cases (format : AddressFormat) (root : Tree) (fragment : String) :
    fragment = format.rootMarker ∨ locateNormal format root fragment = .ok none ∨
      ∃ rest, fragment = format.rootMarker ++ format.separator ++ rest ∧
        fragment ≠ format.rootMarker := by
  by_cases marker : fragment = format.rootMarker
  · exact .inl marker
  · right
    cases begins : (format.rootMarker ++ format.separator).toList.isPrefixOf? fragment.toList with
    | none =>
        left
        rw [locateNormal, if_neg marker, begins]
    | some rest =>
        refine .inr ⟨String.ofList rest, ?_, marker⟩
        apply String.toList_injective
        rw [String.toList_append, String.toList_ofList, Text.isPrefixOf?_eq_some_iff.mp begins]

/-- Reading fails exactly if an address goes on behind the root marker and there is nothing to
cut it at. -/
theorem exists_fault_iff {fragment : String} :
    (∃ fault, locateNormal format root fragment = .error fault) ↔
      format.separator = "" ∧ format.GoesOn fragment := by
  constructor
  · rintro ⟨fault, located⟩
    rcases locateNormal_cases format root fragment with rfl | nowhere | ⟨rest, rfl, below⟩
    · rw [locateNormal_rootMarker] at located
      cases located
    · rw [nowhere] at located
      cases located
    · rw [locateNormal_below below] at located
      split at located
      · next uncut =>
          have unseparated := (Text.split?_eq_none_iff _ _).mp uncut
          rw [unseparated, String.append_empty] at below ⊢
          exact ⟨rfl, rest, by simpa using below, rfl⟩
      · cases located
  · rintro ⟨unseparated, more, some, rfl⟩
    have parts : format.rootMarker ++ more = format.rootMarker ++ format.separator ++ more := by
      rw [unseparated, String.append_empty]
    have below : format.rootMarker ++ format.separator ++ more ≠ format.rootMarker := by
      simpa [unseparated] using some
    rw [parts, locateNormal_below below, (Text.split?_eq_none_iff _ _).mpr unseparated]
    exact ⟨_, rfl⟩

theorem exists_locateNormal (separated : format.separator ≠ "") (fragment : String) :
    ∃ found, locateNormal format root fragment = .ok found := by
  cases located : locateNormal format root fragment with
  | ok found => exact ⟨found, rfl⟩
  | error fault => exact absurd (exists_fault_iff.mp ⟨fault, located⟩).1 separated

/-- What is read from an address is a path of folders that writes to it. -/
theorem locateNormal_sound {fragment : String} {path : List String}
    (located : locateNormal format root fragment = .ok (some path)) :
    root.HasFolder path ∧ format.write path = fragment := by
  rcases locateNormal_cases format root fragment with rfl | nowhere | ⟨rest, rfl, below⟩
  · rw [locateNormal_rootMarker] at located
    cases located
    exact ⟨hasFolder_nil root, AddressFormat.write_nil⟩
  · rw [nowhere] at located
    cases located
  · rw [locateNormal_below below] at located
    split at located
    · cases located
    · next tokens cut =>
        rw [Except.ok.injEq] at located
        rcases readTokens_sound located with ⟨folders, nil_iff, joined⟩
        have pathSome : path ≠ [] := fun ended =>
          Text.ne_nil_of_split? cut (nil_iff.mp ended)
        refine ⟨folders, ?_⟩
        rw [AddressFormat.write_of_ne_nil pathSome, joined, Text.join_of_split? cut]

/-- The address of a folder below the root is read from the parts into which the joined
names are cut. -/
theorem locateNormal_write_of_split {path parts : List String} (some : path ≠ [])
    (cut : Text.split? format.separator (Text.join format.separator path) = .some parts) :
    locateNormal format root (format.write path) =
      .ok (readTokens format.separator root parts) := by
  have separated : format.separator ≠ "" := by
    rw [Ne, ← Text.split?_eq_none_iff _ (Text.join format.separator path), cut]
    exact Option.some_ne_none parts
  have below := AddressFormat.write_ne_rootMarker separated some
  rw [AddressFormat.write_of_ne_nil some] at below ⊢
  rw [locateNormal_below below, cut]

/-- With a separator of one character these parts are the tokens of the names. -/
theorem locateNormal_write {mark : Char} (separated : format.separator = String.singleton mark)
    {path : List String} (some : path ≠ []) :
    locateNormal format root (format.write path) =
      .ok (readTokens (String.singleton mark) root (path.flatMap (Text.tokens mark))) := by
  rw [← separated]
  apply locateNormal_write_of_split some
  rw [separated, Text.split?_singleton, Text.tokens_join some]

/-- Something is read from every address that a path of folders writes to, if the
separator is a single character. -/
theorem exists_locateNormal_write {mark : Char}
    (separated : format.separator = String.singleton mark) {path : List String}
    (folders : root.HasFolder path) :
    ∃ read, locateNormal format root (format.write path) = .ok (some read) := by
  by_cases ended : path = []
  · rw [ended, AddressFormat.write_nil, locateNormal_rootMarker]
    exact ⟨[], rfl⟩
  · rcases exists_readTokens_flatMap mark folders with ⟨read, found⟩
    rw [locateNormal_write separated ended, found]
    exact ⟨read, rfl⟩

end Tree
end MutationViewer
