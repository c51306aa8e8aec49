import Mathlib.Data.List.Basic
import MutationViewer.Proofs.Tree.Reading

/-!
# Which of several readings is taken

Names may hold the separator, so several paths of folders can write to one
address.  Each of them divides the tokens of the address among its names, and
reading takes the division whose first name has the most tokens, then the
second, and so on.  A shorter name is tried only if nothing can be read behind
the longer one, so the path that is read has the lexicographically greatest
token counts of all the paths that write to the address.

Two paths divide the same tokens, so their counts differ where the paths do, and
the greatest path is the only one of its counts.
-/

namespace MutationViewer
namespace Text

theorem not_mem_of_mem_splitOn {mark : Char} {text part : List Char}
    (member : part ∈ text.splitOn mark) : mark ∉ part := by
  induction text generalizing part with
  | nil =>
      rw [List.splitOn_nil, List.mem_singleton] at member
      simp [member]
  | cons character rest ih =>
      rw [List.splitOn_cons_eq_if_modifyHead] at member
      by_cases stands : character = mark
      · simp only [stands, beq_self_eq_true, if_true, List.mem_cons] at member
        rcases member with empty | later
        · simp [empty]
        · exact ih later
      · simp only [beq_iff_eq, stands, if_false] at member
        cases parts : rest.splitOn mark with
        | nil => exact absurd parts (List.splitOn_ne_nil mark rest)
        | cons first others =>
            rw [parts] at ih member
            rcases List.mem_cons.mp member with extended | later
            · have absent := ih List.mem_cons_self
              simp [extended, absent, Ne.symm stands]
            · exact ih (List.mem_cons_of_mem _ later)

variable {mark : Char}

theorem tokens_of_mem_tokens {text token : String} (member : token ∈ tokens mark text) :
    tokens mark token = [token] := by
  rcases List.mem_map.mp member with ⟨part, among, rfl⟩
  have absent := not_mem_of_mem_splitOn among
  simp [tokens, List.splitOn_eq_singleton absent]

theorem tokens_of_mem_flatMap {path : List String} {token : String}
    (member : token ∈ path.flatMap (tokens mark)) : tokens mark token = [token] := by
  rcases List.mem_flatMap.mp member with ⟨name, -, among⟩
  exact tokens_of_mem_tokens among

/-- Tokens that are joined are cut apart again. -/
theorem tokens_join_of_whole {run : List String} (some : run ≠ [])
    (whole : ∀ token ∈ run, tokens mark token = [token]) :
    tokens mark (join (String.singleton mark) run) = run := by
  rw [tokens_join some, List.flatMap_def, List.map_congr_left whole, ← List.flatMap_def]
  simp

def tokenCounts (mark : Char) (path : List String) : List Nat :=
  path.map fun name => (tokens mark name).length

theorem tokenCounts_cons_lt_cons_iff {first second : String} {firstPath secondPath : List String} :
    tokenCounts mark (first :: firstPath) < tokenCounts mark (second :: secondPath) ↔
      (tokens mark first).length < (tokens mark second).length ∨
        (tokens mark first).length = (tokens mark second).length ∧
          tokenCounts mark firstPath < tokenCounts mark secondPath :=
  List.cons_lt_cons_iff

end Text

namespace Cut

/-- The cuts come in the order of their runs, the longest first. -/
theorem pairwise_all (tokens : List String) :
    (all tokens).Pairwise fun earlier later => later.run.length < earlier.run.length := by
  rw [all, List.pairwise_map]
  apply (List.pairwise_lt_finRange tokens.length).imp
  intro earlier later order
  have before : earlier.val < later.val := order
  have bound := later.isLt
  simp only [List.length_take]
  omega

end Cut

namespace Tree

/-! ## The greatest reading -/

/-- The first name that is read is that of the longest run behind which anything
can be read. -/
theorem readTokens_longest {separator : String} {base : Tree} {tokens path : List String}
    (nonempty : tokens ≠ []) (read : readTokens separator base tokens = some path) :
    ∃ cut ∈ Cut.all tokens, ∃ child rest,
      base.folder? (Text.join separator cut.run) = some child ∧
      readTokens separator child cut.rest = some rest ∧ path = child.name :: rest ∧
      ∀ other ∈ Cut.all tokens, other = cut ∨ other.run.length < cut.run.length ∨
        forall folder, base.folder? (Text.join separator other.run) = some folder ->
          readTokens separator folder other.rest = none := by
  rw [readTokens_of_ne_nil separator base nonempty] at read
  rcases List.findSome?_eq_some_iff.mp read with ⟨earlier, cut, later, order, taken, refused⟩
  rcases Option.bind_eq_some_iff.mp taken with ⟨child, found, taken⟩
  rcases Option.map_eq_some_iff.mp taken with ⟨rest, readRest, rfl⟩
  have sorted := Cut.pairwise_all tokens
  rw [order] at sorted ⊢
  refine ⟨cut, by simp, child, rest, found, readRest, rfl, ?_⟩
  intro other member
  rcases List.mem_append.mp member with before | after
  · refine .inr (.inr ?_)
    intro folder foundOther
    have missed := refused other before
    rwa [foundOther, Option.bind_some, Option.map_eq_none_iff] at missed
  · rcases List.mem_cons.mp after with same | behind
    · exact .inl same
    · have shorter := (List.pairwise_append.mp sorted).2.1
      exact .inr (.inl ((List.pairwise_cons.mp shorter).1 other behind))

/-- A path of folders is the one that is read from the tokens of its names, or the
one that is read has greater token counts. -/
theorem readTokens_greatest {mark : Char} {base : Tree} {path other : List String}
    (folders : base.HasFolder other)
    (read : readTokens (String.singleton mark) base (other.flatMap (Text.tokens mark)) =
      some path) :
    other = path ∨ Text.tokenCounts mark other < Text.tokenCounts mark path := by
  induction other generalizing base path with
  | nil =>
      rw [List.flatMap_nil, readTokens_nil, Option.some.injEq] at read
      exact .inl read
  | cons name more ih =>
      rcases hasFolder_cons_iff.mp folders with ⟨child, found, below⟩
      have nameSome := Text.tokens_ne_nil mark name
      have whole : ∀ token ∈ (name :: more).flatMap (Text.tokens mark),
          Text.tokens mark token = [token] := fun token => Text.tokens_of_mem_flatMap
      rw [List.flatMap_cons] at read whole
      obtain ⟨cut, member, entered, rest, foundEntered, readRest, rfl, longest⟩ :=
        readTokens_longest (by simp [nameSome]) read
      have enteredName := folder?_name foundEntered
      obtain ⟨own, ownMember, runEq, restEq⟩ :
          ∃ own ∈ Cut.all (Text.tokens mark name ++ more.flatMap (Text.tokens mark)),
            own.run = Text.tokens mark name ∧ own.rest = more.flatMap (Text.tokens mark) :=
        Cut.exists_mem_all nameSome
      rcases longest own ownMember with same | shorter | refused
      · subst same
        rw [runEq, Text.join_tokens] at foundEntered enteredName
        rw [found, Option.some.injEq] at foundEntered
        subst foundEntered
        rw [restEq] at readRest
        rw [enteredName]
        rcases ih below readRest with rfl | smaller
        · exact .inl rfl
        · exact .inr (Text.tokenCounts_cons_lt_cons_iff.mpr (.inr ⟨rfl, smaller⟩))
      · have division := Cut.run_append_rest member
        have enteredTokens : Text.tokens mark entered.name = cut.run := by
          rw [enteredName]
          apply Text.tokens_join_of_whole (Cut.run_ne_nil member)
          intro token among
          exact whole token (division ▸ List.mem_append_left _ among)
        rw [runEq, ← enteredTokens] at shorter
        exact .inr (Text.tokenCounts_cons_lt_cons_iff.mpr (.inl shorter))
      · rcases exists_readTokens_flatMap mark below with ⟨onward, leadsOn⟩
        rw [runEq, Text.join_tokens, restEq] at refused
        rw [refused child found] at leadsOn
        cases leadsOn

variable {format : AddressFormat} {root : Tree} {mark : Char}

/-- Of the paths of folders that write to an address, the one that is read has the
greatest token counts. -/
theorem locateNormal_greatest (separated : format.separator = String.singleton mark)
    {path other : List String} (folders : root.HasFolder other)
    (located : locateNormal format root (format.write other) = .ok (some path)) :
    other = path ∨ Text.tokenCounts mark other < Text.tokenCounts mark path := by
  by_cases ended : other = []
  · subst ended
    rw [AddressFormat.write_nil, locateNormal_rootMarker, Except.ok.injEq, Option.some.injEq]
      at located
    exact .inl located
  · rw [locateNormal_write separated ended, Except.ok.injEq] at located
    exact readTokens_greatest folders located

theorem locateNormal_eq_none_iff (separated : format.separator = String.singleton mark)
    (fragment : String) :
    locateNormal format root fragment = .ok none ↔
      forall path, root.HasFolder path -> format.write path ≠ fragment := by
  constructor
  · rintro missing path folders rfl
    rcases exists_locateNormal_write separated folders with ⟨read, located⟩
    rw [missing] at located
    cases located
  · intro unwritten
    have nonempty : format.separator ≠ "" := by simp [separated]
    obtain ⟨found, located⟩ : ∃ found, locateNormal format root fragment = .ok found :=
      exists_locateNormal nonempty fragment
    cases found with
    | none => exact located
    | some path =>
        rcases locateNormal_sound located with ⟨folders, written⟩
        exact absurd written (unwritten path folders)

theorem locateNormal_eq_some_iff (separated : format.separator = String.singleton mark)
    (fragment : String) (path : List String) :
    locateNormal format root fragment = .ok (some path) ↔
      root.HasFolder path ∧ format.write path = fragment ∧
        forall other, root.HasFolder other -> format.write other = fragment -> other ≠ path ->
          Text.tokenCounts mark other < Text.tokenCounts mark path := by
  constructor
  · intro located
    rcases locateNormal_sound located with ⟨folders, written⟩
    refine ⟨folders, written, ?_⟩
    rintro other otherFolders rfl different
    exact (locateNormal_greatest separated otherFolders located).resolve_left different
  · rintro ⟨folders, rfl, greatest⟩
    rcases exists_locateNormal_write separated folders with ⟨read, located⟩
    rcases locateNormal_sound located with ⟨readFolders, written⟩
    rcases locateNormal_greatest separated folders located with same | smaller
    · rw [located, same]
    · by_cases same : read = path
      · rw [located, same]
      · exact absurd smaller (List.lt_asymm (greatest read readFolders written same))

/-- With a separator of one character, reading an address always comes to an end.
It gives no path exactly if no path of folders writes to the address in its kept
form.  Otherwise it gives the one of these paths whose names have the
lexicographically greatest token counts. -/
theorem locate_takes_longest_names (separated : format.separator = String.singleton mark)
    (raw : Option String) :
    (∃ found, root.locate format raw = .ok found) ∧
      (root.locate format raw = .ok none ↔
        forall path, root.HasFolder path -> format.write path ≠ Fragment.ofOption raw) ∧
      forall path, root.locate format raw = .ok (some path) ↔
        root.HasFolder path ∧ format.write path = Fragment.ofOption raw ∧
          forall other, root.HasFolder other -> format.write other = Fragment.ofOption raw ->
            other ≠ path -> Text.tokenCounts mark other < Text.tokenCounts mark path := by
  have nonempty : format.separator ≠ "" := by simp [separated]
  exact ⟨exists_locateNormal nonempty _, locateNormal_eq_none_iff separated _,
    locateNormal_eq_some_iff separated _⟩

/-- The names of its folders spell `a_b_c` in two ways, and the longest name that
fits leads nowhere. -/
def forkedTree : Tree :=
  .folder ⟨"root", none, none⟩
    [.folder ⟨"a_b", none, none⟩ [],
     .folder ⟨"a", none, none⟩
       [.folder ⟨"b", none, none⟩ [.folder ⟨"c", none, none⟩ []],
        .folder ⟨"b_c", none, none⟩ []]]

theorem locate_takes_longest_names_in_forkedTree :
    AddressFormat.standard.separator = String.singleton '_' ∧
      forkedTree.locate .standard (some "#root_a_b_c") = .ok (some ["a", "b_c"]) ∧
      forkedTree.HasFolder ["a", "b", "c"] ∧
      AddressFormat.standard.write ["a", "b", "c"] = "root_a_b_c" ∧
      Text.tokenCounts '_' ["a", "b", "c"] < Text.tokenCounts '_' ["a", "b_c"] := by
  have separated : AddressFormat.standard.separator = String.singleton '_' := rfl
  have located : forkedTree.locate .standard (some "#root_a_b_c") = .ok (some ["a", "b_c"]) := by
    cbv
  have folders : forkedTree.HasFolder ["a", "b", "c"] := rfl
  have written : AddressFormat.standard.write ["a", "b", "c"] = "root_a_b_c" := by
    decide +kernel
  refine ⟨separated, located, folders, written, ?_⟩
  rcases @locate_takes_longest_names .standard forkedTree '_' separated (some "#root_a_b_c")
    with ⟨-, -, taken⟩
  rcases (taken _).mp located with ⟨-, -, greatest⟩
  exact greatest _ folders (written.trans (by decide +kernel)) (by decide)

end Tree
end MutationViewer
