import MutationViewer.History
import MutationViewer.Text.Separated
import MutationViewer.Tree.Basic

/-!
# Addresses of folders

The address of a folder is the root marker followed by the names of the folders
on the way, with a separator between neighbours.  Names may hold the separator,
so an address can be read in several ways.  Reading prefers long names: at each
folder the longest run of tokens that names a child folder is tried first, and
a shorter one only if nothing comes of it.  Writing an address and reading it
are kept apart; that they agree is a matter of the format and of the tree.
-/

namespace MutationViewer

structure AddressFormat where
  rootMarker : String
  separator : String

/-- The format of addresses such as `root_src_parser`. -/
def AddressFormat.standard : AddressFormat := ⟨"root", "_"⟩

/-- An address that goes beyond the root cannot be cut at an empty separator. -/
inductive AddressFault where
  | emptySeparator
deriving DecidableEq, Repr

/-- The address of the folder that a path of names leads to. -/
def AddressFormat.write (format : AddressFormat) (path : List String) : String :=
  Text.join format.separator (format.rootMarker :: path)

/-- A division of tokens into a run at the beginning and a shorter rest. -/
structure Cut (tokens : List String) where
  run : List String
  rest : List String
  shorter : rest.length < tokens.length

/-- All divisions with a run that is not empty, the longest run first. -/
def Cut.all (tokens : List String) : List (Cut tokens) :=
  (List.finRange tokens.length).map fun skipped => {
    run := tokens.take (tokens.length - skipped.val)
    rest := tokens.drop (tokens.length - skipped.val)
    shorter := by
      have bound := skipped.isLt
      rw [List.length_drop]
      omega }

theorem Cut.run_append_rest {tokens : List String} {cut : Cut tokens}
    (member : cut ∈ Cut.all tokens) : cut.run ++ cut.rest = tokens := by
  obtain ⟨skipped, -, rfl⟩ := List.mem_map.mp member
  exact List.take_append_drop _ _

namespace Tree

/-- The folder names that tokens stand for below a folder. -/
def readTokens (separator : String) (base : Tree) (tokens : List String) :
    Option (List String) :=
  if tokens.isEmpty then some []
  else (Cut.all tokens).findSome? fun cut =>
    match base.folder? (Text.join separator cut.run) with
    | none => none
    | some child => (readTokens separator child cut.rest).map fun path => child.name :: path
termination_by tokens.length
decreasing_by exact cut.shorter

theorem readTokens_nil (separator : String) (base : Tree) :
    readTokens separator base [] = some [] := by
  rw [readTokens]
  simp

/-- The path of the folder that an address in its kept form leads to. -/
def locateNormal (format : AddressFormat) (root : Tree) (fragment : String) :
    Except AddressFault (Option (List String)) :=
  if fragment = format.rootMarker then .ok (some [])
  else
    match (format.rootMarker ++ format.separator).toList.isPrefixOf? fragment.toList with
    | none => .ok none
    | some rest =>
        match Text.split? format.separator (String.ofList rest) with
        | none => .error .emptySeparator
        | some tokens => .ok (readTokens format.separator root tokens)

/-- The path of the folder that an address leads to, `none` if there is no
such folder. -/
def locate (format : AddressFormat) (root : Tree) (raw : Option String) :
    Except AddressFault (Option (List String)) :=
  locateNormal format root (Fragment.ofOption raw)

/-- The folder that a path of names leads to. -/
def walk : Tree -> List String -> Option Tree
  | base, [] => some base
  | base, name :: path => (base.folder? name).bind fun child => walk child path

theorem walk_append (tree : Tree) (path more : List String) :
    tree.walk (path ++ more) = (tree.walk path).bind fun base => base.walk more := by
  induction path generalizing tree with
  | nil => rfl
  | cons name path ih =>
      cases found : tree.folder? name with
      | none => simp [walk, found]
      | some child => simp [walk, found, ih]

end Tree
end MutationViewer
