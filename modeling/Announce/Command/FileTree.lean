import Announce.Command.Failure

/-!
# Trees of files

A tree of directories and files, in which paths are followed from a working
directory.  It stands in for the files of a host where a run has to be a function
of its input alone: the contents of its files are what such a host answers.  A
file in the working directory is read by its name, and a path that can be
followed to its end leads to something that is there.
-/

namespace Announce

/-- A file with its bytes, or a directory with its entries. -/
inductive FileNode where
  | file (content : Bytes)
  | directory (entries : List (String × FileNode))
deriving Repr, Inhabited

namespace FileNode

/-- The entry of a directory with a name. -/
def entry? (name : String) : FileNode → Option FileNode
  | .file _ => none
  | .directory entries => entries.lookup name

/-- The node that a chain of names leads to. -/
def descend? (node : FileNode) : List String → Option FileNode
  | [] => some node
  | name :: names => do (← node.entry? name).descend? names

/-- The bytes of a file.  A directory has none. -/
def read : FileNode → Except Fault Bytes
  | .file content => .ok content
  | .directory _ => .error .isADirectory

theorem descend?_append (node : FileNode) (front back : List String) :
    node.descend? (front ++ back) =
      (node.descend? front).bind fun inner => inner.descend? back := by
  induction front generalizing node with
  | nil => rfl
  | cons name front ih =>
      simp only [List.cons_append, descend?]
      cases node.entry? name with
      | none => rfl
      | some inner => exact ih inner

theorem descend?_concat (node : FileNode) (place : List String) (name : String) :
    node.descend? (place ++ [name]) =
      (node.descend? place).bind fun inner => inner.entry? name := by
  rw [descend?_append]
  congr 1
  funext inner
  rw [descend?]
  cases inner.entry? name <;> rfl

end FileNode

/-- A whole tree and the place in it from which relative paths start. -/
structure FileTree where
  root : FileNode
  /-- The names that lead from the root to the working directory. -/
  workingPlace : List String
deriving Repr, Inhabited

namespace FileTree

/-- The most UTF-8 octets in a name. -/
def maxNameSize : Nat := 255

/-- The most UTF-8 octets in a path. -/
def maxPathSize : Nat := 4095

/-- Follow one part of a path from a place.  Every part, an empty one too, has
to start from a directory. -/
def follow (tree : FileTree) (place : List String) (part : String) :
    Except Fault (List String) :=
  match tree.root.descend? place with
  | some (.directory entries) =>
      if part = "" ∨ part = "." then .ok place
      else if part = ".." then .ok place.dropLast
      else if maxNameSize < part.utf8ByteSize then .error .nameTooLong
      else if (entries.lookup part).isSome then .ok (place ++ [part])
      else .error .notFound
  | some (.file _) => .error .notADirectory
  | none => .error .notFound

/-- The parts of a path, which slashes separate. -/
def parts (path : String) : List String :=
  (path.toList.splitOn '/').map String.ofList

/-- The place that a path leads to. -/
def locate (tree : FileTree) (path : String) : Except Fault (List String) :=
  if path.isEmpty then
    .error .notFound
  else if maxPathSize < path.utf8ByteSize then
    .error .nameTooLong
  else
    let start := if path.toList.head? = some '/' then [] else tree.workingPlace
    (parts path).foldlM tree.follow start

/-- The bytes of the file that a path leads to. -/
def contents (tree : FileTree) (path : String) : Except Fault Bytes := do
  let place ← tree.locate path
  match tree.root.descend? place with
  | some node => node.read
  | none => .error .notFound

theorem contents_of_descend? {tree : FileTree} {path : String} {place : List String}
    {node : FileNode} (located : tree.locate path = .ok place)
    (found : tree.root.descend? place = some node) : tree.contents path = node.read := by
  rw [contents, located]
  change (match tree.root.descend? place with
    | some node => node.read
    | none => .error Fault.notFound) = node.read
  rw [found]

/-! ## Files that are found -/

/-- What can be the name of an entry of a directory. -/
structure IsName (name : String) : Prop where
  nonempty : name ≠ ""
  notHere : name ≠ "."
  notAbove : name ≠ ".."
  undivided : '/' ∉ name.toList
  short : name.utf8ByteSize ≤ maxNameSize

variable {tree : FileTree} {entries : List (String × FileNode)} {name : String}

theorem IsName.parts (proper : IsName name) : parts name = [name] := by
  rw [FileTree.parts, List.splitOn_eq_singleton proper.undivided, List.map_singleton,
    String.ofList_toList]

theorem IsName.follow {place : List String} {node : FileNode} (proper : IsName name)
    (here : tree.root.descend? place = some (.directory entries))
    (entry : entries.lookup name = some node) :
    tree.follow place name = .ok (place ++ [name]) := by
  have step : ¬(name = "" ∨ name = ".") := fun same => same.elim proper.nonempty proper.notHere
  rw [FileTree.follow, here]
  dsimp only
  rw [if_neg step, if_neg proper.notAbove, if_neg (Nat.not_lt.mpr proper.short), entry,
    Option.isSome_some, if_pos rfl]

theorem IsName.locate {node : FileNode} (proper : IsName name)
    (here : tree.root.descend? tree.workingPlace = some (.directory entries))
    (entry : entries.lookup name = some node) :
    tree.locate name = .ok (tree.workingPlace ++ [name]) := by
  have nonempty : ¬name.isEmpty = true := fun empty => proper.nonempty (String.isEmpty_iff.mp empty)
  have fits : ¬maxPathSize < name.utf8ByteSize :=
    Nat.not_lt.mpr (Nat.le_trans proper.short (by decide))
  have relative : ¬name.toList.head? = some '/' :=
    fun first => proper.undivided (List.mem_of_head? first)
  rw [FileTree.locate, if_neg nonempty, if_neg fits, if_neg relative, proper.parts,
    List.foldlM_cons, proper.follow here entry]
  rfl

/-- A file in the working directory is read by its name. -/
theorem contents_of_lookup {content : Bytes} (proper : IsName name)
    (here : tree.root.descend? tree.workingPlace = some (.directory entries))
    (entry : entries.lookup name = some (.file content)) :
    tree.contents name = .ok content := by
  have found : tree.root.descend? (tree.workingPlace ++ [name]) = some (.file content) := by
    rw [FileNode.descend?_concat, here, Option.bind_some, FileNode.entry?, entry]
  exact contents_of_descend? (proper.locate here entry) found

/-! ## Places that exist -/

/-- Whether something is at a place of a tree. -/
def Holds (tree : FileTree) (place : List String) : Prop :=
  (tree.root.descend? place).isSome

theorem Holds.of_isPrefix {front place : List String} (holds : tree.Holds place)
    (before : front <+: place) : tree.Holds front := by
  obtain ⟨back, rfl⟩ := before
  rw [Holds, FileNode.descend?_append] at holds
  exact Option.isSome_of_isSome_bind holds

/-- One part of a path leads nowhere else, up, or down to an entry. -/
theorem follow_cases {place next : List String} {part : String}
    (followed : tree.follow place part = .ok next) :
    ∃ entries, tree.root.descend? place = some (.directory entries) ∧
      (next = place ∨ next = place.dropLast ∨
        next = place ++ [part] ∧ (entries.lookup part).isSome) := by
  rw [follow] at followed
  cases here : tree.root.descend? place with
  | none =>
      rw [here] at followed
      cases followed
  | some node =>
      rw [here] at followed
      cases node with
      | file content => cases followed
      | directory entries =>
          refine ⟨entries, rfl, ?_⟩
          dsimp only at followed
          split at followed
          · cases followed
            exact .inl rfl
          split at followed
          · cases followed
            exact .inr (.inl rfl)
          split at followed
          · cases followed
          split at followed
          · next entry =>
              cases followed
              exact .inr (.inr ⟨rfl, entry⟩)
          · cases followed

theorem Holds.follow {place next : List String} {part : String} (holds : tree.Holds place)
    (followed : tree.follow place part = .ok next) : tree.Holds next := by
  obtain ⟨entries, here, rfl | rfl | ⟨rfl, entry⟩⟩ := follow_cases followed
  · exact holds
  · exact holds.of_isPrefix place.dropLast_prefix
  · rw [Holds, FileNode.descend?_concat, here, Option.bind_some]
    exact entry

theorem Holds.foldlM_follow {parts start place : List String} (holds : tree.Holds start)
    (followed : parts.foldlM tree.follow start = .ok place) : tree.Holds place := by
  induction parts generalizing start with
  | nil =>
      cases followed
      exact holds
  | cons part parts ih =>
      rw [List.foldlM_cons] at followed
      cases step : tree.follow start part with
      | error fault =>
          rw [step] at followed
          cases followed
      | ok next =>
          rw [step] at followed
          exact ih (holds.follow step) followed

variable {path : String} {place : List String} (working : tree.Holds tree.workingPlace)
  (located : tree.locate path = .ok place)

include working located

theorem holds_of_locate : tree.Holds place := by
  rw [locate] at located
  split at located
  · cases located
  split at located
  · cases located
  refine Holds.foldlM_follow ?_ located
  split
  · rfl
  · exact working

/-- A path that can be followed to its end leads to a file or to a directory, and reading
it ends accordingly. -/
theorem exists_contents_eq :
    ∃ node, tree.root.descend? place = some node ∧ tree.contents path = node.read := by
  have holds := holds_of_locate working located
  obtain ⟨node, found⟩ := Option.isSome_iff_exists.mp holds
  exact ⟨node, found, contents_of_descend? located found⟩

end FileTree

end Announce
