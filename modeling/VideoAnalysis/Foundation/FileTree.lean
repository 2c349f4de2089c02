import VideoAnalysis.Foundation.Dict
import Mathlib.Data.List.Infix

/-! # Trees of files

A tree below a root that is there always, without links. A path is the list of the
names from the root down; an entry is a directory or a file with what is known of it.
-/

namespace VideoAnalysis.Foundation

inductive Node (File : Type)
  | directory
  | file (content : File)

structure FileTree (Name File : Type) where
  nodes : Dict (List Name) (Node File)

namespace FileTree

variable {Name File : Type} [DecidableEq Name]

def stat (tree : FileTree Name File) (path : List Name) : Option File :=
  match tree.nodes.get path with
  | some (.file content) => some content
  | some .directory | none => none

def isDirectory (tree : FileTree Name File) (path : List Name) : Bool :=
  match tree.nodes.get path with
  | some .directory => true
  | some (.file _) | none => false

def paths (tree : FileTree Name File) : List (List Name) := tree.nodes.keys

/-- The names in a directory, in the order of the tree. -/
def names (tree : FileTree Name File) (directory : List Name) : List Name :=
  tree.paths.filterMap fun path =>
    match path.getLast? with
    | some name => if path = directory ++ [name] then some name else none
    | none => none

def files (tree : FileTree Name File) (directory : List Name) : List File :=
  (tree.paths.filter fun path => directory <+: path).filterMap tree.stat

/-- Nothing is at the path or below it. -/
def Vacant (tree : FileTree Name File) (path : List Name) : Prop :=
  ∀ other ∈ tree.paths, ¬path <+: other

instance (tree : FileTree Name File) (path : List Name) : Decidable (tree.Vacant path) :=
  inferInstanceAs (Decidable (∀ other ∈ tree.paths, ¬path <+: other))

def rmtree (tree : FileTree Name File) (directory : List Name) : FileTree Name File :=
  ⟨tree.nodes.keep fun entry => ¬directory <+: entry.1⟩

def rmdir (tree : FileTree Name File) (directory : List Name) : Option (FileTree Name File) :=
  if tree.isDirectory directory ∧
      ∀ other ∈ tree.paths, directory <+: other → other = directory then
    some ⟨tree.nodes.erase directory⟩
  else none

def moveIn (tree : FileTree Name File) (directory : List Name) (files : List (Name × File)) :
    FileTree Name File :=
  ⟨files.foldl (fun nodes file => nodes.set (directory ++ [file.1]) (.file file.2))
    (tree.nodes.set directory .directory)⟩

variable {tree : FileTree Name File} {path : List Name}

theorem stat_mem_paths {content : File} (found : tree.stat path = some content) :
    path ∈ tree.paths := by
  unfold stat at found
  split at found
  next isFile => exact List.mem_map_of_mem (Dict.mem_of_get isFile)
  all_goals cases found

theorem lookup_filter_of_test {Key Value : Type} [DecidableEq Key] (test : Key → Bool)
    {key : Key} (entries : List (Key × Value)) :
    Dict.lookup key (entries.filter fun entry => test entry.1) =
      if test key then Dict.lookup key entries else none := by
  induction entries with
  | nil => simp [Dict.lookup]
  | cons entry _ induction =>
    rcases entry with ⟨name, _⟩
    by_cases same : name = key
    · subst same
      by_cases kept : test name
      · simp [Dict.lookup, kept]
      · simp [kept, induction]
    · by_cases kept : test name
      all_goals simp [Dict.lookup, kept, same, induction]

variable {directory : List Name}

theorem stat_rmtree_of_not_below (apart : ¬directory <+: path) :
    (tree.rmtree directory).stat path = tree.stat path := by
  unfold stat rmtree Dict.keep Dict.get
  rw [lookup_filter_of_test fun name => ¬directory <+: name]
  simp [apart]

theorem stat_rmtree_of_below (below : directory <+: path) :
    (tree.rmtree directory).stat path = none := by
  unfold stat rmtree Dict.keep Dict.get
  rw [lookup_filter_of_test fun name => ¬directory <+: name]
  simp [below]

theorem stat_rmdir {without : FileTree Name File} (removed : tree.rmdir directory = some without)
    (path : List Name) :
    without.stat path = tree.stat path := by
  unfold rmdir at removed
  split at removed
  next isEmpty =>
    rw [← Option.some.inj removed]
    unfold stat
    by_cases same : path = directory
    · have wasDirectory := isEmpty.1
      unfold isDirectory at wasDirectory
      rw [same, Dict.get_erase_self]
      split at wasDirectory
      next found => rw [found]
      all_goals cases wasDirectory
    · rw [Dict.get_erase_of_ne _ same]
  next => cases removed

theorem stat_moveIn_of_not_below (files : List (Name × File)) (apart : ¬directory <+: path) :
    (tree.moveIn directory files).stat path = tree.stat path := by
  have written : ∀ nodes : Dict (List Name) (Node File),
      (files.foldl (fun nodes file => nodes.set (directory ++ [file.1]) (.file file.2))
        nodes).get path = nodes.get path := by
    induction files with
    | nil => simp
    | cons _ _ induction =>
      intro nodes
      rw [List.foldl_cons, induction, Dict.get_set_of_ne]
      rintro rfl
      exact apart (List.prefix_append _ _)
  unfold stat moveIn
  rw [written, Dict.get_set_of_ne]
  rintro rfl
  exact apart (List.prefix_refl _)

theorem stat_moveIn_of_vacant {content : File} (vacant : tree.Vacant directory)
    (files : List (Name × File)) (found : tree.stat path = some content) :
    (tree.moveIn directory files).stat path = some content := by
  rw [stat_moveIn_of_not_below files (vacant path (stat_mem_paths found)), found]

end FileTree

end VideoAnalysis.Foundation
