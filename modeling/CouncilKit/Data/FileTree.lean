import CouncilKit.Data.FencedLines

namespace CouncilKit.Data

open JsString Option
open List hiding splitOn

/-! Files, directories and links, and the way a POSIX system finds along a path. -/

structure FileName where
  text : JsString
  proper : text ≠ [] ∧ text ≠ js "." ∧ text ≠ js ".." ∧ 0x2F ∉ text

inductive FileTree where
  | file (bytes : List UInt8)
  | link (target : JsString)
  | dir (entries : List (FileName × FileTree))

def isAbsolute (path : JsString) : Bool := path.head? = some 0x2F

/-- A `..` taken off the text, as `node:path` does. -/
def tidyStep (place : List JsString) (segment : JsString) : List JsString :=
  if segment = [] ∨ segment = js "." then place
  else if segment = js ".." then place.dropLast
  else place ++ [segment]

/-- `join` and `resolve` of a relative path, onto the absolute path of a place. -/
def resolvePath (place : List JsString) (path : JsString) : List JsString :=
  (splitOn 0x2F path).foldl tidyStep place

def absolute (place : List JsString) : JsString := 0x2F :: join (js "/") place

/-- `relative`, in segments. -/
def relativePath : (base target : List JsString) → List JsString
  | first :: base, next :: target =>
    if first = next then relativePath base target
    else replicate (base.length + 1) (js "..") ++ next :: target
  | base, target => replicate base.length (js "..") ++ target

/-- The segments that name something. -/
def named (segments : List JsString) : List JsString :=
  segments.filter fun segment => segment ≠ [] ∧ segment ≠ js "."

namespace FileTree

def child (node : FileTree) (name : JsString) : Option FileTree :=
  match node with
  | .dir entries => (entries.find? fun entry => entry.1.text = name).map (·.2)
  | _ => none

/-- What stands at a place, by the names from the top. -/
def get (tree : FileTree) (place : List JsString) : Option FileTree := place.foldlM child tree

structure Directory (tree : FileTree) where
  place : List JsString
  entries : List (FileName × FileTree)
  stands : tree.get place = some (.dir entries)

/-- From a place along some segments.  `follow` goes on where a link leads; `last` keeps a link
that stands at the end. -/
def steps (tree : FileTree) (last : Bool)
    (follow : List JsString → List JsString → Option (List JsString)) :
    (place todo : List JsString) → Option (List JsString)
  | place, [] => some place
  | place, name :: rest =>
    if name = [] ∨ name = js "." then steps tree last follow place rest
    else if name = js ".." then steps tree last follow place.dropLast rest
    else match tree.get (place ++ [name]) with
      | none => none
      | some (.file _) => if rest = [] then some (place ++ [name]) else none
      | some (.dir _) => steps tree last follow (place ++ [name]) rest
      | some (.link target) =>
        if last ∧ rest = [] then some (place ++ [name])
        else follow (if isAbsolute target then [] else place) (splitOn 0x2F target ++ rest)

/-- Links on links end in `ELOOP`. -/
def walk (tree : FileTree) (last : Bool) : Nat → (place todo : List JsString) →
    Option (List JsString)
  | 0 => steps tree last fun _ _ => none
  | links + 1 => steps tree last (walk tree last links)

def MAX_LINKS := 40

section System

variable (tree : FileTree) (place segments : List JsString)

def realpath : Option (List JsString) := tree.walk false MAX_LINKS place segments

def stat : Option FileTree := (tree.realpath place segments).bind tree.get

def lstat : Option FileTree := (tree.walk true MAX_LINKS place segments).bind tree.get

def readFile : Option (List UInt8) :=
  match tree.stat place segments with
  | some (.file bytes) => some bytes
  | _ => none

def readDir : Option (List (FileName × FileTree)) :=
  match tree.stat place segments with
  | some (.dir entries) => some entries
  | _ => none

/-- A link stands on the way from a place. -/
def LinkOn : Prop :=
  ∃ front, front <+: segments ∧ ∃ target, tree.get (place ++ front) = some (.link target)

end System

variable {tree : FileTree} {last : Bool} {place todo found : List JsString}
  {follow : List JsString → List JsString → Option (List JsString)} {name : JsString}

theorem named_cons (solid : ¬ (name = [] ∨ name = js ".")) (rest : List JsString) :
    named (name :: rest) = name :: named rest := by
  rw [not_or] at solid
  exact filter_cons_of_pos (by simpa using solid)

theorem named_skip (empty : name = [] ∨ name = js ".") (rest : List JsString) :
    named (name :: rest) = named rest := by
  apply filter_cons_of_neg
  simpa [imp_iff_or_not, or_comm] using empty

theorem resolvePath_level {path : JsString} (level : js ".." ∉ splitOn 0x2F path) :
    resolvePath place path = place ++ named (splitOn 0x2F path) := by
  rw [resolvePath]
  generalize splitOn 0x2F path = todo at level
  induction todo generalizing place with
  | nil => exact (append_nil _).symm
  | cons name rest ih =>
    rw [mem_cons, not_or] at level
    rw [foldl_cons, ih level.2, tidyStep]
    split
    · rename_i empty
      rw [named_skip empty]
    · rename_i solid
      rw [if_neg (Ne.symm level.1), named_cons solid, append_assoc, singleton_append]

theorem steps_level (level : js ".." ∉ todo) (reached : tree.steps last follow place todo = some found) :
    found = place ++ named todo ∨ tree.LinkOn place (named todo) := by
  induction todo generalizing place with
  | nil =>
    cases reached
    exact .inl (append_nil _).symm
  | cons name rest ih =>
    rw [mem_cons, not_or] at level
    rw [steps] at reached
    split at reached
    · rename_i empty
      rw [named_skip empty]
      exact ih level.2 reached
    · rename_i solid
      rw [if_neg (Ne.symm level.1)] at reached
      rw [named_cons solid]
      split at reached
      · cases reached
      · split at reached
        · rename_i none_
          cases reached
          exact .inl (by rw [none_]; rfl)
        · cases reached
      · obtain same | ⟨front, begins, target, link⟩ := ih level.2 reached
        · exact .inl (by rw [same, append_assoc, singleton_append])
        · refine .inr ⟨name :: front, cons_prefix_cons.mpr ⟨rfl, begins⟩, target, ?_⟩
          rw [← link, append_assoc, singleton_append]
      · rename_i target link
        exact .inr ⟨[name], ⟨named rest, rfl⟩, target, link⟩

theorem get_append (front back : List JsString) :
    tree.get (front ++ back) = (tree.get front).bind (·.get back) := foldlM_append ..

theorem child_dir {node next : FileTree} (found : node.child name = some next) :
    (∃ entries, node = .dir entries) ∧ name ≠ [] ∧ name ≠ js "." ∧ name ≠ js ".." := by
  cases node with
  | dir entries =>
    obtain ⟨entry, listed, -⟩ := map_eq_some_iff.mp found
    have same := find?_some listed
    obtain rfl := of_decide_eq_true same
    obtain ⟨some_, plain, level, -⟩ := entry.1.proper
    exact ⟨⟨_, rfl⟩, some_, plain, level⟩
  | _ => cases found

theorem steps_directory (dir : Directory tree) (todo : List JsString) :
    tree.steps last follow [] (dir.place ++ todo) = tree.steps last follow dir.place todo := by
  have along : ∀ back front, (∃ entries, tree.get (front ++ back) = some (.dir entries)) →
      tree.steps last follow front (back ++ todo) = tree.steps last follow (front ++ back) todo := by
    intro back
    induction back with
    | nil => intro front _; rw [append_nil, nil_append]
    | cons name back ih =>
      rintro front ⟨entries, stands⟩
      have split : front ++ name :: back = (front ++ [name]) ++ back := by simp
      rw [split] at stands ⊢
      rw [← ih _ ⟨entries, stands⟩, cons_append, steps]
      rw [get_append] at stands
      obtain ⟨node, here, rest⟩ := bind_eq_some_iff.mp stands
      have isDir : ∃ entries, node = .dir entries := by
        cases back with
        | nil => exact ⟨entries, some.inj rest⟩
        | cons next back =>
          obtain ⟨inner, first, -⟩ := bind_eq_some_iff.mp rest
          exact (child_dir first).1
      obtain ⟨inner, rfl⟩ := isDir
      have named_ := here
      rw [get_append] at named_
      obtain ⟨parent, -, below⟩ := bind_eq_some_iff.mp named_
      obtain ⟨-, some_, plain, level⟩ := child_dir (by simpa [get] using below)
      rw [if_neg (not_or.mpr ⟨some_, plain⟩), if_neg level, here]
  exact along dir.place [] ⟨dir.entries, dir.stands⟩

theorem readFile_level {bytes : List UInt8} (level : js ".." ∉ todo)
    (read : tree.readFile place todo = some bytes) (plain : ¬ tree.LinkOn place (named todo)) :
    tree.get (place ++ named todo) = some (.file bytes) := by
  rw [readFile] at read
  split at read
  · rename_i stands
    cases read
    obtain ⟨found, reached, stands⟩ := bind_eq_some_iff.mp stands
    rw [← (steps_level level reached).resolve_right plain]
    exact stands
  · cases read

theorem named_named (segments : List JsString) : named (named segments) = named segments := by
  simp [named]

theorem level_named (level : js ".." ∉ todo) : js ".." ∉ named todo :=
  fun member => level (mem_filter.mp member).1

theorem readFile_below (dir : Directory tree) {bytes : List UInt8} (level : js ".." ∉ todo)
    (read : tree.readFile [] (dir.place ++ named todo) = some bytes)
    (plain : ¬ tree.LinkOn dir.place (named todo)) :
    tree.get (dir.place ++ named todo) = some (.file bytes) := by
  have same : tree.readFile [] (dir.place ++ named todo) = tree.readFile dir.place (named todo) := by
    rw [readFile, readFile, stat, stat, realpath, realpath, MAX_LINKS, walk, steps_directory]
  rw [← named_named] at plain ⊢
  exact readFile_level (level_named level) (same.symm.trans read) plain

theorem realpath_level (dir : Directory tree) (level : js ".." ∉ todo)
    (plain : ¬ tree.LinkOn dir.place (named todo)) :
    (tree.realpath [] (dir.place ++ named todo)).getD (dir.place ++ named todo) =
      dir.place ++ named todo := by
  cases real : tree.realpath [] (dir.place ++ named todo) with
  | none => rfl
  | some found =>
    rw [realpath, MAX_LINKS, walk, steps_directory] at real
    rw [← named_named] at plain
    rw [(steps_level (level_named level) real).resolve_right plain, named_named]
    rfl

end FileTree

end CouncilKit.Data
