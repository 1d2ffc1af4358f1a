import Mathlib.Data.Finset.Sort
import Mathlib.Data.String.Basic
import Bsord.Plano.TestRun

/-! # Finding files

`find` and `list_dir` in `main.py`.  What `os.walk` yields for each directory is given, and so is `join`.
-/

namespace Bsord.Plano

open Library

/-- What `os.walk` yields in one step. -/
structure Walked where
  root : String
  dirNames : List String
  fileNames : List String

/-- `_fnmatch.filter`. -/
def fnmatchFilter (names : List String) (pattern : String) : List String :=
  names.filter fun name => fnmatchcase name pattern

/-- The body of the loop over the patterns to include: what is left of the names. -/
def narrow (exclude : List String) (names : List String) (includePattern : String) : List String :=
  exclude.foldl (fun names excludePattern => (fnmatchFilter names excludePattern).foldl List.erase names)
    (fnmatchFilter names includePattern)

/-- The root without the `./` it starts with, and nothing of `.`. -/
def strip (root : String) : String :=
  match root.toList with
  | '.' :: '/' :: rest => String.ofList rest
  | ['.'] => ""
  | _ => root

/-- The loop over the patterns to include, in one directory. -/
def findIn (join : String → String → String) (exclude : List String) :
    List String → List String → String → Finset String → Finset String
  | [], _, _, found => found
  | includePattern :: include_, names, root, found =>
    let names := narrow exclude names includePattern
    let root := strip root
    findIn join exclude include_ names root (found ∪ (names.map (join root)).toFinset)

def foundIn (walk : String → List Walked) (join : String → String → String) (dirs : Option Patterns)
    (include_ exclude : Patterns) : Finset String :=
  let walked := (dirs.getD (.string ".")).tuple.flatMap walk
  walked.foldl (fun found step =>
    findIn join exclude.tuple include_.tuple (step.dirNames ++ step.fileNames) step.root found) ∅

def find (walk : String → List Walked) (join : String → String → String) (dirs : Option Patterns)
    (include_ exclude : Patterns) : List String :=
  (foundIn walk join dirs include_ exclude).sort

/-- `list_dir`, of a directory with these names. -/
def listDir (names : List String) (include_ exclude : Patterns) : List String :=
  (include_.tuple.foldl (narrow exclude.tuple) names).mergeSort

/-! ## What is found -/

theorem foldl_erase_filter (removed : String → Bool) (names : List String) :
    (names.filter removed).foldl List.erase names = names.filter fun name => !removed name := by
  rw [← List.diff_eq_foldl]
  induction names with
  | nil => rfl
  | cons name names ih =>
    by_cases matched : removed name
    · simpa [matched] using ih
    · have absent : name ∉ names.filter removed := by simp [matched]
      simpa [matched, List.cons_diff_of_not_mem absent] using ih

theorem foldl_exclude (exclude names : List String) :
    exclude.foldl (fun names excludePattern => (fnmatchFilter names excludePattern).foldl List.erase names) names =
      names.filter fun name => !matchesAny name exclude := by
  induction exclude generalizing names with
  | nil => simp [matchesAny]
  | cons excludePattern exclude ih =>
    rw [List.foldl_cons, fnmatchFilter, foldl_erase_filter, ih, List.filter_filter]
    simp [matchesAny, Bool.and_comm]

theorem narrow_eq (exclude names : List String) (includePattern : String) :
    narrow exclude names includePattern =
      names.filter fun name => !matchesAny name exclude && fnmatchcase name includePattern := by
  rw [narrow, foldl_exclude, fnmatchFilter, List.filter_filter]

theorem mem_narrow {exclude names : List String} {includePattern name : String} :
    name ∈ narrow exclude names includePattern ↔
      name ∈ names ∧ fnmatchcase name includePattern = true ∧ matchesAny name exclude = false := by
  simp [narrow_eq, and_comm]

section
variable (join : String → String → String) (exclude : List String)

theorem findIn_found {include_ names : List String} {root : String} {found : Finset String}
    (stripped : strip root = root) (already : ∀ name ∈ names, join root name ∈ found) :
    findIn join exclude include_ names root found = found := by
  induction include_ generalizing names with
  | nil => rfl
  | cons includePattern include_ ih =>
    -- Each pattern narrows the names that the patterns before it have left.
    have narrower : ∀ name ∈ narrow exclude names includePattern, join root name ∈ found :=
      fun name member => already name (mem_narrow.mp member).1
    have nothing : found ∪ ((narrow exclude names includePattern).map (join root)).toFinset = found := by
      rw [Finset.union_eq_left]
      intro path member
      obtain ⟨name, left, rfl⟩ := List.mem_map.mp (List.mem_toFinset.mp member)
      exact narrower name left
    rw [findIn, stripped, nothing]
    exact ih narrower

theorem findIn_cons {include_ names : List String} {root includePattern : String} {found : Finset String}
    (stable : strip (strip root) = strip root) :
    findIn join exclude (includePattern :: include_) names root found =
      found ∪ ((narrow exclude names includePattern).map (join (strip root))).toFinset := by
  rw [findIn]
  apply findIn_found join exclude stable
  intro name member
  simp only [Finset.mem_union, List.mem_toFinset, List.mem_map]
  exact .inr ⟨name, member, rfl⟩

theorem mem_foldl_findIn {include_ : List String} {includePattern : String} {walked : List Walked}
    (stable : ∀ step ∈ walked, strip (strip step.root) = strip step.root) (found : Finset String) (path : String) :
    path ∈ walked.foldl (fun found step => findIn join exclude (includePattern :: include_)
        (step.dirNames ++ step.fileNames) step.root found) found ↔
      path ∈ found ∨ ∃ step ∈ walked, ∃ name ∈ step.dirNames ++ step.fileNames,
        fnmatchcase name includePattern = true ∧ matchesAny name exclude = false ∧
        path = join (strip step.root) name := by
  induction walked generalizing found with
  | nil => simp
  | cons step walked ih =>
    rw [List.foldl_cons, ih fun step member => stable step (by simp [member]),
      findIn_cons join exclude (stable step (by simp))]
    simp only [Finset.mem_union, List.mem_toFinset, List.mem_map, mem_narrow, List.exists_mem_cons_iff, or_assoc]
    apply or_congr_right
    apply or_congr_left
    constructor
    · rintro ⟨name, ⟨member, matched, kept⟩, rfl⟩
      exact ⟨name, member, matched, kept, rfl⟩
    · rintro ⟨name, member, matched, kept, rfl⟩
      exact ⟨name, ⟨member, matched, kept⟩, rfl⟩

end

/-- The patterns to include after the first make no difference: what is found are the names that match the first and
    none of those to exclude. -/
theorem find_first (walk : String → List Walked) (join : String → String → String) (dirs : Option Patterns)
    (includePattern : String) (include_ : List String) (exclude : Patterns)
    (stable : ∀ dir ∈ (dirs.getD (.string ".")).tuple, ∀ step ∈ walk dir, strip (strip step.root) = strip step.root) :
    find walk join dirs (.list (includePattern :: include_)) exclude =
      find walk join dirs (.string includePattern) exclude ∧
    ∀ path, path ∈ find walk join dirs (.list (includePattern :: include_)) exclude ↔
      ∃ dir ∈ (dirs.getD (.string ".")).tuple, ∃ step ∈ walk dir, ∃ name ∈ step.dirNames ++ step.fileNames,
        fnmatchcase name includePattern = true ∧ matchesAny name exclude.tuple = false ∧
        path = join (strip step.root) name := by
  have stableAll :
      ∀ step ∈ (dirs.getD (.string ".")).tuple.flatMap walk, strip (strip step.root) = strip step.root := by
    intro step member
    obtain ⟨dir, among, yielded⟩ := List.mem_flatMap.mp member
    exact stable dir among step yielded
  have sameFound : ∀ patterns path, path ∈ find walk join dirs (.list (includePattern :: patterns)) exclude ↔
      ∃ dir ∈ (dirs.getD (.string ".")).tuple, ∃ step ∈ walk dir, ∃ name ∈ step.dirNames ++ step.fileNames,
        fnmatchcase name includePattern = true ∧ matchesAny name exclude.tuple = false ∧
        path = join (strip step.root) name := by
    intro patterns path
    rw [find, Finset.mem_sort, foundIn]
    refine (mem_foldl_findIn join exclude.tuple stableAll ∅ path).trans ?_
    simp only [Finset.notMem_empty, false_or, List.mem_flatMap]
    constructor
    · rintro ⟨step, ⟨dir, among, yielded⟩, found⟩
      exact ⟨dir, among, step, yielded, found⟩
    · rintro ⟨dir, among, step, yielded, found⟩
      exact ⟨step, ⟨dir, among, yielded⟩, found⟩
  refine ⟨?_, sameFound include_⟩
  -- both are sorted, so they are the same when the same is in them
  rw [find, find]
  congr 1
  ext path
  have left := sameFound include_ path
  have right := sameFound [] path
  rw [find, Finset.mem_sort] at left right
  exact left.trans right.symm

theorem find_first_sources :
    let walk (_ : String) : List Walked :=
      [⟨"./src", ["tests"], ["panic.c", "panic.h", "server.c"]⟩, ⟨"./src/tests", [], ["all.h"]⟩]
    let join (dir name : String) : String := dir ++ "/" ++ name
    find walk join none (.list ["*.c", "*.h"]) (.string "server*") =
        find walk join none (.string "*.c") (.string "server*") ∧
      "src/panic.h" ∉ find walk join none (.list ["*.c", "*.h"]) (.string "server*") := by
  intro walk join
  have found := find_first walk join none "*.c" ["*.h"] (.string "server*") (by decide)
  refine ⟨found.1, ?_⟩
  rw [found.2]
  decide

/-- `list_dir` looks at all patterns to include, and at those to exclude only if there is one to include. -/
theorem listDir_eq (names : List String) (include_ exclude : Patterns) :
    listDir names include_ exclude = (names.filter fun name =>
      include_.tuple.all (fnmatchcase name) &&
        (include_.tuple.isEmpty || !matchesAny name exclude.tuple)).mergeSort := by
  rw [listDir]
  congr 1
  induction include_.tuple generalizing names with
  | nil => simp
  | cons includePattern include_ ih =>
    rw [List.foldl_cons, ih, narrow_eq, List.filter_filter]
    apply List.filter_congr
    intro name _
    cases matchesAny name exclude.tuple <;> simp [Bool.and_comm]

end Bsord.Plano
