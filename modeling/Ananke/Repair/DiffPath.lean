import Mathlib.Logic.Function.Basic

/-! The patch of a repair, saved under the temporary directory and served from fixed ones. A
path is that of a directory and the name of a file in it. -/
namespace Ananke.Repair

abbrev Path := List Char

/-- Where the path of a directory leads when its links are followed, where a name in it leads,
and the files at the paths without links. -/
structure FileSystem where
  resolve : Path → Option Path
  link : Path → Path
  files : Path → Option (List UInt8)

variable (fs : FileSystem)

variable (dir name : Path)

/-- Where a file of that name is, or would be. -/
def FileSystem.place : Option Path :=
  (fs.resolve dir).map fun target => fs.link (target ++ '/' :: name)

def FileSystem.evalSymlinks : Option Path := do
  let resolved ← fs.place dir name
  let _ ← fs.files resolved
  return resolved

/-- What `RunRepair` does with the output of `git diff`, once it has tried to make the directory.
The write may fail, and the path is reported in any case. -/
def FileSystem.saveDiff (diff : List UInt8) (writes : Bool) : FileSystem :=
  match fs.place dir name with
  | none => fs
  | some resolved =>
    if diff ≠ [] ∧ writes then
      { fs with files := Function.update fs.files resolved (some diff) }
    else fs

def containsDotDot : Path → Bool
  | a :: b :: rest => (a = '.' && b = '.') || containsDotDot (b :: rest)
  | _ => false

def allowedPrefixes : List Path := ["/tmp/ananke-diffs/".toList, "/tmp/ananke-repair-".toList]

/-- The places that are served. -/
def Permitted (resolved : Path) : Prop :=
  ∃ p ∈ allowedPrefixes, p.isPrefixOf resolved && !containsDotDot resolved

instance (resolved : Path) : Decidable (Permitted resolved) :=
  inferInstanceAs (Decidable (∃ p ∈ allowedPrefixes, _))

def isAllowedDiffPath : Bool :=
  match fs.evalSymlinks dir name with
  | none => false
  | some resolved => Permitted resolved

/-- The content that is served, if any. -/
def handleRepairDiff : Option (List UInt8) :=
  if isAllowedDiffPath fs dir name then (fs.evalSymlinks dir name).bind fs.files else none

def diffDir (tempDir : Path) : Path := tempDir ++ "/ananke-diffs".toList

theorem served_iff {fs : FileSystem} {dir name : Path} :
    (handleRepairDiff fs dir name).isSome ↔ ∃ resolved, fs.place dir name = some resolved ∧
      Permitted resolved ∧ (fs.files resolved).isSome := by
  cases hplace : fs.place dir name with
  | none => simp [handleRepairDiff, isAllowedDiffPath, FileSystem.evalSymlinks, hplace]
  | some resolved =>
    cases hfile : fs.files resolved with
    | none => simp [handleRepairDiff, isAllowedDiffPath, FileSystem.evalSymlinks, hplace, hfile]
    | some content =>
      simp [handleRepairDiff, isAllowedDiffPath, FileSystem.evalSymlinks, hplace, hfile]

/-- The write goes where the path will be looked up, and nothing is moved by it. -/
theorem place_saveDiff {fs : FileSystem} {dir name : Path} {diff : List UInt8} {writes : Bool} :
    (fs.saveDiff dir name diff writes).place dir name = fs.place dir name := by
  unfold FileSystem.saveDiff
  split
  · rfl
  · split <;> rfl

end Ananke.Repair
