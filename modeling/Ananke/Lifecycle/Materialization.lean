import Mathlib.Algebra.Group.Nat.Defs
import Mathlib.Data.List.Nodup
import Ananke.Json.KeyOrder

/-! The files of a materialization and the bytes of which their hash is taken: each path and
each content behind its length, in the order of the paths. -/
namespace Ananke.Lifecycle

open Json List

/-- A file; its lengths are those of Go values. -/
structure MaterializationFile where
  path : List UInt8
  contents : List UInt8
  pathFits : path.length < 2 ^ 63
  contentsFit : contents.length < 2 ^ 63

/-- Files of different paths. -/
structure Materialization where
  files : List MaterializationFile
  distinct : (files.map MaterializationFile.path).Nodup

/-- `binary.BigEndian.PutUint64` -/
def bigEndian (n : Nat) : List UInt8 :=
  [56, 48, 40, 32, 24, 16, 8, 0].map fun shift => UInt8.ofNat (n / 2 ^ shift)

def lengthPrefixed (bytes : List UInt8) : List UInt8 := bigEndian bytes.length ++ bytes

def MaterializationFile.encode (file : MaterializationFile) : List UInt8 :=
  lengthPrefixed file.path ++ lengthPrefixed file.contents

def pathLess (a b : MaterializationFile) : Bool :=
  compareUnits (a.path.map UInt8.toNat) (b.path.map UInt8.toNat) < 0

/-- What `hashP3eMaterializationFiles` writes to the hash. -/
def hashedBytes (sorter : Sorter MaterializationFile) (files : List MaterializationFile) :
    List UInt8 :=
  (sorter.sort pathLess files).flatMap MaterializationFile.encode

theorem bigEndian_inj {m n : Nat} (hm : m < 2 ^ 63) (hn : n < 2 ^ 63)
    (h : bigEndian m = bigEndian n) : m = n := by
  simp only [bigEndian, map_cons, map_nil, List.cons.injEq, ← UInt8.toNat_inj,
    UInt8.toNat_ofNat'] at h
  omega

variable {a b rest rest' : List UInt8}

/-- A length tells where its bytes end. -/
theorem lengthPrefixed_inj (ha : a.length < 2 ^ 63) (hb : b.length < 2 ^ 63)
    (h : lengthPrefixed a ++ rest = lengthPrefixed b ++ rest') : a = b ∧ rest = rest' := by
  rw [lengthPrefixed, lengthPrefixed, append_assoc, append_assoc] at h
  obtain ⟨hlen, hbytes⟩ := append_inj h rfl
  exact append_inj hbytes (bigEndian_inj ha hb hlen)

theorem encode_append_inj {f g : MaterializationFile} (h : f.encode ++ rest = g.encode ++ rest') :
    f = g ∧ rest = rest' := by
  simp only [MaterializationFile.encode, append_assoc] at h
  obtain ⟨hpath, h⟩ := lengthPrefixed_inj f.pathFits g.pathFits h
  obtain ⟨hcontents, hrest⟩ := lengthPrefixed_inj f.contentsFit g.contentsFit h
  cases f
  cases g
  simp_all

theorem encode_ne_nil (file : MaterializationFile) : file.encode ≠ [] := by
  simp [MaterializationFile.encode, lengthPrefixed, bigEndian]

/-- The hash is taken of the same bytes exactly where the files are the same. -/
theorem hashed_bytes_eq_iff (sorter : Sorter MaterializationFile) (m m' : Materialization) :
    hashedBytes sorter m.files = hashedBytes sorter m'.files ↔ m.files.Perm m'.files := by
  constructor
  · intro h
    have hsorted := flatMap_injective encode_ne_nil (fun _ _ _ _ => encode_append_inj) h
    exact (sorter.perm pathLess m.files).symm.trans (hsorted ▸ sorter.perm pathLess m'.files)
  · intro hperm
    refine congrArg (·.flatMap MaterializationFile.encode) (sorter.sort_eq sorter ?_ hperm ?_)
    · exact strictWeak_units fun file : MaterializationFile => file.path.map UInt8.toNat
    · intro f hf g hg hfg hgf
      simp only [pathLess, decide_eq_false_iff_not, compareUnits_neg_iff, not_lt] at hfg hgf
      have hpath := map_injective_iff.mpr (fun _ _ => UInt8.toNat_inj.mp) (le_antisymm hgf hfg)
      exact inj_on_of_nodup_map m.distinct hf hg hpath

end Ananke.Lifecycle
