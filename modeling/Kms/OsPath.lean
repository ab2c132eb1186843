import Mathlib.Data.List.Basic

/-! The part of `std::path` the keypair import touches, over Unix names as bytes: a directory
entry's name, the path `read_dir` builds from it, `Path::file_name`, `Path::extension`, and the
last-occurrence search both `rsplitn(2, ..)` and `str::rfind` make for an ASCII byte.
`extension_eq_some_iff` says when a path has a given extension: its name is a non-empty stem,
a dot, and the extension. -/
namespace Kms.OsPath

/-- The byte `.`. -/
def dot : UInt8 := 0x2E

/-- A name `fs::read_dir` can yield: not empty, without `/`, and neither `.` nor `..`. -/
@[ext]
structure FileName where
  bytes : List UInt8
  nonempty : bytes ≠ []
  noSlash : 0x2F ∉ bytes
  notDot : bytes ≠ [dot]
  notDotDot : bytes ≠ [dot, dot]
  deriving DecidableEq

/-- `DirEntry::path`: the directory read, joined with one entry's name. -/
@[ext]
structure PathBuf where
  dir : List UInt8
  name : FileName
  deriving DecidableEq

/-- `Path::file_name`: the final component. For a path `read_dir` built it is the entry's name,
a normal component since it holds no `/` and is neither `.` nor `..`. -/
def PathBuf.fileName (p : PathBuf) : Option (List UInt8) := some p.name.bytes

/-- The index of the last occurrence of `c`. -/
def rfind : List UInt8 → UInt8 → Option Nat
  | [], _ => none
  | x :: rest, c =>
    match rfind rest c with
    | some i => some (i + 1)
    | none => if x = c then some 0 else none

/-- `rsplit_file_at_dot`: `..` is all stem; otherwise the name splits at its last dot into
`(before, after)`, a name without a dot has no `before`, and a name whose only dot leads is all
stem. -/
def rsplitFileAtDot (file : List UInt8) : Option (List UInt8) × Option (List UInt8) :=
  if file = [dot, dot] then (some file, none)
  else
    match rfind file dot with
    | none => (none, some file)
    | some i =>
      if file.take i = [] then (some file, none) else (some (file.take i), some (file.drop (i + 1)))

/-- `Path::extension`: `before.and(after)` of the split of the file name. -/
def PathBuf.extension (p : PathBuf) : Option (List UInt8) :=
  p.fileName.bind fun name =>
    match rsplitFileAtDot name with
    | (some _, after) => after
    | (none, _) => none

/-! ## The last occurrence of a byte -/

variable {c : UInt8} {bytes : List UInt8} {i : Nat}

theorem rfind_eq_none_iff : rfind bytes c = none ↔ c ∉ bytes := by
  induction bytes with
  | nil => simp [rfind]
  | cons x rest ih =>
    simp only [rfind, List.mem_cons, not_or]
    split
    · rename_i later
      simp only [reduceCtorEq, false_iff, not_and, not_not]
      exact fun _ => by_contra fun absent => by simp [ih.mpr absent] at later
    · rename_i nothing
      simp only [ite_eq_right_iff, reduceCtorEq, imp_false, ih.mp nothing, not_false_eq_true,
        and_true]
      exact ⟨fun h same => h same.symm, fun h same => h same.symm⟩

theorem rfind_append_cons (pre : List UInt8) (absent : c ∉ rest) :
    rfind (pre ++ c :: rest) c = some pre.length := by
  induction pre with
  | nil => simp [rfind, rfind_eq_none_iff.mpr absent]
  | cons x pre ih => simp [rfind, ih]

/-- Where `rfind` stops, the byte is found and none follows it. -/
theorem rfind_eq_some (found : rfind bytes c = some i) :
    bytes = bytes.take i ++ c :: bytes.drop (i + 1) ∧ c ∉ bytes.drop (i + 1) := by
  induction bytes generalizing i with
  | nil => cases found
  | cons x rest ih =>
    simp only [rfind] at found
    split at found
    · rename_i j later
      cases found
      obtain ⟨split, absent⟩ := ih later
      exact ⟨congrArg (x :: ·) split, absent⟩
    · rename_i nothing
      split at found
      · rename_i same
        cases found
        simp [same, rfind_eq_none_iff.mp nothing]
      · cases found

/-! ## Extensions -/

theorem rsplitFileAtDot_stem {stem ext : List UInt8} (nonempty : stem ≠ []) (noDot : dot ∉ ext)
    (notDotDot : stem ++ dot :: ext ≠ [dot, dot]) :
    rsplitFileAtDot (stem ++ dot :: ext) = (some stem, some ext) := by
  simp [rsplitFileAtDot, notDotDot, rfind_append_cons stem noDot, nonempty]

theorem rsplitFileAtDot_eq_some {file before ext : List UInt8}
    (split : rsplitFileAtDot file = (some before, some ext)) :
    before ≠ [] ∧ file = before ++ dot :: ext := by
  unfold rsplitFileAtDot at split
  split at split
  · simp at split
  · split at split
    · simp at split
    · rename_i i found
      split at split
      · simp at split
      · rename_i nonempty
        simp only [Prod.mk.injEq, Option.some.injEq] at split
        obtain ⟨rfl, rfl⟩ := split
        exact ⟨nonempty, (rfind_eq_some found).1⟩

/-- A path has extension `ext`, a text without a dot, exactly when its name is a non-empty
stem, a dot, and `ext`. -/
theorem extension_eq_some_iff (p : PathBuf) {ext : List UInt8} (noDot : dot ∉ ext) :
    p.extension = some ext ↔ ∃ stem, stem ≠ [] ∧ p.name.bytes = stem ++ dot :: ext := by
  constructor
  · intro has
    simp only [PathBuf.extension, PathBuf.fileName, Option.some_bind] at has
    split at has
    · rename_i before after split
      subst has
      exact ⟨before, rsplitFileAtDot_eq_some split⟩
    · cases has
  · rintro ⟨stem, nonempty, named⟩
    have notDotDot := p.name.notDotDot
    rw [named] at notDotDot
    simp [PathBuf.extension, PathBuf.fileName, named, rsplitFileAtDot_stem nonempty noDot notDotDot]

end Kms.OsPath
