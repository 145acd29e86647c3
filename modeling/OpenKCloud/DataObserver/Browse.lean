import Mathlib.Data.List.Infix
/-
# The data observer's path check: `browse_directory` and `get_path_info`

`AI_SW_IDE/data_observer/main.py` serves the NFS volume mounted at `NFS_ROOT`.  Both of its
endpoints take a query `path`, strip ONE leading `/`, refuse a path containing `..` with
`400`, and then act on `Path(NFS_ROOT) / path`.  The backend's `browse_files` forwards
`"/" + "/".join(path.split('/')[2:])` to `browse_directory`.

`pathlib` joins component by component: a right operand with a root REPLACES the left one.
So the check keeps the endpoints inside `NFS_ROOT` exactly when what is left after the strip
has no root of its own.

* `joinpath_within`: a relative operand stays within the base;
* `browseDirectory_within`, `getPathInfo_within`: every accepted query whose stripped form
  does not start with `/` is served from inside `NFS_ROOT`;
* `browseDirectory_lists_outside_root`: `//etc` leaves one `/` after the strip, and
  `browse_directory` lists `/etc`; `browse_files` forwards `//etc` for `a/b//etc`.

Strings are read through their characters, so that every function here evaluates.
-/

namespace OpenKCloud.DataObserver

/-! ## 1. `pathlib`, lexically -/

/-- A `PurePosixPath`: its root (`""`, `"/"` or `"//"`) and its components, none of them empty
or `.`. -/
structure PurePath where
  root : String
  parts : List String
  deriving DecidableEq

/-- `posixpath.splitroot`: one leading `/` or three and more give the root `/`; exactly two
give `//`. -/
def splitRoot : List Char → String × List Char
  | '/' :: '/' :: '/' :: rest => ("/", '/' :: '/' :: rest)
  | '/' :: '/' :: rest => ("//", rest)
  | '/' :: rest => ("/", rest)
  | s => ("", s)

/-- `PurePosixPath(s)`: the root, then the components between slashes, dropping empty ones and
`.`; `..` is kept as a component. -/
def PurePath.parse (s : String) : PurePath :=
  let (root, rel) := splitRoot s.data
  ⟨root, ((rel.splitOn '/').filter fun c => c ≠ [] ∧ c ≠ ['.']).map String.mk⟩

/-- `p / s`: an operand with a root replaces `p`; otherwise its components are appended. -/
def PurePath.joinpath (p : PurePath) (s : String) : PurePath :=
  let q := PurePath.parse s
  if q.root = "" then ⟨p.root, p.parts ++ q.parts⟩ else q

/-- `p` is `base` or a descendant of it, lexically. -/
def PurePath.IsWithin (p base : PurePath) : Prop :=
  p.root = base.root ∧ base.parts <+: p.parts

instance (p base : PurePath) : Decidable (p.IsWithin base) :=
  inferInstanceAs (Decidable (_ ∧ _))

theorem parse_root_eq_empty {s : String} (h : s.data.head? ≠ some '/') :
    (PurePath.parse s).root = "" := by
  unfold PurePath.parse
  match hs : s.data with
  | '/' :: _ => simp [hs] at h
  | [] => rfl
  | c :: rest =>
    have hc : c ≠ '/' := fun hc => h (by simp [hs, hc])
    simp only [splitRoot]
    split <;> simp_all

/-- **A relative operand stays within the base.** -/
theorem joinpath_within (p : PurePath) {s : String} (h : s.data.head? ≠ some '/') :
    (p.joinpath s).IsWithin p := by
  simp only [PurePath.joinpath, parse_root_eq_empty h, if_true]
  exact ⟨rfl, List.prefix_append _ _⟩

/-! ## 2. The two endpoints -/

/-- An `HTTPException`. -/
structure HttpException where
  statusCode : ℕ
  detail : String
  deriving DecidableEq

/-- The volume, as the endpoints query it: `Path.exists()` and `Path.is_dir()`. -/
structure FileSystem where
  pathExists : PurePath → Bool
  isDir : PurePath → Bool

/-- `if path.startswith("/"): path = path[1:]`. -/
def stripLeadingSlash (path : String) : String :=
  if path.data.head? = some '/' then ⟨path.data.tail⟩ else path

/-- The normalisation both endpoints open with: strip one leading `/`, refuse `..`. -/
def checkPath (path : String) : Except HttpException String :=
  let path := stripLeadingSlash path
  if ['.', '.'] <:+: path.data then .error ⟨400, "Access to parent directory is not allowed"⟩
  else .ok path

/-- `browse_directory(path, ...)`, up to the listing: the directory it lists, or the
`HTTPException` it raises. -/
def browseDirectory (nfsRoot : String) (fs : FileSystem) (path : String) :
    Except HttpException PurePath := do
  let path ← checkPath path
  let fullPath := (PurePath.parse nfsRoot).joinpath path
  if !fs.pathExists fullPath then throw ⟨404, "Path not found: " ++ path⟩
  if !fs.isDir fullPath then throw ⟨400, "Specified path is not a directory: " ++ path⟩
  return fullPath

/-- `get_path_info(path)`, up to the `stat`: the path it describes, or the `HTTPException` it
raises. -/
def getPathInfo (nfsRoot : String) (fs : FileSystem) (path : String) :
    Except HttpException PurePath := do
  let path ← checkPath path
  let fullPath := (PurePath.parse nfsRoot).joinpath path
  if !fs.pathExists fullPath then throw ⟨404, "Path not found: " ++ path⟩
  return fullPath

/-- The `path` parameter the backend's `browse_files` sends:
`"/" + "/".join(path.split('/')[2:])`. -/
def browseFilesParam (path : String) : String :=
  ⟨'/' :: ['/'].intercalate ((path.data.splitOn '/').drop 2)⟩

/-! ## 3. What the check guarantees -/

theorem checkPath_eq_ok {path p : String} (h : checkPath path = .ok p) :
    p = stripLeadingSlash path ∧ ¬ ['.', '.'] <:+: p.data := by
  unfold checkPath at h
  dsimp only at h
  split_ifs at h with h₁
  cases h
  exact ⟨rfl, h₁⟩

/-- A query that does not open with two slashes keeps no root after the strip. -/
theorem head_stripLeadingSlash {path : String} (h : ¬ ['/', '/'] <+: path.data) :
    (stripLeadingSlash path).data.head? ≠ some '/' := by
  unfold stripLeadingSlash
  match hp : path.data with
  | [] => simp [hp]
  | [c] => by_cases hc : c = '/' <;> simp [hp, hc]
  | c :: d :: rest =>
    by_cases hc : c = '/'
    · have hd : d ≠ '/' := fun hd => h (by simp [hp, hc, hd])
      simp [hp, hc, hd]
    · simp [hp, hc]

/-- An endpoint that gets past `checkPath` goes on with the path it accepted. -/
theorem bind_checkPath_eq_ok {α : Type} {path : String} {f : String → Except HttpException α}
    {x : α} (h : (checkPath path >>= f) = .ok x) : ∃ p, checkPath path = .ok p ∧ f p = .ok x := by
  cases hc : checkPath path with
  | error e => rw [hc] at h; cases h
  | ok p => rw [hc] at h; exact ⟨p, rfl, h⟩

theorem browseDirectory_eq_ok {nfsRoot : String} {fs : FileSystem} {path : String}
    {full : PurePath} (h : browseDirectory nfsRoot fs path = .ok full) :
    ∃ p, checkPath path = .ok p ∧ full = (PurePath.parse nfsRoot).joinpath p := by
  obtain ⟨p, hc, h⟩ := bind_checkPath_eq_ok h
  refine ⟨p, hc, ?_⟩
  simp only [bind, Except.bind, pure, Except.pure, throw, throwThe, MonadExceptOf.throw] at h
  split_ifs at h
  exact (Except.ok.inj h).symm

theorem getPathInfo_eq_ok {nfsRoot : String} {fs : FileSystem} {path : String} {full : PurePath}
    (h : getPathInfo nfsRoot fs path = .ok full) :
    ∃ p, checkPath path = .ok p ∧ full = (PurePath.parse nfsRoot).joinpath p := by
  obtain ⟨p, hc, h⟩ := bind_checkPath_eq_ok h
  refine ⟨p, hc, ?_⟩
  simp only [bind, Except.bind, pure, Except.pure, throw, throwThe, MonadExceptOf.throw] at h
  split_ifs at h
  exact (Except.ok.inj h).symm

/-- **`browse_directory` stays inside the root** for every query it accepts that does not open
with `//`, whatever the volume holds. -/
theorem browseDirectory_within {nfsRoot : String} {fs : FileSystem} {path : String}
    {full : PurePath} (hpath : ¬ ['/', '/'] <+: path.data)
    (h : browseDirectory nfsRoot fs path = .ok full) :
    full.IsWithin (PurePath.parse nfsRoot) := by
  obtain ⟨p, hc, rfl⟩ := browseDirectory_eq_ok h
  obtain ⟨rfl, -⟩ := checkPath_eq_ok hc
  exact joinpath_within _ (head_stripLeadingSlash hpath)

/-- **`get_path_info` stays inside the root** under the same condition. -/
theorem getPathInfo_within {nfsRoot : String} {fs : FileSystem} {path : String}
    {full : PurePath} (hpath : ¬ ['/', '/'] <+: path.data)
    (h : getPathInfo nfsRoot fs path = .ok full) :
    full.IsWithin (PurePath.parse nfsRoot) := by
  obtain ⟨p, hc, rfl⟩ := getPathInfo_eq_ok h
  obtain ⟨rfl, -⟩ := checkPath_eq_ok hc
  exact joinpath_within _ (head_stripLeadingSlash hpath)

/-! ## 4. Two slashes -/

/-- `os.getenv("NFS_ROOT", "/home/jovyan")` with the variable unset. -/
def nfsRootDefault : String := "/home/jovyan"

/-- A volume on which every path exists and is a directory. -/
def FileSystem.allDirs : FileSystem := ⟨fun _ => true, fun _ => true⟩

/-- The backend forwards `//etc` for `a/b//etc`; both endpoints strip one slash, and
`Path("/home/jovyan") / "/etc"` is `/etc`. -/
theorem browseDirectory_lists_outside_root :
    browseFilesParam "a/b//etc" = "//etc" ∧
      browseDirectory nfsRootDefault FileSystem.allDirs "//etc" = .ok (PurePath.parse "/etc") ∧
      getPathInfo nfsRootDefault FileSystem.allDirs "//etc" = .ok (PurePath.parse "/etc") ∧
      ¬ (PurePath.parse "/etc").IsWithin (PurePath.parse nfsRootDefault) :=
  ⟨by decide, rfl, rfl, by decide⟩

end OpenKCloud.DataObserver
