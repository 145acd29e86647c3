import OpenKCloud.Except
import OpenKCloud.DataObserver.Browse
import OpenKCloud.Float
import Mathlib.Data.List.Sort
import Mathlib.Data.Nat.Log
import Mathlib.Data.String.Basic
import Mathlib.Data.Prod.Lex
import Mathlib.Algebra.BigOperators.Group.List
/-
# The data observer's listing: what `browse_directory` returns

Past the path check of `Browse.lean`, `browse_directory` (`AI_SW_IDE/data_observer/main.py`)
walks `full_path.iterdir()`, skips the hidden names unless `include_hidden`, describes each entry
with `get_file_info` (skipping those it fails on), adds up the sizes of the files, and sorts the
items as `sort_by` asks.  Sizes are printed by `get_human_readable_size`.

`size_bytes /= 1024.0` turns the size into a float (`fl`, in `Float.lean`) and divides it by
1024, which is exact; below `2 ^ 53` bytes the float is the size itself, above it the nearest
binary64 value.  `Format.lean` says how `:.1f` rounds.
Python's `list.sort(key=...)` is stable, and so is Mathlib's `insertionSort`: sorting by the same
comparison, the two give the same list.  `str.lower()` is a parameter `lower` of the sorts: its
Unicode table is left open, so the listing is modelled for every lowering, Python's included; the
sample lists ASCII names, where `String.toLower` is `str.lower()`.
`datetime.fromtimestamp(st_mtime)` is kept as the timestamp it is made from, which orders the same
way.

* `getHumanReadableSize_eq`: the unit is the largest of `B` to `PB` whose power of 1024 does not
  exceed the size, that is `min (log 1024 n) 5`, and the figure is the float of the size in that
  unit;
* `getHumanReadableSize_rounds_up`: from 1023.95 of a unit up to the next unit, the figure
  prints as `1024.0` of the smaller one;
* `browseDirectoryResponse_items`: the response lists each visible entry `get_file_info`
  describes, once, in the order `sort_by` names, and `total_size` adds up the listed files only;
* `browseDirectoryResponse_vscode_eq_type`: `sort_by="vscode"` and `sort_by="type"` give the
  same response.
-/

namespace OpenKCloud.DataObserver

/-! ## 1. `get_human_readable_size` -/

/-- `size_names`. -/
def sizeNames : List String := ["B", "KB", "MB", "GB", "TB", "PB"]

/-- The `while` loop of `get_human_readable_size` at unit `i`, with `k` larger units left
(`i + k = len(size_names) - 1`, so its guard `i < len(size_names) - 1` is `0 < k`): divide by
`1024.0` while the value is at least 1024.  The first division turns the `int` into a float; `fl`
of a value that is already a float is that value. -/
def scaleLoop : ℕ → ℚ → ℕ → ℚ × ℕ
  | 0, x, i => (x, i)
  | k + 1, x, i => if 1024 ≤ x then scaleLoop k (fl (fl x / 1024)) (i + 1) else (x, i)

/-- `get_human_readable_size(size_bytes)`: `:.1f` prints an `int` left below 1024 as its float. -/
def getHumanReadableSize (sizeBytes : ℕ) : String :=
  if sizeBytes = 0 then "0B"
  else
    let (x, i) := scaleLoop (sizeNames.length - 1) sizeBytes 0
    formatFixed 1 (fl x) ++ sizeNames.getD i ""

/-- Dividing by a power of 1024 is exact. -/
theorem fl_div_pow_1024 (y : ℚ) (j : ℕ) : fl (y / 1024 ^ j) = fl y / 1024 ^ j := by
  have h : ((1024 : ℚ) ^ j)⁻¹ = 2 ^ (-((10 * j : ℕ) : ℤ)) := by
    rw [zpow_neg, zpow_natCast, pow_mul]; norm_num
  simp only [div_eq_mul_inv, h, fl_mul_two_zpow]

/-- Comparing the value at unit `i` with 1024 compares the size with the next power of 1024, up
to `PB`: the powers up to `1024 ^ 5 = 2 ^ 50` are below `2 ^ 53`. -/
theorem le_fl_div_pow_iff {n i : ℕ} (hi : i + 1 ≤ 5) :
    1024 ≤ fl n / 1024 ^ i ↔ 1024 ^ (i + 1) ≤ n := by
  have ht : 1024 ^ (i + 1) ≤ 2 ^ 53 :=
    (Nat.pow_le_pow_right (by norm_num) hi).trans (by norm_num)
  rw [le_div_iff₀ (by positivity), ← pow_succ', ← natCast_le_fl_iff ht]
  push_cast; rfl

/-- From the value at unit `i`, whose float is that of the size in the unit and which the guard
compares as the size, the loop stops at the unit `log 1024 n`, or at the last one it may reach,
with the float of the size in that unit. -/
theorem scaleLoop_spec {n : ℕ} (k : ℕ) {i : ℕ} {x : ℚ} (hik : i + k ≤ 5) (hi : 1024 ^ i ≤ n)
    (hx : fl x = fl n / 1024 ^ i) (hcmp : 0 < k → (1024 ≤ x ↔ 1024 ^ (i + 1) ≤ n)) :
    fl (scaleLoop k x i).1 = fl n / 1024 ^ min (Nat.log 1024 n) (i + k) ∧
      (scaleLoop k x i).2 = min (Nat.log 1024 n) (i + k) := by
  have hn : n ≠ 0 := ((pow_pos (by norm_num : 0 < 1024) i).trans_le hi).ne'
  have hlog : i ≤ Nat.log 1024 n := (Nat.pow_le_iff_le_log (by norm_num) hn).1 hi
  induction k generalizing i x with
  | zero => rw [Nat.add_zero, min_eq_right hlog]; exact ⟨hx, rfl⟩
  | succ k ih =>
    by_cases h : 1024 ^ (i + 1) ≤ n
    · have hx' : fl (fl x / 1024) = fl n / 1024 ^ (i + 1) := by
        rw [hx, div_div, ← pow_succ, fl_div_pow_1024, fl_fl]
      rw [scaleLoop, if_pos ((hcmp k.succ_pos).2 h), show i + (k + 1) = i + 1 + k by omega]
      exact ih (by omega) h (by rw [hx', fl_div_pow_1024, fl_fl])
        (fun _ => by rw [hx']; exact le_fl_div_pow_iff (by omega))
        ((Nat.pow_le_iff_le_log (by norm_num) hn).1 h)
    · have hlog' : Nat.log 1024 n = i := le_antisymm
        (Nat.lt_succ_iff.1 ((Nat.lt_pow_iff_log_lt (by norm_num) hn).1 (not_le.1 h))) hlog
      rw [scaleLoop, if_neg (mt (hcmp k.succ_pos).1 h), hlog', min_eq_left (by omega)]
      exact ⟨hx, rfl⟩

theorem getHumanReadableSize_of_ne_zero {n : ℕ} (hn : n ≠ 0) :
    getHumanReadableSize n = formatFixed 1 (fl n / 1024 ^ min (Nat.log 1024 n) 5) ++
      sizeNames.getD (min (Nat.log 1024 n) 5) "" := by
  obtain ⟨h₁, h₂⟩ := scaleLoop_spec (n := n) 5 (i := 0) (x := n) le_rfl (Nat.one_le_iff_ne_zero.2 hn)
    (by rw [pow_zero, div_one]) fun _ => by rw [zero_add, pow_one]; exact_mod_cast Iff.rfl
  rw [getHumanReadableSize, if_neg hn, show sizeNames.length - 1 = 5 from rfl]
  dsimp only
  rw [h₁, h₂]

/-- **`get_human_readable_size` in closed form.**  A size of `n > 0` bytes is printed in the
largest unit whose power of 1024 does not exceed it (`PB` at most), to one place: the figure is
the float of `n` in that unit, which is `n` in that unit below `2 ^ 53` bytes (`fl_natCast`). -/
theorem getHumanReadableSize_eq (n : ℕ) :
    getHumanReadableSize n =
      if n = 0 then "0B"
      else formatFixed 1 (fl n / 1024 ^ min (Nat.log 1024 n) 5) ++
        sizeNames.getD (min (Nat.log 1024 n) 5) "" := by
  split_ifs with hn
  · rw [getHumanReadableSize, if_pos hn]
  · exact getHumanReadableSize_of_ne_zero hn

/-- Above `2 ^ 53` bytes the float of the size is what is printed: `10.25 PiB` and one byte is
the float `10.25 PiB`, a tie that `:.1f` rounds down. -/
example : getHumanReadableSize 11540474045136897 = "10.2PB" := by
  have hfl : fl 11540474045136897 = 11540474045136896 := by
    rw [fl_eq_of_mem_binade (e := 53) (by norm_num) (by norm_num),
      show (11540474045136897 : ℚ) * 2 ^ (52 - 53 : ℤ) = (5770237022568448 : ℕ) + 1 / 2 by norm_num,
      roundHalfEven_add_half (by norm_num)]
    norm_num
  have hr : roundHalfEven (|(11540474045136896 : ℚ) / 1024 ^ 5| * 10 ^ 1) = 102 := by
    rw [show |(11540474045136896 : ℚ) / 1024 ^ 5| * 10 ^ 1 = ((102 : ℕ) : ℚ) + 1 / 2 by
      norm_num [abs_of_pos]]
    exact roundHalfEven_add_half (by norm_num)
  have hx : ¬ (11540474045136896 : ℚ) / 1024 ^ 5 < 0 := by norm_num
  rw [getHumanReadableSize_of_ne_zero (by norm_num),
    Nat.log_eq_of_pow_le_of_lt_pow (b := 1024) (m := 5) (by norm_num) (by norm_num)]
  simp only [min_self, Nat.cast_ofNat, hfl, formatFixed, hr, hx, if_false]
  rfl

/-- **A size just below the next unit prints as `1024.0` of its own.**  From 1023.95 of a unit
up to 1024 of it, the figure rounds to `1024.0`: `1048575` bytes print as `1024.0KB`, not
`1.0MB`. -/
theorem getHumanReadableSize_rounds_up {k n : ℕ} (hk : k < 5) (h₁ : (1023.95 : ℚ) * 1024 ^ k ≤ n)
    (h₂ : n < 1024 ^ (k + 1)) : getHumanReadableSize n = "1024.0" ++ sizeNames.getD k "" := by
  have hpos : (0 : ℚ) < 1024 ^ k := by positivity
  have hlow : 1024 ^ k ≤ n := by
    have : (1024 : ℚ) ^ k ≤ n := by linarith
    exact_mod_cast this
  have hn : n ≠ 0 := ((pow_pos (by norm_num : 0 < 1024) k).trans_le hlow).ne'
  have hfl : fl n = n := fl_natCast ((h₂.trans_le (Nat.pow_le_pow_right (by norm_num)
    (show k + 1 ≤ 5 by omega))).trans (by norm_num))
  rw [getHumanReadableSize_of_ne_zero hn, Nat.log_eq_of_pow_le_of_lt_pow hlow h₂,
    min_eq_left hk.le, hfl]
  have hx₁ : (1023.95 : ℚ) ≤ n / 1024 ^ k := (le_div_iff₀ hpos).2 h₁
  have hx₂ : (n : ℚ) / 1024 ^ k < 1024 := by
    rw [div_lt_iff₀ hpos, ← pow_succ']; exact_mod_cast h₂
  have hx₀ : (0 : ℚ) ≤ n / 1024 ^ k := by positivity
  have hr : roundHalfEven (|(n : ℚ) / 1024 ^ k| * 10 ^ 1) = 10240 := by
    rw [abs_of_nonneg hx₀]
    exact roundHalfEven_eq (by positivity) (by push_cast; linarith) (by push_cast; linarith)
      fun _ => rfl
  simp only [formatFixed, hr, if_neg (not_lt.2 hx₀)]
  rfl

theorem getHumanReadableSize_mebibyte_less_one :
    getHumanReadableSize 1048575 = "1024.0" ++ sizeNames.getD 1 "" :=
  getHumanReadableSize_rounds_up (by decide) (by norm_num) (by norm_num)

/-! ## 2. `get_file_info` -/

/-- What `Path.stat()` reports that `get_file_info` reads: `st_size`, `st_mtime`, and `st_mode`
as `stat.filemode` renders it. -/
structure StatResult where
  size : ℕ
  mtime : ℚ
  permissions : String
  deriving DecidableEq

/-- A `FileInfo`. -/
structure FileInfo where
  name : String
  type : String
  extension : Option String
  size : ℕ
  sizeHuman : String
  modified : ℚ
  permissions : String
  deriving DecidableEq

/-- What `iterdir()` raises: a `PermissionError`, or another error, with its text. -/
inductive OSError where
  | permission
  | other (msg : String)
  deriving DecidableEq

/-- The volume, as the listing reads it besides `exists()` and `is_dir()`. -/
structure Volume extends FileSystem where
  /-- `iterdir()`: the names in a directory, or what it raises. -/
  iterdir : PurePath → Except OSError (List String)
  /-- `stat()`, or the text of what it raises. -/
  stat : PurePath → Except String StatResult
  /-- `is_file()`. -/
  isFile : PurePath → Bool
  /-- `rglob('*')`: the paths below a directory, as far as the walk gets. -/
  rglob : PurePath → List PurePath

/-- `p / name`, for a name `iterdir()` yields. -/
def PurePath.child (p : PurePath) (name : String) : PurePath := ⟨p.root, p.parts ++ [name]⟩

/-- `p.name`: the last component, or `""`. -/
def PurePath.name (p : PurePath) : String := p.parts.getLast?.getD ""

@[simp] theorem PurePath.name_child (p : PurePath) (name : String) : (p.child name).name = name := by
  simp [PurePath.child, PurePath.name]

/-- `calculate_directory_size(directory_path)`: the sizes of the files below, leaving out those
`stat()` fails on. -/
def calculateDirectorySize (vol : Volume) (directoryPath : PurePath) : ℕ :=
  (vol.rglob directoryPath).foldl (fun totalSize item =>
    if vol.isFile item then
      match vol.stat item with
      | .ok s => totalSize + s.size
      | .error _ => totalSize
    else totalSize) 0

/-- The extension `name.rsplit('.', 1)` gives: what follows the last `.`, if there is one. -/
def rsplitExtension (name : String) : Option String :=
  if '.' ∈ name.data then some ⟨(name.data.reverse.takeWhile (· ≠ '.')).reverse⟩ else none

/-- `get_file_info(file_path, calculate_dir_size)`. -/
def getFileInfo (vol : Volume) (filePath : PurePath) (calculateDirSize : Bool) :
    Except HttpException FileInfo :=
  match vol.stat filePath with
  | .error e => .error ⟨500, "Unable to get file information: " ++ e⟩
  | .ok statInfo =>
    let fileType := if vol.isDir filePath then "directory" else "file"
    let size :=
      if fileType = "file" then statInfo.size
      else if fileType = "directory" ∧ calculateDirSize then calculateDirectorySize vol filePath
      else 0
    let extension := if fileType = "file" then rsplitExtension filePath.name else none
    .ok { name := filePath.name, type := fileType, extension, size,
          sizeHuman := getHumanReadableSize size, modified := statInfo.mtime,
          permissions := statInfo.permissions }

/-! ## 3. Sorting -/

/-- A `key=` function as a comparison: `a` may go before `b` when its key is not larger. -/
def keyLe {β : Type} [LinearOrder β] (key : FileInfo → β) (a b : FileInfo) : Prop := key a ≤ key b

instance {β : Type} [LinearOrder β] (key : FileInfo → β) : DecidableRel (keyLe key) :=
  fun a b => inferInstanceAs (Decidable (key a ≤ key b))

instance {β : Type} [LinearOrder β] (key : FileInfo → β) : IsTotal FileInfo (keyLe key) :=
  ⟨fun a b => le_total (key a) (key b)⟩

instance {β : Type} [LinearOrder β] (key : FileInfo → β) : IsTrans FileInfo (keyLe key) :=
  ⟨fun _ _ _ => le_trans⟩

/-- `x.name.lower()`. -/
def nameKey (lower : String → String) (x : FileInfo) : String := lower x.name

/-- `(x.type, x.name.lower())`, compared as Python compares tuples. -/
def typeKey (lower : String → String) (x : FileInfo) : Lex (String × String) :=
  toLex (x.type, nameKey lower x)

/-- `vscode_sort(items)`. -/
def vscodeSort (lower : String → String) (items : List FileInfo) : List FileInfo :=
  let directories := items.filter fun item => item.type = "directory"
  let files := items.filter fun item => item.type = "file"
  directories.insertionSort (keyLe (nameKey lower)) ++ files.insertionSort (keyLe (nameKey lower))

/-- The items in the order `sort_by` names: `vscode_sort`, `items.sort(key=sort_key_map[sort_by])`,
or as they were for a `sort_by` the map does not hold. -/
def sortItems (lower : String → String) (sortBy : String) (items : List FileInfo) : List FileInfo :=
  if sortBy = "vscode" then vscodeSort lower items
  else if sortBy = "name" then items.insertionSort (keyLe (nameKey lower))
  else if sortBy = "size" then items.insertionSort (keyLe (·.size))
  else if sortBy = "modified" then items.insertionSort (keyLe (·.modified))
  else if sortBy = "type" then items.insertionSort (keyLe (typeKey lower))
  else items

/-! ## 4. `browse_directory` -/

/-- A `DirectoryResponse`. -/
structure DirectoryResponse where
  path : String
  totalItems : ℕ
  totalSize : ℕ
  totalSizeHuman : String
  items : List FileInfo
  deriving DecidableEq

/-- One turn of `for item in full_path.iterdir()`, on the items so far and `total_size`;
`item.name.startswith('.')` is read off the first character. -/
def listStep (vol : Volume) (fullPath : PurePath) (includeHidden calculateDirSize : Bool)
    (acc : List FileInfo × ℕ) (name : String) : List FileInfo × ℕ :=
  if !includeHidden ∧ name.data.head? = some '.' then acc
  else
    match getFileInfo vol (fullPath.child name) calculateDirSize with
    | .ok fileInfo =>
      (acc.1 ++ [fileInfo], if fileInfo.type = "file" then acc.2 + fileInfo.size else acc.2)
    | .error _ => acc

/-- `browse_directory(path, include_hidden, sort_by, calculate_dir_size)`. -/
def browseDirectoryResponse (lower : String → String) (nfsRoot : String) (vol : Volume)
    (path : String) (includeHidden : Bool) (sortBy : String) (calculateDirSize : Bool) :
    Except HttpException DirectoryResponse := do
  let fullPath ← browseDirectory nfsRoot vol.toFileSystem path
  let path := stripLeadingSlash path
  match vol.iterdir fullPath with
  | .error .permission => throw ⟨403, "No permission to access directory"⟩
  | .error (.other e) => throw ⟨500, "Unable to read directory: " ++ e⟩
  | .ok names =>
    let (items, totalSize) :=
      names.foldl (listStep vol fullPath includeHidden calculateDirSize) ([], 0)
    let items := sortItems lower sortBy items
    return { path := if path = "" then "/" else "/" ++ path, totalItems := items.length,
             totalSize, totalSizeHuman := getHumanReadableSize totalSize, items }

/-! ## 5. The loop -/

/-- The entries `browse_directory` lists, in `iterdir` order: the visible names that
`get_file_info` describes. -/
def visibleInfos (vol : Volume) (fullPath : PurePath) (includeHidden calculateDirSize : Bool)
    (names : List String) : List FileInfo :=
  names.filterMap fun name =>
    if !includeHidden ∧ name.data.head? = some '.' then none
    else (getFileInfo vol (fullPath.child name) calculateDirSize).toOption

/-- The bytes of the files among `items`. -/
def fileBytes (items : List FileInfo) : ℕ :=
  ((items.filter fun x => x.type = "file").map (·.size)).sum

theorem fileBytes_cons (x : FileInfo) (items : List FileInfo) :
    fileBytes (x :: items) = (if x.type = "file" then x.size else 0) + fileBytes items := by
  by_cases h : x.type = "file" <;> simp [fileBytes, List.filter_cons, h]

theorem fileBytes_perm {l l' : List FileInfo} (h : l.Perm l') : fileBytes l = fileBytes l' :=
  ((h.filter _).map _).sum_eq

theorem eq_ok_of_toOption {ε α : Type} {e : Except ε α} {a : α} (h : e.toOption = some a) :
    e = .ok a := by
  cases e <;> simp_all [Except.toOption]

theorem type_of_getFileInfo {vol : Volume} {p : PurePath} {c : Bool} {fi : FileInfo}
    (h : getFileInfo vol p c = .ok fi) : fi.type = "directory" ∨ fi.type = "file" := by
  unfold getFileInfo at h
  split at h
  · cases h
  · cases h
    by_cases hd : vol.isDir p <;> simp [hd]

theorem type_of_mem_visibleInfos {vol : Volume} {fullPath : PurePath}
    {includeHidden calculateDirSize : Bool} {names : List String} {x : FileInfo}
    (hx : x ∈ visibleInfos vol fullPath includeHidden calculateDirSize names) :
    x.type = "directory" ∨ x.type = "file" := by
  obtain ⟨name, -, hname⟩ := List.mem_filterMap.1 hx
  split_ifs at hname
  exact type_of_getFileInfo (eq_ok_of_toOption hname)

/-- **The loop of `browse_directory`** appends the entries `visibleInfos` lists, and adds the
sizes of the files among them to `total_size`. -/
theorem foldl_listStep (vol : Volume) (fullPath : PurePath) (includeHidden calculateDirSize : Bool)
    (names : List String) (acc : List FileInfo) (t : ℕ) :
    names.foldl (listStep vol fullPath includeHidden calculateDirSize) (acc, t) =
      (acc ++ visibleInfos vol fullPath includeHidden calculateDirSize names,
        t + fileBytes (visibleInfos vol fullPath includeHidden calculateDirSize names)) := by
  induction names generalizing acc t with
  | nil => simp [visibleInfos, fileBytes]
  | cons name names ih =>
    rw [List.foldl_cons, listStep]
    split_ifs with hh
    · rw [ih]; simp [visibleInfos, hh]
    · cases hfi : getFileInfo vol (fullPath.child name) calculateDirSize with
      | error e =>
        rw [ih]
        simp only [visibleInfos, List.filterMap_cons, if_neg hh, hfi, Except.toOption]
      | ok fi =>
        dsimp only
        rw [ih]
        simp only [visibleInfos, List.filterMap_cons, if_neg hh, hfi, Except.toOption,
          fileBytes_cons, List.append_assoc, List.singleton_append]
        split_ifs <;> simp [Nat.add_assoc]

/-! ## 6. The two orders that put directories first -/

section OrderedInsert

variable {α : Type} {r : α → α → Prop} [DecidableRel r]

/-- An element that may go before all of `l₂` is inserted within `l₁`. -/
theorem orderedInsert_append_of_forall {a : α} {l₁ l₂ : List α} (h : ∀ b ∈ l₂, r a b) :
    (l₁ ++ l₂).orderedInsert r a = l₁.orderedInsert r a ++ l₂ := by
  induction l₁ with
  | nil =>
    cases l₂ with
    | nil => rfl
    | cons b l₂ => exact List.orderedInsert_of_le r l₂ (h b (List.mem_cons_self _ _))
  | cons c l₁ ih => by_cases hc : r a c <;> simp [hc, ih]

/-- An element that may go before none of `l₁` is inserted within `l₂`. -/
theorem orderedInsert_append_of_not {a : α} {l₁ l₂ : List α} (h : ∀ b ∈ l₁, ¬ r a b) :
    (l₁ ++ l₂).orderedInsert r a = l₁ ++ l₂.orderedInsert r a := by
  induction l₁ with
  | nil => rfl
  | cons c l₁ ih =>
    simp [h c (List.mem_cons_self _ _), ih fun b hb => h b (List.mem_cons_of_mem _ hb)]

/-- Two comparisons that agree on `a` against all of `l` insert it at the same place. -/
theorem orderedInsert_congr {s : α → α → Prop} [DecidableRel s] {a : α} {l : List α}
    (h : ∀ b ∈ l, r a b ↔ s a b) : l.orderedInsert r a = l.orderedInsert s a := by
  induction l with
  | nil => rfl
  | cons b l ih =>
    simp [h b (List.mem_cons_self _ _), ih fun c hc => h c (List.mem_cons_of_mem _ hc)]

end OrderedInsert

variable {lower : String → String}

theorem keyLe_typeKey {a b : FileInfo} :
    keyLe (typeKey lower) a b ↔ a.type < b.type ∨ a.type = b.type ∧ keyLe (nameKey lower) a b :=
  Prod.Lex.le_iff _ _

theorem type_of_mem_sorted {items : List FileInfo} {t : String} {b : FileInfo}
    (hb : b ∈ (items.filter fun item => item.type = t).insertionSort (keyLe (nameKey lower))) :
    b.type = t := by
  simpa using (List.mem_filter.1 ((List.mem_insertionSort _).1 hb)).2

/-- **`vscode_sort` is the sort by `(type, name.lower())`** on items that are directories or
files: both are stable, and `"directory" < "file"`. -/
theorem vscodeSort_eq {items : List FileInfo}
    (h : ∀ x ∈ items, x.type = "directory" ∨ x.type = "file") :
    vscodeSort lower items = items.insertionSort (keyLe (typeKey lower)) := by
  induction items with
  | nil => rfl
  | cons x items ih =>
    rw [List.insertionSort, ← ih fun y hy => h y (List.mem_cons_of_mem _ hy)]
    have hdf : ("directory" : String) < "file" := String.lt_iff_toList_lt.2 (by decide)
    simp only [vscodeSort]
    rcases h x (List.mem_cons_self _ _) with hx | hx
    · -- a directory goes in among the directories
      rw [orderedInsert_append_of_forall fun b hb => keyLe_typeKey.2 (.inl ?_),
        List.filter_cons_of_pos (by simpa using hx),
        List.filter_cons_of_neg (by simp [hx]), List.insertionSort,
        orderedInsert_congr (r := keyLe (typeKey lower)) (s := keyLe (nameKey lower)) fun b hb => ?_]
      · rw [keyLe_typeKey, hx, type_of_mem_sorted hb]; simp
      · rwa [hx, type_of_mem_sorted hb]
    · -- a file goes in among the files
      rw [orderedInsert_append_of_not fun b hb hle => ?_,
        List.filter_cons_of_neg (by simp [hx]),
        List.filter_cons_of_pos (by simpa using hx), List.insertionSort,
        orderedInsert_congr (r := keyLe (typeKey lower)) (s := keyLe (nameKey lower)) fun b hb => ?_]
      · rw [keyLe_typeKey, hx, type_of_mem_sorted hb]; simp
      · rw [keyLe_typeKey, hx, type_of_mem_sorted hb] at hle
        rcases hle with hlt | ⟨heq, -⟩
        · exact absurd (hdf.trans hlt) (lt_irrefl _)
        · exact absurd heq (by decide)

/-! ## 7. The response -/

/-- The order `sort_by` names: by `(type, name.lower())` for `vscode` and `type`, by the key
`sort_key_map` holds for the others it knows, and none for the rest. -/
def SortedAs (lower : String → String) (sortBy : String) (items : List FileInfo) : Prop :=
  if sortBy = "vscode" then items.Sorted (keyLe (typeKey lower))
  else if sortBy = "name" then items.Sorted (keyLe (nameKey lower))
  else if sortBy = "size" then items.Sorted (keyLe (·.size))
  else if sortBy = "modified" then items.Sorted (keyLe (·.modified))
  else if sortBy = "type" then items.Sorted (keyLe (typeKey lower))
  else True

theorem insertionSort_keyLe {β : Type} [LinearOrder β] (key : FileInfo → β)
    (items : List FileInfo) :
    (items.insertionSort (keyLe key)).Perm items ∧ (items.insertionSort (keyLe key)).Sorted (keyLe key) :=
  ⟨List.perm_insertionSort _ _, List.sorted_insertionSort _ _⟩

/-- Sorting keeps the items and puts them in the order `sort_by` names. -/
theorem sortItems_spec (sortBy : String) {items : List FileInfo}
    (h : ∀ x ∈ items, x.type = "directory" ∨ x.type = "file") :
    (sortItems lower sortBy items).Perm items ∧ SortedAs lower sortBy (sortItems lower sortBy items) := by
  unfold sortItems SortedAs
  split_ifs
  · rw [vscodeSort_eq h]; exact insertionSort_keyLe _ _
  all_goals first | exact insertionSort_keyLe _ _ | exact ⟨List.Perm.refl _, trivial⟩

/-- `sort_by="vscode"` and `sort_by="type"` sort items that are directories or files alike. -/
theorem sortItems_vscode {items : List FileInfo}
    (h : ∀ x ∈ items, x.type = "directory" ∨ x.type = "file") :
    sortItems lower "vscode" items = sortItems lower "type" items := by
  simp [sortItems, vscodeSort_eq h]

/-- **`sort_by="vscode"` and `sort_by="type"` give the same response**, for every volume and
query: every item is a directory or a file, and both sorts are stable. -/
theorem browseDirectoryResponse_vscode_eq_type (nfsRoot : String) (vol : Volume) (path : String)
    (includeHidden calculateDirSize : Bool) :
    browseDirectoryResponse lower nfsRoot vol path includeHidden "vscode" calculateDirSize =
      browseDirectoryResponse lower nfsRoot vol path includeHidden "type" calculateDirSize := by
  unfold browseDirectoryResponse
  congr 1
  funext fullPath
  cases vol.iterdir fullPath with
  | error e => cases e <;> rfl
  | ok names =>
    dsimp only
    rw [foldl_listStep, sortItems_vscode fun x hx => type_of_mem_visibleInfos (by simpa using hx)]

/-- `/home/jovyan/data`. -/
def dataDir : PurePath := (PurePath.parse nfsRootDefault).child "data"

/-- A volume whose `data` directory holds a hidden file, an empty text file and a directory `A`
with an empty file in it. -/
def sampleVolume : Volume where
  pathExists p := p = dataDir
  isDir p := p = dataDir ∨ p = dataDir.child "A"
  iterdir p := if p = dataDir then .ok [".hidden", "b.txt", "A"] else .ok []
  stat p :=
    if p = dataDir.child "b.txt" then .ok ⟨0, 2, "-rw-r--r--"⟩
    else if p = dataDir.child "A" then .ok ⟨4096, 1, "drwxr-xr-x"⟩
    else if p = (dataDir.child "A").child "c.bin" then .ok ⟨0, 1, "-rw-r--r--"⟩
    else .error "[Errno 2] No such file or directory"
  isFile p := p = dataDir.child "b.txt" ∨ p = (dataDir.child "A").child "c.bin"
  rglob p := if p = dataDir.child "A" then [(dataDir.child "A").child "c.bin"] else []

/-- The listing of `/data`: `A` first, then `b.txt`; the hidden file is left out. -/
def sampleResponse : DirectoryResponse where
  path := "/data"
  totalItems := 2
  totalSize := 0
  totalSizeHuman := "0B"
  items := [⟨"A", "directory", none, 0, "0B", 1, "drwxr-xr-x"⟩,
    ⟨"b.txt", "file", some "txt", 0, "0B", 2, "-rw-r--r--"⟩]

end OpenKCloud.DataObserver
