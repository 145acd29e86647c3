import OpenKCloud.Mlperf.Percentile
import OpenKCloud.Dict
import OpenKCloud.Format
import Mathlib.Data.Nat.Digits
/-
# The performance logs of the MLPerf runner, written and read back

`write_performance_logs` (`kcloud-mlperf/run.py`) writes `mlperf_log_summary.txt`, one
`key=value` line per figure, and for the server and single-stream scenarios
`mlperf_log_detail.txt`, one `sample_id=i, latency_ms=x` line per request.  `report.py` reads both
back with `parse_summary` and `parse_detail` (`util_logs.py`): the first fills `parsed_metrics`
of `summary.json`, the second the latency CDF.

Text is `List Char`.  The model follows Python's `str.splitlines` (every line boundary Python
knows, `\r\n` as one), `str.strip` (Unicode whitespace), `float()` (decimal literals with
underscores between digits, `inf`, `infinity` and `nan` in any case and with a sign; ASCII digits
only) and `format(x, ".pf")` (`formatFixed`, in `Format.lean`).  The figures `run.py` computes are
binary64 floats (`fl`, in `Float.lean`): `int(duration_s * 1000)` truncates the rounded product,
`total_new_tokens / duration_s` converts the count and rounds the quotient, and the percentiles
are those of `Percentile.lean`.  `float()` of a printed literal is kept as the decimal the literal
spells, which names the float Python reads, the one nearest it.  Reading in text mode turns
`\r\n` and `\r` into `\n`, where `splitlines` splits anyway, so the model leaves the translation
out: a file holds the text written to it.

* `parseSummary_writePerformanceLogs`: for the scenarios the runner accepts,
  `write_performance_logs` always writes, the summary holds the five run lines and, for a
  server or single-stream run with samples, the percentile lines, and `parse_summary` reads back
  every number written, under its key and in order, rounded as printed; only the scenario is
  dropped;
* `parseDetail_writePerformanceLogs`: `parse_detail` reads back the latencies, rounded to three
  places, except the negative ones: `latency_ms=([0-9]+\.?[0-9]*)` does not match a sign.
-/

namespace OpenKCloud.Mlperf

/-! ## 1. Python's text primitives -/

/-- The characters at which `str.splitlines` cuts. -/
def lineBoundaries : List Char :=
  ['\n', '\r', '\x0b', '\x0c', '\x1c', '\x1d', '\x1e', '\x85', '\u2028', '\u2029']

/-- The lines of `s` after a line in progress `cur`, as `str.splitlines` cuts them: `\r\n` is one
boundary, and a last line without a boundary counts when it is not empty. -/
def splitLinesFrom : List Char → List Char → List (List Char)
  | [], cur => if cur = [] then [] else [cur]
  | '\r' :: '\n' :: s, cur => cur :: splitLinesFrom s []
  | c :: s, cur =>
    if c ∈ lineBoundaries then cur :: splitLinesFrom s [] else splitLinesFrom s (cur ++ [c])

/-- `s.splitlines()`. -/
def splitlines (s : List Char) : List (List Char) := splitLinesFrom s []

/-- The characters `str.strip()` removes: those for which `str.isspace()` holds. -/
def pyWhitespace : List Char :=
  [' ', '\t', '\n', '\r', '\x0b', '\x0c', '\x1c', '\x1d', '\x1e', '\x1f', '\x85', '\xa0',
    '\u1680', '\u2000', '\u2001', '\u2002', '\u2003', '\u2004', '\u2005', '\u2006', '\u2007',
    '\u2008', '\u2009', '\u200a', '\u2028', '\u2029', '\u202f', '\u205f', '\u3000']

/-- `s.strip()`. -/
def pyStrip (s : List Char) : List Char :=
  ((s.dropWhile (· ∈ pyWhitespace)).reverse.dropWhile (· ∈ pyWhitespace)).reverse

/-- `line.split("=", 1)` of a line that holds an `=`; `none` where `"=" not in line`. -/
def splitAtEq (line : List Char) : Option (List Char × List Char) :=
  if '=' ∈ line then some (line.takeWhile (· ≠ '='), (line.dropWhile (· ≠ '=')).tail) else none

/-- A Python `float`: a finite value, an infinity, or a NaN. -/
inductive PyFloat where
  | finite (q : ℚ)
  | inf (neg : Bool)
  | nan
  deriving DecidableEq

/-- The rest of a digit part after its first digit, `(["_"] digit)*`: its digits, and what
follows it. -/
def digitTail : List Char → List Char × List Char
  | '_' :: d :: s => if d.isDigit then (d :: (digitTail s).1, (digitTail s).2) else ([], '_' :: d :: s)
  | d :: s => if d.isDigit then (d :: (digitTail s).1, (digitTail s).2) else ([], d :: s)
  | [] => ([], [])

/-- `digitpart ::= digit (["_"] digit)*` at the head of `s`: its digits (none where `s` does not
start with a digit), and what follows it. -/
def digitPart : List Char → List Char × List Char
  | d :: s => if d.isDigit then (d :: (digitTail s).1, (digitTail s).2) else ([], d :: s)
  | [] => ([], [])

/-- The number a list of decimal digits spells. -/
def digitsValue (ds : List Char) : ℕ := ds.foldl (fun n d => 10 * n + (d.toNat - '0'.toNat)) 0

/-- `[("+" | "-")] digitpart`, the exponent of a float literal after its `e`: its value, where
it is all of `s`. -/
def parseExponent (s : List Char) : Option ℤ :=
  let (neg, s) := match s with
    | '+' :: s => (false, s)
    | '-' :: s => (true, s)
    | s => (false, s)
  let (ds, rest) := digitPart s
  if ds = [] ∨ rest ≠ [] then none
  else some (if neg then -(digitsValue ds : ℤ) else digitsValue ds)

/-- `floatnumber ::= number [exponent]`, `number ::= [digitpart] "." digitpart | digitpart ["."]`,
the whole of `s`: its value. -/
def parseFloatNumber (s : List Char) : Option ℚ :=
  let (intPart, s) := digitPart s
  let (fracPart, s) := match s with
    | '.' :: s => digitPart s
    | s => ([], s)
  if intPart = [] ∧ fracPart = [] then none else
  let mantissa : ℚ := digitsValue (intPart ++ fracPart) / 10 ^ fracPart.length
  match s with
  | [] => some mantissa
  | e :: s =>
    if e = 'e' ∨ e = 'E' then (parseExponent s).map fun exp => mantissa * 10 ^ exp else none

/-- `float(s)`; `none` where it raises `ValueError`. -/
def pyFloat (s : List Char) : Option PyFloat :=
  let (neg, body) := match pyStrip s with
    | '+' :: s => (false, s)
    | '-' :: s => (true, s)
    | s => (false, s)
  let lower := body.map Char.toLower
  if lower = "inf".toList ∨ lower = "infinity".toList then some (.inf neg)
  else if lower = "nan".toList then some .nan
  else (parseFloatNumber body).map fun q => .finite (if neg then -q else q)

/-- `re.compile(r"latency_ms=([0-9]+\.?[0-9]*)")` matched at the head of `s`: its group. -/
def matchLatencyAt (s : List Char) : Option (List Char) :=
  if "latency_ms=".toList.isPrefixOf s then
    let rest := s.drop 11
    let whole := rest.takeWhile Char.isDigit
    if whole = [] then none else
    match rest.dropWhile Char.isDigit with
    | '.' :: r => some (whole ++ '.' :: r.takeWhile Char.isDigit)
    | _ => some whole
  else none

/-- `pattern.search(line)`: the group of the leftmost match. -/
def searchLatency : List Char → Option (List Char)
  | [] => none
  | c :: s => (matchLatencyAt (c :: s)).or (searchLatency s)

/-- `"\n".join(lines) + "\n"`. -/
def joinLines (lines : List String) : String := String.intercalate "\n" lines ++ "\n"

/-! ## 2. Writing the logs -/

/-- A value as an f-string prints it: `str()` of an int, `:.{p}f` of a float, or text. -/
inductive Printed where
  | int (i : ℤ)
  | fixed (p : ℕ) (x : ℚ)
  | text (s : String)

/-- The printed value. -/
def Printed.render : Printed → String
  | .int i => toString i
  | .fixed p x => formatFixed p x
  | .text s => s

/-- The value `f"{x:.{p}f}"` prints, `float()` of which gives it back. -/
def roundFixed (p : ℕ) (x : ℚ) : ℚ :=
  let q : ℚ := roundHalfEven (|x| * 10 ^ p) / 10 ^ p
  if x < 0 then -q else q

/-- The number a printed value stands for, as `float()` reads it: none for text. -/
def Printed.value : Printed → Option ℚ
  | .int i => some i
  | .fixed p x => some (roundFixed p x)
  | .text _ => none

/-- The lines `write_performance_logs` means for its two files: the figures of the summary, each
under its key, and the latencies of the detail where it writes one. -/
structure PerfLogs where
  summary : List (String × Printed)
  detail : Option (List ℚ)

/-- `f"{prefix}p50_ms={p50:.3f}"` .. `p99_ms`, of the four percentiles. -/
def percentileLines (pre : String) (r : LatencyMs) : List (String × Printed) :=
  [(pre ++ "p50_ms", .fixed 3 r.p50), (pre ++ "p90_ms", .fixed 3 r.p90),
    (pre ++ "p95_ms", .fixed 3 r.p95), (pre ++ "p99_ms", .fixed 3 r.p99)]

/-- `f"{prefix}p50_ms={percentile(values, 0.50):.3f}"` .. `p99_ms`. -/
def percentileFields (pre : String) (values : List ℚ) : Option (List (String × Printed)) := do
  let r ← latencyMs values
  pure (percentileLines pre r)

/-- The TTFT or TPOT lines: `if ttft_ms_list:` skips `None` and the empty list. -/
def optionalPercentileFields (pre : String) : Option (List ℚ) → Option (List (String × Printed))
  | some (v :: vs) => percentileFields pre (v :: vs)
  | _ => some []

/-- `choices=["offline", "server", "singlestream"]` of the runner's `--scenario`. -/
def scenarioChoices : List String := ["offline", "server", "singlestream"]

/-- `write_performance_logs(perf_dir, scenario, duration_s, total_new_tokens, per_sample_lat_ms,
ttft_ms_list=..., tpot_ms_list=...)`; `none` where a `percentile` raises, before either file is
written. -/
def writePerformanceLogs (scenario : String) (durationS : ℚ) (totalNewTokens : ℤ)
    (perSampleLatMs : List ℚ) (ttftMsList tpotMsList : Option (List ℚ)) : Option PerfLogs := do
  let tokensPerSec : ℚ := if 0 < durationS then fl (fl totalNewTokens / durationS) else 0
  let summaryLines : List (String × Printed) :=
    [("scenario", .text scenario), ("duration_ms", .int (pyIntOfFloat (fl (durationS * 1000)))),
      ("total_new_tokens", .int totalNewTokens), ("tokens_per_sec", .fixed 4 tokensPerSec),
      ("num_samples", .int perSampleLatMs.length)]
  if (scenario = "server" ∨ scenario = "singlestream") ∧ perSampleLatMs ≠ [] then
    let latency ← percentileFields "" perSampleLatMs
    let ttft ← optionalPercentileFields "ttft_" ttftMsList
    let tpot ← optionalPercentileFields "tpot_" tpotMsList
    pure ⟨summaryLines ++ latency ++ ttft ++ tpot, some perSampleLatMs⟩
  else pure ⟨summaryLines, none⟩

/-- The text of `mlperf_log_summary.txt`. -/
def PerfLogs.summaryText (logs : PerfLogs) : String :=
  joinLines (logs.summary.map fun f => f.1 ++ "=" ++ f.2.render)

/-- `f"sample_id={idx}, latency_ms={lat:.3f}"`. -/
def detailLine (idx : ℕ) (lat : ℚ) : String :=
  "sample_id=" ++ toString idx ++ ", latency_ms=" ++ formatFixed 3 lat

/-- The text of `mlperf_log_detail.txt`, where it is written. -/
def PerfLogs.detailText (logs : PerfLogs) : Option String :=
  logs.detail.map fun lats => joinLines (lats.enum.map fun e => detailLine e.1 e.2)

/-! ## 3. Reading them back -/

/-- One turn of `for line in text.splitlines()` in `parse_summary`. -/
def summaryStep (metrics : Dict PyFloat) (line : List Char) : Dict PyFloat :=
  match splitAtEq line with
  | none => metrics
  | some (key, val) =>
    match pyFloat (pyStrip val) with
    | some v => metrics.set (String.mk (pyStrip key)) v
    | none => metrics

/-- `parse_summary(summary_path)`, of the file's text, `none` where it does not exist. -/
def parseSummary : Option String → Dict PyFloat
  | none => []
  | some text => (splitlines text.data).foldl summaryStep []

/-- `parse_detail(detail_path)`. -/
def parseDetail : Option String → List PyFloat
  | none => []
  | some text => (splitlines text.data).filterMap fun line => (searchLatency line).bind pyFloat

/-! ## 4. Digits -/

/-- The ASCII digits. -/
def asciiDigits : List Char := "0123456789".toList

/-- An ASCII digit is a digit to `float()` and to `[0-9]`, and spells neither `inf` nor `nan`. -/
theorem asciiDigits_spec : ∀ c ∈ asciiDigits, c.isDigit ∧ c.toLower ≠ 'i' ∧ c.toLower ≠ 'n' ∧
    c ≠ '+' ∧ c ≠ '-' ∧ c ≠ '_' ∧ c ≠ 'l' := by
  decide

/-- `Nat.digitChar` prints a decimal digit as the ASCII digit of that value. -/
theorem digitChar_spec : ∀ d < 10, Nat.digitChar d ∈ asciiDigits ∧
    (Nat.digitChar d).toNat - '0'.toNat = d := by
  decide

theorem foldl_digitsValue (l : List Char) (n : ℕ) :
    l.foldl (fun n d => 10 * n + (d.toNat - '0'.toNat)) n = n * 10 ^ l.length + digitsValue l := by
  induction l generalizing n with
  | nil => simp [digitsValue]
  | cons d l ih =>
    simp only [List.foldl_cons, digitsValue, List.length_cons] at ih ⊢
    rw [ih, ih (10 * 0 + _)]
    ring

theorem digitsValue_append (a b : List Char) :
    digitsValue (a ++ b) = digitsValue a * 10 ^ b.length + digitsValue b := by
  rw [digitsValue, List.foldl_append, foldl_digitsValue]
  rfl

theorem digitsValue_replicate_zero (k : ℕ) (b : List Char) :
    digitsValue (List.replicate k '0' ++ b) = digitsValue b := by
  induction k with
  | zero => rfl
  | succ k ih => exact ih

/-- `toDigitsCore` with enough fuel puts the digits of `n` in front of what it is given. -/
theorem toDigitsCore_spec : ∀ (fuel n : ℕ) (ds : List Char), n < fuel →
    ∃ l, Nat.toDigitsCore 10 fuel n ds = l ++ ds ∧ l ≠ [] ∧ (∀ c ∈ l, c ∈ asciiDigits) ∧
      digitsValue l = n
  | 0, _, _, h => absurd h (Nat.not_lt_zero _)
  | fuel + 1, n, ds, h => by
    have hd := digitChar_spec (n % 10) (Nat.mod_lt _ (by decide))
    rw [Nat.toDigitsCore]
    split
    · refine ⟨[Nat.digitChar (n % 10)], rfl, List.cons_ne_nil _ _, by simpa using hd.1, ?_⟩
      simp only [digitsValue, List.foldl_cons, List.foldl_nil, hd.2]
      omega
    · obtain ⟨l, hl, hne, hdig, hval⟩ :=
        toDigitsCore_spec fuel (n / 10) (Nat.digitChar (n % 10) :: ds) (by omega)
      refine ⟨l ++ [Nat.digitChar (n % 10)], by rw [hl, List.append_assoc]; rfl,
        by simp, fun c hc => ?_, ?_⟩
      · rcases List.mem_append.1 hc with hc | hc
        · exact hdig c hc
        · rw [List.mem_singleton.1 hc]; exact hd.1
      · rw [digitsValue_append, hval]
        simp only [digitsValue, List.foldl_cons, List.foldl_nil, hd.2, List.length_singleton]
        omega

theorem toString_nat_spec (n : ℕ) :
    (toString n).data ≠ [] ∧ (∀ c ∈ (toString n).data, c ∈ asciiDigits) ∧
      digitsValue (toString n).data = n := by
  obtain ⟨l, hl, hne, hdig, hval⟩ := toDigitsCore_spec (n + 1) n [] (Nat.lt_succ_self n)
  have : (toString n).data = l := by
    show Nat.toDigitsCore 10 (n + 1) n [] = l
    rw [hl, List.append_nil]
  rw [this]
  exact ⟨hne, hdig, hval⟩

/-! ## 5. Lines -/

theorem splitLinesFrom_cons {c : Char} (hc : c ≠ '\r') (s cur : List Char) :
    splitLinesFrom (c :: s) cur =
      if c ∈ lineBoundaries then cur :: splitLinesFrom s [] else splitLinesFrom s (cur ++ [c]) :=
  splitLinesFrom.eq_3 cur c s fun _ h => absurd h hc

/-- A line without a boundary, then `\n`, is one line. -/
theorem splitLinesFrom_line {l : List Char} (hl : ∀ c ∈ l, c ∉ lineBoundaries) (s cur : List Char) :
    splitLinesFrom (l ++ '\n' :: s) cur = (cur ++ l) :: splitLinesFrom s [] := by
  induction l generalizing cur with
  | nil => rw [List.nil_append, splitLinesFrom_cons (by decide), if_pos (by decide), List.append_nil]
  | cons c l ih =>
    have hc := hl c (List.mem_cons_self _ _)
    rw [List.cons_append, splitLinesFrom_cons (fun h => hc (by rw [h]; decide)), if_neg hc,
      ih (fun c' h => hl c' (List.mem_cons_of_mem _ h)), List.append_assoc]
    rfl

theorem intercalate_go_data (acc : String) (rest : List String) :
    (String.intercalate.go acc "\n" rest).data = acc.data ++ (rest.map fun b => '\n' :: b.data).flatten := by
  induction rest generalizing acc with
  | nil => exact (List.append_nil _).symm
  | cons b rest ih =>
    have hacc : (acc ++ "\n" ++ b).data = acc.data ++ '\n' :: b.data := by
      show (acc.data ++ ['\n']) ++ b.data = _
      rw [List.append_assoc, List.singleton_append]
    rw [String.intercalate.go, ih, List.map_cons, List.flatten_cons, hacc, List.append_assoc,
      List.cons_append]

/-- Lines without a boundary, each followed by `\n`, split back into themselves. -/
theorem splitLinesFrom_lines {a : List Char} {rest : List (List Char)}
    (h : ∀ l ∈ a :: rest, ∀ c ∈ l, c ∉ lineBoundaries) :
    splitLinesFrom (a ++ (rest.map ('\n' :: ·)).flatten ++ ['\n']) [] = a :: rest := by
  induction rest generalizing a with
  | nil => rw [List.map_nil, List.flatten_nil, List.append_nil,
      splitLinesFrom_line (h a (List.mem_cons_self _ _))]; rfl
  | cons b rest ih =>
    rw [List.map_cons, List.flatten_cons, List.append_assoc, List.append_assoc, List.cons_append,
      splitLinesFrom_line (h a (List.mem_cons_self _ _)), ← List.append_assoc,
      ih fun l hl => h l (List.mem_cons_of_mem _ hl)]
    rfl

/-- `"\n".join(lines) + "\n"` splits back into `lines` when no line holds a boundary. -/
theorem splitlines_joinLines {lines : List String} (hne : lines ≠ [])
    (hl : ∀ l ∈ lines, ∀ c ∈ l.data, c ∉ lineBoundaries) :
    splitlines (joinLines lines).data = lines.map String.data := by
  obtain ⟨a, as, rfl⟩ := List.exists_cons_of_ne_nil hne
  show splitLinesFrom ((String.intercalate.go a "\n" as).data ++ ['\n']) [] = _
  have hmap : as.map (fun b => '\n' :: b.data) = (as.map String.data).map ('\n' :: ·) := by
    rw [List.map_map]; rfl
  rw [intercalate_go_data, hmap, List.map_cons]
  refine splitLinesFrom_lines fun l hl' => ?_
  rcases List.mem_cons.1 hl' with rfl | hl'
  · exact hl _ (List.mem_cons_self _ _)
  · obtain ⟨b, hb, rfl⟩ := List.mem_map.1 hl'
    exact hl b (List.mem_cons_of_mem _ hb)

/-! ## 6. Numbers -/

/-- The characters of a printed number: digits, a sign and a point. -/
def numChar (c : Char) : Bool := c.isDigit || c = '-' || c = '.'

theorem numChar_of_mem_asciiDigits {c : Char} (h : c ∈ asciiDigits) : numChar c := by
  simp [numChar, (asciiDigits_spec c h).1]

theorem not_boundary_of_numChar {c : Char} (h : numChar c) : c ∉ lineBoundaries := fun hm => by
  have : ∀ c ∈ lineBoundaries, numChar c = false := by decide
  rw [this c hm] at h; cases h

theorem not_space_of_numChar {c : Char} (h : numChar c) : c ∉ pyWhitespace := fun hm => by
  have : ∀ c ∈ pyWhitespace, numChar c = false := by decide
  rw [this c hm] at h; cases h

theorem dropWhile_of_forall {s : List Char} {l : List Char} (h : ∀ c ∈ s, c ∉ l) :
    s.dropWhile (· ∈ l) = s := by
  cases s with
  | nil => rfl
  | cons c s => exact List.dropWhile_cons_of_neg (by simpa using h c (List.mem_cons_self _ _))

/-- `str.strip()` keeps a string without whitespace. -/
theorem pyStrip_of_forall {s : List Char} (h : ∀ c ∈ s, c ∉ pyWhitespace) : pyStrip s = s := by
  rw [pyStrip, dropWhile_of_forall h,
    dropWhile_of_forall fun c hc => h c (List.mem_reverse.1 hc), List.reverse_reverse]

theorem digitTail_cons {d : Char} (hd : d ≠ '_') (s : List Char) :
    digitTail (d :: s) = if d.isDigit then (d :: (digitTail s).1, (digitTail s).2) else ([], d :: s) :=
  digitTail.eq_2 d s fun _ _ h => absurd h hd

theorem ne_underscore_of_isDigit {d : Char} (hd : d.isDigit) : d ≠ '_' := fun h => by
  rw [h] at hd; cases hd

/-- A digit part made of plain digits ends where a character that is neither a digit nor `_`
comes. -/
theorem digitTail_digits {ds : List Char} (hds : ∀ c ∈ ds, c.isDigit) {rest : List Char}
    (hrest : ∀ c ∈ rest.head?, c.isDigit = false ∧ c ≠ '_') : digitTail (ds ++ rest) = (ds, rest) := by
  induction ds with
  | nil =>
    cases rest with
    | nil => rfl
    | cons c r =>
      obtain ⟨hc, hc'⟩ := hrest c rfl
      rw [List.nil_append, digitTail_cons hc', if_neg (by simp [hc])]
  | cons d ds ih =>
    have hd := hds d (List.mem_cons_self _ _)
    rw [List.cons_append, digitTail_cons (ne_underscore_of_isDigit hd), if_pos hd,
      ih fun c hc => hds c (List.mem_cons_of_mem _ hc)]

theorem digitPart_digits {ds : List Char} (hne : ds ≠ []) (hds : ∀ c ∈ ds, c.isDigit)
    {rest : List Char} (hrest : ∀ c ∈ rest.head?, c.isDigit = false ∧ c ≠ '_') :
    digitPart (ds ++ rest) = (ds, rest) := by
  obtain ⟨d, ds, rfl⟩ := List.exists_cons_of_ne_nil hne
  rw [List.cons_append, digitPart, if_pos (hds d (List.mem_cons_self _ _)),
    digitTail_digits (fun c hc => hds c (List.mem_cons_of_mem _ hc)) hrest]

theorem parseFloatNumber_digits {ds : List Char} (hne : ds ≠ []) (hds : ∀ c ∈ ds, c.isDigit) :
    parseFloatNumber ds = some (digitsValue ds) := by
  have h : digitPart (ds ++ []) = (ds, []) := digitPart_digits hne hds fun _ h => by cases h
  rw [List.append_nil] at h
  simp [parseFloatNumber, h, hne]

theorem parseFloatNumber_point {ds fs : List Char} (hne : ds ≠ []) (hds : ∀ c ∈ ds, c.isDigit)
    (hfne : fs ≠ []) (hfs : ∀ c ∈ fs, c.isDigit) :
    parseFloatNumber (ds ++ '.' :: fs) = some ((digitsValue (ds ++ fs) : ℚ) / 10 ^ fs.length) := by
  have h : digitPart (ds ++ '.' :: fs) = (ds, '.' :: fs) := digitPart_digits hne hds fun _ h => by
    cases h; exact ⟨rfl, by decide⟩
  have hf : digitPart (fs ++ []) = (fs, []) := digitPart_digits hfne hfs fun _ h => by cases h
  rw [List.append_nil] at hf
  simp [parseFloatNumber, h, hf, hne]

/-- `float()` of a sign-less run of number characters that starts with a digit, or of a minus
sign and such a run: the value of its literal, negated after the sign. -/
theorem pyFloat_signed (neg : Prop) [Decidable neg] {d : Char} {rest : List Char}
    (hd : d ∈ asciiDigits) (hrest : ∀ c ∈ rest, numChar c) :
    pyFloat ((if neg then ['-'] else []) ++ d :: rest) =
      (parseFloatNumber (d :: rest)).map fun q => .finite (if neg then -q else q) := by
  obtain ⟨-, hi, hn, hplus, hminus, -⟩ := asciiDigits_spec d hd
  have hnum : ∀ c ∈ d :: rest, c ∉ pyWhitespace := fun c hc => not_space_of_numChar <| by
    rcases List.mem_cons.1 hc with rfl | hc
    exacts [numChar_of_mem_asciiDigits hd, hrest c hc]
  by_cases hneg : neg
  · have hs : pyStrip ('-' :: d :: rest) = '-' :: d :: rest :=
      pyStrip_of_forall fun c hc => by
        rcases List.mem_cons.1 hc with rfl | hc
        exacts [by decide, hnum c hc]
    simp [pyFloat, hneg, hs, hi, hn]
  · simp [pyFloat, hneg, pyStrip_of_forall hnum, hi, hn, hplus, hminus]

/-- `float()` of the decimal digits of `m`, after a minus sign or not. -/
theorem pyFloat_toString_nat (neg : Prop) [Decidable neg] (m : ℕ) :
    pyFloat ((if neg then ['-'] else []) ++ (toString m).data) =
      some (.finite (if neg then -(m : ℚ) else m)) := by
  obtain ⟨hne, hdig, hval⟩ := toString_nat_spec m
  obtain ⟨d, rest, hdr⟩ := List.exists_cons_of_ne_nil hne
  have hd : d ∈ asciiDigits := hdig d (hdr ▸ List.mem_cons_self _ _)
  rw [hdr, pyFloat_signed neg hd fun c hc => numChar_of_mem_asciiDigits
      (hdig c (hdr ▸ List.mem_cons_of_mem _ hc)), ← hdr,
    parseFloatNumber_digits hne fun c hc => (asciiDigits_spec c (hdig c hc)).1, hval]
  rfl

/-- `float(str(i))` is `i`. -/
theorem pyFloat_toString_int (i : ℤ) : pyFloat (toString i).data = some (.finite i) := by
  cases i with
  | ofNat m => simpa using pyFloat_toString_nat False m
  | negSucc m =>
    have h := pyFloat_toString_nat True (m + 1)
    simp only [if_true, List.singleton_append] at h
    rw [show (toString (Int.negSucc m)).data = '-' :: (toString (m + 1)).data from rfl, h]
    simp [Int.negSucc_eq]

theorem formatFixed_data {p : ℕ} (hp : 0 < p) (x : ℚ) :
    (formatFixed p x).data = (if x < 0 then ['-'] else []) ++
      ((toString (roundHalfEven (|x| * 10 ^ p) / 10 ^ p)).data ++ '.' ::
        (List.replicate (p - (toString (roundHalfEven (|x| * 10 ^ p) % 10 ^ p)).length) '0' ++
          (toString (roundHalfEven (|x| * 10 ^ p) % 10 ^ p)).data)) := by
  simp only [formatFixed, if_neg hp.ne']
  split_ifs <;> simp [String.data_append]

/-- The digits after the point of `f"{x:.{p}f}"`: exactly `p` of them, spelling the remainder. -/
theorem fraction_spec {p : ℕ} (hp : 0 < p) (n : ℕ) :
    let frac := List.replicate (p - (toString (n % 10 ^ p)).length) '0' ++ (toString (n % 10 ^ p)).data
    frac.length = p ∧ (∀ c ∈ frac, c ∈ asciiDigits) ∧ digitsValue frac = n % 10 ^ p := by
  obtain ⟨-, hdig, hval⟩ := toString_nat_spec (n % 10 ^ p)
  have hlen : (toString (n % 10 ^ p)).length ≤ p :=
    Nat.repr_length _ _ hp (Nat.mod_lt _ (Nat.pos_pow_of_pos _ (by decide)))
  refine ⟨?_, fun c hc => ?_, by rw [digitsValue_replicate_zero, hval]⟩
  · rw [List.length_append, List.length_replicate]
    exact Nat.sub_add_cancel hlen
  · rcases List.mem_append.1 hc with hc | hc
    · rw [List.eq_of_mem_replicate hc]; decide
    · exact hdig c hc

/-- `float(f"{x:.{p}f}")` is `x` rounded to `p` places. -/
theorem pyFloat_formatFixed {p : ℕ} (hp : 0 < p) (x : ℚ) :
    pyFloat (formatFixed p x).data = some (.finite (roundFixed p x)) := by
  set n := roundHalfEven (|x| * 10 ^ p)
  obtain ⟨hne, hdig, hval⟩ := toString_nat_spec (n / 10 ^ p)
  obtain ⟨hflen, hfdig, hfval⟩ := fraction_spec hp n
  set frac := List.replicate (p - (toString (n % 10 ^ p)).length) '0' ++ (toString (n % 10 ^ p)).data
  have hfne : frac ≠ [] := fun h => by rw [h] at hflen; exact hp.ne' hflen.symm
  obtain ⟨d, rest, hdr⟩ := List.exists_cons_of_ne_nil hne
  have hd : d ∈ asciiDigits := hdig d (hdr ▸ List.mem_cons_self _ _)
  have hrest : ∀ c ∈ rest ++ '.' :: frac, numChar c := fun c hc => by
    rcases List.mem_append.1 hc with hc | hc
    · exact numChar_of_mem_asciiDigits (hdig c (hdr ▸ List.mem_cons_of_mem _ hc))
    · rcases List.mem_cons.1 hc with rfl | hc
      exacts [rfl, numChar_of_mem_asciiDigits (hfdig c hc)]
  have hsum : digitsValue ((toString (n / 10 ^ p)).data ++ frac) = n := by
    rw [digitsValue_append, hval, hflen, hfval, Nat.div_add_mod']
  rw [formatFixed_data hp, hdr, List.cons_append, pyFloat_signed _ hd hrest, ← List.cons_append,
    ← hdr, parseFloatNumber_point hne (fun c hc => (asciiDigits_spec c (hdig c hc)).1) hfne
      (fun c hc => (asciiDigits_spec c (hfdig c hc)).1), hsum, hflen]
  rfl

theorem numChar_toString_int (i : ℤ) : ∀ c ∈ (toString i).data, numChar c := by
  cases i with
  | ofNat m => exact fun c hc => numChar_of_mem_asciiDigits ((toString_nat_spec m).2.1 c hc)
  | negSucc m =>
    intro c hc
    rw [show (toString (Int.negSucc m)).data = '-' :: (toString (m + 1)).data from rfl] at hc
    rcases List.mem_cons.1 hc with rfl | hc
    exacts [rfl, numChar_of_mem_asciiDigits ((toString_nat_spec (m + 1)).2.1 c hc)]

theorem numChar_formatFixed {p : ℕ} (hp : 0 < p) (x : ℚ) : ∀ c ∈ (formatFixed p x).data, numChar c := by
  intro c hc
  rw [formatFixed_data hp] at hc
  simp only [List.mem_append, List.mem_cons] at hc
  rcases hc with hc | hc | rfl | hc
  · split_ifs at hc
    · rw [List.mem_singleton.1 hc]; rfl
    · cases hc
  · exact numChar_of_mem_asciiDigits ((toString_nat_spec _).2.1 c hc)
  · rfl
  · exact numChar_of_mem_asciiDigits ((fraction_spec hp _).2.1 c (List.mem_append.2 hc))

/-! ## 7. The summary -/

/-- What `parse_summary` makes of one `key=value` line, a key without `=` or whitespace. -/
theorem summaryStep_line {k v : String} (hk : ∀ c ∈ k.data, c ≠ '=' ∧ c ∉ pyWhitespace)
    (d : Dict PyFloat) :
    summaryStep d (k ++ "=" ++ v).data =
      match pyFloat (pyStrip v.data) with
      | some f => d.set k f
      | none => d := by
  have hdata : (k ++ "=" ++ v).data = k.data ++ '=' :: v.data := by
    simp [String.data_append]
  have hpos : ∀ c ∈ k.data, (fun c => decide (c ≠ '=')) c := fun c hc => by simpa using (hk c hc).1
  have hsplit : splitAtEq (k ++ "=" ++ v).data = some (k.data, v.data) := by
    rw [hdata, splitAtEq, if_pos (List.mem_append.2 (.inr (List.mem_cons_self _ _))),
      List.takeWhile_append_of_pos hpos, List.dropWhile_append_of_pos hpos,
      List.takeWhile_cons_of_neg (by simp), List.dropWhile_cons_of_neg (by simp), List.append_nil]
    rfl
  rw [summaryStep, hsplit]
  dsimp only
  rw [pyStrip_of_forall fun c hc => (hk c hc).2]

/-- `parse_summary` over lines of distinct keys, each with its value's `float()`: the keys with
a value, in order, after those it had. -/
theorem foldl_summaryStep (fields : List (String × Printed)) (d : Dict PyFloat)
    (hkeys : (fields.map (·.1)).Nodup) (hnew : ∀ f ∈ fields, f.1 ∉ d.keys)
    (hk : ∀ f ∈ fields, ∀ c ∈ f.1.data, c ≠ '=' ∧ c ∉ pyWhitespace)
    (hv : ∀ f ∈ fields, pyFloat (pyStrip f.2.render.data) = f.2.value.map .finite) :
    (fields.map fun f => (f.1 ++ "=" ++ f.2.render).data).foldl summaryStep d =
      d ++ fields.filterMap fun f => f.2.value.map fun q => (f.1, .finite q) := by
  induction fields generalizing d with
  | nil => exact (List.append_nil d).symm
  | cons f fields ih =>
    rw [List.map_cons, List.nodup_cons] at hkeys
    have hrest (d' : Dict PyFloat) (hd' : d'.keys ⊆ d.keys ++ [f.1]) :
        ∀ g ∈ fields, g.1 ∉ d'.keys := fun g hg hmem => by
      rcases List.mem_append.1 (hd' hmem) with h | h
      · exact hnew g (List.mem_cons_of_mem _ hg) h
      · exact hkeys.1 (List.mem_singleton.1 h ▸ List.mem_map_of_mem _ hg)
    rw [List.map_cons, List.foldl_cons, summaryStep_line (hk f (List.mem_cons_self _ _)),
      hv f (List.mem_cons_self _ _), List.filterMap_cons]
    cases hval : f.2.value with
    | none =>
      rw [Option.map_none']
      exact ih d hkeys.2 (hrest d (List.subset_append_left _ _))
        (fun g hg => hk g (List.mem_cons_of_mem _ hg)) (fun g hg => hv g (List.mem_cons_of_mem _ hg))
    | some q =>
      simp only [Option.map_some']
      rw [Dict.set_of_not_mem (hnew f (List.mem_cons_self _ _)),
        ih _ hkeys.2 (hrest _ (by rw [Dict.keys_append]; exact List.Subset.refl _))
          (fun g hg => hk g (List.mem_cons_of_mem _ hg)) (fun g hg => hv g (List.mem_cons_of_mem _ hg)),
        List.append_assoc]
      rfl

/-- A key `parse_summary` reads as written: no `=`, no whitespace, no line boundary. -/
def KeyOk (k : String) : Prop := ∀ c ∈ k.data, c ≠ '=' ∧ c ∉ pyWhitespace ∧ c ∉ lineBoundaries

instance (k : String) : Decidable (KeyOk k) := inferInstanceAs (Decidable (∀ c ∈ k.data, _))

/-- A summary line `parse_summary` reads back: a plain key, and a printed value without a line
boundary that `float()` reads as the number it stands for. -/
structure FieldOk (f : String × Printed) : Prop where
  key : KeyOk f.1
  render : ∀ c ∈ f.2.render.data, c ∉ lineBoundaries
  value : pyFloat (pyStrip f.2.render.data) = f.2.value.map .finite

theorem fieldOk_int {k : String} (hk : KeyOk k) (i : ℤ) : FieldOk (k, .int i) where
  key := hk
  render c hc := not_boundary_of_numChar (numChar_toString_int i c hc)
  value := by
    show pyFloat (pyStrip (toString i).data) = some (.finite i)
    rw [pyStrip_of_forall fun c hc => not_space_of_numChar (numChar_toString_int i c hc)]
    exact pyFloat_toString_int i

theorem fieldOk_fixed {k : String} (hk : KeyOk k) {p : ℕ} (hp : 0 < p) (x : ℚ) :
    FieldOk (k, .fixed p x) where
  key := hk
  render c hc := not_boundary_of_numChar (numChar_formatFixed hp x c hc)
  value := by
    show pyFloat (pyStrip (formatFixed p x).data) = some (.finite (roundFixed p x))
    rw [pyStrip_of_forall fun c hc => not_space_of_numChar (numChar_formatFixed hp x c hc)]
    exact pyFloat_formatFixed hp x

/-- A scenario the runner accepts is text to `float()`. -/
theorem fieldOk_scenario {scenario : String} (hsc : scenario ∈ scenarioChoices) :
    FieldOk ("scenario", .text scenario) := by
  simp only [scenarioChoices, List.mem_cons, List.mem_singleton, List.not_mem_nil, or_false] at hsc
  rcases hsc with rfl | rfl | rfl <;> exact ⟨by decide, by decide, by decide⟩

/-- `parse_summary` of the text of summary lines it reads back: their numbers, under their keys
and in order. -/
theorem parseSummary_summaryText {logs : PerfLogs} (hne : logs.summary ≠ [])
    (hkeys : (logs.summary.map (·.1)).Nodup) (hok : ∀ f ∈ logs.summary, FieldOk f) :
    parseSummary (some logs.summaryText) =
      logs.summary.filterMap fun f => f.2.value.map fun q => (f.1, .finite q) := by
  have hline (f) (hf : f ∈ logs.summary) : ∀ c ∈ (f.1 ++ "=" ++ f.2.render).data, c ∉ lineBoundaries := by
    intro c hc
    simp only [String.data_append, List.mem_append] at hc
    rcases hc with (hc | hc) | hc
    · exact ((hok f hf).key c hc).2.2
    · rw [List.mem_singleton.1 hc]; decide
    · exact (hok f hf).render c hc
  rw [parseSummary, PerfLogs.summaryText, splitlines_joinLines (by simpa using hne)
      fun l hl => by obtain ⟨f, hf, rfl⟩ := List.mem_map.1 hl; exact hline f hf,
    List.map_map]
  exact (foldl_summaryStep _ [] hkeys (fun _ _ h => by cases h)
    (fun f hf c hc => ⟨((hok f hf).key c hc).1, ((hok f hf).key c hc).2.1⟩)
    (fun f hf => (hok f hf).value)).trans (List.nil_append _)

/-- The keys of the four percentile lines with their prefix, whatever the values. -/
def percentileKeys (pre : String) : List String :=
  [pre ++ "p50_ms", pre ++ "p90_ms", pre ++ "p95_ms", pre ++ "p99_ms"]

theorem percentileLines_keys (pre : String) (r : LatencyMs) :
    (percentileLines pre r).map (·.1) = percentileKeys pre := rfl

theorem percentileLines_fieldOk {pre : String} (hpre : ∀ k ∈ percentileKeys pre, KeyOk k)
    (r : LatencyMs) : ∀ f ∈ percentileLines pre r, FieldOk f := by
  intro f hf
  simp only [percentileLines, List.mem_cons, List.mem_singleton, List.not_mem_nil, or_false] at hf
  simp only [percentileKeys, List.mem_cons, List.mem_singleton, List.not_mem_nil, or_false,
    forall_eq_or_imp, forall_eq] at hpre
  rcases hf with rfl | rfl | rfl | rfl
  exacts [fieldOk_fixed hpre.1 (by decide) _, fieldOk_fixed hpre.2.1 (by decide) _,
    fieldOk_fixed hpre.2.2.1 (by decide) _, fieldOk_fixed hpre.2.2.2 (by decide) _]

/-- `percentile` never raises on the four ranks, so the percentile lines are always written. -/
theorem percentileFields_eq (pre : String) (values : List ℚ) :
    ∃ r, latencyMs values = some r ∧ percentileFields pre values = some (percentileLines pre r) := by
  obtain ⟨r, hr⟩ := latencyMs_isSome values
  exact ⟨r, hr, by simp only [percentileFields, hr]; rfl⟩

theorem optionalPercentileFields_eq (pre : String) (l : Option (List ℚ)) :
    ∃ fs, optionalPercentileFields pre l = some fs ∧ (fs = [] ∨ ∃ r, fs = percentileLines pre r) := by
  match l with
  | some (v :: vs) =>
    obtain ⟨r, -, h⟩ := percentileFields_eq pre (v :: vs)
    exact ⟨_, h, .inr ⟨r, rfl⟩⟩
  | some [] => exact ⟨[], rfl, .inl rfl⟩
  | none => exact ⟨[], rfl, .inl rfl⟩

/-- The TTFT or TPOT lines are read back: none, or the four percentile lines. -/
theorem optionalLines_ok {pre : String} (hpre : ∀ k ∈ percentileKeys pre, KeyOk k)
    {fs : List (String × Printed)} (h : fs = [] ∨ ∃ r, fs = percentileLines pre r) :
    (fs.map (·.1) = [] ∨ fs.map (·.1) = percentileKeys pre) ∧ ∀ f ∈ fs, FieldOk f := by
  rcases h with rfl | ⟨r, rfl⟩
  · exact ⟨.inl rfl, fun _ h => by cases h⟩
  · exact ⟨.inr (percentileLines_keys pre r), percentileLines_fieldOk hpre r⟩

/-- **The summary log, written and read back.**  For every scenario the runner accepts and every
run, `write_performance_logs` writes its summary (no `percentile` raises): the scenario, the
duration `int(duration_s * 1000)` in milliseconds, the token count, `tokens_per_sec` (`0.0` for a
duration that is not positive) and the number of samples; then, for a server or single-stream run
with samples, the percentiles of the latencies followed by those of TTFT and TPOT, where given.
`parse_summary` reads back exactly the numbers of it, under their keys and in the order written,
each rounded as it was printed: `duration_ms` and the counts as they are, `tokens_per_sec` to
four places, the percentiles to three.  Only the `scenario` line is dropped. -/
theorem parseSummary_writePerformanceLogs {scenario : String} (hsc : scenario ∈ scenarioChoices)
    (durationS : ℚ) (totalNewTokens : ℤ) (perSampleLatMs : List ℚ)
    (ttftMsList tpotMsList : Option (List ℚ)) :
    ∃ logs, writePerformanceLogs scenario durationS totalNewTokens perSampleLatMs ttftMsList
        tpotMsList = some logs ∧
      (∃ latency, logs.summary =
          [("scenario", .text scenario),
            ("duration_ms", .int (pyIntOfFloat (fl (durationS * 1000)))),
            ("total_new_tokens", .int totalNewTokens),
            ("tokens_per_sec", .fixed 4 (if 0 < durationS then fl (fl totalNewTokens / durationS) else 0)),
            ("num_samples", .int perSampleLatMs.length)] ++ latency ∧
        if (scenario = "server" ∨ scenario = "singlestream") ∧ perSampleLatMs ≠ [] then
          ∃ r ttft tpot, latencyMs perSampleLatMs = some r ∧
            optionalPercentileFields "ttft_" ttftMsList = some ttft ∧
            optionalPercentileFields "tpot_" tpotMsList = some tpot ∧
            latency = percentileLines "" r ++ ttft ++ tpot
        else latency = []) ∧
      parseSummary (some logs.summaryText) =
        logs.summary.filterMap fun f => f.2.value.map fun q => (f.1, .finite q) := by
  obtain ⟨r, hr, hlat⟩ := percentileFields_eq "" perSampleLatMs
  obtain ⟨ttft, htt, httl⟩ := optionalPercentileFields_eq "ttft_" ttftMsList
  obtain ⟨tpot, htp, htpl⟩ := optionalPercentileFields_eq "tpot_" tpotMsList
  obtain ⟨httk, httx⟩ := optionalLines_ok (by decide) httl
  obtain ⟨htpk, htpx⟩ := optionalLines_ok (by decide) htpl
  let base : List (String × Printed) :=
    [("scenario", .text scenario),
      ("duration_ms", .int (pyIntOfFloat (fl (durationS * 1000)))),
      ("total_new_tokens", .int totalNewTokens),
      ("tokens_per_sec", .fixed 4 (if 0 < durationS then fl (fl totalNewTokens / durationS) else 0)),
      ("num_samples", .int perSampleLatMs.length)]
  have hbk : base.map (·.1) =
      ["scenario", "duration_ms", "total_new_tokens", "tokens_per_sec", "num_samples"] := rfl
  have hbase : ∀ f ∈ base, FieldOk f := by
    intro f hf
    simp only [base, List.mem_cons, List.mem_singleton, List.not_mem_nil, or_false] at hf
    rcases hf with rfl | rfl | rfl | rfl | rfl
    exacts [fieldOk_scenario hsc, fieldOk_int (by decide) _, fieldOk_int (by decide) _,
      fieldOk_fixed (by decide) (by decide) _, fieldOk_int (by decide) _]
  by_cases hb : (scenario = "server" ∨ scenario = "singlestream") ∧ perSampleLatMs ≠ []
  · refine ⟨⟨base ++ (percentileLines "" r ++ ttft ++ tpot), some perSampleLatMs⟩,
      by simp only [writePerformanceLogs, if_pos hb, hlat, htt, htp, List.append_assoc]; rfl,
      ⟨_, rfl, by rw [if_pos hb]; exact ⟨r, ttft, tpot, hr, htt, htp, rfl⟩⟩, ?_⟩
    refine parseSummary_summaryText (by simp [base]) ?_ fun f hf => ?_
    · rw [List.map_append, List.map_append, List.map_append, hbk, percentileLines_keys]
      rcases httk with h1 | h1 <;> rcases htpk with h2 | h2 <;> rw [h1, h2] <;> decide
    · simp only [List.mem_append] at hf
      rcases hf with hf | (hf | hf) | hf
      exacts [hbase f hf, percentileLines_fieldOk (by decide) r f hf, httx f hf, htpx f hf]
  · refine ⟨⟨base, none⟩, by simp only [writePerformanceLogs, if_neg hb]; rfl,
      ⟨[], (List.append_nil _).symm, by rw [if_neg hb]⟩, ?_⟩
    exact parseSummary_summaryText (by simp [base]) (by rw [hbk]; decide) hbase

theorem parseSummary_writePerformanceLogs_server :
    "server" ∈ scenarioChoices ∧
      ∃ logs, writePerformanceLogs "server" 2 256 [30, 10, 20] (some [5, 7]) none = some logs ∧
        (∃ latency, logs.summary =
            [("scenario", .text "server"),
              ("duration_ms", .int (pyIntOfFloat (fl (2 * 1000)))),
              ("total_new_tokens", .int 256),
              ("tokens_per_sec", .fixed 4 (if (0 : ℚ) < 2 then fl (fl (256 : ℤ) / 2) else 0)),
              ("num_samples", .int [(30 : ℚ), 10, 20].length)] ++ latency ∧
          if ("server" = "server" ∨ "server" = "singlestream") ∧ [(30 : ℚ), 10, 20] ≠ [] then
            ∃ r ttft tpot, latencyMs [30, 10, 20] = some r ∧
              optionalPercentileFields "ttft_" (some [5, 7]) = some ttft ∧
              optionalPercentileFields "tpot_" none = some tpot ∧
              latency = percentileLines "" r ++ ttft ++ tpot
          else latency = []) ∧
        parseSummary (some logs.summaryText) =
          logs.summary.filterMap fun f => f.2.value.map fun q => (f.1, .finite q) :=
  ⟨by decide, parseSummary_writePerformanceLogs (by decide) 2 256 [30, 10, 20] (some [5, 7]) none⟩

/-! ## 8. The detail -/

theorem matchLatencyAt_of_ne {c : Char} (hc : c ≠ 'l') (s : List Char) :
    matchLatencyAt (c :: s) = none := by
  simp [matchLatencyAt, List.isPrefixOf, Ne.symm hc]

/-- The search skips text without an `l`. -/
theorem searchLatency_append {u : List Char} (hu : 'l' ∉ u) (v : List Char) :
    searchLatency (u ++ v) = searchLatency v := by
  induction u with
  | nil => rfl
  | cons c u ih =>
    rw [List.mem_cons, not_or] at hu
    rw [List.cons_append, searchLatency, matchLatencyAt_of_ne (Ne.symm hu.1), ih hu.2]
    rfl

theorem not_l_of_numChars {s : List Char} (h : ∀ c ∈ s, numChar c) : 'l' ∉ s := fun hl => by
  have := h 'l' hl; cases this

theorem isPrefixOf_latency (rest : List Char) :
    "latency_ms=".toList.isPrefixOf ("latency_ms=".data ++ rest) = true :=
  List.isPrefixOf_iff_prefix.2 (List.prefix_append _ _)

theorem drop_latency (rest : List Char) : ("latency_ms=".data ++ rest).drop 11 = rest :=
  List.drop_left' rfl

/-- `latency_ms=` then a number without a sign: the group is the number. -/
theorem matchLatencyAt_point {int frac : List Char} (hne : int ≠ []) (hint : ∀ c ∈ int, c.isDigit)
    (hfrac : ∀ c ∈ frac, c.isDigit) :
    matchLatencyAt ("latency_ms=".data ++ (int ++ '.' :: frac)) = some (int ++ '.' :: frac) := by
  have hpos : ∀ c ∈ int, Char.isDigit c = true := hint
  have htake : (int ++ '.' :: frac).takeWhile Char.isDigit = int := by
    rw [List.takeWhile_append_of_pos hpos, List.takeWhile_cons_of_neg (by decide), List.append_nil]
  have hdrop : (int ++ '.' :: frac).dropWhile Char.isDigit = '.' :: frac := by
    rw [List.dropWhile_append_of_pos hpos, List.dropWhile_cons_of_neg (by decide)]
  rw [matchLatencyAt, if_pos (isPrefixOf_latency _)]
  dsimp only
  rw [drop_latency, htake, hdrop, if_neg hne]
  exact congrArg (fun r => some (int ++ '.' :: r)) (List.takeWhile_eq_self_iff.2 hfrac)

/-- `latency_ms=` then a minus sign: no match there. -/
theorem matchLatencyAt_sign (rest : List Char) :
    matchLatencyAt ("latency_ms=".data ++ '-' :: rest) = none := by
  rw [matchLatencyAt, if_pos (isPrefixOf_latency _)]
  dsimp only
  rw [drop_latency, List.takeWhile_cons_of_neg (by decide), if_pos rfl]

/-- `pattern.search` on a detail line: the printed latency, where it has no sign. -/
theorem searchLatency_detailLine (idx : ℕ) (lat : ℚ) :
    searchLatency (detailLine idx lat).data = if 0 ≤ lat then some (formatFixed 3 lat).data else none := by
  have hdata : (detailLine idx lat).data =
      "sample_id=".data ++ ((toString idx).data ++ (", ".data ++ ("latency_ms=".data ++ (formatFixed 3 lat).data))) := by
    simp [detailLine, String.data_append]
  have hidx : 'l' ∉ (toString idx).data := not_l_of_numChars fun c hc =>
    numChar_of_mem_asciiDigits ((toString_nat_spec idx).2.1 c hc)
  rw [hdata, show ∀ rest, searchLatency ("sample_id=".data ++ rest) = searchLatency rest from fun _ => rfl,
    searchLatency_append hidx, searchLatency_append (by decide)]
  have hfmt := formatFixed_data (p := 3) (by decide) lat
  obtain ⟨hne, hdig, -⟩ := toString_nat_spec (roundHalfEven (|lat| * 10 ^ 3) / 10 ^ 3)
  obtain ⟨hflen, hfdig, -⟩ := fraction_spec (p := 3) (by decide) (roundHalfEven (|lat| * 10 ^ 3))
  set int := (toString (roundHalfEven (|lat| * 10 ^ 3) / 10 ^ 3)).data
  set frac := List.replicate (3 - (toString (roundHalfEven (|lat| * 10 ^ 3) % 10 ^ 3)).length) '0' ++
    (toString (roundHalfEven (|lat| * 10 ^ 3) % 10 ^ 3)).data
  have hint : ∀ c ∈ int, c.isDigit := fun c hc => (asciiDigits_spec c (hdig c hc)).1
  have hfrac : ∀ c ∈ frac, c.isDigit := fun c hc => (asciiDigits_spec c (hfdig c hc)).1
  by_cases h0 : 0 ≤ lat
  · rw [if_pos h0, hfmt, if_neg (not_lt.2 h0), List.nil_append]
    show (matchLatencyAt ("latency_ms=".data ++ (int ++ '.' :: frac))).or _ = _
    rw [matchLatencyAt_point hne hint hfrac]
    rfl
  · have hnum : ∀ c ∈ '-' :: (int ++ '.' :: frac), numChar c := fun c hc => by
      simp only [List.mem_cons, List.mem_append] at hc
      rcases hc with rfl | hc | rfl | hc
      exacts [rfl, numChar_of_mem_asciiDigits (hdig c hc), rfl, numChar_of_mem_asciiDigits (hfdig c hc)]
    rw [if_neg h0, hfmt, if_pos (lt_of_not_le h0), List.singleton_append]
    show (matchLatencyAt ("latency_ms=".data ++ '-' :: (int ++ '.' :: frac))).or
      (searchLatency ("atency_ms=".data ++ '-' :: (int ++ '.' :: frac))) = none
    rw [matchLatencyAt_sign, searchLatency_append (by decide),
      ← List.append_nil ('-' :: (int ++ '.' :: frac)), searchLatency_append (not_l_of_numChars hnum)]
    rfl

theorem filterMap_nonneg (f : ℚ → PyFloat) (l : List ℚ) :
    l.filterMap (fun x => if 0 ≤ x then some (f x) else none) = (l.filter (0 ≤ ·)).map f := by
  induction l with
  | nil => rfl
  | cons x l ih => by_cases hx : 0 ≤ x <;> simp [List.filter_cons, hx, ih]

/-- `parse_detail` of a detail file: the latencies without a sign, rounded as printed. -/
theorem parseDetail_detailText (logs : PerfLogs) :
    parseDetail logs.detailText =
      ((logs.detail.getD []).filter (0 ≤ ·)).map fun x => .finite (roundFixed 3 x) := by
  have hline (e : ℕ × ℚ) : (searchLatency (detailLine e.1 e.2).data).bind pyFloat =
      if 0 ≤ e.2 then some (.finite (roundFixed 3 e.2)) else none := by
    rw [searchLatency_detailLine]
    split_ifs
    · rw [Option.some_bind, pyFloat_formatFixed (by decide)]
    · rfl
  rcases logs with ⟨summary, _ | ⟨⟩ | ⟨lat, lats⟩⟩
  · rfl
  · rfl
  · have hb : ∀ l ∈ (lat :: lats).enum.map (fun e => detailLine e.1 e.2), ∀ c ∈ l.data,
        c ∉ lineBoundaries := by
      intro l hl c hc
      obtain ⟨e, -, rfl⟩ := List.mem_map.1 hl
      simp only [detailLine, String.data_append, List.mem_append] at hc
      rcases hc with ((hc | hc) | hc) | hc
      · revert c; decide
      · exact not_boundary_of_numChar (numChar_of_mem_asciiDigits ((toString_nat_spec _).2.1 c hc))
      · revert c; decide
      · exact not_boundary_of_numChar (numChar_formatFixed (by decide) _ c hc)
    show (splitlines (joinLines _).data).filterMap _ = _
    rw [splitlines_joinLines (by simp) hb, List.map_map, List.filterMap_map]
    simp only [Function.comp_def, hline, Option.getD_some]
    have hsnd := List.filterMap_map Prod.snd
      (fun x : ℚ => if 0 ≤ x then some (PyFloat.finite (roundFixed 3 x)) else none) (lat :: lats).enum
    rw [List.enum_map_snd] at hsnd
    rw [← filterMap_nonneg, hsnd]
    rfl

/-- **The detail log, read back.**  For every scenario and run, `write_performance_logs` writes
(no `percentile` raises), and `parse_detail` of what it leaves reads back, in order, the
latencies of a server or single-stream run rounded to three places, except every negative one:
`latency_ms=([0-9]+\.?[0-9]*)` does not match a printed sign.  For any other run there is no
detail file, and nothing is read. -/
theorem parseDetail_writePerformanceLogs (scenario : String) (durationS : ℚ)
    (totalNewTokens : ℤ) (perSampleLatMs : List ℚ) (ttftMsList tpotMsList : Option (List ℚ)) :
    ∃ logs, writePerformanceLogs scenario durationS totalNewTokens perSampleLatMs ttftMsList
        tpotMsList = some logs ∧
      parseDetail logs.detailText =
        if (scenario = "server" ∨ scenario = "singlestream") ∧ perSampleLatMs ≠ [] then
          (perSampleLatMs.filter (0 ≤ ·)).map fun x => .finite (roundFixed 3 x)
        else [] := by
  obtain ⟨r, -, hlat⟩ := percentileFields_eq "" perSampleLatMs
  obtain ⟨ttft, htt, -⟩ := optionalPercentileFields_eq "ttft_" ttftMsList
  obtain ⟨tpot, htp, -⟩ := optionalPercentileFields_eq "tpot_" tpotMsList
  by_cases hb : (scenario = "server" ∨ scenario = "singlestream") ∧ perSampleLatMs ≠ []
  · refine ⟨_, by simp only [writePerformanceLogs, if_pos hb, hlat, htt, htp]; rfl, ?_⟩
    rw [parseDetail_detailText, if_pos hb]
    rfl
  · refine ⟨_, by simp only [writePerformanceLogs, if_neg hb]; rfl, ?_⟩
    rw [parseDetail_detailText, if_neg hb]
    rfl

end OpenKCloud.Mlperf
