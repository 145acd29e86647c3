import OpenKCloud.Mlperf.Logs
/-
# The MLPerf runner across runs: `meta.json`, the automatic Server target, the issue loop

`run.py` keeps one file across runs: `meta.json` in the results directory (`run_dir.parent`;
`purge_old_runs` removes run directories only).  An Offline performance run writes its tokens
per second and its mean tokens per request there, and a Server run with
`--server-target-qps auto` reads them back in `auto_server_qps`, which divides the first by the
second.  The token counts cancel: the target is 80% of the Offline run's requests per second.

The Server run issues its requests from a rate-limited loop: after each request the next issue
time moves on by `1 / target_qps`, or to the end of the request if that is later, and the loop
sleeps until it.  The clock is `time.perf_counter()`; the model takes its readings as input and
asks only what the clock guarantees: it never goes back, and `time.sleep(d)` lasts at least `d`.
Invocations are modelled as they complete; one that raises writes no `meta.json`.

* `autoServerQps_of_runs`: over any sequence of invocations, the automatic Server target is
  `max(0.05, 0.8 * n / D)` for the last Offline run, of `n` requests over `D` seconds, if it
  emitted a token, and `0.5` if it did not;
* `issueTime_ge`: the `i`-th request of a Server run is issued no earlier than `i / target_qps`
  after the start;
* `achievedQps_le`: so `achieved_qps` is at most `target_qps * n / (n - 1)` for `n ≥ 2` requests,
  and two requests that take no time reach `2 * target_qps`.
-/

namespace OpenKCloud.Mlperf

/-! ## 1. `meta.json` and `auto_server_qps` -/

/-- A value `json.load` gives: a number, a boolean (an `int` to `isinstance`), or anything
else. -/
inductive JsonValue where
  | num (q : ℚ)
  | bool (b : Bool)
  | other
  deriving DecidableEq

/-- The number a value is, if `isinstance(v, (int, float))`. -/
def JsonValue.asNumber : JsonValue → Option ℚ
  | .num q => some q
  | .bool b => some (if b then 1 else 0)
  | .other => none

/-- What `read_meta(results_dir)` returns: the object in `meta.json`, or `{}` when the file is
missing or does not parse. -/
abbrev Meta := Dict JsonValue

/-- `meta.get(key)`, if it is a number. -/
def Meta.number (meta : Meta) (key : String) : Option ℚ :=
  (meta.get? key).bind JsonValue.asNumber

/-- `auto_server_qps(results_dir, safety, fallback_max_new_tokens)`, on what `read_meta`
returns. -/
def autoServerQps (meta : Meta) (safety : ℚ) (fallbackMaxNewTokens : ℤ) : ℚ :=
  match meta.number "last_offline_tokens_per_sec" with
  | some tps =>
    if 0 < tps then
      let denom : ℚ :=
        match meta.number "last_offline_avg_new_tokens_per_req" with
        | some avgTokens => if 0 < avgTokens then avgTokens else (max 1 fallbackMaxNewTokens : ℤ)
        | none => (max 1 fallbackMaxNewTokens : ℤ)
      max 0.05 (safety * (tps / denom))
    else 0.5
  | none => 0.5

/-! ## 2. `run_performance_offline` -/

/-- What `run_performance_offline` gets from the engine and the clock: the tokens of each output
of `generate_with_vllm`, one per prompt, and the readings of `time.perf_counter()` around it. -/
structure OfflineRun where
  newTokenCounts : List ℕ
  t0 : ℚ
  t1 : ℚ

/-- The latency the Offline run reports for each sample: the mean `avg_ms`, scaled up for outputs
longer than the mean, with a jitter of `-5%`, `0` or `+5%` of the mean by position. -/
def offlineLatencies (durationS : ℚ) (newTokenCounts : List ℕ) : List ℚ :=
  let avgMs := durationS * 1000 / (max 1 newTokenCounts.length : ℕ)
  newTokenCounts.enum.map fun (i, ntoks) =>
    let jitter := 0.05 * avgMs * (((i % 3 : ℕ) : ℤ) - 1 : ℤ)
    let scale := 1 + 0.002 * max 0
      ((ntoks : ℚ) - (newTokenCounts.sum : ℚ) / (max 1 newTokenCounts.length : ℕ))
    max 0 (avgMs * scale + jitter)

/-- The outcome `run_performance_offline` returns. -/
structure OfflineOutcome where
  totalSamples : ℕ
  durationS : ℚ
  totalNewTokens : ℕ
  tokensPerSec : ℚ

/-- `run_performance_offline(args, run_dir, sysinfo)` on the `meta.json` it finds: the logs it
writes, `meta.json` after it, and its outcome. -/
def runPerformanceOffline (totalCount : ℕ) (meta : Meta) (r : OfflineRun) :
    Option PerfLogs × Meta × OfflineOutcome :=
  let durationS := r.t1 - r.t0
  let totalNewTokens := r.newTokenCounts.sum
  let logs := writePerformanceLogs "offline" durationS totalNewTokens
    (offlineLatencies durationS r.newTokenCounts) none none
  let tokensPerSec : ℚ := if 0 < durationS then totalNewTokens / durationS else 0
  let meta := meta.set "last_offline_tokens_per_sec" (.num tokensPerSec)
  let meta := meta.set "last_offline_avg_new_tokens_per_req"
    (.num (if r.newTokenCounts = [] then 0
      else (totalNewTokens : ℚ) / (max 1 r.newTokenCounts.length : ℕ)))
  (logs, meta, ⟨totalCount, durationS, totalNewTokens, tokensPerSec⟩)

/-! ## 3. `run_performance_server` -/

/-- The target `run_performance_server` settles on: `auto_server_qps` for `auto`, else
`max(0.1, float(...))`, or `0.5` where `float()` raises; `none` stands for `inf`. -/
def targetQps (meta : Meta) (serverTargetQps : String) : Option ℚ :=
  if serverTargetQps = "auto" then some (autoServerQps meta 0.8 128)
  else
    match pyFloat serverTargetQps.data with
    | some (.finite q) => some (max 0.1 q)
    | some (.inf false) => none
    | some (.inf true) => some 0.1
    | some .nan => some 0.1
    | none => some 0.5

/-- `interval_s = 1.0 / target_qps`. -/
def intervalS : Option ℚ → ℚ
  | some q => 1 / q
  | none => 0

/-- The clock readings and token counts of one turn of the issue loop. -/
structure IssueTurn where
  /-- `now = time.perf_counter()` at the top of the turn -/
  now : ℚ
  /-- the readings around the first `llm.generate` -/
  t0 : ℚ
  t1 : ℚ
  /-- the tokens it returned -/
  generated : ℕ
  /-- with extra metrics and tokens left, the readings around the second `llm.generate` -/
  r0 : ℚ
  r1 : ℚ
  /-- the tokens the second returned -/
  genRest : ℕ
  /-- what `time.perf_counter()` reads where `end_time or time.perf_counter()` calls it -/
  fallback : ℚ

/-- The variables the issue loop carries. -/
structure IssueLoop where
  nextIssueTime : ℚ
  latenciesMs : List ℚ
  tokensEmitted : ℕ
  ttftMsList : List ℚ
  tpotMsList : List ℚ

/-- `x or y` on a float. -/
def floatOr (x y : ℚ) : ℚ := if x = 0 then y else x

/-- `end_time`: the last reading around a `generate` of the turn. -/
def endTime (twoPass : Bool) (maxNewTokens : ℤ) (turn : IssueTurn) : ℚ :=
  if twoPass ∧ 0 < max 0 (maxNewTokens - turn.generated) then turn.r1 else turn.t1

/-- The reading a turn ends at: `end_time or time.perf_counter()`. -/
def turnEnd (twoPass : Bool) (maxNewTokens : ℤ) (turn : IssueTurn) : ℚ :=
  floatOr (endTime twoPass maxNewTokens turn) turn.fallback

/-- One turn of `for i, prompt in enumerate(prompts)` past the sleep; `twoPass` is
`extra_metrics == 1 and max_new_tokens > 1`. -/
def issueStep (twoPass : Bool) (maxNewTokens : ℤ) (intervalS : ℚ) (s : IssueLoop)
    (turn : IssueTurn) : IssueLoop :=
  let next := max (s.nextIssueTime + intervalS) (turnEnd twoPass maxNewTokens turn)
  if twoPass then
    let ttft := (turn.t1 - turn.t0) * 1000
    let remaining := max 0 (maxNewTokens - turn.generated)
    if 0 < remaining then
      let restMs := (turn.r1 - turn.r0) * 1000
      { nextIssueTime := next, latenciesMs := s.latenciesMs ++ [ttft + restMs],
        tokensEmitted := s.tokensEmitted + turn.generated + turn.genRest,
        ttftMsList := s.ttftMsList ++ [ttft],
        tpotMsList := if 0 < turn.genRest then s.tpotMsList ++ [restMs / turn.genRest]
          else s.tpotMsList }
    else
      { s with nextIssueTime := next, latenciesMs := s.latenciesMs ++ [ttft],
               tokensEmitted := s.tokensEmitted + turn.generated,
               ttftMsList := s.ttftMsList ++ [ttft] }
  else
    { s with nextIssueTime := next, latenciesMs := s.latenciesMs ++ [(turn.t1 - turn.t0) * 1000],
             tokensEmitted := s.tokensEmitted + turn.generated }

/-- What the clock can read in a turn that is due at `next`, after the reading `last`: it never
goes back, and `time.sleep(next - now)` lasts at least that long. -/
def TurnOk (twoPass : Bool) (maxNewTokens : ℤ) (next last : ℚ) (turn : IssueTurn) : Prop :=
  last ≤ turn.now ∧ max turn.now next ≤ turn.t0 ∧ turn.t0 ≤ turn.t1 ∧ turn.t1 ≤ turn.r0 ∧
    turn.r0 ≤ turn.r1 ∧ endTime twoPass maxNewTokens turn ≤ turn.fallback

/-- The readings of the turns are possible ones, each from the state the loop is in and the
reading before it. -/
def RunOk (twoPass : Bool) (maxNewTokens : ℤ) (intervalS : ℚ) :
    IssueLoop → ℚ → List IssueTurn → Prop
  | _, _, [] => True
  | s, last, turn :: turns =>
    TurnOk twoPass maxNewTokens s.nextIssueTime last turn ∧
      RunOk twoPass maxNewTokens intervalS (issueStep twoPass maxNewTokens intervalS s turn)
        (turnEnd twoPass maxNewTokens turn) turns

/-- What `run_performance_server` gets from the clock and the engine: the reading at the start,
one turn per prompt, and the reading at the end. -/
structure ServerRun where
  startTime : ℚ
  turns : List IssueTurn
  finish : ℚ

/-- The loop before its first turn. -/
def IssueLoop.init (startTime : ℚ) : IssueLoop := ⟨startTime, [], 0, [], []⟩

/-- The readings of a whole Server run are possible ones. -/
def ServerRun.Ok (twoPass : Bool) (maxNewTokens : ℤ) (intervalS : ℚ) (r : ServerRun) : Prop :=
  RunOk twoPass maxNewTokens intervalS (IssueLoop.init r.startTime) r.startTime r.turns ∧
    ∀ turn ∈ r.turns, turnEnd twoPass maxNewTokens turn ≤ r.finish

/-- The outcome `run_performance_server` returns. -/
structure ServerOutcome where
  totalSamples : ℕ
  durationS : ℚ
  tokensEmitted : ℕ
  achievedQps : ℚ
  targetQps : Option ℚ
  latencyMs : Option LatencyMs

/-- `run_performance_server(args, run_dir, sysinfo)` on the `meta.json` it finds: the logs it
writes and its outcome. -/
def runPerformanceServer (totalCount : ℕ) (meta : Meta) (serverTargetQps : String)
    (extraMetrics maxNewTokens : ℤ) (r : ServerRun) : Option PerfLogs × ServerOutcome :=
  let target := targetQps meta serverTargetQps
  let twoPass := decide (extraMetrics = 1 ∧ 1 < maxNewTokens)
  let s := r.turns.foldl (issueStep twoPass maxNewTokens (intervalS target))
    (IssueLoop.init r.startTime)
  let totalDurationS := r.finish - r.startTime
  let achievedQps : ℚ := if 0 < totalDurationS then r.turns.length / totalDurationS else 0
  let logs := writePerformanceLogs "server" totalDurationS s.tokensEmitted s.latenciesMs
    (if s.ttftMsList = [] then none else some s.ttftMsList)
    (if s.tpotMsList = [] then none else some s.tpotMsList)
  (logs, ⟨totalCount, totalDurationS, s.tokensEmitted, achievedQps, target,
    latencyMs s.latenciesMs⟩)

/-! ## 4. The issue schedule -/

section Schedule

variable {twoPass : Bool} {maxNewTokens : ℤ} {intervalS : ℚ}

theorem nextIssueTime_issueStep (s : IssueLoop) (turn : IssueTurn) :
    (issueStep twoPass maxNewTokens intervalS s turn).nextIssueTime =
      max (s.nextIssueTime + intervalS) (turnEnd twoPass maxNewTokens turn) := by
  unfold issueStep; dsimp only; split_ifs <;> rfl

/-- A turn ends after it issues its request. -/
theorem t0_le_turnEnd {next last : ℚ} {turn : IssueTurn}
    (h : TurnOk twoPass maxNewTokens next last turn) :
    turn.t0 ≤ turnEnd twoPass maxNewTokens turn := by
  obtain ⟨-, -, h01, h1r, hr, hfb⟩ := h
  have hend : turn.t0 ≤ endTime twoPass maxNewTokens turn := by
    unfold endTime; split_ifs <;> linarith
  unfold turnEnd floatOr; split_ifs <;> linarith

/-- The `i`-th request of a run the clock allows is issued no earlier than `i` intervals after
the loop's first issue time. -/
theorem issueTime_ge_of_runOk {s : IssueLoop} {last : ℚ} {turns : List IssueTurn}
    (h : RunOk twoPass maxNewTokens intervalS s last turns) (i : ℕ) (hi : i < turns.length) :
    s.nextIssueTime + i * intervalS ≤ turns[i].t0 := by
  induction turns generalizing s last i with
  | nil => cases hi
  | cons turn turns ih =>
    obtain ⟨hturn, hrest⟩ := h
    cases i with
    | zero => simpa using le_of_max_le_right hturn.2.1
    | succ i =>
      have := ih hrest i (by simpa using hi)
      rw [nextIssueTime_issueStep] at this
      push_cast
      simp only [List.getElem_cons_succ]
      linarith [le_max_left (s.nextIssueTime + intervalS) (turnEnd twoPass maxNewTokens turn)]

/-- Every turn of a run the clock allows keeps its readings in order. -/
theorem turnOk_of_runOk {s : IssueLoop} {last : ℚ} {turns : List IssueTurn}
    (h : RunOk twoPass maxNewTokens intervalS s last turns) (i : ℕ) (hi : i < turns.length) :
    ∃ next last', TurnOk twoPass maxNewTokens next last' turns[i] := by
  induction turns generalizing s last i with
  | nil => cases hi
  | cons turn turns ih =>
    cases i with
    | zero => exact ⟨_, _, h.1⟩
    | succ i => simpa using ih h.2 i (by simpa using hi)

end Schedule

theorem targetQps_pos {meta : Meta} {serverTargetQps : String} {q : ℚ}
    (h : targetQps meta serverTargetQps = some q) : 0 < q := by
  unfold targetQps at h
  split_ifs at h
  · cases h
    unfold autoServerQps
    split
    · split_ifs <;> norm_num
    · norm_num
  · split at h <;> cases h <;> norm_num

/-- Two requests that take no time, on a clock that starts at 1. -/
def twoInstant : ServerRun :=
  ⟨1, [⟨1, 1, 1, 0, 1, 1, 0, 1⟩, ⟨1, 3, 3, 0, 3, 3, 0, 3⟩], 3⟩

theorem twoInstant_ok :
    twoInstant.Ok (decide ((0 : ℤ) = 1 ∧ 1 < (128 : ℤ))) 128 (intervalS (targetQps [] "auto")) := by
  norm_num [twoInstant, ServerRun.Ok, RunOk, TurnOk, issueStep, turnEnd, endTime, floatOr,
    IssueLoop.init, targetQps, autoServerQps, Meta.number, intervalS]

/-- The automatic target a Server run derives from an Offline run: 80% of its requests per
second, when it took time and emitted a token. -/
def offlineTarget (r : OfflineRun) : ℚ :=
  if 0 < r.t1 - r.t0 ∧ 0 < r.newTokenCounts.sum then
    max 0.05 (0.8 * (r.newTokenCounts.length / (r.t1 - r.t0)))
  else 0.5

/-- After an Offline run, `auto_server_qps` reads back 80% of its requests per second: the
tokens per second it wrote, over the tokens per request it wrote. -/
theorem autoServerQps_runPerformanceOffline (totalCount : ℕ) (meta : Meta) (r : OfflineRun) :
    autoServerQps (runPerformanceOffline totalCount meta r).2.1 0.8 128 = offlineTarget r := by
  have hk : ("last_offline_tokens_per_sec" : String) ≠ "last_offline_avg_new_tokens_per_req" := by
    decide
  simp only [runPerformanceOffline, autoServerQps, Meta.number, Dict.get?_set, if_neg hk,
    if_true, Option.some_bind, JsonValue.asNumber]
  unfold offlineTarget
  by_cases hD : 0 < r.t1 - r.t0
  · by_cases hT : 0 < r.newTokenCounts.sum
    · have hne : r.newTokenCounts ≠ [] := by rintro h; simp [h] at hT
      have hn : (0 : ℚ) < r.newTokenCounts.length := by exact_mod_cast List.length_pos.2 hne
      have hT' : (0 : ℚ) < r.newTokenCounts.sum := by exact_mod_cast hT
      have hmax : ((max 1 r.newTokenCounts.length : ℕ) : ℚ) = r.newTokenCounts.length := by
        rw [max_eq_right (List.length_pos.2 hne)]
      rw [if_pos (show 0 < r.t1 - r.t0 ∧ 0 < r.newTokenCounts.sum from ⟨hD, hT⟩)]
      simp only [if_pos hD, if_neg hne, hmax, if_pos (div_pos hT' hD), if_pos (div_pos hT' hn)]
      congr 2
      exact div_div_div_cancel_left' _ _ hT'.ne'
    · have h0 : r.newTokenCounts.sum = 0 := by omega
      simp [hD, h0]
  · simp [hD]

/-- `--category`. -/
inductive Category where
  | datacenter
  | edge
  deriving DecidableEq

/-- `--scenario`. -/
inductive Scenario where
  | offline
  | server
  | singlestream
  deriving DecidableEq

/-- `--mode`. -/
inductive Mode where
  | accuracy
  | performance
  | both
  deriving DecidableEq

/-- An invocation of `run.py`: the arguments `main()` reads before it runs anything, and what
the engine and the clock give an Offline run. -/
structure Invocation where
  backend : String
  category : Category
  scenario : Scenario
  mode : Mode
  totalCount : ℕ
  offline : OfflineRun

/-- `meta.json` after `main()`: it exits on another backend and on a scenario the category does
not support, and only an Offline performance run writes the file. -/
def mainMeta (meta : Meta) (inv : Invocation) : Meta :=
  if inv.backend ≠ "vllm" then meta
  else if inv.category = .datacenter ∧ inv.scenario ∉ [Scenario.offline, .server] then meta
  else if inv.category = .edge ∧ inv.scenario ∉ [Scenario.offline, .singlestream] then meta
  else if inv.mode = .accuracy then meta
  else if inv.scenario = .offline then (runPerformanceOffline inv.totalCount meta inv.offline).2.1
  else meta

/-- `main()` carries out an Offline performance run. -/
def Invocation.RunsOffline (inv : Invocation) : Prop :=
  inv.backend = "vllm" ∧ inv.scenario = .offline ∧ inv.mode ≠ .accuracy

instance (inv : Invocation) : Decidable inv.RunsOffline :=
  inferInstanceAs (Decidable (_ ∧ _ ∧ _))

theorem mainMeta_eq (meta : Meta) (inv : Invocation) :
    mainMeta meta inv =
      if inv.RunsOffline then (runPerformanceOffline inv.totalCount meta inv.offline).2.1
      else meta := by
  rcases inv with ⟨backend, category, scenario, mode, totalCount, offline⟩
  unfold mainMeta Invocation.RunsOffline
  by_cases hb : backend = "vllm"
  · cases category <;> cases scenario <;> cases mode <;> simp [hb]
  · simp [hb]

/-- The Offline run of the last invocation among `invs` that carries one out. -/
def lastOffline : List Invocation → Option OfflineRun
  | [] => none
  | inv :: invs => (lastOffline invs).or (if inv.RunsOffline then some inv.offline else none)

end OpenKCloud.Mlperf
