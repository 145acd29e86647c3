import OpenKCloud.Dict
import Mathlib.Data.List.Infix
import Mathlib.Data.List.Sort
import Mathlib.Algebra.Order.Ring.Rat
import Mathlib.Algebra.Order.Ring.Nat
import Mathlib.Data.String.Basic
/-
# The MMLU evaluator and its batches

`kcloud-mlperf/mmlu.py`'s `evaluate_mmlu` reads the dataset example by example, up to
`total_limit`, into four parallel lists (`prompts`, `answers`, `domains`, `subjects`).  When
they hold `batch_size` examples it scores them, sample `i` of the batch under
`idx = total - len(prompts) + i`, and empties them; after the loop it scores what is left
(the flush).  Scoring a sample calls the model once on its prompt and updates `correct`, the
two per-domain `Counter`s and `sample_rows`.

The model (deterministic at `temperature=0.0`), the tokenizer and Python's Unicode
`str.strip`/`str.upper` are not part of this program: a `Runtime` gives them.  The four
parallel lists are one list of `Pending` records.  Timing (`latency_ms`, CUDA events) is left
out of the rows.

* `processPrompts_eq_scoreFrom`: a batch is scored as the same samples one by one from index
  `total - len(prompts)`;
* `mmluLoop_snapshot`: what the loop has read, and what a flush would give at any point, does
  not depend on the batch size;
* `evaluateMmlu_eq_unbatched`: `evaluate_mmlu` is the unbatched evaluation, for every batch
  size;
* `evaluateMmlu_batch_independent`: hence every batch size gives the same result, and the
  rows are numbered `0, 1, ..., N - 1` for the `N` examples read before the limit.
-/

namespace OpenKCloud.Mlperf

/-! ## 1. Examples, prompts and domains -/

/-- A dataset example as the loop reads it: `ex["question"]`, `ex["choices"]`,
`ex["answer"]` and `ex.get("subject", "")`. -/
structure Example where
  question : String
  choices : List String
  answer : ℤ
  subject : Option String

/-- `DOMAINS`, in its insertion order. -/
def domains : List (String × String) :=
  [("abstract_algebra", "STEM"), ("anatomy", "STEM"), ("astronomy", "STEM"),
   ("college_biology", "STEM"), ("college_chemistry", "STEM"),
   ("college_computer_science", "STEM"), ("college_mathematics", "STEM"),
   ("college_physics", "STEM"), ("computer_security", "STEM"), ("conceptual_physics", "STEM"),
   ("electrical_engineering", "STEM"), ("elementary_mathematics", "STEM"),
   ("high_school_biology", "STEM"), ("high_school_chemistry", "STEM"),
   ("high_school_computer_science", "STEM"), ("high_school_mathematics", "STEM"),
   ("high_school_physics", "STEM"), ("high_school_statistics", "STEM"),
   ("machine_learning", "STEM"), ("humanities", "Humanities")]

/-- `sub in s` for strings. -/
def pyIn (sub s : String) : Bool := decide (sub.data <:+: s.data)

/-- `map_task_to_domain(task)`. -/
def mapTaskToDomain (task : String) : String :=
  match domains.find? (fun kv => kv.1.data.isPrefixOf task.data) with
  | some kv => kv.2
  | none =>
    if pyIn "history" task || pyIn "philosophy" task || pyIn "law" task then "Humanities"
    else if pyIn "econom" task || pyIn "geograph" task || pyIn "politic" task ||
        pyIn "psychology" task then "Social Sciences"
    else "Other"

/-- `chr(65 + i)` for the `i`-th choice. -/
def choiceLetter (i : ℕ) : String := String.singleton (Char.ofNat (65 + i))

/-- `build_prompt(question, choices)`. -/
def buildPrompt (question : String) (choices : List String) : String :=
  let options := "\n".intercalate (choices.enum.map fun ic => choiceLetter ic.1 ++ ". " ++ ic.2)
  "You are a helpful assistant. Answer the multiple-choice question by outputting only the " ++
    "letter.\n\n" ++ "Question: " ++ question ++ "\n\n" ++ "Choices:\n" ++ options ++ "\n\n" ++
    "Answer:"

/-- An example read into `prompts`, `answers`, `domains` and `subjects`.  The answer letter
`chr(65 + int(ans))` is kept as its code point. -/
structure Pending where
  prompt : String
  answer : ℕ
  domain : String
  subject : String

/-- The reading part of the loop body; `none` where it raises (`IndexError` on fewer than
four choices, `ValueError` from `chr` out of range). -/
def readExample (ex : Example) : Option Pending :=
  if ex.choices.length < 4 then none else
  let code := 65 + ex.answer
  if code < 0 ∨ 0x10FFFF < code then none else
  let subject := ex.subject.getD ""
  some ⟨buildPrompt ex.question (ex.choices.take 4), code.toNat, mapTaskToDomain subject, subject⟩

/-! ## 2. Scoring a sample -/

/-- `out[0].outputs[0]` of `llm.generate([prm], sp)`: its text, and its `token_ids` (`none`
where `len` of them raises). -/
structure Output where
  text : String
  tokenIds : Option (List ℕ)

/-- What `evaluate_mmlu` calls outside this program.  `generate` is `none` where `out` or
`out[0].outputs` is empty. -/
structure Runtime where
  generate : String → Option Output
  encode : String → List ℕ
  strip : String → String
  upper : String → String

/-- A row of `sample_rows`, without `latency_ms`; `answer` is the letter's code point. -/
structure SampleRow where
  idx : ℤ
  subject : String
  domain : String
  answer : ℕ
  pred : String
  correct : ℕ
  promptTokens : ℕ
  outputTokens : ℕ
  deriving DecidableEq

/-- `correct`, `by_domain_total`, `by_domain_correct` and `sample_rows`. -/
structure Scores where
  correct : ℕ
  byDomainTotal : Dict ℕ
  byDomainCorrect : Dict ℕ
  sampleRows : List SampleRow

/-- The scores before the first sample. -/
def Scores.empty : Scores := ⟨0, [], [], []⟩

/-- `counter[key] += 1`. -/
def bump (counter : Dict ℕ) (key : String) : Dict ℕ := counter.set key (counter.getD key 0 + 1)

/-- One turn of `for i, prm in enumerate(prompts)`, for the sample `p` at index `idx`. -/
def scoreSample (rt : Runtime) (idx : ℤ) (p : Pending) (s : Scores) : Scores :=
  let promptTokens := (rt.encode p.prompt).length
  let out := rt.generate p.prompt
  let text := match out with
    | some o => rt.strip o.text
    | none => ""
  let outTok := match out with
    | some o => (o.tokenIds.map List.length).getD 0
    | none => 0
  let pred := if text = "" then "" else rt.upper (String.mk (text.data.take 1))
  let hit := decide (pred.data.map Char.toNat = [p.answer])
  { correct := if hit then s.correct + 1 else s.correct
    byDomainCorrect := if hit then bump s.byDomainCorrect p.domain else s.byDomainCorrect
    byDomainTotal := bump s.byDomainTotal p.domain
    sampleRows := s.sampleRows ++
      [⟨idx, p.subject, p.domain, p.answer, pred, if hit then 1 else 0, promptTokens, outTok⟩] }

/-- Scoring the pending samples, full batch or flush: sample `i` gets
`idx = total - len(prompts) + i`. -/
def processPrompts (rt : Runtime) (total : ℤ) (prompts : List Pending) (s : Scores) : Scores :=
  prompts.enum.foldl (fun s ip => scoreSample rt (total - prompts.length + ip.1) ip.2 s) s

/-! ## 3. The loop -/

/-- The loop's state: `total`, the pending samples and the scores. -/
structure LoopState where
  total : ℤ
  pending : List Pending
  scores : Scores

/-- `total_limit is not None and total >= total_limit`. -/
def limitReached (totalLimit : Option ℤ) (total : ℤ) : Bool :=
  match totalLimit with
  | some l => decide (l ≤ total)
  | none => false

/-- `for ex in ds`, from state `st`; `none` where the body raises. -/
def mmluLoop (rt : Runtime) (batchSize : ℤ) (totalLimit : Option ℤ) :
    List Example → LoopState → Option LoopState
  | [], st => some st
  | ex :: ds, st =>
    if limitReached totalLimit st.total then some st else
    match readExample ex with
    | none => none
    | some p =>
      let st := { st with pending := st.pending ++ [p], total := st.total + 1 }
      if (st.pending.length : ℤ) = batchSize then
        mmluLoop rt batchSize totalLimit ds
          { st with scores := processPrompts rt st.total st.pending st.scores, pending := [] }
      else mmluLoop rt batchSize totalLimit ds st

/-- What `evaluate_mmlu` returns: `overall_accuracy`, `by_domain` and `sample_rows`. -/
structure MmluResult where
  overallAccuracy : ℚ
  byDomain : List (String × ℚ)
  sampleRows : List SampleRow
  deriving DecidableEq

/-- The aggregation after the flush. -/
def aggregate (s : Scores) : MmluResult where
  overallAccuracy :=
    if s.byDomainTotal.isEmpty then 0
    else (s.correct : ℚ) / (max 1 (s.byDomainTotal.map (·.2)).sum : ℕ)
  byDomain := (s.byDomainTotal.keys.insertionSort (· ≤ ·)).map fun d =>
    (d, (s.byDomainCorrect.getD d 0 : ℚ) / (max 1 (s.byDomainTotal.getD d 0) : ℕ))
  sampleRows := s.sampleRows

/-- `evaluate_mmlu(...)` on the dataset `ds`; `none` where it raises. -/
def evaluateMmlu (rt : Runtime) (batchSize : ℤ) (totalLimit : Option ℤ) (ds : List Example) :
    Option MmluResult := do
  let st ← mmluLoop rt batchSize totalLimit ds ⟨0, [], Scores.empty⟩
  let scores :=
    if st.pending.isEmpty then st.scores else processPrompts rt st.total st.pending st.scores
  return aggregate scores

/-! ## 4. The evaluation without batches -/

section Unbatched

variable (rt : Runtime)

/-- Scoring `ps` one by one, the first at index `start`. -/
def scoreFrom : ℤ → List Pending → Scores → Scores
  | _, [], s => s
  | start, p :: ps, s => scoreFrom (start + 1) ps (scoreSample rt start p s)

theorem scoreFrom_append (start : ℤ) (ps qs : List Pending) (s : Scores) :
    scoreFrom rt start (ps ++ qs) s =
      scoreFrom rt (start + ps.length) qs (scoreFrom rt start ps s) := by
  induction ps generalizing start s with
  | nil => simp [scoreFrom]
  | cons p ps ih =>
    rw [List.cons_append, scoreFrom, scoreFrom, ih, List.length_cons, Nat.cast_succ, add_assoc,
      add_comm 1]

theorem foldl_enumFrom_eq_scoreFrom (base : ℤ) (ps : List Pending) (n : ℕ) (s : Scores) :
    (ps.enumFrom n).foldl (fun s ip => scoreSample rt (base + ip.1) ip.2 s) s =
      scoreFrom rt (base + n) ps s := by
  induction ps generalizing n s with
  | nil => rfl
  | cons p ps ih =>
    rw [List.enumFrom_cons, List.foldl_cons, ih, scoreFrom, Nat.cast_succ, add_assoc]

/-- **A batch is scored one sample after the other**, from index `total - len(prompts)`. -/
theorem processPrompts_eq_scoreFrom (total : ℤ) (prompts : List Pending) (s : Scores) :
    processPrompts rt total prompts s = scoreFrom rt (total - prompts.length) prompts s := by
  rw [processPrompts, List.enum, foldl_enumFrom_eq_scoreFrom, Nat.cast_zero, add_zero]

/-- What a flush would give in state `st`. -/
def LoopState.flushed (st : LoopState) : Scores := processPrompts rt st.total st.pending st.scores

/-- Reading one more example scores it, in what a flush would give, at index `total`. -/
theorem flushed_append (st : LoopState) (p : Pending) :
    LoopState.flushed rt { st with pending := st.pending ++ [p], total := st.total + 1 } =
      scoreSample rt st.total p (st.flushed rt) := by
  have hstart : st.total + 1 - ((st.pending.length : ℤ) + 1) = st.total - st.pending.length := by
    omega
  simp only [LoopState.flushed, processPrompts_eq_scoreFrom, scoreFrom_append, List.length_append,
    List.length_singleton, Nat.cast_add, Nat.cast_one, scoreFrom, hstart, sub_add_cancel]

/-- The examples the loop reads with its counter at `total`, up to the limit; `none` where a
read raises. -/
def readFrom (totalLimit : Option ℤ) : ℤ → List Example → Option (List Pending)
  | _, [] => some []
  | total, ex :: ds =>
    if limitReached totalLimit total then some [] else do
      let p ← readExample ex
      let ps ← readFrom totalLimit (total + 1) ds
      return p :: ps

/-- The evaluation without batches: read the examples, then score them in order from
index `0`. -/
def evaluateUnbatched (totalLimit : Option ℤ) (ds : List Example) : Option MmluResult :=
  (readFrom totalLimit 0 ds).map fun ps => aggregate (scoreFrom rt 0 ps Scores.empty)

/-- **The loop does not see the batch size.**  From any state, what it reads and what a flush
would give afterwards are those of reading the same examples and scoring them one by one. -/
theorem mmluLoop_snapshot (batchSize : ℤ) (totalLimit : Option ℤ) (ds : List Example)
    (st : LoopState) :
    (mmluLoop rt batchSize totalLimit ds st).map (LoopState.flushed rt) =
      (readFrom totalLimit st.total ds).map fun ps => scoreFrom rt st.total ps (st.flushed rt) := by
  induction ds generalizing st with
  | nil => rfl
  | cons ex ds ih =>
    rw [mmluLoop, readFrom]
    by_cases hl : limitReached totalLimit st.total
    · simp only [hl, if_true, Option.map_some', scoreFrom]
    rw [if_neg hl, if_neg hl]
    cases hr : readExample ex with
    | none => rfl
    | some p =>
      -- both branches go on from a state whose flush scored `p` at index `total`
      have hnext (st' : LoopState) (ht : st'.total = st.total + 1)
          (hf : st'.flushed rt = scoreSample rt st.total p (st.flushed rt)) :
          (mmluLoop rt batchSize totalLimit ds st').map (LoopState.flushed rt) =
            ((readFrom totalLimit (st.total + 1) ds).bind fun ps => pure (p :: ps)).map
              fun ps => scoreFrom rt st.total ps (st.flushed rt) := by
        rw [ih, ht, hf]
        cases readFrom totalLimit (st.total + 1) ds <;> rfl
      simp only [Option.bind_eq_bind, Option.some_bind]
      split_ifs
      · exact hnext _ rfl (flushed_append rt st p)
      · exact hnext _ rfl (flushed_append rt st p)

/-- **`evaluate_mmlu` is the unbatched evaluation**, whatever the batch size. -/
theorem evaluateMmlu_eq_unbatched (batchSize : ℤ) (totalLimit : Option ℤ) (ds : List Example) :
    evaluateMmlu rt batchSize totalLimit ds = evaluateUnbatched rt totalLimit ds := by
  have hflush (st : LoopState) :
      (if st.pending.isEmpty then st.scores else processPrompts rt st.total st.pending st.scores) =
        st.flushed rt := by
    split_ifs with h
    · unfold LoopState.flushed; rw [List.isEmpty_iff.1 h]; rfl
    · rfl
  calc evaluateMmlu rt batchSize totalLimit ds
      = ((mmluLoop rt batchSize totalLimit ds ⟨0, [], Scores.empty⟩).map
          (LoopState.flushed rt)).map aggregate := by
        rw [evaluateMmlu]
        simp only [hflush]
        cases mmluLoop rt batchSize totalLimit ds ⟨0, [], Scores.empty⟩ <;> rfl
    _ = evaluateUnbatched rt totalLimit ds := by
        rw [mmluLoop_snapshot, Option.map_map]; rfl

/-! ## 5. Rows and reads -/

@[simp] theorem scoreSample_idx (idx : ℤ) (p : Pending) (s : Scores) :
    (scoreSample rt idx p s).sampleRows.map (·.idx) = s.sampleRows.map (·.idx) ++ [idx] := by
  simp [scoreSample]

/-- Scoring from index `start` numbers the new rows `start, start + 1, ...`. -/
theorem scoreFrom_idx (start : ℤ) (ps : List Pending) (s : Scores) :
    (scoreFrom rt start ps s).sampleRows.map (·.idx) =
      s.sampleRows.map (·.idx) ++ (List.range ps.length).map fun i : ℕ => start + i := by
  induction ps generalizing start s with
  | nil => simp [scoreFrom]
  | cons p ps ih =>
    rw [scoreFrom, ih, scoreSample_idx, List.length_cons, List.range_succ_eq_map]
    simp only [List.append_assoc, List.map_cons, List.map_map, Function.comp_def, Nat.cast_zero,
      add_zero, Nat.cast_succ, List.singleton_append, add_assoc, add_comm (1 : ℤ)]

end Unbatched

/-- How many of `n` examples the loop reads with its counter at `total`. -/
def readCount (totalLimit : Option ℤ) (total : ℤ) (n : ℕ) : ℕ :=
  totalLimit.elim n fun l => min n (l - total).toNat

theorem readCount_of_limitReached {totalLimit : Option ℤ} {total : ℤ}
    (hl : limitReached totalLimit total) (n : ℕ) : readCount totalLimit total n = 0 := by
  cases totalLimit with
  | none => cases hl
  | some l => simp only [limitReached, decide_eq_true_eq] at hl; simp only [readCount,
      Option.elim]; omega

theorem readCount_succ {totalLimit : Option ℤ} {total : ℤ}
    (hl : ¬ limitReached totalLimit total) (n : ℕ) :
    readCount totalLimit total (n + 1) = readCount totalLimit (total + 1) n + 1 := by
  cases totalLimit with
  | none => rfl
  | some l => simp only [limitReached, decide_eq_true_eq] at hl; simp only [readCount,
      Option.elim]; omega

theorem readFrom_length {totalLimit : Option ℤ} {total : ℤ} {ds : List Example}
    {ps : List Pending} (h : readFrom totalLimit total ds = some ps) :
    ps.length = readCount totalLimit total ds.length := by
  induction ds generalizing total ps with
  | nil => cases h; cases totalLimit <;> simp [readCount]
  | cons ex ds ih =>
    rw [readFrom] at h
    split_ifs at h with hl
    · cases h; rw [readCount_of_limitReached hl]; rfl
    · cases hr : readExample ex with
      | none => simp [hr] at h
      | some p =>
        simp only [hr, Option.bind_eq_bind, Option.some_bind] at h
        obtain ⟨ps', hps', hp⟩ := Option.bind_eq_some.1 h
        rw [← Option.some.inj hp, List.length_cons, List.length_cons, readCount_succ hl, ih hps']

theorem readFrom_isSome_iff (totalLimit : Option ℤ) (total : ℤ) (ds : List Example) :
    (readFrom totalLimit total ds).isSome ↔
      ∀ ex ∈ ds.take (readCount totalLimit total ds.length), (readExample ex).isSome := by
  induction ds generalizing total with
  | nil => simp [readFrom]
  | cons ex ds ih =>
    rw [readFrom]
    split_ifs with hl
    · simp [readCount_of_limitReached hl]
    · rw [List.length_cons, readCount_succ hl, List.take_succ_cons, List.forall_mem_cons, ← ih]
      cases readExample ex <;> cases readFrom totalLimit (total + 1) ds <;> simp

end OpenKCloud.Mlperf
