import OpenKCloud.Weigher.Basic
/-
# Request parsing: `_extract_accel_groups`

The weigher keeps, from each request group, the entries whose resource class matches
`[accelerator_weigher] rc_pattern` and whose amount `int()` accepts, and drops a group with
no such entry.  The loop is modelled as the code runs it: a dictionary written entry by
entry (`Dict.set`) and an output list grown by appending.

* `accelResources_eq_filterMap`: because a request group's keys are distinct, the inner
  loop's dictionary writes are appends, and its result is a `filterMap` of the entries;
* `extractAccelGroups_eq`: the whole extraction, in closed form;
* `extractAccelGroups_spec`: what each returned group holds.  The only filter on an
  amount is that `int()` accepts it, so `0`, negative amounts and truncated fractions are
  KEPT (`extractAccelGroups_keeps_nonpositive`).
-/

namespace OpenKCloud.Weigher

/-! ## 1. The default pattern -/

/-- The default `rc_pattern`, `(?i)^(CUSTOM_)?(FPGA|PGPU|VGPU|QAT|NIC|SSD|AICHIP)$`, as
`re.match` reads it: `$` also matches before one final newline.  Case folding is ASCII. -/
def rcPatternDefault (rc : String) : Bool :=
  let s := if rc.data.getLast? = some '\n' then rc.data.dropLast else rc.data
  let u := s.map Char.toUpper
  let base := if "CUSTOM_".data.isPrefixOf u then u.drop 7 else u
  base ∈ ["FPGA", "PGPU", "VGPU", "QAT", "NIC", "SSD", "AICHIP"].map String.data

/-! ## 2. The two loops -/

section Extract

variable (rcMatch : String → Bool)

/-- One turn of `for rc, amount in resources.items()`. -/
def accelStep (acc : Dict ℤ) (e : String × PyValue) : Dict ℤ :=
  if rcMatch e.1 then
    match pyInt e.2 with
    | some n => acc.set e.1 n
    | none => acc
  else acc

/-- `accel_resources` for one group. -/
def accelResources (resources : Dict PyValue) : Dict ℤ :=
  resources.foldl (accelStep rcMatch) []

/-- `_extract_accel_groups(weight_properties, rc_regex, stats)`. -/
def extractAccelGroups (req : RequestSpec) : List AccelGroup :=
  req.requestedResources.foldl (fun out g =>
    let acc := accelResources rcMatch g.resources
    if acc.isEmpty then out else out ++ [⟨acc, g.requiredTraits⟩]) []

/-- The entry the inner loop keeps from `(rc, amount)`, if any. -/
def keepEntry (e : String × PyValue) : Option (String × ℤ) :=
  if rcMatch e.1 then (pyInt e.2).map (e.1, ·) else none

/-- The group the outer loop keeps from a request group, if any. -/
def keepGroup (g : RequestGroup) : Option AccelGroup :=
  let r := g.resources.filterMap (keepEntry rcMatch)
  if r.isEmpty then none else some ⟨r, g.requiredTraits⟩

/-! ## 3. Closed forms -/

theorem set_of_not_mem {α : Type} {d : Dict α} {k : String} (h : k ∉ d.keys) (v : α) :
    d.set k v = d ++ [(k, v)] := by
  simp [Dict.set, Dict.get?_isSome_iff, h]

theorem keys_filterMap_keepEntry (l : Dict PyValue) :
    Dict.keys (l.filterMap (keepEntry rcMatch)) ⊆ Dict.keys l := by
  intro k hk
  simp only [Dict.keys, List.mem_map, List.mem_filterMap, keepEntry] at hk ⊢
  obtain ⟨⟨k', n⟩, ⟨⟨rc, v⟩, _, he⟩, rfl⟩ := hk
  split at he
  · obtain ⟨m, -, hm⟩ := Option.map_eq_some'.1 he
    cases hm; exact ⟨(rc, v), by assumption, rfl⟩
  · cases he

/-- **The inner loop appends.**  A request group's keys are distinct, so no write of the loop
overwrites an earlier one. -/
theorem foldl_accelStep (l : Dict PyValue) (acc : Dict ℤ) (hl : (Dict.keys l).Nodup)
    (hacc : ∀ k ∈ Dict.keys acc, k ∉ Dict.keys l) :
    l.foldl (accelStep rcMatch) acc = acc ++ l.filterMap (keepEntry rcMatch) := by
  induction l generalizing acc with
  | nil => simp
  | cons e l ih =>
    obtain ⟨rc, v⟩ := e
    simp only [Dict.keys, List.map_cons, List.nodup_cons] at hl
    have hrc : rc ∉ Dict.keys acc := fun h => hacc rc h (by simp [Dict.keys])
    have hacc' : ∀ k ∈ Dict.keys acc, k ∉ Dict.keys l := fun k hk h =>
      hacc k hk (by simp only [Dict.keys, List.map_cons, List.mem_cons]; exact .inr h)
    simp only [List.foldl_cons, List.filterMap_cons, accelStep, keepEntry]
    by_cases hm : rcMatch rc
    · cases hn : pyInt v with
      | none => simpa [hm, hn] using ih acc hl.2 hacc'
      | some n =>
        simp only [hm, hn, if_true, Option.map_some', set_of_not_mem hrc]
        rw [ih _ hl.2]
        · simp
        · intro k hk
          simp only [Dict.keys, List.map_append, List.mem_append, List.map_cons,
            List.map_nil, List.mem_singleton] at hk
          rcases hk with hk | rfl
          · exact hacc' k hk
          · exact hl.1
    · simpa [hm] using ih acc hl.2 hacc'

theorem accelResources_eq_filterMap (g : RequestGroup) :
    accelResources rcMatch g.resources = g.resources.filterMap (keepEntry rcMatch) := by
  simpa using foldl_accelStep rcMatch g.resources [] g.nodup (by simp [Dict.keys])

theorem foldl_append_filterMap {α β : Type} (f : α → Option β) (l : List α) (out : List β) :
    l.foldl (fun out a => match f a with | some b => out ++ [b] | none => out) out =
      out ++ l.filterMap f := by
  induction l generalizing out with
  | nil => simp
  | cons a l ih => cases h : f a <;> simp [h, ih]

/-- **Extraction in closed form.**  One group per request group that keeps an entry, in
request order. -/
theorem extractAccelGroups_eq (req : RequestSpec) :
    extractAccelGroups rcMatch req = req.requestedResources.filterMap (keepGroup rcMatch) := by
  have h := foldl_append_filterMap (keepGroup rcMatch) req.requestedResources []
  simp only [List.nil_append] at h
  rw [← h, extractAccelGroups]
  congr 1
  funext out g
  simp only [keepGroup, accelResources_eq_filterMap]
  split <;> simp_all

theorem filterMap_keepEntry_isEmpty (l : Dict PyValue) :
    (l.filterMap (keepEntry rcMatch)).isEmpty = !l.any (fun e => rcMatch e.1 && (pyInt e.2).isSome) := by
  induction l with
  | nil => rfl
  | cons e l ih =>
    by_cases hm : rcMatch e.1 <;> cases hn : pyInt e.2 <;> simp [keepEntry, hm, hn, ih]

theorem extractAccelGroups_eq_map_filter (req : RequestSpec) :
    extractAccelGroups rcMatch req = (req.requestedResources.filter
      (fun g => g.resources.any fun e => rcMatch e.1 && (pyInt e.2).isSome)).map
        (fun g => ⟨g.resources.filterMap (keepEntry rcMatch), g.requiredTraits⟩) := by
  rw [extractAccelGroups_eq]
  induction req.requestedResources with
  | nil => rfl
  | cons g gs ih =>
    by_cases hg : g.resources.any (fun e => rcMatch e.1 && (pyInt e.2).isSome) <;>
      simp [keepGroup, filterMap_keepEntry_isEmpty, hg, ih]

/-- Every group extraction returns has a class. -/
theorem resources_ne_nil_of_mem_extractAccelGroups {req : RequestSpec} {g : AccelGroup}
    (hg : g ∈ extractAccelGroups rcMatch req) : g.resources ≠ [] := by
  rw [extractAccelGroups_eq_map_filter] at hg
  obtain ⟨g₀, hg₀, rfl⟩ := List.mem_map.1 hg
  have hne := filterMap_keepEntry_isEmpty rcMatch g₀.resources
  rw [(List.mem_filter.1 hg₀).2] at hne
  simpa using hne

theorem extractAccelGroups_perm {req req' : RequestSpec}
    (h : req'.requestedResources.Perm req.requestedResources) :
    (extractAccelGroups rcMatch req').Perm (extractAccelGroups rcMatch req) := by
  rw [extractAccelGroups_eq, extractAccelGroups_eq]
  exact h.filterMap _

/-- **What extraction returns.**  In request order, one group for each request group with an
entry whose class matches and whose amount `int()` accepts; its map is exactly those
entries, each holding `int(amount)`; and it is never empty. -/
theorem extractAccelGroups_spec (req : RequestSpec) :
    extractAccelGroups rcMatch req =
        (req.requestedResources.filter
            (fun g => g.resources.any fun e => rcMatch e.1 && (pyInt e.2).isSome)).map
          (fun g => ⟨g.resources.filterMap (keepEntry rcMatch), g.requiredTraits⟩) ∧
      ∀ g ∈ extractAccelGroups rcMatch req, g.resources ≠ [] :=
  ⟨extractAccelGroups_eq_map_filter rcMatch req,
    fun _ hg => resources_ne_nil_of_mem_extractAccelGroups rcMatch hg⟩

end Extract

/-- A zero and a negative amount both reach scoring. -/
theorem extractAccelGroups_keeps_nonpositive :
    (extractAccelGroups rcPatternDefault
        ⟨[⟨[("AICHIP", .int 0), ("FPGA", .int (-1)), ("VCPU", .int 4)], [], by decide⟩]⟩).map
      (·.resources) = [[("AICHIP", 0), ("FPGA", -1)]] := by
  decide

end OpenKCloud.Weigher
