import OpenKCloud.VirtualGroup.Manager
/-
# The group records and Magnum, while Magnum accepts every update

`scale_group` writes each new count into the group whatever Magnum answered
(`scaleGroup_records_failed_update`).  This module proves the other half: while Magnum accepts
every update, the records stay a copy of Magnum's node counts.

* `scaleFound_get?_of_not_mem`, `scaleGroup_get?_of_not_mem`: `scale_group` sends Magnum only
  the names of its group's clusters;
* `scaleFound_mirrors`: when Magnum accepts, it holds the new count of each of them afterwards;
* `inSync_run`: across any run of `create_virtual_group`, `scale_group`, `get_group_status` and
  `delete_virtual_group` calls in which Magnum accepts every update, a manager whose cluster
  names are distinct and whose records Magnum holds keeps both; the theorem also states the
  first point, for `scale_group` from any manager.

`create_group_with_clusters` is not in the run: it names its clusters
`f"{group_name}-{cluster_spec['name']}"` without looking at the names already there.
-/

namespace OpenKCloud.VirtualGroup

open VirtualClusterGroup

/-- Magnum holds, under each cluster's name, the count recorded for it. -/
def Mirrors (nodeCounts : Dict ℤ) (cs : List VirtualCluster) : Prop :=
  ∀ c ∈ cs, nodeCounts.get? c.name = some c.nodeCount

instance (nodeCounts : Dict ℤ) (cs : List VirtualCluster) : Decidable (Mirrors nodeCounts cs) :=
  inferInstanceAs (Decidable (∀ c ∈ cs, _))

/-- Every answer Magnum has left is a success. -/
def AllAccepted (m : Magnum) : Prop := ∀ b ∈ m.updates, b = true

instance (m : Magnum) : Decidable (AllAccepted m) := inferInstanceAs (Decidable (∀ b ∈ m.updates, _))

theorem AllAccepted.drop {m m' : Magnum} (h : AllAccepted m) {j : ℕ}
    (hj : m'.updates = m.updates.drop j) : AllAccepted m' :=
  fun b hb => h b (List.mem_of_mem_drop (hj ▸ hb))

theorem updates_ne_nil_of_drop {m m' : Magnum} {j : ℕ} (hj : m'.updates = m.updates.drop j)
    (h : m'.updates ≠ []) : m.updates ≠ [] :=
  fun he => h (by rw [hj, he, List.drop_nil])

/-! ## 1. One update -/

theorem scaleMagnumCluster_get?_of_ne (m : Magnum) {name name' : String} (v : ℤ)
    (h : name' ≠ name) :
    (scaleMagnumCluster name v m).nodeCounts.get? name' = m.nodeCounts.get? name' := by
  unfold scaleMagnumCluster; split <;> simp [h]

theorem scaleMagnumCluster_updates (name : String) (v : ℤ) (m : Magnum) :
    (scaleMagnumCluster name v m).updates = m.updates.drop 1 := by
  unfold scaleMagnumCluster; split <;> simp_all

theorem scaleMagnumCluster_accepted {m : Magnum} (h : AllAccepted m) (hne : m.updates ≠ [])
    (name : String) (v : ℤ) : (scaleMagnumCluster name v m).nodeCounts.get? name = some v := by
  unfold scaleMagnumCluster
  split
  · simp
  · exact absurd (h false (by simp [*])) (by decide)
  · contradiction

/-! ## 2. The scaling loops -/

/-- One turn of the scale-out loop: a `CREATE_COMPLETE` cluster with a positive share is sent
to Magnum and recorded with its new count; any other cluster passes through. -/
theorem scaleOutLoop_cons (a b : ℤ) (i : ℕ) (c : VirtualCluster) (cs : List VirtualCluster)
    (m : Magnum) :
    scaleOutLoop a b i (c :: cs) m =
      if IsComplete c ∧ 0 < share a b i then
        ({ c with nodeCount := c.nodeCount + share a b i } ::
          (scaleOutLoop a b (i + 1) cs (scaleMagnumCluster c.name (c.nodeCount + share a b i) m)).1,
          (scaleOutLoop a b (i + 1) cs (scaleMagnumCluster c.name (c.nodeCount + share a b i) m)).2)
      else
        (c :: (scaleOutLoop a b (if IsComplete c then i + 1 else i) cs m).1,
          (scaleOutLoop a b (if IsComplete c then i + 1 else i) cs m).2) := by
  have hshare : (if (i : ℤ) < b then a + 1 else a) = share a b i := rfl
  simp only [scaleOutLoop, hshare]
  by_cases hc : IsComplete c <;> by_cases hs : 0 < share a b i <;> simp [hc, hs]

theorem scaleOutLoop_get?_of_not_mem (a b : ℤ) (i : ℕ) (cs : List VirtualCluster) (m : Magnum)
    {n : String} (hn : n ∉ cs.map (·.name)) :
    (scaleOutLoop a b i cs m).2.nodeCounts.get? n = m.nodeCounts.get? n := by
  induction cs generalizing i m with
  | nil => rfl
  | cons c cs ih =>
    simp only [List.map_cons, List.mem_cons, not_or] at hn
    rw [scaleOutLoop_cons]
    by_cases h : IsComplete c ∧ 0 < share a b i
    · rw [if_pos h]
      exact (ih _ _ hn.2).trans (scaleMagnumCluster_get?_of_ne _ _ hn.1)
    · rw [if_neg h]
      exact ih _ _ hn.2

theorem scaleOutLoop_updates (a b : ℤ) (i : ℕ) (cs : List VirtualCluster) (m : Magnum) :
    ∃ j, (scaleOutLoop a b i cs m).2.updates = m.updates.drop j := by
  induction cs generalizing i m with
  | nil => exact ⟨0, rfl⟩
  | cons c cs ih =>
    rw [scaleOutLoop_cons]
    by_cases h : IsComplete c ∧ 0 < share a b i
    · rw [if_pos h]
      obtain ⟨j, hj⟩ := ih (i + 1) (scaleMagnumCluster c.name (c.nodeCount + share a b i) m)
      exact ⟨1 + j, by rw [hj, scaleMagnumCluster_updates, List.drop_drop]⟩
    · rw [if_neg h]
      exact ih _ _

/-- **The scale-out loop, Magnum accepting.**  Magnum holds every count the loop records. -/
theorem scaleOutLoop_mirrors (a b : ℤ) (i : ℕ) (cs : List VirtualCluster) (m : Magnum)
    (hnd : (cs.map (·.name)).Nodup) (hacc : AllAccepted m) (hmir : Mirrors m.nodeCounts cs)
    (hleft : (scaleOutLoop a b i cs m).2.updates ≠ []) :
    Mirrors (scaleOutLoop a b i cs m).2.nodeCounts (scaleOutLoop a b i cs m).1 := by
  induction cs generalizing i m with
  | nil => exact fun _ h => absurd h (List.not_mem_nil _)
  | cons c cs ih =>
    rw [List.map_cons, List.nodup_cons] at hnd
    have hrest : Mirrors m.nodeCounts cs := fun x hx => hmir x (List.mem_cons_of_mem _ hx)
    have hne (x) (hx : x ∈ cs) : x.name ≠ c.name := fun he => hnd.1 (he ▸ List.mem_map_of_mem _ hx)
    rw [scaleOutLoop_cons] at hleft ⊢
    by_cases h : IsComplete c ∧ 0 < share a b i
    · rw [if_pos h] at hleft ⊢
      set m₁ := scaleMagnumCluster c.name (c.nodeCount + share a b i) m
      obtain ⟨j, hj⟩ := scaleOutLoop_updates a b (i + 1) cs m₁
      have hne₀ : m.updates ≠ [] :=
        updates_ne_nil_of_drop (scaleMagnumCluster_updates ..) (updates_ne_nil_of_drop hj hleft)
      refine List.forall_mem_cons.2 ⟨?_, ih _ _ hnd.2 (hacc.drop (scaleMagnumCluster_updates ..))
        (fun x hx => (scaleMagnumCluster_get?_of_ne _ _ (hne x hx)).trans (hrest x hx)) hleft⟩
      rw [scaleOutLoop_get?_of_not_mem _ _ _ _ _ hnd.1]
      exact scaleMagnumCluster_accepted hacc hne₀ _ _
    · rw [if_neg h] at hleft ⊢
      refine List.forall_mem_cons.2 ⟨?_, ih _ _ hnd.2 hacc hrest hleft⟩
      rw [scaleOutLoop_get?_of_not_mem _ _ _ _ _ hnd.1]
      exact hmir c (List.mem_cons_self _ _)

theorem scaleInLoop_get?_of_not_mem (L : List (ℕ × VirtualCluster)) (r : ℤ)
    (cs : List VirtualCluster) (m : Magnum) {n : String} (hn : ∀ p ∈ L, p.2.name ≠ n) :
    (scaleInLoop L r cs m).2.nodeCounts.get? n = m.nodeCounts.get? n := by
  induction L generalizing r cs m with
  | nil => rfl
  | cons p L ih =>
    obtain ⟨j, c⟩ := p
    have hn' := fun q hq => hn q (List.mem_cons_of_mem _ hq)
    simp only [scaleInLoop]
    split_ifs
    · rfl
    · rw [ih _ _ _ hn', scaleMagnumCluster_get?_of_ne _ _ (hn _ (List.mem_cons_self _ _)).symm]
    · exact ih _ _ _ hn'

theorem scaleInLoop_updates (L : List (ℕ × VirtualCluster)) (r : ℤ) (cs : List VirtualCluster)
    (m : Magnum) : ∃ j, (scaleInLoop L r cs m).2.updates = m.updates.drop j := by
  induction L generalizing r cs m with
  | nil => exact ⟨0, rfl⟩
  | cons p L ih =>
    obtain ⟨j, c⟩ := p
    simp only [scaleInLoop]
    split_ifs
    · exact ⟨0, rfl⟩
    · obtain ⟨k, hk⟩ := ih (r - min r (c.nodeCount - 1))
        (cs.set j { c with nodeCount := c.nodeCount - min r (c.nodeCount - 1) })
        (scaleMagnumCluster c.name (c.nodeCount - min r (c.nodeCount - 1)) m)
      exact ⟨1 + k, by rw [hk, scaleMagnumCluster_updates, List.drop_drop]⟩
    · exact ih _ _ _

theorem mem_set_cases {α : Type} {l : List α} {j : ℕ} {x y : α} (h : y ∈ l.set j x) :
    y = x ∨ ∃ i, i ≠ j ∧ l[i]? = some y := by
  obtain ⟨i, hi⟩ := List.mem_iff_getElem?.1 h
  by_cases hij : i = j
  · subst hij
    have hlt : i < l.length := by simpa using (List.getElem?_eq_some_iff.1 hi).1
    rw [List.getElem?_set_self hlt] at hi
    exact .inl (Option.some.inj hi).symm
  · rw [List.getElem?_set_ne (Ne.symm hij)] at hi
    exact .inr ⟨i, hij, hi⟩

theorem Forall₂.getElem?_right {R : VirtualCluster → VirtualCluster → Prop}
    {l₁ l₂ : List VirtualCluster} (h : List.Forall₂ R l₁ l₂) {i : ℕ} {b : VirtualCluster}
    (hb : l₂[i]? = some b) : ∃ a, l₁[i]? = some a ∧ R a b := by
  induction h generalizing i with
  | nil => simp at hb
  | cons hab _ ih =>
    cases i with
    | zero =>
      rw [List.getElem?_cons_zero, Option.some_inj] at hb
      exact ⟨_, List.getElem?_cons_zero, hb ▸ hab⟩
    | succ i =>
      rw [List.getElem?_cons_succ] at hb ⊢
      exact ih hb

theorem name_ne_of_getElem? {cs : List VirtualCluster} (hnd : (cs.map (·.name)).Nodup) {i j : ℕ}
    {a b : VirtualCluster} (ha : cs[i]? = some a) (hb : cs[j]? = some b) (hij : i ≠ j) :
    a.name ≠ b.name := by
  intro he
  have hi : (cs.map (·.name))[i]? = some a.name := by rw [List.getElem?_map, ha]; rfl
  have hj : (cs.map (·.name))[j]? = some a.name := by rw [List.getElem?_map, hb, he]; rfl
  have key (x y : ℕ) (hxy : x < y) (hx : (cs.map (·.name))[x]? = some a.name)
      (hy : (cs.map (·.name))[y]? = some a.name) : False :=
    List.nodup_iff_getElem?_ne_getElem?.1 hnd x y hxy (List.getElem?_eq_some_iff.1 hy).1
      (hx.trans hy.symm)
  rcases Nat.lt_or_gt_of_ne hij with h | h
  exacts [key i j h hi hj, key j i h hj hi]

/-- **The scale-in loop, Magnum accepting.**  Visiting positions of `orig`, whose cluster names
are distinct, it keeps Magnum holding every count of the working list. -/
theorem scaleInLoop_mirrors {orig : List VirtualCluster} (hnd : (orig.map (·.name)).Nodup)
    (L : List (ℕ × VirtualCluster)) (hL : ∀ p ∈ L, orig[p.1]? = some p.2) (r : ℤ)
    (cs : List VirtualCluster) (m : Magnum) (hres : List.Forall₂ Rescaled orig cs)
    (hacc : AllAccepted m) (hmir : Mirrors m.nodeCounts cs)
    (hleft : (scaleInLoop L r cs m).2.updates ≠ []) :
    Mirrors (scaleInLoop L r cs m).2.nodeCounts (scaleInLoop L r cs m).1 := by
  induction L generalizing r cs m with
  | nil => exact hmir
  | cons p L ih =>
    obtain ⟨j, c⟩ := p
    have hj : orig[j]? = some c := hL _ (List.mem_cons_self _ _)
    have hL' := fun q hq => hL q (List.mem_cons_of_mem _ hq)
    simp only [scaleInLoop] at hleft ⊢
    split_ifs at hleft ⊢
    · exact hmir
    · set n := c.nodeCount - min r (c.nodeCount - 1)
      set m₁ := scaleMagnumCluster c.name n m
      obtain ⟨k, hk⟩ := scaleInLoop_updates L (r - min r (c.nodeCount - 1))
        (cs.set j { c with nodeCount := n }) m₁
      have hne₀ : m.updates ≠ [] :=
        updates_ne_nil_of_drop (scaleMagnumCluster_updates ..) (updates_ne_nil_of_drop hk hleft)
      refine ih hL' _ _ _ (forall₂_set_of_getElem? hres hj rfl)
        (hacc.drop (scaleMagnumCluster_updates ..)) (fun y hy => ?_) hleft
      rcases mem_set_cases hy with rfl | ⟨i, hij, hi⟩
      · exact scaleMagnumCluster_accepted hacc hne₀ _ _
      · obtain ⟨o, ho, hoy⟩ := Forall₂.getElem?_right hres hi
        have hname : y.name = o.name := by rw [hoy]
        have hne : y.name ≠ c.name := hname ▸ name_ne_of_getElem? hnd ho hj hij
        rw [scaleMagnumCluster_get?_of_ne _ _ hne]
        exact hmir y (List.mem_iff_getElem?.2 ⟨i, hi⟩)
    · exact ih hL' _ _ _ hres hacc hmir hleft

/-! ## 3. `scale_group` -/

theorem scaleFound_get?_of_not_mem (g : VirtualClusterGroup) (scalingPolicy : ScalingPolicy)
    (m : Magnum) {n : String} (hn : n ∉ g.clusters.map (·.name)) :
    (scaleFound g scalingPolicy m).2.nodeCounts.get? n = m.nodeCounts.get? n := by
  simp only [scaleFound, scaleOutGroup, scaleInGroup]
  split_ifs
  exacts [rfl, scaleOutLoop_get?_of_not_mem _ _ _ _ _ hn, scaleInLoop_get?_of_not_mem _ _ _ _
    fun p hp he => hn (he ▸ List.mem_map_of_mem _ (List.mem_iff_getElem?.2 ⟨_, byCostDesc_getElem? hp⟩)),
    rfl, rfl]

/-- `scale_group` writes Magnum's count of no cluster outside the group it names. -/
theorem scaleGroup_get?_of_not_mem (mgr : Manager) (groupName : String)
    (scalingPolicy : ScalingPolicy) {n : String}
    (hn : ∀ g, mgr.virtualGroups.get? groupName = some g → n ∉ g.clusters.map (·.name)) :
    (mgr.scaleGroup groupName scalingPolicy).2.magnum.nodeCounts.get? n =
      mgr.magnum.nodeCounts.get? n := by
  rcases hg : mgr.virtualGroups.get? groupName with _ | g
  · simp [Manager.scaleGroup, hg]
  · rw [scaleGroup_of_get? hg]
    exact scaleFound_get?_of_not_mem g scalingPolicy mgr.magnum (hn g hg)

theorem scaleFound_updates (g : VirtualClusterGroup) (scalingPolicy : ScalingPolicy) (m : Magnum) :
    ∃ j, (scaleFound g scalingPolicy m).2.updates = m.updates.drop j := by
  simp only [scaleFound, scaleOutGroup, scaleInGroup]
  split_ifs
  exacts [⟨0, rfl⟩, scaleOutLoop_updates .., scaleInLoop_updates .., ⟨0, rfl⟩, ⟨0, rfl⟩]

/-- **`scale_group`, Magnum accepting.**  On a group whose cluster names are distinct and whose
counts Magnum holds, Magnum holds the new counts after `scale_group`, provided it accepted every
update it was sent. -/
theorem scaleFound_mirrors (g : VirtualClusterGroup) (scalingPolicy : ScalingPolicy) {m : Magnum}
    (hnd : (g.clusters.map (·.name)).Nodup) (hacc : AllAccepted m)
    (hmir : Mirrors m.nodeCounts g.clusters) (hleft : (scaleFound g scalingPolicy m).2.updates ≠ []) :
    Mirrors (scaleFound g scalingPolicy m).2.nodeCounts (scaleFound g scalingPolicy m).1.clusters := by
  simp only [scaleFound, scaleOutGroup, scaleInGroup] at hleft ⊢
  split_ifs at hleft ⊢
  exacts [hmir, scaleOutLoop_mirrors _ _ _ _ _ hnd hacc hmir hleft,
    scaleInLoop_mirrors hnd _ (fun _ => byCostDesc_getElem?) _ _ _
      (List.forall₂_same.2 fun _ _ => rfl) hacc hmir hleft, hmir, hmir]

/-! ## 4. Runs -/

/-- The manager and Magnum agree: cluster names are distinct within a group and across groups,
and Magnum holds the count recorded for every cluster. -/
structure InSync (mgr : Manager) : Prop where
  names_nodup : ∀ e ∈ mgr.virtualGroups, (e.2.clusters.map (·.name)).Nodup
  names_disjoint : ∀ e ∈ mgr.virtualGroups, ∀ e' ∈ mgr.virtualGroups, e.1 ≠ e'.1 →
    ∀ c ∈ e.2.clusters, ∀ c' ∈ e'.2.clusters, c.name ≠ c'.name
  mirrors : ∀ e ∈ mgr.virtualGroups, Mirrors mgr.magnum.nodeCounts e.2.clusters

@[simp] theorem refreshStatus_name (statusOf : String → Option String) (c : VirtualCluster) :
    (refreshStatus statusOf c).name = c.name := by
  unfold refreshStatus; split <;> rfl

theorem deleteMagnumClusters_get?_of_not_mem (cs : List VirtualCluster) (w : World) {n : String}
    (hn : n ∉ cs.map (·.name)) :
    (deleteMagnumClusters cs w).mgr.magnum.nodeCounts.get? n = w.mgr.magnum.nodeCounts.get? n := by
  induction cs generalizing w with
  | nil => rfl
  | cons c cs ih =>
    simp only [List.map_cons, List.mem_cons, not_or] at hn
    rw [deleteMagnumClusters, ih _ hn.2]
    split <;> simp [hn.1]

theorem deleteMagnumClusters_updates (cs : List VirtualCluster) (w : World) :
    (deleteMagnumClusters cs w).mgr.magnum.updates = w.mgr.magnum.updates := by
  induction cs generalizing w with
  | nil => rfl
  | cons c cs ih => rw [deleteMagnumClusters, ih]; split <;> rfl

section
variable {mgr : Manager} {k : String} {g : VirtualClusterGroup}

/-- A cluster of another group bears none of the names of `g`'s clusters. -/
theorem InSync.not_mem_names (h : InSync mgr) (hg : mgr.virtualGroups.get? k = some g)
    {e : String × VirtualClusterGroup} (he : e ∈ mgr.virtualGroups) (hk : e.1 ≠ k)
    {c : VirtualCluster} (hc : c ∈ e.2.clusters) : c.name ∉ g.clusters.map (·.name) := by
  intro hmem
  obtain ⟨c', hc', hname⟩ := List.mem_map.1 hmem
  exact h.names_disjoint e he (k, g) (Dict.mem_of_get?_eq_some hg) hk c hc c' hc' hname.symm

/-- Writing back a group whose clusters keep their names, with a Magnum that holds their counts
and changed no other name, keeps the manager in sync. -/
theorem InSync.set (h : InSync mgr) (hg : mgr.virtualGroups.get? k = some g)
    {g' : VirtualClusterGroup} (hnames : g'.clusters.map (·.name) = g.clusters.map (·.name))
    {m' : Magnum}
    (hframe : ∀ n ∉ g.clusters.map (·.name), m'.nodeCounts.get? n = mgr.magnum.nodeCounts.get? n)
    (hmir : Mirrors m'.nodeCounts g'.clusters) : InSync ⟨mgr.virtualGroups.set k g', m'⟩ := by
  have hmem := Dict.mem_of_get?_eq_some hg
  have hname' {c'} (hc' : c' ∈ g'.clusters) : c'.name ∈ g.clusters.map (·.name) :=
    hnames ▸ List.mem_map_of_mem _ hc'
  refine ⟨fun e he => ?_, fun e he e' he' hne c hc c' hc' => ?_, fun e he => ?_⟩
  · rcases Dict.mem_set he with ⟨he, -⟩ | rfl
    exacts [h.names_nodup e he, hnames ▸ h.names_nodup _ hmem]
  · rcases Dict.mem_set he with ⟨he, hk⟩ | rfl <;> rcases Dict.mem_set he' with ⟨he', hk'⟩ | rfl
    · exact h.names_disjoint e he e' he' hne c hc c' hc'
    · exact fun heq => h.not_mem_names hg he hk hc (heq ▸ hname' hc')
    · exact fun heq => h.not_mem_names hg he' hk' hc' (heq ▸ hname' hc)
    · exact absurd rfl hne
  · rcases Dict.mem_set he with ⟨he, hk⟩ | rfl
    · exact fun c hc => (hframe _ (h.not_mem_names hg he hk hc)).trans (h.mirrors e he c hc)
    · exact hmir

/-- Dropping a group, with a Magnum that changed none of the other groups' names, keeps the
manager in sync. -/
theorem InSync.erase (h : InSync mgr) (hg : mgr.virtualGroups.get? k = some g) {m' : Magnum}
    (hframe : ∀ n ∉ g.clusters.map (·.name), m'.nodeCounts.get? n = mgr.magnum.nodeCounts.get? n) :
    InSync ⟨mgr.virtualGroups.erase k, m'⟩ := by
  have hmem (e) (he : e ∈ mgr.virtualGroups.erase k) : e ∈ mgr.virtualGroups ∧ e.1 ≠ k := by
    simpa [Dict.erase] using he
  refine ⟨fun e he => h.names_nodup e (hmem e he).1,
    fun e he e' he' => h.names_disjoint e (hmem e he).1 e' (hmem e' he').1, fun e he c hc => ?_⟩
  exact (hframe _ (h.not_mem_names hg (hmem e he).1 (hmem e he).2 hc)).trans
    (h.mirrors e (hmem e he).1 c hc)

/-- A new empty group keeps the manager in sync. -/
theorem InSync.setInit (h : InSync mgr) (name groupType : String) :
    InSync { mgr with virtualGroups := mgr.virtualGroups.set name (init name groupType) } := by
  refine ⟨fun e he => ?_, fun e he e' he' hne c hc c' hc' => ?_, fun e he => ?_⟩
  · rcases Dict.mem_set he with ⟨he, -⟩ | rfl
    exacts [h.names_nodup e he, List.nodup_nil]
  · rcases Dict.mem_set he with ⟨he, -⟩ | rfl <;> rcases Dict.mem_set he' with ⟨he', -⟩ | rfl
    · exact h.names_disjoint e he e' he' hne c hc c' hc'
    all_goals simp [init] at hc hc'
  · rcases Dict.mem_set he with ⟨he, -⟩ | rfl
    exacts [h.mirrors e he, fun c hc => by simp [init] at hc]

end

/-- Whether a call creates clusters: only `create_group_with_clusters` does. -/
def Call.createsClusters : Call → Bool
  | .createGroupWithClusters .. => true
  | _ => false

/-- Calls one after another. -/
def World.run (w : World) (calls : List Call) : World := calls.foldl World.call w

section
variable {w : World}

theorem call_updates (c : Call) (hc : c.createsClusters = false) :
    ∃ j, (w.call c).mgr.magnum.updates = w.mgr.magnum.updates.drop j := by
  cases c with
  | createVirtualGroup name groupType =>
    refine ⟨0, ?_⟩
    dsimp only [World.call, Manager.createVirtualGroup]
    split_ifs <;> rfl
  | createGroupWithClusters => cases hc
  | scaleGroup groupName scalingPolicy =>
    dsimp only [World.call, Manager.scaleGroup]
    split
    exacts [⟨0, rfl⟩, scaleFound_updates ..]
  | getGroupStatus groupName statusOf =>
    refine ⟨0, ?_⟩
    dsimp only [World.call, Manager.getGroupStatus]
    split <;> rfl
  | deleteVirtualGroup groupName deleteClusters =>
    refine ⟨0, ?_⟩
    dsimp only [World.call, World.deleteVirtualGroup]
    split
    · rfl
    · split_ifs
      exacts [deleteMagnumClusters_updates .., rfl]

theorem InSync.call (h : InSync w.mgr) (hacc : AllAccepted w.mgr.magnum) (c : Call)
    (hc : c.createsClusters = false) (hleft : (w.call c).mgr.magnum.updates ≠ []) :
    InSync (w.call c).mgr := by
  cases c with
  | createVirtualGroup name groupType =>
    dsimp only [World.call, Manager.createVirtualGroup]
    split_ifs
    exacts [h, h.setInit name groupType]
  | createGroupWithClusters => cases hc
  | scaleGroup groupName scalingPolicy =>
    dsimp only [World.call] at hleft ⊢
    rcases hg : w.mgr.virtualGroups.get? groupName with _ | g
    · simpa [Manager.scaleGroup, hg] using h
    · rw [scaleGroup_of_get? hg] at hleft ⊢
      have hmem := Dict.mem_of_get?_eq_some hg
      exact h.set hg (map_eq_of_rescaled (·.name) (fun _ _ => rfl) (scaleFound_rescaled ..))
        (fun n hn => scaleFound_get?_of_not_mem _ _ _ hn)
        (scaleFound_mirrors _ _ (h.names_nodup _ hmem) hacc (h.mirrors _ hmem) hleft)
  | getGroupStatus groupName statusOf =>
    dsimp only [World.call, Manager.getGroupStatus]
    split
    · exact h
    · rename_i g hg
      refine h.set hg (by simp [Function.comp_def]) (fun _ _ => rfl) fun c hc => ?_
      obtain ⟨c₀, hc₀, rfl⟩ := List.mem_map.1 hc
      simpa using h.mirrors _ (Dict.mem_of_get?_eq_some hg) c₀ hc₀
  | deleteVirtualGroup groupName deleteClusters =>
    dsimp only [World.call, World.deleteVirtualGroup]
    split
    · exact h
    · rename_i g hg
      split_ifs
      · rw [deleteMagnumClusters_groups]
        exact h.erase hg fun n hn => deleteMagnumClusters_get?_of_not_mem _ _ hn
      · exact h.erase hg fun _ _ => rfl

theorem run_updates (calls : List Call) (hcalls : ∀ c ∈ calls, c.createsClusters = false) :
    ∃ j, (w.run calls).mgr.magnum.updates = w.mgr.magnum.updates.drop j := by
  induction calls generalizing w with
  | nil => exact ⟨0, rfl⟩
  | cons c calls ih =>
    obtain ⟨i, hi⟩ := call_updates (w := w) c (hcalls c (List.mem_cons_self _ _))
    obtain ⟨j, hj⟩ := ih (w := w.call c) fun c' hc' => hcalls c' (List.mem_cons_of_mem _ hc')
    exact ⟨i + j, by rw [World.run, List.foldl_cons, ← World.run, hj, hi, List.drop_drop]⟩

theorem InSync.run (calls : List Call) (hcalls : ∀ c ∈ calls, c.createsClusters = false)
    (h : InSync w.mgr) (hacc : AllAccepted w.mgr.magnum)
    (hleft : (w.run calls).mgr.magnum.updates ≠ []) : InSync (w.run calls).mgr := by
  induction calls generalizing w with
  | nil => exact h
  | cons c calls ih =>
    have hc := hcalls c (List.mem_cons_self _ _)
    have hcalls' := fun c' hc' => hcalls c' (List.mem_cons_of_mem _ hc')
    obtain ⟨i, hi⟩ := call_updates (w := w) c hc
    obtain ⟨j, hj⟩ := run_updates (w := w.call c) calls hcalls'
    exact ih hcalls' (h.call hacc c hc (updates_ne_nil_of_drop hj hleft)) (hacc.drop hi) hleft

/-- **The records stay a copy of Magnum while Magnum accepts.**  From a manager whose cluster
names are distinct and whose records Magnum holds, any run of `create_virtual_group`,
`scale_group`, `get_group_status` and `delete_virtual_group` calls in which Magnum accepts every
update (its answers are all successes, and they last the run) ends with Magnum holding the count
recorded for every cluster, the names still distinct; and `scale_group`, from any manager, sends
Magnum counts for its own group's cluster names only. -/
theorem inSync_run (calls : List Call) (hcalls : ∀ c ∈ calls, c.createsClusters = false)
    (h : InSync w.mgr) (hacc : AllAccepted w.mgr.magnum)
    (hleft : (w.run calls).mgr.magnum.updates ≠ []) :
    InSync (w.run calls).mgr ∧
      ∀ (mgr : Manager) groupName scalingPolicy n,
        (∀ g, mgr.virtualGroups.get? groupName = some g → n ∉ g.clusters.map (·.name)) →
          (mgr.scaleGroup groupName scalingPolicy).2.magnum.nodeCounts.get? n =
            mgr.magnum.nodeCounts.get? n :=
  ⟨InSync.run calls hcalls h hacc hleft, fun mgr groupName scalingPolicy _ hn =>
    scaleGroup_get?_of_not_mem mgr groupName scalingPolicy hn⟩

end

/-- `sampleManager`, Magnum holding its counts and accepting three updates. -/
def syncWorld : World := ⟨sampleManager [true, true, true], [], []⟩

/-- Scale the group to nine nodes, then read its statuses back. -/
def syncCalls : List Call :=
  [.scaleGroup "g" ⟨some "horizontal", some 9⟩, .getGroupStatus "g" fun _ => some "CREATE_COMPLETE"]

theorem inSync_run_syncWorld :
    (∀ c ∈ syncCalls, c.createsClusters = false) ∧ InSync syncWorld.mgr ∧
      AllAccepted syncWorld.mgr.magnum ∧ (syncWorld.run syncCalls).mgr.magnum.updates ≠ [] ∧
      InSync (syncWorld.run syncCalls).mgr ∧
      ∀ (mgr : Manager) groupName scalingPolicy n,
        (∀ g, mgr.virtualGroups.get? groupName = some g → n ∉ g.clusters.map (·.name)) →
          (mgr.scaleGroup groupName scalingPolicy).2.magnum.nodeCounts.get? n =
            mgr.magnum.nodeCounts.get? n :=
  have h : InSync syncWorld.mgr := ⟨by decide, by decide, by decide⟩
  ⟨by decide, h, by decide, by decide, inSync_run syncCalls (by decide) h (by decide) (by decide)⟩

end OpenKCloud.VirtualGroup
