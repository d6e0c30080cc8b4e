import ClusterSteward.Migration.Running
import ClusterSteward.Proofs.Cluster.Listing
import ClusterSteward.Proofs.Cluster.Moving
import ClusterSteward.Proofs.Plan.Planning

/-!
# Runs of jobs

A cluster in memory serves one job after another: migrations and single reshards, each with its
own endpoint, refused step and cancellation. Main statements: `Applied.disjoint` and
`Applied.owned_iff`, by which applied plans neither lose nor duplicate a slot,
`Job.applied_of_perform`, which says which plans a job has applied when it returns, and
`sound_of_mem_runJobs`, which holds of every job of every run.
-/

namespace ClusterSteward

/-- What a cluster may be asked to do. -/
inductive Operation where
  | spread
  | empty (id : String) (word : UInt64)
  | merge (target source : String)
  | reshard (plan : Plan)
  deriving DecidableEq, Repr

/-- The arithmetic of planning the operation fails on the listing. -/
def Operation.PlanningFaults (listing : Listing) (fault : Fault) : Operation → Prop
  | .spread => Planning.spread listing = .error fault
  | .empty id word => Planning.empty listing id word = .error fault
  | .merge target source => Planning.merge listing target source = .error fault
  | .reshard _ => False

/-- A job: an operation, asked for at an endpoint. The reshard with number `failOn` is refused, and
the token of the job is cancelled from the moment at which `cancelAt` plans have been applied to the
cluster. -/
structure Job where
  endpoint : Endpoint
  operation : Operation
  failOn : Option Nat
  cancelAt : Option Nat
  deriving DecidableEq, Repr

namespace Job

/-- Whether the token of the job is cancelled by the time the cluster is as it is. -/
def isCancelled (job : Job) (cluster : Cluster) : Bool :=
  job.cancelAt.any (· ≤ cluster.applied.length)

/-- The cluster in memory as the topology that the job sees. -/
def topology (job : Job) : Topology Cluster where
  listing := Cluster.topology.listing
  reshard endpoint plan cluster := Cluster.topology.reshard endpoint plan
    { cluster with failOn := job.failOn, cancelled := job.isCancelled cluster }

/-- The result of a job and the cluster after it. -/
def perform (job : Job) (cluster : Cluster) :
    Counted (Except MigrationError Migrated × Cluster) :=
  match job.operation with
  | .spread => Migration.spread job.topology job.endpoint cluster
  | .empty id word => Migration.empty job.topology job.endpoint id word cluster
  | .merge target source => Migration.merge job.topology job.endpoint target source cluster
  | .reshard plan => do
      let (result, after) ← job.topology.reshard job.endpoint plan cluster
      match result with
      | .error cause => return (.error (.tool cause), after)
      | .ok () => return (.ok ⟨[plan]⟩, after)

end Job

/-- What is known of a job that was served. -/
structure Record where
  job : Job
  before : Cluster
  outcome : Counted (Except MigrationError Migrated)
  after : Cluster

/-- Serve a job. A job that ends in a fault leaves the cluster as it was, because only
planning can fault. -/
def Job.serve (job : Job) (cluster : Cluster) : Record :=
  match job.perform cluster with
  | .ok (result, after) => ⟨job, cluster, .ok result, after⟩
  | .error fault => ⟨job, cluster, .error fault, cluster⟩

/-- Serve jobs one after another. -/
def runJobs : Cluster → List Job → List Record
  | _, [] => []
  | cluster, job :: jobs =>
      job.serve cluster :: runJobs (job.serve cluster).after jobs

/-! ## Applied plans -/

/-- The members of a cluster and the plans that were applied to it are the same before and after. -/
structure Unchanged (before after : Cluster) : Prop where
  members_eq : after.members = before.members
  applied_eq : after.applied = before.applied

/-- The plans were applied one after another, and nothing else happened to the members. -/
inductive Applied : Cluster → List Plan → Cluster → Prop where
  | none {before after : Cluster} (hunchanged : Unchanged before after) : Applied before [] after
  | next {before start middle after : Cluster} {plan : Plan} {plans : List Plan}
      (hunchanged : Unchanged before start) (happly : start.apply plan = .ok middle)
      (hrest : Applied middle plans after) : Applied before (plan :: plans) after

/-- A plan that is applied moves slots in a transfer to a member, and is listed as applied. -/
theorem Cluster.transfer_of_apply {before after : Cluster} {plan : Plan}
    (h : before.apply plan = .ok after) :
    (∃ target kept given moved, target < before.members.length ∧
      Transfer before.members target kept given moved after.members) ∧
      after.applied = before.applied ++ [plan] := by
  obtain ⟨-, target, withdrawal, htarget, hwithdraw, rfl⟩ := apply_eq_ok_iff.1 h
  obtain ⟨member, hmember, -⟩ := exists_of_placeOf? htarget
  obtain ⟨hlt, -⟩ := List.getElem?_eq_some_iff.1 hmember
  obtain ⟨kept, given, htransfer⟩ := exists_transfer hwithdraw
  exact ⟨⟨target, kept, given, withdrawal.moved, hlt, htransfer⟩, rfl⟩

namespace Applied

variable {before after : Cluster} {plans : List Plan}

/-- Exactly the plans are added to those that were applied. -/
theorem applied_eq (h : Applied before plans after) : after.applied = before.applied ++ plans := by
  induction h with
  | none hunchanged => rw [hunchanged.applied_eq, List.append_nil]
  | next hunchanged happly hrest ih =>
      rw [ih, (Cluster.transfer_of_apply happly).2, hunchanged.applied_eq, List.append_assoc]
      rfl

/-- Applied plans change nothing of the members but their slots. -/
theorem sameNodes (h : Applied before plans after) : SameNodes before.members after.members := by
  induction h with
  | none hunchanged => rw [SameNodes, hunchanged.members_eq]
  | next hunchanged happly hrest ih =>
      obtain ⟨⟨_, _, _, _, -, htransfer⟩, -⟩ := Cluster.transfer_of_apply happly
      rw [SameNodes, ih, htransfer.sameNodes, hunchanged.members_eq]

/-- Applied plans leave disjoint slots disjoint. -/
theorem disjoint (h : Applied before plans after) (hdisjoint : DisjointSlots before.members) :
    DisjointSlots after.members := by
  induction h with
  | none hunchanged => rwa [hunchanged.members_eq]
  | next hunchanged happly hrest ih =>
      obtain ⟨⟨_, _, _, _, -, htransfer⟩, -⟩ := Cluster.transfer_of_apply happly
      rw [← hunchanged.members_eq] at hdisjoint
      exact ih (htransfer.disjoint hdisjoint)

/-- Applied plans lose no slot and add none. -/
theorem owned_iff (h : Applied before plans after) (slot : Slot) :
    OwnedSlot after.members slot ↔ OwnedSlot before.members slot := by
  induction h with
  | none hunchanged => rw [hunchanged.members_eq]
  | next hunchanged happly hrest ih =>
      obtain ⟨⟨_, _, _, _, htarget, htransfer⟩, -⟩ := Cluster.transfer_of_apply happly
      rw [ih, htransfer.owned_iff htarget, hunchanged.members_eq]

/-- What changes nothing may be put before applied plans. -/
theorem of_unchanged {start : Cluster} (hunchanged : Unchanged before start)
    (h : Applied start plans after) : Applied before plans after := by
  cases h with
  | none hrest =>
      exact .none ⟨hrest.members_eq.trans hunchanged.members_eq,
        hrest.applied_eq.trans hunchanged.applied_eq⟩
  | next hrest happly hafter =>
      exact .next ⟨hrest.members_eq.trans hunchanged.members_eq,
        hrest.applied_eq.trans hunchanged.applied_eq⟩ happly hafter

/-- Plans that are applied after other plans are applied with them. -/
theorem append {middle : Cluster} {others : List Plan} (h : Applied before plans middle)
    (hothers : Applied middle others after) : Applied before (plans ++ others) after := by
  induction h with
  | none hunchanged => exact hothers.of_unchanged hunchanged
  | next hunchanged happly hrest ih => exact .next hunchanged happly (ih hothers)

end Applied

/-! ## What a job applies -/

namespace Job

variable {job : Job} {endpoint : Endpoint} {cluster after : Cluster}

/-- A reshard is either applied, and then its token was not cancelled, or changes nothing. -/
theorem reshard_cases {plan : Plan} {result : Except ToolError Unit}
    (h : job.topology.reshard endpoint plan cluster = .ok (result, after)) :
    (result = .ok () ∧ job.isCancelled cluster = false ∧ Applied cluster [plan] after) ∨
      ∃ cause, result = .error cause ∧ Unchanged cluster after := by
  have heq := Except.ok.inj h
  rw [Cluster.reshard] at heq
  cases hcancelled : job.isCancelled cluster with
  | true =>
      rw [hcancelled, if_pos rfl] at heq
      cases heq
      exact .inr ⟨_, rfl, rfl, rfl⟩
  | false =>
      simp only [hcancelled, Bool.false_eq_true, if_false] at heq
      split at heq
      next middle happly =>
        cases heq
        have hstart : Unchanged cluster { cluster with failOn := job.failOn, cancelled := false } :=
          ⟨rfl, rfl⟩
        exact .inl ⟨rfl, rfl, .next hstart happly (.none ⟨rfl, rfl⟩)⟩
      next cause _ =>
        cases heq
        exact .inr ⟨cause, rfl, rfl, rfl⟩

/-- A result tells which plans were applied: those of a success, those before the failed step of an
interruption, and none for any other failure. -/
def Reports (done : List Plan) : Except MigrationError Migrated → Prop
  | .ok migrated => done = migrated.completed
  | .error (.interrupted interruption) =>
      done.map Plan.target = interruption.completed ∧ done.length + 1 = interruption.step
  | .error _ => done = []

/-- Running plans applies them up to the first one that fails. -/
theorem applied_of_runPlans {total : Nat} {completed plans : List Plan}
    {result : Except MigrationError Migrated}
    (h : Migration.runPlans job.topology endpoint total completed plans cluster =
      .ok (result, after)) :
    ∃ done, Applied cluster done after ∧ Reports (completed ++ done) result ∧
      (job.isCancelled cluster = true → done = []) := by
  induction plans generalizing completed cluster with
  | nil =>
      rw [Migration.runPlans, pure_eq_ok_iff] at h
      cases h
      exact ⟨[], .none ⟨rfl, rfl⟩, List.append_nil completed, fun _ => rfl⟩
  | cons plan plans ih =>
      obtain ⟨⟨stepResult, middle⟩, hstep, hrest⟩ := bind_eq_ok_iff.1 h
      -- a step that fails is the last one, and what was applied before it is reported
      rcases reshard_cases hstep with ⟨rfl, hcancelled, happlied⟩ | ⟨cause, rfl, hunchanged⟩
      · obtain ⟨done, hdone, hreports, -⟩ := ih hrest
        refine ⟨plan :: done, happlied.append hdone, ?_, ?_⟩
        · simpa using hreports
        · rw [hcancelled]
          exact fun hfalse => absurd hfalse Bool.false_ne_true
      · have heq := pure_eq_ok_iff.1 hrest
        cases heq
        refine ⟨[], .none hunchanged, ?_, fun _ => rfl⟩
        simp [Reports]

/-- Running one plan applies it, unless it was refused or fails. -/
theorem applied_of_runPlan {name : String} {planned : Except Refusal Plan}
    {result : Except MigrationError Migrated}
    (h : Migration.runPlan job.topology endpoint name planned cluster = .ok (result, after)) :
    ∃ done, Applied cluster done after ∧ Reports done result ∧
      (job.isCancelled cluster = true → done = []) := by
  cases planned with
  | error refusal =>
      cases pure_eq_ok_iff.1 h
      exact ⟨[], .none ⟨rfl, rfl⟩, rfl, fun _ => rfl⟩
  | ok plan =>
      obtain ⟨⟨stepResult, middle⟩, hstep, hrest⟩ := bind_eq_ok_iff.1 h
      rcases reshard_cases hstep with ⟨rfl, hcancelled, happlied⟩ | ⟨cause, rfl, hunchanged⟩
      · cases pure_eq_ok_iff.1 hrest
        refine ⟨[plan], happlied, rfl, ?_⟩
        rw [hcancelled]
        exact fun hfalse => absurd hfalse Bool.false_ne_true
      · cases pure_eq_ok_iff.1 hrest
        exact ⟨[], .none hunchanged, rfl, fun _ => rfl⟩

/-- A job that returns has applied the plans that its result tells, none of them under a
cancelled token. -/
theorem applied_of_perform {result : Except MigrationError Migrated}
    (h : job.perform cluster = .ok (result, after)) :
    ∃ done, Applied cluster done after ∧ Reports done result ∧
      (job.isCancelled cluster = true → done = []) := by
  have hlisted : Unchanged cluster { cluster with listings := cluster.listings + 1 } := ⟨rfl, rfl⟩
  unfold perform at h
  cases hoperation : job.operation with
  | spread =>
      rw [hoperation] at h
      obtain ⟨text, -, hrest⟩ := (Cluster.listing_bind_eq_ok_iff job.endpoint).1 h
      obtain ⟨plans, -, hplans⟩ := bind_eq_ok_iff.1 hrest
      obtain ⟨done, hdone, hreports⟩ := applied_of_runPlans hplans
      exact ⟨done, hdone.of_unchanged hlisted, hreports⟩
  | empty id word =>
      rw [hoperation] at h
      obtain ⟨text, -, hrest⟩ := (Cluster.listing_bind_eq_ok_iff job.endpoint).1 h
      obtain ⟨planned, -, hplan⟩ := bind_eq_ok_iff.1 hrest
      obtain ⟨done, hdone, hreports⟩ := applied_of_runPlan hplan
      exact ⟨done, hdone.of_unchanged hlisted, hreports⟩
  | merge target source =>
      rw [hoperation] at h
      obtain ⟨text, -, hrest⟩ := (Cluster.listing_bind_eq_ok_iff job.endpoint).1 h
      obtain ⟨planned, -, hplan⟩ := bind_eq_ok_iff.1 hrest
      obtain ⟨done, hdone, hreports⟩ := applied_of_runPlan hplan
      exact ⟨done, hdone.of_unchanged hlisted, hreports⟩
  | reshard plan =>
      rw [hoperation] at h
      have hplan : Migration.runPlan job.topology job.endpoint "" (.ok plan) cluster =
          .ok (result, after) := h
      exact applied_of_runPlan hplan

/-! ## Faults -/

/-- Running plans does not fault. -/
theorem runPlans_ne_error {total : Nat} {completed plans : List Plan} {fault : Fault} :
    Migration.runPlans job.topology endpoint total completed plans cluster ≠ .error fault := by
  induction plans generalizing completed cluster with
  | nil => exact pure_ne_error
  | cons plan plans ih =>
      intro h
      rcases bind_eq_error_iff.1 h with hstep | ⟨⟨result, middle⟩, -, hrest⟩
      · cases hstep
      · cases result with
        | ok done => exact ih hrest
        | error cause => exact pure_ne_error hrest

/-- Running one plan does not fault. -/
theorem runPlan_ne_error {name : String} {planned : Except Refusal Plan} {fault : Fault} :
    Migration.runPlan job.topology endpoint name planned cluster ≠ .error fault := by
  cases planned with
  | error refusal => exact pure_ne_error
  | ok plan =>
      intro h
      rcases bind_eq_error_iff.1 h with hstep | ⟨⟨result, middle⟩, -, hrest⟩
      · cases hstep
      · cases result with
        | ok done => exact pure_ne_error hrest
        | error cause => exact pure_ne_error hrest

/-- A job faults before its first reshard: the cluster has no text, or planning faults. -/
theorem planningFaults_of_perform {fault : Fault} (h : job.perform cluster = .error fault) :
    cluster.text = .error fault ∨ ∃ text, cluster.text = .ok text ∧
      job.operation.PlanningFaults (.parse text) fault := by
  unfold perform at h
  cases hoperation : job.operation with
  | spread =>
      rw [hoperation] at h
      refine ((Cluster.listing_bind_eq_error_iff job.endpoint).1 h).imp_right ?_
      rintro ⟨text, htext, hrest⟩
      rcases bind_eq_error_iff.1 hrest with hplanning | ⟨plans, -, hplans⟩
      · exact ⟨text, htext, hplanning⟩
      · exact absurd hplans runPlans_ne_error
  | empty id word =>
      rw [hoperation] at h
      refine ((Cluster.listing_bind_eq_error_iff job.endpoint).1 h).imp_right ?_
      rintro ⟨text, htext, hrest⟩
      rcases bind_eq_error_iff.1 hrest with hplanning | ⟨planned, -, hplan⟩
      · exact ⟨text, htext, hplanning⟩
      · exact absurd hplan runPlan_ne_error
  | merge target source =>
      rw [hoperation] at h
      refine ((Cluster.listing_bind_eq_error_iff job.endpoint).1 h).imp_right ?_
      rintro ⟨text, htext, hrest⟩
      rcases bind_eq_error_iff.1 hrest with hplanning | ⟨planned, -, hplan⟩
      · exact ⟨text, htext, hplanning⟩
      · exact absurd hplan runPlan_ne_error
  | reshard plan =>
      rw [hoperation] at h
      have hplan : Migration.runPlan job.topology job.endpoint "" (.ok plan) cluster =
          .error fault := h
      exact absurd hplan runPlan_ne_error

end Job

/-- Planning does not fault on the listing of a cluster of at most so many members. -/
theorem Operation.not_planningFaults {members : List Member} (hsize : members.length ≤ 48536)
    (operation : Operation) (fault : Fault) :
    ¬ operation.PlanningFaults ⟨members.map Member.node⟩ fault := by
  have hcount : ∀ {id : String} {node : Node},
      (Listing.mk (members.map Member.node)).find? id = some node →
        node.slotCount ≠ .error fault := by
    intro id node hnode
    obtain ⟨member, -, rfl⟩ := List.mem_map.1 (Listing.mem_of_find?_eq_some hnode).1
    rw [Member.slotCount_node]
    exact nofun
  cases operation with
  | spread =>
      intro h
      obtain ⟨-, hpos, hdvd⟩ := Share.perNode_eq_error_iff.1 (Planning.spread_eq_error_iff.1 h)
      rw [Listing.size, List.length_map] at hpos hdvd
      have hlimit : countLimit ≤ 48536 :=
        Nat.le_trans (Nat.le_of_dvd (Nat.pos_of_ne_zero hpos) hdvd) hsize
      exact absurd hlimit (by decide)
  | empty id word =>
      intro h
      obtain ⟨node, ⟨receivers, hfound⟩, hslots⟩ := Planning.empty_eq_error_iff.1 h
      exact hcount (Planning.of_evacuation hfound).1 hslots
  | merge target source =>
      intro h
      obtain ⟨node, ⟨receiver, hpair⟩, hslots⟩ := Planning.merge_eq_error_iff.1 h
      exact hcount (Planning.of_mergePair hpair).2.2 hslots
  | reshard plan => exact id

/-! ## Runs -/

namespace SameNodes

variable {before after : Cluster} (h : SameNodes before.members after.members)

include h

/-- Ports do not depend on slots. -/
theorem numbered (hnumbered : before.Numbered) : after.Numbered := by
  intro place new hnew
  obtain ⟨old, hold, heq⟩ := h.exists_before hnew
  rw [heq]
  exact hnumbered place old hold

/-- Names do not depend on slots. -/
theorem named (hnamed : ∀ member ∈ before.members, member.Named) :
    ∀ member ∈ after.members, member.Named := by
  intro new hnew
  obtain ⟨place, hplace⟩ := List.mem_iff_getElem?.1 hnew
  obtain ⟨old, hold, heq⟩ := h.exists_before hplace
  have holdNamed := hnamed old (List.mem_of_getElem? hold)
  rw [heq]
  exact ⟨holdNamed.id_name, holdNamed.master_name⟩

end SameNodes

/-- What holds of a cluster while it serves jobs: it has its initial members, aside from their
slots, these are disjoint, and as many slots are owned as at first. -/
structure Continues (initial current : Cluster) : Prop where
  sameNodes : SameNodes initial.members current.members
  disjoint : DisjointSlots current.members
  owned_iff : ∀ slot, OwnedSlot current.members slot ↔ OwnedSlot initial.members slot

/-- What a served job has done, in a run that started with the cluster `initial`. -/
structure Record.Sound (initial : Cluster) (record : Record) : Prop where
  /-- No slot has two owners afterwards. -/
  disjoint : DisjointSlots record.after.members
  /-- The slots that are owned afterwards are those that were owned initially. -/
  owned_iff : ∀ slot, OwnedSlot record.after.members slot ↔ OwnedSlot initial.members slot
  /-- A success has applied its plans. -/
  migrated : ∀ migrated, record.outcome = .ok (.ok migrated) →
    Applied record.before migrated.completed record.after
  /-- A failure other than an interruption changes nothing. -/
  failed : ∀ cause, record.outcome = .ok (.error cause) →
    (∀ interruption, cause ≠ .interrupted interruption) → Unchanged record.before record.after
  /-- An interruption at a step has applied the plans before that step, which are those named. -/
  interrupted : ∀ interruption, record.outcome = .ok (.error (.interrupted interruption)) →
    ∃ done, done.map Plan.target = interruption.completed ∧
      done.length + 1 = interruption.step ∧
      record.after.applied = record.before.applied ++ done ∧
      Applied record.before done record.after
  /-- Under a cancelled token nothing changes. -/
  cancelled : record.job.isCancelled record.before = true → Unchanged record.before record.after
  /-- A fault comes from planning on the listing. -/
  faulted : ∀ fault, record.outcome = .error fault → ∃ text, record.before.text = .ok text ∧
    record.job.operation.PlanningFaults (.parse text) fault
  /-- There is no fault when the members have proper names. -/
  returned : (∀ member ∈ initial.members, member.Named) → ∀ fault, record.outcome ≠ .error fault

namespace Continues

variable {initial cluster before after : Cluster} {plans : List Plan}

/-- A run starts with its initial cluster. -/
theorem refl (hdisjoint : DisjointSlots cluster.members) : Continues cluster cluster :=
  ⟨rfl, hdisjoint, fun _ => Iff.rfl⟩

/-- Applied plans continue a run. -/
theorem applied (h : Continues initial before) (happlied : Applied before plans after) :
    Continues initial after where
  sameNodes := happlied.sameNodes.trans h.sameNodes
  disjoint := happlied.disjoint h.disjoint
  owned_iff slot := (happlied.owned_iff slot).trans (h.owned_iff slot)

/-- Every job continues a run. -/
theorem serve (h : Continues initial cluster) (job : Job) :
    Continues initial (job.serve cluster).after := by
  unfold Job.serve
  cases hperform : job.perform cluster with
  | error fault => exact h
  | ok value =>
      obtain ⟨result, after⟩ := value
      obtain ⟨done, hdone, -⟩ := Job.applied_of_perform hperform
      exact h.applied hdone

end Continues

namespace Job

variable {initial cluster after : Cluster} {job : Job}

/-- A job that faults in the course of a run is sound: it has changed nothing. -/
theorem sound_of_fault {fault : Fault} (h : Continues initial cluster)
    (hsize : initial.members.length ≤ 48536) (hnumbered : initial.Numbered)
    (hperform : job.perform cluster = .error fault) : (job.serve cluster).Sound initial := by
  have hlength : cluster.members.length ≤ 48536 := by
    rw [h.sameNodes.length_eq]
    exact hsize
  obtain ⟨text, htext⟩ := (h.sameNodes.numbered hnumbered).exists_text hlength
  have hfault : job.operation.PlanningFaults (.parse text) fault := by
    rcases planningFaults_of_perform hperform with hnone | ⟨found, hfound, hfault⟩
    · rw [htext] at hnone
      cases hnone
    · obtain rfl : text = found := Except.ok.inj (htext.symm.trans hfound)
      exact hfault
  have hserve : job.serve cluster = ⟨job, cluster, .error fault, cluster⟩ := by
    rw [serve, hperform]
  rw [hserve]
  refine ⟨h.disjoint, h.owned_iff, nofun, nofun, nofun, fun _ => ⟨rfl, rfl⟩, ?_, ?_⟩
  · intro other hother
    obtain rfl : fault = other := Except.error.inj hother
    exact ⟨text, htext, hfault⟩
  · -- with proper names the text is read back as the members, on which planning does not fault
    intro hnamed
    rw [Cluster.parse_text (h.sameNodes.named hnamed) htext] at hfault
    exact absurd hfault (job.operation.not_planningFaults hlength fault)

/-- A job that returns in the course of a run is sound: what it has applied is what it reports. -/
theorem sound_of_result {result : Except MigrationError Migrated} (h : Continues initial cluster)
    (hperform : job.perform cluster = .ok (result, after)) :
    (job.serve cluster).Sound initial := by
  have hafter := h.serve job
  obtain ⟨done, hdone, hreports, hcancelled⟩ := applied_of_perform hperform
  have hnone : done = [] → Unchanged cluster after := by
    rintro rfl
    cases hdone with
    | none hunchanged => exact hunchanged
  have hserve : job.serve cluster = ⟨job, cluster, .ok result, after⟩ := by
    rw [serve, hperform]
  rw [hserve] at hafter ⊢
  refine ⟨hafter.disjoint, hafter.owned_iff, ?_, ?_, ?_, fun h => hnone (hcancelled h), nofun,
    fun _ => nofun⟩
  · intro migrated hmigrated
    obtain rfl : result = .ok migrated := Except.ok.inj hmigrated
    obtain rfl : done = migrated.completed := hreports
    exact hdone
  · intro cause hcause hother
    obtain rfl : result = .error cause := Except.ok.inj hcause
    refine hnone ?_
    cases cause with
    | interrupted interruption => exact absurd rfl (hother interruption)
    | tool _ => exact hreports
    | refused _ _ => exact hreports
    | unwritable _ => exact hreports
  · intro interruption hinterrupted
    obtain rfl : result = .error (.interrupted interruption) := Except.ok.inj hinterrupted
    exact ⟨done, hreports.1, hreports.2, hdone.applied_eq, hdone⟩

/-- Whatever a job does in the course of a run is sound. -/
theorem sound_serve (job : Job) (h : Continues initial cluster)
    (hsize : initial.members.length ≤ 48536) (hnumbered : initial.Numbered) :
    (job.serve cluster).Sound initial := by
  cases hperform : job.perform cluster with
  | error fault => exact sound_of_fault h hsize hnumbered hperform
  | ok value => exact sound_of_result h hperform

end Job

/-- The jobs of a run leave the slots of a cluster disjoint and complete, and do what their results
say: a failure changes nothing, except that an interruption has applied the plans that it names. -/
theorem sound_of_mem_runJobs (cluster : Cluster) (jobs : List Job)
    (hsize : cluster.members.length ≤ 48536) (hnumbered : cluster.Numbered)
    (hdisjoint : DisjointSlots cluster.members) :
    ∀ record ∈ runJobs cluster jobs, record.Sound cluster := by
  have hrun : ∀ (jobs : List Job) (current : Cluster), Continues cluster current →
      ∀ record ∈ runJobs current jobs, record.Sound cluster := by
    intro jobs
    induction jobs with
    | nil =>
        intro current _ record hrecord
        cases hrecord
    | cons job jobs ih =>
        intro current hcontinues record hrecord
        rcases List.mem_cons.1 hrecord with rfl | hlater
        · exact job.sound_serve hcontinues hsize hnumbered
        · exact ih _ (hcontinues.serve job) record hlater
  exact hrun jobs cluster (.refl hdisjoint)

/-- Two masters with a few slots each serve a spread that is cancelled, a reshard, a merge, and a
reshard that is refused. -/
theorem sound_of_mem_runJobs_pair :
    let cluster : Cluster := { members :=
      [⟨"a", 7000, none, .ofRange ⟨0, 2⟩⟩, ⟨"b", 7001, none, .ofRange ⟨3, 9⟩⟩] }
    let endpoint : Endpoint := ⟨"127.0.0.1", 7000⟩
    let jobs : List Job := [⟨endpoint, .spread, none, some 0⟩,
      ⟨endpoint, .reshard ⟨"b", .node "a", 2⟩, none, none⟩,
      ⟨endpoint, .merge "b" "a", none, none⟩,
      ⟨endpoint, .reshard ⟨"a", .all, 4⟩, some 3, none⟩]
    cluster.members.length ≤ 48536 ∧ cluster.Numbered ∧ DisjointSlots cluster.members ∧
      ∀ record ∈ runJobs cluster jobs, record.Sound cluster := by
  intro cluster endpoint jobs
  have hsize : cluster.members.length ≤ 48536 := by decide
  have hnumbered : cluster.Numbered := Cluster.numbered_of_map_eq rfl
  have hdisjoint : DisjointSlots cluster.members := by
    refine List.pairwise_pair.2 fun slot hslot hother => ?_
    have hlow : slot.toNat ≤ 2 := (SlotRange.mem_iff.1 (SlotSet.mem_ofRange.1 hslot)).2
    have hhigh : 3 ≤ slot.toNat := (SlotRange.mem_iff.1 (SlotSet.mem_ofRange.1 hother)).1
    omega
  exact ⟨hsize, hnumbered, hdisjoint,
    sound_of_mem_runJobs cluster jobs hsize hnumbered hdisjoint⟩

end ClusterSteward
