import Bastion.Proofs.Attempts
import Bastion.Proofs.CallOrder
import Bastion.Proofs.Carriers

set_option autoImplicit false

namespace Bastion.Compute

section Offers

theorem memory_trans (one other third : MachineType) (first : decide (one.memory ≤ other.memory))
    (second : decide (other.memory ≤ third.memory)) : decide (one.memory ≤ third.memory) :=
  decide_eq_true (Int.le_trans (of_decide_eq_true first) (of_decide_eq_true second))

theorem memory_total (one other : MachineType) :
    decide (one.memory ≤ other.memory) || decide (other.memory ≤ one.memory) := by
  simpa using Int.le_total one.memory other.memory

/-- The first one of the types around another, which leads if none before it has less memory. -/
theorem head?_around {machine : MachineType} {before behind : List MachineType}
    (smaller : ∀ other ∈ before, other.memory < machine.memory)
    (least : ∀ other ∈ behind, machine.memory ≤ other.memory) :
    (before ++ machine :: behind).head? =
      some ((before ++ behind).head?.elim machine (minOn MachineType.memory machine)) := by
  cases before with
  | nil =>
    cases behind with
    | nil => rfl
    | cons next _ => simp [minOn, least next List.mem_cons_self]
  | cons first _ => simp [minOn, Int.not_le.2 (smaller first List.mem_cons_self)]

/-- Of the types that are kept, the first one of those sorted is the first one of least memory. -/
theorem head?_filter_sortByMemory (keep : MachineType → Bool) (machines : List MachineType) :
    ((sortByMemory machines).filter keep).head? =
      (machines.filter keep).minOn? MachineType.memory := by
  induction machines with
  | nil => simp [sortByMemory]
  | cons machine rest ih =>
    obtain ⟨before, behind, sorted, others, smaller⟩ :=
      List.mergeSort_cons memory_trans memory_total machine rest
    have ascending := List.pairwise_mergeSort memory_trans memory_total (machine :: rest)
    rw [sorted, List.pairwise_append, List.pairwise_cons] at ascending
    unfold sortByMemory at ih ⊢
    rw [others, List.filter_append] at ih
    rw [sorted, List.filter_append]
    cases kept : keep machine with
    | false =>
      have left : ¬keep machine = true := by simp [kept]
      rw [List.filter_cons_of_neg left, List.filter_cons_of_neg left, ih]
    | true =>
      rw [List.filter_cons_of_pos kept, List.filter_cons_of_pos kept, List.minOn?_cons, ← ih]
      apply head?_around
      · intro other member
        simpa using smaller other (List.mem_filter.1 member).1
      · intro other member
        exact of_decide_eq_true (ascending.2.1.1 other (List.mem_filter.1 member).1)

/-- What is available first is the type of least memory of those that are not deprecated. -/
theorem availableType_offersOf (zone : String) (machines : List MachineType) :
    (offersOf zone machines).availableType =
      ((machines.filter (!·.deprecated)).minOn? MachineType.memory).map MachineType.name := by
  rw [← head?_filter_sortByMemory]
  unfold offersOf
  cases current : (sortByMemory machines).filter (!·.deprecated) with
  | cons machine rest =>
    have member : machine ∈ (sortByMemory machines).filter (!·.deprecated) := by
      rw [current]
      exact List.mem_cons_self
    have sound : machine.deprecated = false := by simpa using (List.mem_filter.1 member).2
    simp [current, Cloud.Availability.availableType, MachineType.offer, sound]
  | nil =>
    cases former : (sortByMemory machines).filter (·.deprecated) with
    | nil => simp [current, former, Cloud.Availability.availableType]
    | cons machine rest =>
      have member : machine ∈ (sortByMemory machines).filter (·.deprecated) := by
        rw [former]
        exact List.mem_cons_self
      have stale : machine.deprecated = true := (List.mem_filter.1 member).2
      simp [current, former, Cloud.Availability.availableType, MachineType.offer, stale,
        Cloud.Availability.available]

end Offers

open Program

namespace Account

/-- Of the types that have so many cores and are not deprecated, the one of least memory; of several the
one listed first. -/
def leastType? (types : List MachineType) (cores : Int) : Option MachineType :=
  (types.filter fun type => type.cpus = cores ∧ type.deprecated = false).minOn? MachineType.memory

/-- The candidates up to the first one that has a type, and all of them where none has one. -/
def tried (types : List MachineType) (candidates : List Int) : List Int :=
  candidates.take (candidates.findIdx (fun cores => (leastType? types cores).isSome) + 1)

section

variable {types : List MachineType} {cores : Int} {rest : List Int}

theorem tried_cons_of_some {type : MachineType} (found : leastType? types cores = some type) :
    tried types (cores :: rest) = [cores] := by
  simp [tried, List.findIdx_cons, found]

theorem tried_cons_of_none (missing : leastType? types cores = none) :
    tried types (cores :: rest) = cores :: tried types rest := by
  simp [tried, List.findIdx_cons, missing]

theorem mem_of_leastType? {type : MachineType} (found : leastType? types cores = some type) :
    type ∈ types :=
  (List.mem_filter.1 (List.minOn?_mem found)).1

end

/-- A request for the types that have so many cores. -/
def probe (account : Account) (zone : String) (cores : Int) : signature.withStatus.Op :=
  .other (.service account.project (.listMachineTypes zone cores))

/-- In these states of an API, and in those that a list leaves, the types of the zone that have so many
cores are listed, in their order. -/
structure Stocks {σ : Type} (account : Account) (handler : Handler signature σ) (zone : String)
    (types : List MachineType) (stands : σ → Prop) : Prop where
  lists : ∀ {state : σ}, stands state → ∀ cores,
    (handler (.service account.project (.listMachineTypes zone cores)) state).answer =
      .ok (types.filter fun type => type.cpus = cores)
  stays : ∀ {state : σ}, stands state → ∀ cores,
    stands (handler (.service account.project (.listMachineTypes zone cores)) state).state

namespace Stocks

variable {σ : Type} {handler : Handler signature σ} {account : Account} {zone : String}
  {types : List MachineType} {stands : σ → Prop}

theorem fares_listAvailability (stocks : account.Stocks handler zone types stands) {state : σ}
    (standing : stands state) (cores : Int) :
    ∃ availability left, stands left ∧
      Cloud.Availability.availableType availability = (leastType? types cores).map MachineType.name ∧
      (account.carryOut (.listAvailability cores zone)).Fares handler state (.ok (some availability))
        [.service account.project (.listMachineTypes zone cores)] left := by
  have listed : (account.listAvailability cores zone).Fares handler state _ _ _ :=
    fares_retried (stocks.lists standing cores) (.inl ⟨_, rfl⟩) rfl
  refine ⟨_, _, stocks.stays standing cores, ?_, listed.map some⟩
  rw [availableType_offersOf, List.filter_filter]
  unfold leastType?
  simp [Bool.and_comm]

/-- The candidates are tried one after the other, up to the first one that has a type. -/
theorem fares_availableType (stocks : account.Stocks handler zone types stands)
    (named : ∀ type ∈ types, type.name ≠ "") (candidates : List Int) {site : Site σ}
    (standing : stands site.world) :
    ∃ after, ((Pass.availableType zone candidates).callsBesideStatusBy account.carryOut).Fares
      (Site.handler handler) site (.ok ((candidates.findSome? (leastType? types)).map MachineType.name))
      ((tried types candidates).map (account.probe zone)) after := by
  induction candidates generalizing site with
  | nil => exact ⟨site, rfl, rfl⟩
  | cons cores rest ih =>
    obtain ⟨availability, left, leftStanding, told, listed⟩ :=
      stocks.fares_listAvailability standing cores
    rw [List.findSome?_cons]
    cases found : leastType? types cores with
    | some type =>
      rw [found] at told
      have offered : present ((some availability).bind Cloud.Availability.availableType) =
          some type.name := by
        change present availability.availableType = _
        rw [told]
        exact Pass.present_of_ne (named type (mem_of_leastType? found))
      rw [tried_cons_of_some found]
      refine ⟨{ site with world := left }, listed.carried (S := Cloud.signature) ?_⟩
      dsimp only
      rw [offered]
      exact ⟨rfl, rfl⟩
    | none =>
      rw [found] at told
      have unoffered : present ((some availability).bind Cloud.Availability.availableType) = none := by
        change present availability.availableType = _
        rw [told]
        rfl
      let between : Site σ := { site with world := left }
      have standing : stands between.world := leftStanding
      obtain ⟨after, later⟩ := ih standing
      rw [tried_cons_of_none found]
      refine ⟨after, listed.carried (S := Cloud.signature) ?_⟩
      dsimp only
      rw [unoffered]
      exact later

/-- The type that `resolve_instance_type` comes to is the one of least memory for the first candidate that
has one, or else the first machine type of the cluster; without either there is none. Asked are the
candidates up to that one. -/
theorem least_type_resolved (stocks : account.Stocks handler zone types stands)
    (named : ∀ type ∈ types, type.name ≠ "") (cluster : Cluster) (candidates : List Int)
    {site : Site σ} (standing : stands site.world) :
    ∃ after, ((Pass.resolveInstanceType zone cluster candidates).callsBesideStatusBy
      account.carryOut).Fares (Site.handler handler) site
        (match candidates.findSome? (leastType? types), cluster.machineTypes with
          | some type, _ => .ok type.name
          | none, machine :: _ => .ok machine.name
          | none, [] => .error (.terminal .machineTypesMissing))
        ((tried types candidates).map (account.probe zone)) after := by
  obtain ⟨after, tries⟩ := stocks.fares_availableType named candidates standing
  refine ⟨after, ?_⟩
  unfold Pass.resolveInstanceType callsBesideStatusBy
  rw [callsBy_bind, ← List.append_nil (List.map _ _)]
  refine tries.bind ?_
  cases candidates.findSome? (leastType? types) with
  | some type => exact ⟨rfl, rfl⟩
  | none => cases cluster.machineTypes <;> exact ⟨rfl, rfl⟩

end Stocks

theorem stocks_service (account : Account) (zone : String) (types : List MachineType) :
    account.Stocks Service.handler zone types fun service =>
      service.Faultless ∧ service.machineTypes = types where
  lists := by
    rintro service ⟨faultless, rfl⟩ cores
    exact faultless.answer account.project (.listMachineTypes zone cores)
  stays := by
    rintro service ⟨faultless, rfl⟩ cores
    let op : Call := .service account.project (.listMachineTypes zone cores)
    have steady : Service.Steady op := rfl
    have same := Service.stock_of_steady steady service
    exact ⟨faultless.handler op, Service.machineTypes_of_stock same⟩

/-- What the zone of the office has: for one core a type that is out of use, for two cores a small one
out of use and two of the next size. -/
def officeTypes : List MachineType :=
  [⟨"large-2", 2, 8192, none⟩, ⟨"old-1", 1, 1024, some "DEPRECATED"⟩,
    ⟨"small-2", 2, 4096, some ""⟩, ⟨"old-2", 2, 512, some "OBSOLETE"⟩, ⟨"other-2", 2, 4096, none⟩]

theorem least_type_resolved_office :
    let site : Site Service :=
      { officeSite [] with world := { officeService [] with machineTypes := officeTypes } }
    let program := Pass.resolveInstanceType "region-1-a" Pass.officeRequest.cluster [1, 2, 4]
    ∃ after, (program.callsBesideStatusBy officeAccount.carryOut).Fares (Site.handler Service.handler)
      site (.ok "small-2") [officeAccount.probe "region-1-a" 1, officeAccount.probe "region-1-a" 2]
        after :=
  Stocks.least_type_resolved (stocks_service officeAccount "region-1-a" officeTypes) (by decide)
    Pass.officeRequest.cluster [1, 2, 4] ⟨office_faultless [], rfl⟩

end Account

end Bastion.Compute
