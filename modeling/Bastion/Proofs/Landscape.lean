import Bastion.Pass.Reconcile
import Bastion.Proofs.Inquiries

set_option autoImplicit false

namespace Bastion.Compute

open Program

variable {α β : Type}

structure Landscape where
  networks : List Network
  subnetworks : List Subnetwork
  machineTypes : List MachineType

namespace Service

def landscape (service : Service) : Landscape :=
  ⟨service.networks, service.subnetworks, service.machineTypes⟩

theorem landscape_of_stock {one other : Service} (same : one.stock = other.stock) :
    one.landscape = other.landscape := by
  change one.stock.landscape = other.stock.landscape
  rw [same]

theorem landscape_carryOut (service : Service) (asked : ServiceCall) :
    (service.carryOut asked).2.landscape = service.landscape := by
  cases asked with
  | insertFirewall spec =>
    rcases carryOut_insertFirewall service spec with same | ⟨_, same⟩
    · rw [same]
    · rw [same]
      rfl
  | deleteFirewall name =>
    rcases carryOut_deleteFirewall service name with same | ⟨_, _, same⟩
    · rw [same]
    · rw [same]
      rfl
  | insertInstance zone spec =>
    change (service.insertMachine spec).landscape = _
    unfold insertMachine
    split <;> rfl
  | addAccess zone machine interface access =>
    change (service.change (service.addAccess machine)).2.landscape = _
    unfold addAccess
    split <;> rfl
  | _ => rfl

theorem landscape_handler (op : Call) (service : Service) :
    (handler op service).state.landscape = service.landscape := by
  cases op with
  | service project asked =>
    rcases handler_cases service project asked with ⟨_, _, same⟩ | ⟨_, same⟩
    · exact landscape_of_stock same
    · change (handler (.service project asked) service).state.stock.landscape = service.stock.landscape
      rw [same, landscape_carryOut]
  | awaitOperation seconds =>
    have steady : Steady (.awaitOperation seconds) := trivial
    exact landscape_of_stock (stock_of_steady steady service)
  | sleep seconds => rfl

end Service

theorem landscape_run (program : ComputeProgram α) (service : Service) :
    (program.run Service.handler service).state.landscape = service.landscape := by
  refine run_preserves (fun now : Service => now.landscape = service.landscape) ?_
    (makes_any program) rfl
  exact fun op now _ same => (Service.landscape_handler op now).trans same

/-- A program that asks about the landscape alone: what it told once, it tells without faults wherever the
landscape is the same. -/
structure Surveys (program : ComputeProgram α) : Prop where
  steady : program.Makes Service.Steady
  again : ∀ {before after service : Service} {value : α},
    program.Returns Service.handler before value after → service.Faultless →
      service.landscape = before.landscape →
        ∃ left, program.Returns Service.handler service value left

theorem surveys_pure (value : α) : Surveys (pure value : ComputeProgram α) where
  steady := trivial
  again returned _ _ := ⟨_, returns_pure.2 ⟨(returns_pure.1 returned).1, rfl⟩⟩

theorem surveys_refuse (error : ComputeError) : Surveys (refuse error : ComputeProgram α) where
  steady := trivial
  again returned := (returns_fail.1 returned).elim

theorem surveys_bind {program : ComputeProgram α} {next : α → ComputeProgram β}
    (first : Surveys program) (later : ∀ value, Surveys (next value)) :
    Surveys (program >>= next) where
  steady := makes_bind first.steady fun value => (later value).steady
  again {before after service result} returned faultless same := by
    obtain ⟨value, between, told, rest⟩ := returns_bind.1 returned
    obtain ⟨midway, toldAgain⟩ := first.again told faultless same
    have stays := (landscape_run program service).trans
      (same.trans (landscape_run program before).symm)
    rw [(outcome_of_returns told).2, (outcome_of_returns toldAgain).2] at stays
    obtain ⟨left, restAgain⟩ :=
      (later value).again rest (faultless_of_returns faultless toldAgain) stays
    exact ⟨left, toldAgain.bind restAgain⟩

theorem surveys_map {program : ComputeProgram α} (surveys : Surveys program) (change : α → β) :
    Surveys (change <$> program) :=
  surveys_bind surveys fun value => surveys_pure (change value)

theorem surveys_retried {program : ComputeProgram α} (surveys : Surveys program) :
    Surveys (retried program) where
  steady := makes_retrying trivial surveys.steady 2
  again returned faultless same := by
    obtain ⟨between, stocked, once⟩ := Service.still_stock.returns_retrying surveys.steady returned
    obtain ⟨left, again⟩ := surveys.again once faultless
      (same.trans (Service.landscape_of_stock stocked).symm)
    exact ⟨left, retried_of_returns again⟩

namespace Account

variable {account : Account}

theorem surveys_service {asked : ServiceCall} (reads : asked.mutates = false)
    (answered : ∀ one other : Service, one.landscape = other.landscape →
      (one.carryOut asked).1 = (other.carryOut asked).1) :
    Surveys (account.service asked) where
  steady := makes_service reads
  again {before after service value} returned faultless same := by
    have told := (returns_service returned).1
    rw [answered before.stock service.stock same.symm] at told
    exact service_of_faultless account faultless told

theorem surveys_lookupNetwork (name : String) :
    Surveys (account.carryOut (.lookupNetwork name)) := by
  refine surveys_map (surveys_retried (surveys_bind (surveys_service rfl ?_) fun network => ?_)) some
  · intro one other same
    have networks : one.networks = other.networks := congrArg Landscape.networks same
    change Service.found (one.networks.find? _) _ _ = Service.found (other.networks.find? _) _ _
    rw [networks]
  · cases account.subnetOf network with
    | none => exact surveys_refuse _
    | some subnet => exact surveys_pure _

theorem surveys_lookupSubnet (id : String) :
    Surveys (account.carryOut (.lookupSubnet id)) := by
  refine surveys_map (surveys_retried (surveys_bind (surveys_service rfl ?_) fun subnet => ?_)) some
  · intro one other same
    have subnetworks : one.subnetworks = other.subnetworks := congrArg Landscape.subnetworks same
    change Service.found (one.subnetworks.find? _) _ _ =
      Service.found (other.subnetworks.find? _) _ _
    rw [subnetworks]
  · split
    · exact surveys_pure _
    · exact surveys_refuse _

theorem surveys_listAvailability (cores : Int) (zone : String) :
    Surveys (account.carryOut (.listAvailability cores zone)) := by
  refine surveys_map (surveys_retried (surveys_bind (surveys_service rfl ?_) fun machines =>
    surveys_pure _)) some
  intro one other same
  have machineTypes : one.machineTypes = other.machineTypes := congrArg Landscape.machineTypes same
  change Except.ok (one.machineTypes.filter _) = Except.ok (other.machineTypes.filter _)
  rw [machineTypes]

theorem landscape_site {program : Pass.PassProgram α} {before after : Site Service} {value : α}
    (returned : program.Returns (Site.handler account.serve) before value after) :
    after.world.landscape = before.world.landscape := by
  refine site_preserves (fun now => now.landscape = before.world.landscape) ?_ rfl returned
  exact fun call _ same => (landscape_run (account.carryOut call) _).trans same

/-- The part of a pass that looks at the landscape alone. What it told once it reports on any world with
the same landscape. -/
def Scouts (account : Account) (program : Pass.PassProgram α) : Prop :=
  ∀ {before after : Site Service} {value : α},
    program.Returns (Site.handler account.serve) before value after →
      ∀ {world : Service}, world.landscape = before.world.landscape →
        account.Reports world program value

theorem scouts_pure (value : α) : account.Scouts (pure value) := by
  intro before after other returned world _
  obtain ⟨rfl, _⟩ := returns_pure.1 returned
  exact reports_pure value

theorem scouts_fail (failure : Failure) : account.Scouts (.fail failure : Pass.PassProgram α) :=
  fun returned => (returns_fail.1 returned).elim

theorem scouts_bind {program : Pass.PassProgram α} {next : α → Pass.PassProgram β}
    (first : account.Scouts program) (later : ∀ value, account.Scouts (next value)) :
    account.Scouts (program >>= next) := by
  intro before after result returned world same
  obtain ⟨value, between, told, rest⟩ := returns_bind.1 returned
  exact reports_bind (first told same) (later value rest (same.trans (landscape_site told).symm))

theorem scouts_cloud {call : Cloud.Call} (surveys : Surveys (account.carryOut call))
    (operation resource : String) :
    account.Scouts ((Pass.cloud call).during operation resource) := by
  intro before after value returned world same
  have told := returns_cloud (returns_during.1 returned)
  refine reports_cloud (answers_of_makes surveys.steady fun service faultless stocked => ?_) _ _
  exact surveys.again told faultless ((Service.landscape_of_stock stocked).trans same)

theorem scouts_imageOf (request : Request) : account.Scouts (Pass.imageOf request) := by
  unfold Pass.imageOf
  cases Pass.resolveImage request.options request.cluster with
  | ok image => exact scouts_pure image
  | error error => exact scouts_fail _

theorem scouts_resolveNetwork (name : String) : account.Scouts (Pass.resolveNetwork name) := by
  refine scouts_bind (scouts_cloud (surveys_lookupNetwork name) _ _) fun network => ?_
  cases network with
  | none => exact scouts_fail _
  | some network =>
    refine scouts_bind (scouts_cloud (surveys_lookupSubnet network.subnet) _ _) fun subnet => ?_
    cases subnet with
    | none => exact scouts_fail _
    | some subnet => exact scouts_pure _

theorem scouts_availableType (zone : String) (candidates : List Int) :
    account.Scouts (Pass.availableType zone candidates) := by
  induction candidates with
  | nil => exact scouts_pure none
  | cons cores rest ih =>
    refine scouts_bind (scouts_cloud (surveys_listAvailability cores zone) _ _)
      fun availability => ?_
    cases present (availability.bind Cloud.Availability.availableType) with
    | some type => exact scouts_pure _
    | none => exact ih

theorem scouts_resolveInstanceType (zone : String) (cluster : Cluster) (candidates : List Int) :
    account.Scouts (Pass.resolveInstanceType zone cluster candidates) := by
  refine scouts_bind (scouts_availableType zone candidates) fun type => ?_
  cases type with
  | some type => exact scouts_pure type
  | none =>
    cases cluster.machineTypes with
    | nil => exact scouts_fail _
    | cons machine rest =>
      intro before after value returned world same
      exact reports_log _ (scouts_pure machine.name returned same)

end Account

end Bastion.Compute
