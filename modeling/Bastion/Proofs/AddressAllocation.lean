import Bastion.Proofs.Attempts
import Bastion.Proofs.Standing

set_option autoImplicit false

namespace Bastion.Compute

open Program
open Service (giveAccess)

/-- Machines are told from each other by their names and by their ids, and the interfaces of each by
their names. -/
structure Machine.Distinct (machines : List Machine) : Prop where
  names : (machines.map Machine.name).Nodup
  ids : (machines.map Machine.id).Nodup
  interfaces : ∀ machine ∈ machines, (machine.interfaces.map Interface.name).Nodup

/-- The machine with one more external access at its interface of that name. -/
def Machine.withAccess (interface address : String) (machine : Machine) : Machine :=
  { machine with
    interfaces := machine.interfaces.map fun one =>
      if one.name = interface then { one with natAddresses := one.natAddresses ++ [address] }
      else one }

/-- Among these machines, that of this id, with a first interface that has no external access. -/
structure Unreached (id : String) (machines : List Machine) where
  early : List Machine
  machine : Machine
  later : List Machine
  first : Interface
  rest : List Interface
  place : machines = early ++ machine :: later
  identified : toString machine.id = id
  interfaces : machine.interfaces = first :: rest
  bare : first.natAddresses = []

namespace Unreached

variable {id : String} {machines : List Machine}

/-- The request for an external access at the first interface. -/
def request (spot : Unreached id machines) (account : Account) : Call :=
  .service account.project
    (.addAccess account.zone spot.machine.name spot.first.name externalAccess)

/-- All the machines, with one external access at the first interface of this one. -/
def reached (spot : Unreached id machines) (address : String) : List Machine :=
  spot.early ++ giveAccess address spot.machine :: spot.later

theorem mem (spot : Unreached id machines) : spot.machine ∈ machines := by
  have within : spot.machine ∈ spot.early ++ spot.machine :: spot.later :=
    List.mem_append_right _ List.mem_cons_self
  exact (congrArg (spot.machine ∈ ·) spot.place).mpr within

theorem interfaces_giveAccess (spot : Unreached id machines) (address : String) :
    (giveAccess address spot.machine).interfaces =
      { spot.first with natAddresses := [address] } :: spot.rest := by
  unfold giveAccess
  rw [spot.interfaces]

/-- As the interfaces have names of their own, only the first one is given an access. -/
theorem withAccess_eq (spot : Unreached id machines) (distinct : Machine.Distinct machines)
    (address : String) :
    spot.machine.withAccess spot.first.name address = giveAccess address spot.machine := by
  have names := distinct.interfaces spot.machine spot.mem
  rw [spot.interfaces, List.map_cons, List.nodup_cons] at names
  have others : ∀ one ∈ spot.rest, (if one.name = spot.first.name then
      { one with natAddresses := one.natAddresses ++ [address] } else one) = one := by
    intro one member
    exact if_neg fun same => names.1 (List.mem_map.2 ⟨one, member, same⟩)
  unfold Machine.withAccess giveAccess
  rw [spot.interfaces, List.map_cons, if_pos rfl, spot.bare, List.map_congr_left others, List.map_id']
  rfl

theorem mem_reached (spot : Unreached id machines) (address : String) :
    giveAccess address spot.machine ∈ spot.reached address :=
  List.mem_append_right _ List.mem_cons_self

theorem map_reached {κ : Type} {key : Machine → κ} (spot : Unreached id machines) {address : String}
    (same : key (giveAccess address spot.machine) = key spot.machine) :
    (spot.reached address).map key = machines.map key := by
  have place := congrArg (List.map key) spot.place
  rw [List.map_append, List.map_cons] at place
  rw [place, reached, List.map_append, List.map_cons, same]

theorem distinct_reached (spot : Unreached id machines) (distinct : Machine.Distinct machines)
    (address : String) : Machine.Distinct (spot.reached address) where
  names := by
    rw [spot.map_reached (Service.name_giveAccess address _)]
    exact distinct.names
  ids := by
    rw [spot.map_reached (Service.id_giveAccess address _)]
    exact distinct.ids
  interfaces := by
    let names : Machine → List String := fun one => one.interfaces.map Interface.name
    have same : names (giveAccess address spot.machine) = names spot.machine := by
      unfold names
      rw [spot.interfaces_giveAccess, spot.interfaces]
      rfl
    intro machine member
    have held : names machine ∈ (spot.reached address).map names := List.mem_map_of_mem member
    rw [spot.map_reached same] at held
    obtain ⟨one, within, alike⟩ := List.mem_map.1 held
    change (names machine).Nodup
    rw [← alike]
    exact distinct.interfaces one within

theorem not_unreached (spot : Unreached id machines) (distinct : Machine.Distinct machines)
    {address : String} (again : Unreached id (spot.reached address)) : False := by
  have same : again.machine = giveAccess address spot.machine := by
    refine List.inj_on_of_nodup_map (spot.distinct_reached distinct address).ids again.mem
      (spot.mem_reached address) (Service.id_of_text ?_)
    rw [again.identified, Service.id_giveAccess, spot.identified]
  have told := again.interfaces
  rw [same, spot.interfaces_giveAccess] at told
  have bare := again.bare
  rw [← (List.cons.inj told).1] at bare
  cases bare

end Unreached

/-- Machines are listed as they are, a call that only asks leaves them as they are, and so does a
request for an external access that is refused. One that is granted gives the interface one more. -/
structure Account.KeepsMachines {σ : Type} (account : Account) (handler : Handler signature σ)
    (machines : σ → List Machine) : Prop where
  still : Still handler machines
  lists : ∀ {state filter found},
    (handler (.service account.project (.listInstances account.zone filter)) state).answer = .ok found →
      found = (machines state).filter filter.admits
  refuses : ∀ {state id failure} (spot : Unreached id (machines state)),
    (handler (spot.request account) state).answer = .error failure →
      machines (handler (spot.request account) state).state = machines state
  adds : ∀ {state id} (spot : Unreached id (machines state)), Machine.Distinct (machines state) →
    (handler (spot.request account) state).answer = .ok () →
      ∃ address, machines (handler (spot.request account) state).state =
        spot.early ++ spot.machine.withAccess spot.first.name address :: spot.later

def granted (exchange : Exchange signature) : Bool :=
  exchange.op.mutates && exchange.answer.isOk

/-- No more was asked for than an external access for the machine of that id, while it has none, and
that was refused. -/
def Refused (account : Account) (id : String) (machines : List Machine)
    (told : List (Exchange signature)) : Prop :=
  ∀ exchange ∈ told, exchange.op.mutates = true →
    ∃ (spot : Unreached id machines) (failure : Failure),
      exchange = ⟨spot.request account, .error failure⟩

/-- What was told and what has come of the machines: none has changed, or the one of that id has been
given an external access, for which nothing more was asked then. -/
inductive Allotted (account : Account) (id : String) (machines : List Machine) :
    List (Exchange signature) → List Machine → Prop
  | missing {told : List (Exchange signature)} (refused : Refused account id machines told) :
    Allotted account id machines told machines
  | reached {early later : List (Exchange signature)} (refused : Refused account id machines early)
    (spot : Unreached id machines) (address : String)
    (silent : ∀ exchange ∈ later, exchange.op.mutates = false) :
    Allotted account id machines (early ++ ⟨spot.request account, .ok ()⟩ :: later)
      (spot.reached address)

theorem refused_of_silent {account : Account} {id : String} {machines : List Machine}
    {told : List (Exchange signature)} (silent : ∀ exchange ∈ told, exchange.op.mutates = false) :
    Refused account id machines told := by
  intro exchange member mutates
  rw [silent exchange member] at mutates
  cases mutates

theorem Refused.append {account : Account} {id : String} {machines : List Machine}
    {told more : List (Exchange signature)} (first : Refused account id machines told)
    (second : Refused account id machines more) : Refused account id machines (told ++ more) :=
  fun exchange member => (List.mem_append.1 member).elim (first exchange) (second exchange)

namespace Allotted

variable {account : Account} {id : String} {machines between after : List Machine}
  {told more : List (Exchange signature)}

/-- What was asked for later on is told from the machines as they were at first. -/
theorem append (distinct : Machine.Distinct machines) (first : Allotted account id machines told between)
    (second : Allotted account id between more after) :
    Allotted account id machines (told ++ more) after := by
  cases first with
  | missing refused =>
    cases second with
    | missing again => exact .missing (refused.append again)
    | reached again spot address silent =>
      rw [← List.append_assoc]
      exact .reached (refused.append again) spot address silent
  | reached refused spot address silent =>
    cases second with
    | missing again =>
      rw [List.append_assoc, List.cons_append]
      refine .reached refused spot address fun exchange member => ?_
      rcases List.mem_append.1 member with early | late
      · exact silent exchange early
      · refine Bool.eq_false_iff.2 fun mutates => ?_
        obtain ⟨other, _, _⟩ := again exchange late mutates
        exact spot.not_unreached distinct other
    | reached again other => exact (spot.not_unreached distinct other).elim

theorem distinct (allotted : Allotted account id machines told after)
    (distinct : Machine.Distinct machines) : Machine.Distinct after := by
  cases allotted with
  | missing refused => exact distinct
  | reached refused spot address silent => exact spot.distinct_reached distinct address

theorem countP_granted (allotted : Allotted account id machines told after) :
    told.countP granted ≤ 1 := by
  have none {part : List (Exchange signature)} (refused : Refused account id machines part) :
      part.countP granted = 0 := by
    refine List.countP_eq_zero.2 fun exchange member made => ?_
    obtain ⟨mutates, succeeded⟩ := Bool.and_eq_true_iff.1 made
    obtain ⟨_, _, rfl⟩ := refused exchange member mutates
    cases succeeded
  cases allotted with
  | missing refused => exact (none refused).le.trans (Nat.zero_le 1)
  | reached refused spot address silent =>
    rw [List.countP_append, List.countP_cons, none refused, none (refused_of_silent silent)]
    split <;> decide

end Allotted

theorem head?_named {machines : List Machine} (distinct : Machine.Distinct machines)
    {machine : Machine} (held : machine ∈ machines) :
    (machines.filter (InstanceFilter.named machine.name).admits).head? = some machine := by
  rw [List.head?_filter]
  exact Service.find?_of_distinct distinct.names held (decide_eq_true rfl) fun _ same =>
    of_decide_eq_true same

theorem mem_of_identified {machines : List Machine} {id : String} {machine : Machine}
    (found : (machines.filter (InstanceFilter.identified id).admits).head? = some machine) :
    machine ∈ machines ∧ toString machine.id = id := by
  obtain ⟨member, admitted⟩ := List.mem_filter.1 (List.mem_of_head? found)
  exact ⟨member, of_decide_eq_true admitted⟩

theorem publicAddress_toInstance {machine : Machine} {first : Interface} {rest : List Interface}
    (interfaces : machine.interfaces = first :: rest) :
    machine.toInstance.publicAddress = present first.natAddresses.head? := by
  have told : machine.toInstance.publicAddress =
      first.natAddresses.head?.bind fun address => if address = "" then none else some address := by
    unfold Machine.toInstance
    rw [interfaces]
    rfl
  rw [told]
  cases first.natAddresses.head? with
  | none => rfl
  | some address => by_cases empty : address = "" <;> simp [present, Option.filter, empty]

/-- What an invocation goes on with, after it has searched these machines for that id: it refuses, tells the
address of the machine found, or gives that machine an external access. -/
inductive Allocating (account : Account) (id : String) (machines : List Machine) :
    ComputeProgram (Option String) → Prop
  | refused (error : ComputeError) : Allocating account id machines (refuse error)
  | told {machine : Machine} {first : Interface} {rest : List Interface} (held : machine ∈ machines)
    (identified : toString machine.id = id) (interfaces : machine.interfaces = first :: rest) :
    Allocating account id machines (pure machine.toInstance.publicAddress)
  | attached (spot : Unreached id machines) :
    Allocating account id machines (account.attachAddress spot.machine spot.first)

theorem allocateAddress_cases (account : Account) (id : String) :
    ∃ next, account.allocateAddress id = account.findMachine (.identified id) >>= next ∧
      ∀ machines, Allocating account id machines
        (next (machines.filter (InstanceFilter.identified id).admits).head?) := by
  refine ⟨_, rfl, fun machines => ?_⟩
  cases found : (machines.filter (InstanceFilter.identified id).admits).head? with
  | none => exact .refused _
  | some machine =>
    obtain ⟨member, identified⟩ := mem_of_identified found
    obtain ⟨early, later, place⟩ := List.append_of_mem member
    dsimp only
    split
    · exact .refused _
    · rename_i first rest interfaces
      split
      · rename_i empty
        exact .attached ⟨early, machine, later, first, rest, place, identified, interfaces,
          List.isEmpty_iff.1 empty⟩
      · exact .told member identified interfaces

section

variable {σ : Type} {handler : Handler signature σ} {account : Account}
  {machines : σ → List Machine} {id : String}

theorem allotted_of_steady {α : Type} {program : ComputeProgram α} (still : Still handler machines)
    (made : program.Makes Service.Steady) (state : σ) :
    Allotted account id (machines state) (program.transcript handler state)
      (machines (program.run handler state).state) := by
  rw [still.of_makes made]
  exact .missing (refused_of_silent (silent_of_steady made state))

theorem allotted_bind {α β : Type} {program : ComputeProgram α} {next : α → ComputeProgram β}
    {state : σ} (distinct : Machine.Distinct (machines state))
    (first : Allotted account id (machines state) (program.transcript handler state)
      (machines (program.run handler state).state))
    (later : ∀ value between, program.Returns handler state value between →
      Allotted account id (machines between) ((next value).transcript handler between)
        (machines ((next value).run handler between).state)) :
    Allotted account id (machines state) ((program >>= next).transcript handler state)
      (machines ((program >>= next).run handler state).state) := by
  cases ended : (program.run handler state).result with
  | ok value =>
    have returned := returns_of_ok ended
    have same : ((program >>= next).run handler state).state = _ :=
      congrArg Prod.snd (outcome_bind_of_returns returned)
    rw [transcript_bind_of_returns returned, same]
    exact first.append distinct (later value _ returned)
  | error failure =>
    have same : ((program >>= next).run handler state).state = _ :=
      congrArg Prod.snd (outcome_bind_of_fails ended)
    rw [transcript_bind_of_fails ended, same]
    exact first

/-- What was told at the invocations for one instance, one after the other, and what they have left.
Between them anything may happen that is not to the machines. -/
inductive Account.Allocations (account : Account) (handler : Handler signature σ)
    (machines : σ → List Machine) (id : String) (start : σ) : List (Exchange signature) → σ → Prop
  | start : Allocations account handler machines id start [] start
  | idle {told : List (Exchange signature)} {now later : σ}
    (history : Allocations account handler machines id start told now)
    (same : machines later = machines now) : Allocations account handler machines id start told later
  | again {told : List (Exchange signature)} {now : σ}
    (history : Allocations account handler machines id start told now) :
    Allocations account handler machines id start
      (told ++ (account.allocateAddress id).transcript handler now)
      ((account.allocateAddress id).run handler now).state

/-- The instance of that id has this external address: that of the first access of its first interface,
which is none where there is no access, or one without an address. A lookup of the instance comes to it
as soon as machines are listed, and tells the same. -/
def Account.TellsAddress (account : Account) (handler : Handler signature σ) (machines : σ → List Machine)
    (id : String) (state : σ) (address : Option String) : Prop :=
  ∃ machine first rest, machine ∈ machines state ∧ toString machine.id = id ∧
    machine.interfaces = first :: rest ∧ address = present first.natAddresses.head? ∧
    ∀ now, machines now = machines state →
      (∀ found left, (account.lookupInstance machine.name).Returns handler now found left →
        ∃ shown, found = some shown ∧ shown.id = id ∧ shown.publicAddress = address) ∧
      ∀ listed,
        (handler (.service account.project (.listInstances account.zone (.named machine.name)))
          now).answer = .ok listed →
            ∃ found left, (account.lookupInstance machine.name).Returns handler now found left

namespace Account.KeepsMachines

theorem returns_findMachine (keeps : account.KeepsMachines handler machines)
    {filter : InstanceFilter} {before after : σ} {found : Option Machine}
    (returned : (account.findMachine filter).Returns handler before found after) :
    found = ((machines before).filter filter.admits).head? ∧ machines after = machines before := by
  have asks : (do
      let machines ← account.service (.listInstances account.zone filter)
      return machines.head? : ComputeProgram (Option Machine)).Makes Service.Steady :=
    makes_bind (makes_service rfl) fun _ => trivial
  have left := keeps.still.of_returns (account.methodical_findMachine False filter).steady returned
  obtain ⟨between, same, once⟩ := keeps.still.returns_retrying asks returned
  obtain ⟨all, _, listed, last⟩ := returns_bind.1 once
  obtain ⟨answered, rfl⟩ := returns_perform.1 listed
  obtain ⟨rfl, rfl⟩ := returns_pure.1 last
  rw [keeps.lists answered, same]
  exact ⟨rfl, left⟩

theorem returns_lookupInstance (keeps : account.KeepsMachines handler machines) {name : String}
    {before after : σ} {found : Option Cloud.Instance}
    (returned : (account.lookupInstance name).Returns handler before found after) :
    found = ((machines before).filter (InstanceFilter.named name).admits).head?.map
      Machine.toInstance ∧ machines after = machines before := by
  obtain ⟨machine, _, searched, last⟩ := returns_bind.1 returned
  obtain ⟨rfl, left⟩ := keeps.returns_findMachine searched
  obtain ⟨rfl, rfl⟩ := returns_pure.1 last
  exact ⟨rfl, left⟩

theorem adds_reached (keeps : account.KeepsMachines handler machines) {state : σ}
    (distinct : Machine.Distinct (machines state)) (spot : Unreached id (machines state))
    (answered : (handler (spot.request account) state).answer = .ok ()) :
    ∃ address, machines (handler (spot.request account) state).state = spot.reached address := by
  obtain ⟨address, left⟩ := keeps.adds spot distinct answered
  rw [spot.withAccess_eq distinct] at left
  exact ⟨address, left⟩

theorem allotted_service (keeps : account.KeepsMachines handler machines) {state : σ}
    (distinct : Machine.Distinct (machines state)) (spot : Unreached id (machines state)) :
    let program := perform (S := signature) (spot.request account)
    Allotted account id (machines state) (program.transcript handler state)
      (machines (program.run handler state).state) := by
  intro program
  have told : program.transcript handler state = _ := transcript_perform _ state
  rw [told, state_perform]
  cases answered : (handler (spot.request account) state).answer with
  | ok answer =>
    obtain ⟨address, reached⟩ := keeps.adds_reached distinct spot answered
    rw [reached]
    have none : Refused account id (machines state) [] := fun _ absent => by cases absent
    exact @Allotted.reached account id (machines state) [] [] none spot address fun _ absent => by
      cases absent
  | error failure =>
    rw [keeps.refuses spot answered]
    refine .missing fun exchange member _ => ?_
    obtain rfl := List.mem_singleton.1 member
    exact ⟨spot, failure, rfl⟩

/-- A request for the missing access is made and waited for, and the machine is looked up again. -/
theorem allotted_attachAddress (keeps : account.KeepsMachines handler machines) {state : σ}
    (distinct : Machine.Distinct (machines state)) (spot : Unreached id (machines state)) :
    let program := account.attachAddress spot.machine spot.first
    Allotted account id (machines state) (program.transcript handler state)
      (machines (program.run handler state).state) := by
  let asked : ServiceCall :=
    .addAccess account.zone spot.machine.name spot.first.name externalAccess
  let given : ComputeProgram (Option String) :=
    account.service asked >>= fun _ => account.attachedAddress spot.machine
  have asks : (account.attachedAddress spot.machine).Makes Service.Steady :=
    makes_bind (makes_perform (S := signature) trivial) fun _ =>
      makes_bind (account.methodical_lookupInstance False spot.machine.name).steady fun _ => trivial
  -- The line that is logged first makes no call.
  change Allotted account id (machines state) (given.transcript handler state)
    (machines (given.run handler state).state)
  exact allotted_bind distinct (keeps.allotted_service distinct spot) fun _ between _ =>
    allotted_of_steady keeps.still asks between

theorem allotted_allocateAddress (keeps : account.KeepsMachines handler machines) {state : σ}
    (distinct : Machine.Distinct (machines state)) :
    Allotted account id (machines state) ((account.allocateAddress id).transcript handler state)
      (machines ((account.allocateAddress id).run handler state).state) := by
  have asks := (account.methodical_findMachine False (.identified id)).steady
  obtain ⟨next, program, goes⟩ := allocateAddress_cases account id
  rw [program]
  refine allotted_bind distinct (allotted_of_steady keeps.still asks state) ?_
  intro found between searched
  obtain ⟨rfl, same⟩ := keeps.returns_findMachine searched
  rw [← same] at distinct ⊢
  have fits := goes (machines between)
  generalize next _ = rest at fits ⊢
  cases fits with
  | refused error =>
    exact allotted_of_steady keeps.still (Settled.steady (.inr ⟨error, rfl⟩)) between
  | told held identified interfaces =>
    exact allotted_of_steady keeps.still (Settled.steady (.inl ⟨_, rfl⟩)) between
  | attached spot => exact keeps.allotted_attachAddress distinct spot

theorem lookupInstance_of_listed (account : Account) {name : String} {state : σ}
    {found : List Machine}
    (listed : (handler (.service account.project (.listInstances account.zone (.named name)))
      state).answer = .ok found) :
    ∃ found left, (account.lookupInstance name).Returns handler state found left := by
  have searched : (account.findMachine (.named name)).Fares handler state _ _ _ :=
    fares_retried listed (.inl ⟨_, rfl⟩) rfl
  exact ⟨_, _, Returns.bind searched.outcome (returns_done _ _)⟩

/-- The address that is returned is looked up after the access was given. -/
theorem returns_attachAddress (keeps : account.KeepsMachines handler machines) {before after : σ}
    (distinct : Machine.Distinct (machines before)) (spot : Unreached id (machines before))
    {value : Option String}
    (returned : (account.attachAddress spot.machine spot.first).Returns handler before value after) :
    ∃ address, machines after = spot.reached address ∧
      value = (giveAccess address spot.machine).toInstance.publicAddress := by
  have waits : Service.Steady (.awaitOperation operationSeconds) := trivial
  obtain ⟨_, _, noted, rest⟩ := returns_bind.1 returned
  obtain rfl := returns_info.1 noted
  obtain ⟨_, _, added, rest⟩ := returns_bind.1 rest
  obtain ⟨answered, rfl⟩ := returns_perform.1 added
  obtain ⟨address, reached⟩ := keeps.adds_reached distinct spot answered
  obtain ⟨_, _, awaited, rest⟩ := returns_bind.1 rest
  have kept := keeps.still.of_returns (makes_perform (S := signature) waits) awaited
  obtain ⟨refreshed, _, lookedUp, last⟩ := returns_bind.1 rest
  obtain ⟨seen, stays⟩ := keeps.returns_lookupInstance lookedUp
  obtain ⟨rfl, rfl⟩ := returns_pure.1 last
  have all := kept.trans reached
  have shown := head?_named (spot.distinct_reached distinct address) (spot.mem_reached address)
  rw [Service.name_giveAccess] at shown
  rw [all, shown] at seen
  exact ⟨address, stays.trans all, seen ▸ rfl⟩

theorem tells_of_mem (keeps : account.KeepsMachines handler machines) {state : σ}
    (distinct : Machine.Distinct (machines state)) {machine : Machine}
    (held : machine ∈ machines state) (identified : toString machine.id = id) {first : Interface}
    {rest : List Interface} (interfaces : machine.interfaces = first :: rest) :
    account.TellsAddress handler machines id state machine.toInstance.publicAddress := by
  refine ⟨machine, first, rest, held, identified, interfaces, publicAddress_toInstance interfaces, ?_⟩
  refine fun now same => ⟨fun found left returned => ?_, fun all => lookupInstance_of_listed account⟩
  obtain ⟨told, _⟩ := keeps.returns_lookupInstance returned
  rw [same, head?_named distinct held] at told
  exact ⟨_, told, identified, rfl⟩

theorem tells_of_returns (keeps : account.KeepsMachines handler machines) {before after : σ}
    (distinct : Machine.Distinct (machines before)) {value : Option String}
    (returned : (account.allocateAddress id).Returns handler before value after) :
    account.TellsAddress handler machines id after value := by
  obtain ⟨next, program, goes⟩ := allocateAddress_cases account id
  rw [program] at returned
  obtain ⟨found, between, searched, rest⟩ := returns_bind.1 returned
  obtain ⟨rfl, same⟩ := keeps.returns_findMachine searched
  rw [← same] at distinct rest
  have fits := goes (machines between)
  generalize next _ = last at fits rest
  cases fits with
  | refused error => exact (returns_fail.1 rest).elim
  | told held identified interfaces =>
    obtain ⟨rfl, rfl⟩ := returns_pure.1 rest
    exact keeps.tells_of_mem distinct held identified interfaces
  | attached spot =>
    obtain ⟨address, reached, rfl⟩ := keeps.returns_attachAddress distinct spot rest
    have held := spot.mem_reached address
    have apart := spot.distinct_reached distinct address
    rw [← reached] at held apart
    have identified := (congrArg toString (Service.id_giveAccess address spot.machine)).trans
      spot.identified
    exact keeps.tells_of_mem apart held identified (spot.interfaces_giveAccess address)

theorem allotted_of_history (keeps : account.KeepsMachines handler machines) {start now : σ}
    (distinct : Machine.Distinct (machines start)) {told : List (Exchange signature)}
    (history : account.Allocations handler machines id start told now) :
    Allotted account id (machines start) told (machines now) := by
  induction history with
  | start => exact .missing fun _ absent => by cases absent
  | idle history same ih => exact same ▸ ih
  | again history ih =>
    exact ih.append distinct (keeps.allotted_allocateAddress (ih.distinct distinct))

/-- Whatever was refused in a history of invocations of `allocate_public_address`, an external access was
asked for as long as the first interface had none, was given once at most, and is all that has changed. An
invocation that returns tells the address that is there then. -/
theorem one_address_allocated (keeps : account.KeepsMachines handler machines) {start now : σ}
    (distinct : Machine.Distinct (machines start)) {told : List (Exchange signature)}
    (history : account.Allocations handler machines id start told now) :
    Allotted account id (machines start) told (machines now) ∧ told.countP granted ≤ 1 ∧
      ∀ value after, (account.allocateAddress id).Returns handler now value after →
        account.TellsAddress handler machines id after value := by
  have allotted := keeps.allotted_of_history distinct history
  refine ⟨allotted, allotted.countP_granted, fun value after returned => ?_⟩
  exact keeps.tells_of_returns (allotted.distinct distinct) returned

end Account.KeepsMachines

end

theorem modifyFirst_append {α : Type} {test : α → Bool} {early : List α} {item : α}
    (others : ∀ other ∈ early, test other = false) (fits : test item = true) (change : α → α)
    (later : List α) :
    Service.modifyFirst test change (early ++ item :: later) = early ++ change item :: later := by
  induction early with
  | nil => exact if_pos fits
  | cons first rest ih =>
    obtain ⟨unlike, others⟩ := List.forall_mem_cons.1 others
    rw [List.cons_append, Service.modifyFirst, if_neg (Bool.eq_false_iff.1 unlike), ih others]
    rfl

/-- The service in memory gives an access to the first interface of the machine of that name. -/
theorem Unreached.addAccess {id : String} {service : Service} (spot : Unreached id service.machines)
    (distinct : Machine.Distinct service.machines) :
    service.addAccess spot.machine.name =
      .ok { service with machines := spot.reached service.natAddress } := by
  have found : service.machines.any (fun machine => machine.name = spot.machine.name) = true :=
    List.any_eq_true.2 ⟨spot.machine, spot.mem, decide_eq_true rfl⟩
  have names := distinct.names
  rw [spot.place, List.map_append, List.map_cons] at names
  have apart := (List.nodup_append.1 names).2.2
  have others : ∀ other ∈ spot.early, decide (other.name = spot.machine.name) = false := by
    intro other member
    exact decide_eq_false (apart _ (List.mem_map_of_mem member) _ List.mem_cons_self)
  have changed := modifyFirst_append others (decide_eq_true rfl) (giveAccess service.natAddress)
    spot.later
  unfold Service.addAccess
  rw [if_pos found, (congrArg (Service.modifyFirst _ _) spot.place).trans changed]
  rfl

theorem change_of_refused {service : Service} {after : Except Failure Service} {failure : Failure}
    (refused : (service.change after).1 = .error failure) : (service.change after).2 = service := by
  cases after with
  | ok changed => cases refused
  | error raised => rfl

/-- The service in memory keeps machines as the interface to them has it. -/
theorem keepsMachines_service (account : Account) :
    account.KeepsMachines Service.handler Service.machines where
  still op steady service := Service.machines_of_stock (Service.stock_of_steady steady service)
  lists := by
    intro service filter found answered
    rcases Service.handler_cases service account.project (.listInstances account.zone filter) with
      ⟨failure, refused, _⟩ | ⟨told, _⟩
    · cases refused.symm.trans answered
    · exact (Except.ok.inj (told.symm.trans answered)).symm
  refuses := by
    intro service id failure spot refused
    let asked : ServiceCall :=
      .addAccess account.zone spot.machine.name spot.first.name externalAccess
    rcases Service.handler_cases service account.project asked with ⟨_, _, same⟩ | ⟨told, left⟩
    · exact Service.machines_of_stock same
    · refine Service.machines_of_stock (left.trans ?_)
      exact change_of_refused (told.symm.trans refused)
  adds := by
    intro service id spot distinct answered
    let asked : ServiceCall :=
      .addAccess account.zone spot.machine.name spot.first.name externalAccess
    rcases Service.handler_cases service account.project asked with ⟨_, refused, _⟩ | ⟨_, left⟩
    · cases refused.symm.trans answered
    · refine ⟨service.natAddress, ?_⟩
      let stocked : Unreached id service.stock.machines := spot
      have added := congrArg (fun after => (service.stock.change after).2)
        (stocked.addAccess distinct)
      rw [spot.withAccess_eq distinct]
      exact congrArg Service.machines (left.trans added)

namespace Account.KeepsMachines

/-- The office with a second machine, where the next request for an external access is refused, and
after it the next operation fails. -/
def refusingOffice : Service :=
  { officeService [] with
    faults := [(.instancesAddAccess, [some busy]), (.operationResult, [some busy])]
    machines := [⟨2, "workload-1", "RUNNING", [⟨"nic0", "10.0.0.4", []⟩]⟩,
      ⟨3, "bastion-1", "RUNNING", [⟨"nic0", "10.0.0.5", []⟩, ⟨"nic1", "10.0.1.5", []⟩]⟩]
    natAddress := "203.0.113.7" }

theorem one_address_allocated_office :
    let program := officeAccount.allocateAddress "3"
    let first := program.run Service.handler refusingOffice
    let second := program.run Service.handler first.state
    let third := program.run Service.handler second.state
    let told := program.transcript Service.handler refusingOffice ++
      program.transcript Service.handler first.state
    let read := Call.service "project-1" (.listInstances "region-1-a" (.identified "3"))
    let add := Call.service "project-1"
      (.addAccess "region-1-a" "bastion-1" "nic0" ⟨"External NAT", "ONE_TO_ONE_NAT"⟩)
    told.map Exchange.op = [read, add, read, add, .awaitOperation 300] ∧
      Allotted officeAccount "3" refusingOffice.machines told second.state.machines ∧
      told.countP granted ≤ 1 ∧ third.result = .ok (some "203.0.113.7") ∧
      officeAccount.TellsAddress Service.handler Service.machines "3" third.state (some "203.0.113.7") := by
  intro program first second third told read add
  have distinct : Machine.Distinct refusingOffice.machines :=
    ⟨by decide, by decide, by decide⟩
  have history : officeAccount.Allocations Service.handler Service.machines "3" refusingOffice told
      second.state := .again (.again .start)
  obtain ⟨allotted, once, tells⟩ :=
    one_address_allocated (keepsMachines_service officeAccount) distinct history
  have returned : third.result = .ok (some "203.0.113.7") := by decide +kernel
  exact ⟨by decide +kernel, allotted, once, returned, tells _ _ (returns_of_ok returned)⟩

end Account.KeepsMachines

end Bastion.Compute
