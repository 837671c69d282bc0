import Bastion.Proofs.ServiceSettling

set_option autoImplicit false

namespace Bastion.Compute

open Program

/-- Ids that were given one after the other, the last of them no later than this one. -/
structure Issued (ids : List Nat) (last : Nat) : Prop where
  distinct : ids.Nodup
  past : ∀ id ∈ ids, id ≤ last

namespace Issued

variable {ids : List Nat} {last : Nat}

theorem next (issued : Issued ids last) : Issued (ids ++ [last + 1]) (last + 1) := by
  have fresh : ids.Disjoint [last + 1] := List.disjoint_singleton.2 fun member =>
    Nat.not_succ_le_self last (issued.past _ member)
  refine ⟨issued.distinct.append (List.nodup_singleton _) fresh, fun id member => ?_⟩
  rcases List.mem_append.1 member with old | new
  · exact Nat.le_succ_of_le (issued.past id old)
  · exact Nat.le_of_eq (List.mem_singleton.1 new)

theorem later (issued : Issued ids last) : Issued ids (last + 1) :=
  ⟨issued.distinct, fun id member => Nat.le_succ_of_le (issued.past id member)⟩

theorem sublist {fewer : List Nat} (issued : Issued ids last) (less : fewer.Sublist ids) :
    Issued fewer last :=
  ⟨issued.distinct.sublist less, fun id member => issued.past id (less.subset member)⟩

end Issued

namespace Service

/-- Names of firewalls are unique, ids are too, and new ids come after all that there are. What is
inserted stays. -/
structure Tidy (service : Service) : Prop extends service.Orderly where
  firewallIds : Issued (service.firewalls.map (·.id)) service.lastId
  machineIds : Issued (service.machines.map (·.id)) service.lastId

/-- What leaves a projection of the items as it is leaves it over the whole list. -/
theorem map_modifyFirst {α β : Type} {test : α → Bool} {change : α → α} {project : α → β}
    (same : ∀ item, project (change item) = project item) (items : List α) :
    (modifyFirst test change items).map project = items.map project := by
  induction items with
  | nil => rfl
  | cons item rest ih =>
    unfold modifyFirst
    split
    · rw [List.map_cons, List.map_cons, same]
    · rw [List.map_cons, List.map_cons, ih]

theorem id_giveAccess (address : String) (machine : Machine) :
    (giveAccess address machine).id = machine.id := by
  unfold giveAccess
  cases machine.interfaces <;> rfl

theorem Tidy.of_stock {service other : Service} (tidy : service.Tidy)
    (same : other.stock = service.stock) : other.Tidy := by
  have firewalls := firewalls_of_stock same
  have machines := machines_of_stock same
  have lastId : other.lastId = service.lastId := congrArg (·.lastId) same
  refine ⟨tidy.toOrderly.of_stock same, ?_, ?_⟩
  · rw [firewalls, lastId]
    exact tidy.firewallIds
  · rw [machines, lastId]
    exact tidy.machineIds

theorem Tidy.inserted {service : Service} (tidy : service.Tidy) {spec : FirewallSpec}
    (free : service.firewall? spec.name = none) : (service.inserted spec).Tidy := by
  refine ⟨tidy.toOrderly.inserted free, ?_, tidy.machineIds.later⟩
  change Issued ((service.firewalls ++ [_]).map _) _
  rw [List.map_append]
  exact tidy.firewallIds.next

theorem Tidy.without {service : Service} (tidy : service.Tidy) (firewall : Firewall) :
    (service.without firewall).Tidy :=
  ⟨tidy.toOrderly.without firewall, tidy.firewallIds.sublist (List.erase_sublist.map _),
    tidy.machineIds⟩

theorem Tidy.carryOut {service : Service} (tidy : service.Tidy) (asked : ServiceCall) :
    (service.carryOut asked).2.Tidy := by
  have unlost : ¬service.losesInserts = true := fun lost => by
    cases tidy.keeps.symm.trans lost
  cases asked with
  | insertFirewall spec =>
    rcases carryOut_insertFirewall service spec with same | ⟨free, new⟩
    · rwa [same]
    · rw [new]
      exact tidy.inserted free
  | deleteFirewall name =>
    rcases carryOut_deleteFirewall service name with same | ⟨firewall, _, gone⟩
    · rwa [same]
    · rw [gone]
      exact tidy.without firewall
  | insertInstance zone spec =>
    change (service.insertMachine spec).Tidy
    unfold insertMachine
    rw [if_neg unlost]
    refine ⟨⟨tidy.distinct, tidy.keeps⟩, tidy.firewallIds.later, ?_⟩
    rw [List.map_append]
    exact tidy.machineIds.next
  | addAccess zone machine interface access =>
    change (service.change (service.addAccess machine)).2.Tidy
    unfold addAccess
    split
    · refine ⟨⟨tidy.distinct, tidy.keeps⟩, tidy.firewallIds, ?_⟩
      change Issued ((modifyFirst _ _ _).map _) _
      rw [map_modifyFirst (id_giveAccess service.natAddress)]
      exact tidy.machineIds
    · exact tidy
  | _ => exact tidy

theorem Tidy.handler {service : Service} (tidy : service.Tidy) (op : Call) :
    (handler op service).state.Tidy := by
  cases op with
  | service project asked =>
    rcases handler_cases service project asked with ⟨_, _, same⟩ | ⟨_, same⟩
    · exact tidy.of_stock same
    · have stocked : service.stock.Tidy := tidy.of_stock rfl
      have carried := stocked.carryOut asked
      rw [← same] at carried
      exact carried.of_stock rfl
  | awaitOperation seconds =>
    have steady : Steady (.awaitOperation seconds) := trivial
    exact tidy.of_stock (stock_of_steady steady service)
  | sleep seconds => exact tidy

theorem id_of_text {first second : Nat} (same : toString first = toString second) :
    first = second := by
  rw [Nat.toString_eq_ofList_toDigits, Nat.toString_eq_ofList_toDigits, String.ofList_inj] at same
  rw [← Json.natOfDigits_toDigits first, same, Json.natOfDigits_toDigits]

theorem anchorIn?_of_mem {service : Service} (ids : (service.firewalls.map (·.id)).Nodup)
    {firewall : Firewall} (held : firewall ∈ service.firewalls) :
    Account.anchorIn? service.firewalls (toString firewall.id) = some firewall :=
  find?_of_distinct ids held (decide_eq_true rfl) fun _ same =>
    id_of_text (of_decide_eq_true same)

theorem Tidy.anchorIn?_of_mem {service : Service} (tidy : service.Tidy) {firewall : Firewall}
    (held : firewall ∈ service.firewalls) :
    Account.anchorIn? service.firewalls (toString firewall.id) = some firewall :=
  Service.anchorIn?_of_mem tidy.firewallIds.distinct held

theorem Tidy.identified_of_mem {service : Service} (tidy : service.Tidy) {machine : Machine}
    (held : machine ∈ service.machines) :
    (service.machines.filter (InstanceFilter.identified (toString machine.id)).admits).head? =
      some machine := by
  rw [List.head?_filter]
  exact find?_of_distinct tidy.machineIds.distinct held (decide_eq_true rfl) fun _ same =>
    id_of_text (of_decide_eq_true same)

end Service

namespace Account

variable {account : Account} {before after : Site Service}

theorem tidy_site {α : Type} {program : Pass.PassProgram α} {value : α}
    (tidy : before.world.Tidy)
    (returned : program.Returns (Site.handler account.serve) before value after) :
    after.world.Tidy := by
  refine site_preserves Service.Tidy (fun call service holds => ?_) tidy returned
  exact run_preserves Service.Tidy (fun op _ _ fits => fits.handler op)
    (makes_any (account.carryOut call)) holds

end Account

end Bastion.Compute
