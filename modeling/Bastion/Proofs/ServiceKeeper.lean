import Bastion.Proofs.Carriers
import Bastion.Proofs.ProviderRuns
import Bastion.Proofs.RuleKeeper

set_option autoImplicit false

namespace Bastion.Compute

open Program

/-- Names of firewalls are unique, and what is inserted stays. -/
structure Service.Orderly (service : Service) : Prop where
  distinct : (service.firewalls.map (·.name)).Nodup
  keeps : service.losesInserts = false

namespace Service

theorem firewall?_eq_none {service : Service} {name : String} :
    service.firewall? name = none ↔ ∀ firewall ∈ service.firewalls, firewall.name ≠ name := by
  unfold firewall?
  simp only [List.find?_eq_none, decide_eq_true_eq]

theorem mem_of_firewall? {service : Service} {name : String} {firewall : Firewall}
    (found : service.firewall? name = some firewall) :
    firewall ∈ service.firewalls ∧ firewall.name = name := by
  have fits := List.find?_some found
  exact ⟨List.mem_of_find?_eq_some found, of_decide_eq_true fits⟩

theorem Orderly.eq_of_name_eq {service : Service} (orderly : service.Orderly)
    {first second : Firewall} (one : first ∈ service.firewalls) (two : second ∈ service.firewalls)
    (same : first.name = second.name) : first = second :=
  List.inj_on_of_nodup_map orderly.distinct one two same

theorem find?_of_only {α : Type} {test : α → Bool} {items : List α} {item : α}
    (member : item ∈ items) (fits : test item = true)
    (only : ∀ other ∈ items, test other = true → other = item) : items.find? test = some item := by
  cases found : items.find? test with
  | none => exact absurd fits (List.find?_eq_none.1 found item member)
  | some other =>
    exact congrArg some (only other (List.mem_of_find?_eq_some found) (List.find?_some found))

theorem find?_of_distinct {α κ : Type} {key : α → κ} {test : α → Bool} {items : List α} {item : α}
    (distinct : (items.map key).Nodup) (held : item ∈ items) (fits : test item = true)
    (tells : ∀ other, test other = true → key other = key item) :
    items.find? test = some item :=
  find?_of_only held fits fun other member same =>
    List.inj_on_of_nodup_map distinct member held (tells other same)

theorem firewall?_of_mem {service : Service} (distinct : (service.firewalls.map (·.name)).Nodup)
    {firewall : Firewall} (held : firewall ∈ service.firewalls) :
    service.firewall? firewall.name = some firewall :=
  find?_of_distinct distinct held (decide_eq_true rfl) fun _ named => of_decide_eq_true named

/-- As names are unique, erasing a firewall leaves those of other names. -/
theorem firewalls_without {service : Service} (distinct : (service.firewalls.map (·.name)).Nodup)
    {firewall : Firewall} (held : firewall ∈ service.firewalls) :
    (service.without firewall).firewalls =
      service.firewalls.filter fun other => other.name ≠ firewall.name := by
  change service.firewalls.erase firewall = _
  rw [(distinct.of_map _).erase_eq_filter]
  refine List.filter_congr fun other member => ?_
  by_cases same : other = firewall
  · subst same
    simp
  · have apart : other.name ≠ firewall.name := fun named =>
      same (List.inj_on_of_nodup_map distinct member held named)
    simp [same, apart]

theorem carryOut_insertFirewall (service : Service) (spec : FirewallSpec) :
    (service.carryOut (.insertFirewall spec)).2 = service ∨
      service.firewall? spec.name = none ∧
        (service.carryOut (.insertFirewall spec)).2 = service.inserted spec := by
  change (service.change (service.insertFirewall spec)).2 = _ ∨ _ ∧
    (service.change (service.insertFirewall spec)).2 = _
  unfold insertFirewall
  cases found : service.firewall? spec.name with
  | some firewall => exact .inl rfl
  | none =>
    rw [if_neg (by decide)]
    by_cases loses : service.losesInserts = true
    · rw [if_pos loses]
      exact .inl rfl
    · rw [if_neg loses]
      exact .inr ⟨rfl, rfl⟩

theorem carryOut_deleteFirewall (service : Service) (name : String) :
    (service.carryOut (.deleteFirewall name)).2 = service ∨
      ∃ firewall, service.firewall? name = some firewall ∧
        (service.carryOut (.deleteFirewall name)).2 = service.without firewall := by
  change (service.change (service.deleteFirewall name)).2 = _ ∨ ∃ firewall, _ ∧
    (service.change (service.deleteFirewall name)).2 = _
  unfold deleteFirewall
  cases service.firewall? name with
  | none => exact .inl rfl
  | some firewall => exact .inr ⟨firewall, rfl, rfl⟩

theorem distinct_inserted {service : Service} {spec : FirewallSpec}
    (distinct : (service.firewalls.map (·.name)).Nodup)
    (free : service.firewall? spec.name = none) :
    ((service.inserted spec).firewalls.map (·.name)).Nodup := by
  unfold Service.inserted
  rw [List.map_append, List.nodup_append]
  refine ⟨distinct, List.nodup_singleton _, ?_⟩
  intro name member other fresh
  obtain ⟨firewall, held, rfl⟩ := List.mem_map.1 member
  rw [List.mem_singleton.1 fresh]
  exact firewall?_eq_none.1 free firewall held

theorem Orderly.inserted {service : Service} (orderly : service.Orderly) {spec : FirewallSpec}
    (free : service.firewall? spec.name = none) : (service.inserted spec).Orderly :=
  ⟨distinct_inserted orderly.distinct free, orderly.keeps⟩

theorem Orderly.without {service : Service} (orderly : service.Orderly) (firewall : Firewall) :
    (service.without firewall).Orderly :=
  ⟨orderly.distinct.sublist (List.erase_sublist.map _), orderly.keeps⟩

theorem Orderly.carryOut {service : Service} (orderly : service.Orderly) (asked : ServiceCall) :
    (service.carryOut asked).2.Orderly := by
  cases asked with
  | insertFirewall spec =>
    rcases carryOut_insertFirewall service spec with same | ⟨free, new⟩
    · rwa [same]
    · rw [new]
      exact orderly.inserted free
  | deleteFirewall name =>
    rcases carryOut_deleteFirewall service name with same | ⟨firewall, _, gone⟩
    · rwa [same]
    · rw [gone]
      exact orderly.without firewall
  | insertInstance zone spec =>
    change (service.insertMachine spec).Orderly
    unfold insertMachine
    split
    · exact orderly
    · exact ⟨orderly.distinct, orderly.keeps⟩
  | addAccess zone machine interface access =>
    change (service.change (service.addAccess machine)).2.Orderly
    unfold addAccess
    split
    · exact ⟨orderly.distinct, orderly.keeps⟩
    · exact orderly
  | _ => exact orderly

theorem Orderly.of_stock {service other : Service} (orderly : service.Orderly)
    (same : other.stock = service.stock) : other.Orderly := by
  have firewalls := firewalls_of_stock same
  have losesInserts : other.losesInserts = service.losesInserts := congrArg (·.losesInserts) same
  exact ⟨firewalls ▸ orderly.distinct, losesInserts ▸ orderly.keeps⟩

theorem Orderly.handler {service : Service} (orderly : service.Orderly) (op : Call) :
    (handler op service).state.Orderly := by
  cases op with
  | service project asked =>
    rcases handler_cases service project asked with ⟨_, _, same⟩ | ⟨_, same⟩
    · exact orderly.of_stock same
    · have stocked : service.stock.Orderly := orderly.of_stock rfl
      have carried := stocked.carryOut asked
      rw [← same] at carried
      exact carried.of_stock rfl
  | awaitOperation seconds =>
    have steady : Steady (.awaitOperation seconds) := trivial
    exact orderly.of_stock (stock_of_steady steady service)
  | sleep seconds => exact orderly

end Service

namespace Account

/-- The service as it answers the calls of a pass. -/
def serve (account : Account) : Handler Cloud.signature Service :=
  Program.through account.carryOut Service.handler

/-- A program whose calls are carried out on the service returns what it does where they are served. -/
theorem returns_carriedOut {account : Account} {α : Type} {program : Pass.PassProgram α}
    {before after : Site Service} {value : α} :
    (program.callsBesideStatusBy account.carryOut).Returns (Site.handler Service.handler) before value
        after ↔ program.Returns (Site.handler account.serve) before value after := by
  unfold Program.Returns serve
  rw [Program.outcome_callsBesideStatusBy]

/-- The rules of a group under the names of their firewalls. Names that are not in use may be given. -/
def storeOf (group : String) (service : Service) : RuleStore where
  rules direction :=
    match anchorIn? service.firewalls group with
    | some anchor => rulesOf anchor direction service.firewalls
    | none => []
  unissued := {name | ∀ firewall ∈ service.firewalls, firewall.name ≠ name}

theorem rules_storeOf {group : String} {service : Service} {anchor : Firewall}
    (held : anchorIn? service.firewalls group = some anchor) (direction : Direction) :
    (storeOf group service).rules direction = rulesOf anchor direction service.firewalls := by
  unfold storeOf
  simp only [held]

theorem handles_rulesOf (anchor : Firewall) (direction : Direction) (firewalls : List Firewall) :
    (rulesOf anchor direction firewalls).map Rule.handle =
      (firewalls.filter (isRuleOf anchor direction)).map fun firewall => some firewall.name := by
  have read := map_readBack? anchor direction firewalls
  generalize rulesOf anchor direction firewalls = rules at read ⊢
  generalize firewalls.filter (isRuleOf anchor direction) = listed at read ⊢
  induction listed generalizing rules with
  | nil =>
    rw [List.map_nil, eq_comm, List.map_eq_nil_iff] at read
    rw [read]
    rfl
  | cons firewall rest ih =>
    cases rules with
    | nil => cases read
    | cons rule others =>
      obtain ⟨first, later⟩ := List.cons.inj read
      rw [List.map_cons, List.map_cons, ih others later, handle_of_readBack? first]

theorem mem_rulesOf {anchor : Firewall} {direction : Direction} {firewalls : List Firewall}
    {rule : Rule} : rule ∈ rulesOf anchor direction firewalls ↔
      ∃ firewall ∈ firewalls, isRuleOf anchor direction firewall = true ∧
        readBack? firewall = some rule := by
  unfold rulesOf
  simp only [List.mem_filterMap, List.mem_filter, and_assoc]

theorem rulesOf_cons {anchor firewall : Firewall} {direction : Direction} {rest : List Firewall}
    {rule : Rule} (fits : isRuleOf anchor direction firewall = true)
    (read : readBack? firewall = some rule) :
    rulesOf anchor direction (firewall :: rest) = rule :: rulesOf anchor direction rest := by
  unfold rulesOf
  rw [List.filter_cons_of_pos fits, List.filterMap_cons_some read]

theorem rulesOf_cons_of_not {anchor firewall : Firewall} {direction : Direction}
    {rest : List Firewall} (other : ¬isRuleOf anchor direction firewall = true) :
    rulesOf anchor direction (firewall :: rest) = rulesOf anchor direction rest := by
  unfold rulesOf
  rw [List.filter_cons_of_neg other]

theorem rulesOf_append (anchor : Firewall) (direction : Direction) (first second : List Firewall) :
    rulesOf anchor direction (first ++ second) =
      rulesOf anchor direction first ++ rulesOf anchor direction second := by
  unfold rulesOf
  rw [List.filter_append, List.filterMap_append]

theorem direction_unique {anchor firewall : Firewall} {first second : Direction}
    (one : isRuleOf anchor first firewall = true) (two : isRuleOf anchor second firewall = true) :
    first = second := by
  have same := (isRuleOf_iff.1 one).2.2.symm.trans (isRuleOf_iff.1 two).2.2
  cases first <;> cases second <;> first | rfl | exact absurd same (by decide)

theorem sound_storeOf {service : Service} (orderly : service.Orderly) (group : String) :
    (storeOf group service).Sound := by
  have named : ∀ handle ∈ (storeOf group service).handles,
      ∃ firewall ∈ service.firewalls, handle = some firewall.name := by
    intro handle member
    obtain ⟨direction, rule, inside, rfl⟩ := RuleStore.mem_handles.1 member
    cases held : anchorIn? service.firewalls group with
    | none =>
      simp only [storeOf, held] at inside
      cases inside
    | some anchor =>
      rw [rules_storeOf held] at inside
      obtain ⟨firewall, present, _, read⟩ := mem_rulesOf.1 inside
      exact ⟨firewall, present, handle_of_readBack? read⟩
  refine ⟨?_, ?_, ?_⟩
  · intro absent
    obtain ⟨firewall, _, impossible⟩ := named none absent
    cases impossible
  · cases held : anchorIn? service.firewalls group with
    | none => simp [RuleStore.handles, storeOf, held]
    | some anchor =>
      unfold RuleStore.handles
      rw [rules_storeOf held, rules_storeOf held, List.map_append, handles_rulesOf,
        handles_rulesOf, ← List.map_append]
      have distinct : service.firewalls.Nodup := orderly.distinct.of_map _
      refine List.Nodup.map_on ?_ (List.nodup_append.2
        ⟨distinct.filter _, distinct.filter _, ?_⟩)
      · intro first one second two same
        have present : ∀ firewall ∈ service.firewalls.filter (isRuleOf anchor .ingress) ++
            service.firewalls.filter (isRuleOf anchor .egress), firewall ∈ service.firewalls := by
          intro firewall member
          rcases List.mem_append.1 member with inside | inside <;>
            exact (List.mem_filter.1 inside).1
        exact orderly.eq_of_name_eq (present first one) (present second two)
          (Option.some.inj same)
      · rintro first one second two rfl
        cases direction_unique (List.mem_filter.1 one).2 (List.mem_filter.1 two).2
  · intro name free member
    obtain ⟨firewall, present, same⟩ := named (some name) member
    exact free firewall present (Option.some.inj same).symm

theorem isRuleOf_ruleSpec {anchor firewall : Firewall} {network : String} {rule : Rule}
    {destinations : List String}
    (made : firewall.toFirewallSpec = ruleSpec anchor.name network rule destinations)
    (different : firewall.name ≠ anchor.name) (direction : Direction) :
    isRuleOf anchor direction firewall = true ↔ direction = rule.direction := by
  have tagged : firewall.targetTags = [anchor.name] := congrArg FirewallSpec.targetTags made
  have directed : firewall.direction = directionWord rule.direction :=
    congrArg FirewallSpec.direction made
  rw [isRuleOf_iff, tagged, directed]
  constructor
  · rintro ⟨_, _, same⟩
    revert same
    cases direction <;> cases rule.direction <;> decide
  · rintro rfl
    refine ⟨different, List.mem_singleton_self _, ?_⟩
    cases rule.direction <;> decide

/-- A firewall more is a rule more, under the name of the firewall. -/
theorem creates_inserted {service : Service} {group : String} {anchor : Firewall}
    (held : anchorIn? service.firewalls group = some anchor) {rule : Rule}
    {destinations : List String}
    (free : service.firewall? (ruleName anchor.name rule) = none) :
    (storeOf group service).Creates rule
      (storeOf group (service.inserted (ruleSpec anchor.name anchor.network rule destinations))) := by
  have unused := Service.firewall?_eq_none.1 free
  have present : anchor ∈ service.firewalls := List.mem_of_find?_eq_some held
  have still : anchorIn? (service.inserted
      (ruleSpec anchor.name anchor.network rule destinations)).firewalls group = some anchor := by
    unfold anchorIn? Service.inserted at *
    rw [List.find?_append, held]
    rfl
  refine ⟨ruleName anchor.name rule, unused, ?_, ?_⟩
  · funext direction
    rw [rules_storeOf still]
    unfold RuleStore.filed Service.inserted rulesOf
    rw [rules_storeOf held, List.filter_append, List.filterMap_append]
    have fits : isRuleOf anchor direction
        ⟨ruleSpec anchor.name anchor.network rule destinations, service.lastId + 1⟩ = true ↔
          direction = rule.direction :=
      isRuleOf_ruleSpec rfl (unused anchor present).symm direction
    by_cases same : direction = rule.direction
    · rw [List.filter_cons_of_pos (fits.2 same), List.filter_nil,
        List.filterMap_cons_some (readBack?_of_ruleSpec rfl), if_pos same]
      rfl
    · rw [List.filter_cons_of_neg (fun one => same (fits.1 one)), if_neg same]
      exact List.append_nil _
  · intro name remaining
    refine ⟨fun firewall member => remaining firewall (List.mem_append_left _ member), ?_⟩
    rintro rfl
    exact remaining _ (List.mem_append_right _ (List.mem_singleton_self _)) rfl

theorem find?_filter_of_kept {α : Type} {test keep : α → Bool} {items : List α} {item : α}
    (found : items.find? test = some item) (kept : keep item = true) :
    (items.filter keep).find? test = some item := by
  induction items with
  | nil => cases found
  | cons first rest ih =>
    by_cases fits : test first = true
    · rw [List.find?_cons_of_pos fits] at found
      obtain rfl := Option.some.inj found
      rw [List.filter_cons_of_pos kept, List.find?_cons_of_pos fits]
    · rw [List.find?_cons_of_neg fits] at found
      by_cases stays : keep first = true
      · rw [List.filter_cons_of_pos stays, List.find?_cons_of_neg fits]
        exact ih found
      · rw [List.filter_cons_of_neg stays]
        exact ih found

theorem rulesOf_filter (anchor : Firewall) (direction : Direction) (firewalls : List Firewall)
    (name : String) :
    rulesOf anchor direction (firewalls.filter fun firewall => firewall.name ≠ name) =
      (rulesOf anchor direction firewalls).filter fun rule => rule.handle ≠ some name := by
  unfold rulesOf
  rw [List.filter_comm, List.filterMap_filter, List.filter_filterMap]
  refine List.filterMap_congr fun firewall _ => ?_
  cases read : readBack? firewall with
  | none => exact ite_self none
  | some rule =>
    have handle := handle_of_readBack? read
    by_cases same : firewall.name = name
    · simp [Option.filter_some, handle, same]
    · simp [Option.filter_some, handle, same]

/-- A firewall less is a rule less, and a name that may be used again. -/
theorem revokes_without {service : Service} (orderly : service.Orderly) {group name : String}
    {rule : Rule} {firewall : Firewall} (named : rule.handle = some name)
    (stored : rule.handle ∈ (storeOf group service).handles)
    (found : service.firewall? name = some firewall) :
    (storeOf group service).Revokes rule (storeOf group (service.without firewall)) := by
  obtain ⟨member, rfl⟩ := Service.mem_of_firewall? found
  obtain ⟨direction, other, inside, same⟩ := RuleStore.mem_handles.1 stored
  cases held : anchorIn? service.firewalls group with
  | none =>
    simp only [storeOf, held] at inside
    cases inside
  | some anchor =>
    rw [rules_storeOf held] at inside
    obtain ⟨owner, present, fits, read⟩ := mem_rulesOf.1 inside
    have owned : owner.name = firewall.name :=
      Option.some.inj ((handle_of_readBack? read).symm.trans (same.trans named))
    have kept : anchor.name ≠ firewall.name := fun same =>
      (isRuleOf_iff.1 fits).1 (owned.trans same.symm)
    have left := Service.firewalls_without orderly.distinct member
    have still : anchorIn? (service.without firewall).firewalls group = some anchor := by
      rw [left]
      exact find?_filter_of_kept held (decide_eq_true kept)
    refine ⟨fun direction => ?_, fun name free => ?_⟩
    · rw [rules_storeOf still, rules_storeOf held, left, rulesOf_filter, named]
    · by_cases again : name = firewall.name
      · exact .inr (again ▸ named.symm)
      · refine .inl fun other inUse taken => ?_
        refine free other ?_ taken
        rw [left]
        exact List.mem_filter.2 ⟨inUse, decide_eq_true fun same => again (taken.symm.trans same)⟩

variable {account : Account}

theorem returns_cloud {call : Cloud.Call} {before after : Site Service}
    {value : call.method.Answer}
    (returned : (Pass.cloud call).Returns (Site.handler account.serve) before value after) :
    (account.carryOut call).Returns Service.handler before.world value after.world := by
  obtain ⟨answered, rfl⟩ := returns_perform.1 returned
  exact returns_of_ok answered

def storeAt (group : String) (site : Site Service) : RuleStore := storeOf group site.world

def OrderlyAt (site : Site Service) : Prop := site.world.Orderly

theorem storeOf_of_stock {group : String} {one other : Service} (same : one.stock = other.stock) :
    storeOf group one = storeOf group other := by
  change storeOf group one.stock = storeOf group other.stock
  rw [same]

theorem orderly_run {α : Type} (program : ComputeProgram α) {service : Service}
    (orderly : service.Orderly) : (program.run Service.handler service).state.Orderly :=
  run_preserves Service.Orderly (fun op _ _ holds => holds.handler op) (makes_any program) orderly

theorem keeps (account : Account) (group : String) :
    Pass.Keeps (Site.handler account.serve) group OrderlyAt (storeAt group) where
  admits _ orderly := orderly_run _ orderly
  describes {before after direction answer} orderly returned := by
    obtain ⟨rules, described, rfl⟩ := returns_map.1 (returns_cloud returned)
    obtain ⟨anchor, held, rfl, same⟩ := returns_describeRules described
    exact ⟨congrArg some (rules_storeOf held direction).symm, storeOf_of_stock same⟩
  creates {before after direction rule answer} orderly returned := by
    obtain ⟨_, created, _⟩ := returns_map.1 (returns_cloud returned)
    obtain ⟨anchor, destinations, held, _, free, left⟩ := returns_createRule orderly.keeps created
    unfold storeAt
    rw [storeOf_of_stock left]
    exact creates_inserted held free
  revokes {before after direction rule answer} orderly stored returned := by
    obtain ⟨_, revoked, _⟩ := returns_map.1 (returns_cloud returned)
    obtain ⟨name, firewall, named, found, left⟩ := returns_revokeRule revoked
    unfold storeAt
    rw [storeOf_of_stock left]
    exact revokes_without orderly (Option.filter_eq_some_iff.1 named).1 stored found
  looksUpGroup _ returned := storeOf_of_stock (returns_lookupGroup (returns_cloud returned)).2
  looksUpInstance _ returned := storeOf_of_stock (returns_lookupInstance (returns_cloud returned)).2

end Account

end Bastion.Compute
