import Bastion.Proofs.PortText
import Bastion.Proofs.ServiceReconciliation

set_option autoImplicit false

/- What a run that returned leaves open on the compute service. Rules are compared as they are read back,
from a description or from the first of several fields, so a firewall that says one thing and does
another may stand. -/
namespace Bastion.Compute

namespace Account

/-- The address ranges that are let in by the wanted rules. -/
def wantedRanges (sources : List Cidr) : List String :=
  (Rule.wantedIngress sources).flatMap fun rule => [rule.sourceV4, rule.sourceV6].filterMap id

/-- The ways in which the one port of SSH may be written. -/
def sshEntries : List String := ["22", "22-", "22-22"]

/-- By its fields the firewall lets in SSH from the wanted ranges, and nothing else. -/
structure OnlySsh (sources : List Cidr) (firewall : Firewall) : Prop where
  ranges : ∀ range ∈ firewall.sourceRanges, range ∈ wantedRanges sources
  traffic : ∀ traffic ∈ firewall.allowed, traffic.protocol = Rule.sshProtocol ∧
    traffic.ports ≠ [] ∧ ∀ port ∈ traffic.ports, port ∈ sshEntries

/-- The firewall is read back from its fields, and they have no more to them than what is read. -/
structure Plain (firewall : Firewall) : Prop where
  undescribed : describedRule? firewall = none
  rangesV4 : (firewall.sourceRanges.filter fun range => !isV6Range range).length ≤ 1
  rangesV6 : (firewall.sourceRanges.filter isV6Range).length ≤ 1
  entries : firewall.allowed.length ≤ 1
  ports : ∀ traffic ∈ firewall.allowed, traffic.ports.length ≤ 1

theorem pieces_of_sshPorts {start last : List Char}
    (whole : start ++ '/' :: last = ['2', '2', '/', '2', '2']) :
    start = ['2', '2'] ∧ last = ['2', '2'] := by
  match start with
  | [] => cases whole
  | [_] => cases whole
  | [first, second] =>
    cases whole
    exact ⟨rfl, rfl⟩
  | [_, _, _] => cases whole
  | [_, _, _, _] => cases whole
  | _ :: _ :: _ :: _ :: _ :: rest => cases rest <;> cases whole

/-- What is read as the port of SSH is written in one of its ways. -/
theorem ssh_of_portRange {entry : String} (read : portRange [entry] = Rule.sshPorts) :
    entry ∈ sshEntries := by
  have characters : entryRange entry.toList = ['2', '2', '/', '2', '2'] := by
    have same := congrArg String.toList read
    change (String.ofList _).toList = _ at same
    rwa [String.toList_ofList] at same
  obtain ⟨start, last, _, range, shape⟩ := entryRange_eq entry.toList
  rw [range] at characters
  obtain ⟨rfl, ends⟩ := pieces_of_sshPorts characters
  have text : entry.toList ∈ sshEntries.map String.toList := by
    rcases shape with ⟨whole, _⟩ | split
    · rw [whole]
      decide
    · unfold endOr at ends
      cases last with
      | nil =>
        rw [split]
        decide
      | cons first rest =>
        rw [split, show first :: rest = ['2', '2'] from ends]
        decide
  obtain ⟨other, member, same⟩ := List.mem_map.1 text
  rwa [← String.toList_inj.1 same]

theorem mem_of_mem_range {rule : Rule} {sources : List Cidr} {wanted : Rule} {range : String}
    (member : wanted ∈ Rule.wantedIngress sources) (same : wanted.key = rule.key)
    (read : rule.sourceV4 = some range ∨ rule.sourceV6 = some range) :
    range ∈ wantedRanges sources := by
  refine List.mem_flatMap.2 ⟨wanted, member, ?_⟩
  have sourceV4 : wanted.sourceV4 = rule.sourceV4 := congrArg Rule.Key.sourceV4 same
  have sourceV6 : wanted.sourceV6 = rule.sourceV6 := congrArg Rule.Key.sourceV6 same
  rw [List.mem_filterMap]
  rcases read with told | told
  · exact ⟨some range, by simp [sourceV4, told], rfl⟩
  · exact ⟨some range, by simp [sourceV6, told], rfl⟩

theorem eq_singleton_of_mem {α : Type} {items : List α} {item : α} (few : items.length ≤ 1)
    (member : item ∈ items) : items = [item] := by
  match items with
  | [] => cases member
  | [other] => rw [List.mem_singleton.1 member]
  | _ :: _ :: _ => exact absurd few (by simp)

/-- An item that passes a test is the first one to, where at most one does. -/
theorem find?_of_length_le {α : Type} {test : α → Bool} {items : List α} {item : α}
    (few : (items.filter test).length ≤ 1) (member : item ∈ items) (fits : test item = true) :
    items.find? test = some item := by
  have inside : item ∈ items.filter test := List.mem_filter.2 ⟨member, fits⟩
  rw [← List.head?_filter, eq_singleton_of_mem few inside, List.head?_cons]

/-- The fields of a plain firewall that is read back as a wanted rule are those of the rule. -/
theorem onlySsh_of_plain {firewall : Firewall} {sources : List Cidr} {rule : Rule}
    (plain : Plain firewall) (read : readBack? firewall = some rule)
    (held : rule.key ∈ Rule.keySet (Rule.wantedIngress sources)) : OnlySsh sources firewall := by
  obtain ⟨wanted, member, same⟩ := Rule.mem_keySet.1 held
  obtain ⟨source, inside, rfl⟩ := List.mem_map.1 member
  have protocol : Rule.sshProtocol = rule.protocol := congrArg Rule.Key.protocol same
  have ports : Rule.sshPorts = rule.ports := congrArg Rule.Key.ports same
  unfold readBack? at read
  rw [plain.undescribed, Option.none_or] at read
  unfold rawRule at read
  cases directed : Keyed.get? Direction.choices (Text.lowerCase firewall.direction) with
  | none =>
    simp only [directed] at read
    cases read
  | some direction =>
    simp only [directed] at read
    obtain rfl := Option.some.inj read
    constructor
    · intro range listed
      apply mem_of_mem_range member same
      cases family : isV6Range range with
      | false => exact .inl (find?_of_length_le plain.rangesV4 listed (by rw [family]; rfl))
      | true => exact .inr (find?_of_length_le plain.rangesV6 listed family)
    · intro traffic allowed
      rw [eq_singleton_of_mem plain.entries allowed] at protocol ports
      simp only [List.isEmpty_cons, Bool.false_eq_true, ↓reduceIte, List.head?_cons,
        Option.map_some, Option.getD_some] at protocol ports
      refine ⟨protocol.symm, ?_, ?_⟩
      · intro none
        rw [none] at ports
        exact absurd ports (by decide)
      · intro port listed
        rw [eq_singleton_of_mem (plain.ports traffic allowed) listed] at ports
        exact ssh_of_portRange ports.symm

/-- What was made for a rule with a wanted key is open for SSH from its range, or not open at all. -/
theorem onlySsh_of_ruleSpec {firewall : Firewall} {sources : List Cidr} {rule : Rule}
    {tag network : String} {destinations : List String}
    (held : rule.key ∈ Rule.keySet (Rule.wantedIngress sources))
    (made : firewall.toFirewallSpec = ruleSpec tag network rule destinations) :
    OnlySsh sources firewall := by
  have ranges : firewall.sourceRanges = (ruleSpec tag network rule destinations).sourceRanges :=
    congrArg FirewallSpec.sourceRanges made
  have allowed : firewall.allowed = (ruleSpec tag network rule destinations).allowed :=
    congrArg FirewallSpec.allowed made
  obtain ⟨wanted, member, same⟩ := Rule.mem_keySet.1 held
  obtain ⟨source, _, rfl⟩ := List.mem_map.1 member
  have direction : .ingress = rule.direction := congrArg Rule.Key.direction same
  have protocol : Rule.sshProtocol = rule.protocol := congrArg Rule.Key.protocol same
  have ports : Rule.sshPorts = rule.ports := congrArg Rule.Key.ports same
  constructor
  · intro range listed
    simp only [ranges, ruleSpec, ← direction] at listed
    obtain ⟨given, one, told⟩ := List.mem_filterMap.1 listed
    obtain rfl : given = some range := told
    apply mem_of_mem_range member same
    rw [List.mem_cons, List.mem_singleton] at one
    exact one.imp (fun same => (Option.filter_eq_some_iff.1 same.symm).1)
      fun same => (Option.filter_eq_some_iff.1 same.symm).1
  · intro traffic entry
    simp only [allowed, ruleSpec, ← protocol, ← ports] at entry
    cases policy : rule.policy with
    | accept =>
      simp only [policy, List.mem_singleton] at entry
      rw [entry, show portEntries Rule.sshPorts = ["22"] by decide]
      exact ⟨rfl, by decide, by decide⟩
    | drop =>
      simp only [policy, List.not_mem_nil] at entry

/-- The fields of the firewall say no more than what is read back of it: it was made for some rule, or
it is plain. -/
def Candid (firewall : Firewall) : Prop :=
  (∃ tag network rule destinations,
    firewall.toFirewallSpec = ruleSpec tag network rule destinations) ∨ Plain firewall

/-- Every firewall that a run of `reconcile_security_group_rules` leaves for what comes in is read back as
a wanted rule. If it was made by the run, or is candid, it is open for SSH from the wanted ranges and for
nothing else. -/
theorem ingress_left (account : Account) (request : Request) {group : String} {anchor : Firewall}
    {before after : Site Service} (orderly : before.world.Orderly)
    (held : anchorIn? before.world.firewalls group = some anchor)
    (returned : (account.reconcile request group).Returns (Site.handler Service.handler) before ()
      after) :
    ∀ firewall ∈ after.world.firewalls, isRuleOf anchor .ingress firewall = true →
      (∃ rule, readBack? firewall = some rule ∧
        rule.key ∈ Rule.keySet (Rule.wantedIngress request.ingress)) ∧
      (firewall ∉ before.world.firewalls ∨ Candid firewall →
        OnlySsh request.ingress firewall) := by
  obtain ⟨_, wanted, completes⟩ :=
    completes_of_returns orderly held (returns_reconcile.1 returned)
  intro firewall member fits
  obtain ⟨rule, read⟩ := readBack?_isSome (isRuleOf_iff.1 fits).2.2
  have key : rule.key ∈ Rule.keySet (Rule.wantedIngress request.ingress) := by
    rw [← completes.ingress]
    exact Rule.mem_keySet.2 ⟨rule, mem_rulesOf.2 ⟨firewall, member, fits, read⟩, rfl⟩
  refine ⟨⟨rule, read, key⟩, ?_⟩
  -- What is read of a firewall that was made for a rule is that rule, so the rule has a wanted key.
  have ofMade : ∀ {tag network : String} {made : Rule} {destinations : List String},
      firewall.toFirewallSpec = ruleSpec tag network made destinations →
        OnlySsh request.ingress firewall := by
    intro tag network made destinations fields
    obtain rfl := Option.some.inj (read.symm.trans (readBack?_of_ruleSpec fields))
    exact onlySsh_of_ruleSpec key fields
  rintro (new | ⟨_, _, _, _, fields⟩ | plain)
  · rw [Service.firewalls_of_stock completes.left] at member
    rcases mem_of_mem_settledBy member with stayed | ⟨_, _, _, fields⟩
    · rcases mem_of_mem_settledBy stayed with old | ⟨_, _, _, fields⟩
      · exact absurd old new
      · exact ofMade fields
    · exact ofMade fields
  · exact ofMade fields
  · exact onlySsh_of_plain plain read key

instance (sources : List Cidr) (firewall : Firewall) : Decidable (OnlySsh sources firewall) :=
  decidable_of_iff ((∀ range ∈ firewall.sourceRanges, range ∈ wantedRanges sources) ∧
    ∀ traffic ∈ firewall.allowed, traffic.protocol = Rule.sshProtocol ∧ traffic.ports ≠ [] ∧
      ∀ port ∈ traffic.ports, port ∈ sshEntries)
    ⟨fun both => ⟨both.1, both.2⟩, fun only => ⟨only.ranges, only.traffic⟩⟩

/-- SSH from the office, let in by a firewall that was set up by hand. -/
def handMade (name : String) (id : Nat) (ranges : List String) (allowed : List Traffic) :
    Firewall :=
  { officeFirewall name id (Rule.allowSsh Pass.officeBlock) with
    description := "SSH access for Bastion", sourceRanges := ranges, allowed := allowed }

/-- Firewalls that are read back as SSH from the office and let in more: by the ranges that stand
behind a description, by a second range, by a second protocol, by a second port. -/
def liars : List Firewall :=
  [{ officeFirewall "said" 21 (Rule.allowSsh Pass.officeBlock) with
      sourceRanges := ["0.0.0.0/0"] },
    handMade "ranges" 22 ["203.0.113.0/24", "0.0.0.0/0"] [⟨"tcp", ["22"]⟩],
    handMade "protocols" 23 ["203.0.113.0/24"] [⟨"tcp", ["22"]⟩, ⟨"udp", []⟩],
    handMade "ports" 24 ["203.0.113.0/24"] [⟨"tcp", ["22", "3389"]⟩]]

theorem rulesOf_liars : Rule.keySet (rulesOf officeAnchor .ingress (liars ++ officeExits)) =
    Rule.keySet (Rule.wantedIngress Pass.officeRequest.ingress) := by
  have keys : (rulesOf officeAnchor .ingress liars).map Rule.key =
      List.replicate 4 (Rule.allowSsh Pass.officeBlock).key := by
    unfold liars
    rw [rulesOf_cons (by decide) (readBack?_of_ruleDescription rfl), List.map_cons]
    decide
  rw [rulesOf_append, officeExits_ingress, List.append_nil]
  unfold Rule.keySet
  rw [keys]
  ext key
  exact ⟨fun member => by rw [List.eq_of_mem_replicate member]; exact List.mem_singleton_self _,
    fun member => by rw [List.mem_singleton.1 member]; exact List.mem_cons_self⟩

theorem liars_open : ∀ liar ∈ liars, isRuleOf officeAnchor .ingress liar = true ∧
    liar.allowed ≠ [] ∧ ¬OnlySsh Pass.officeRequest.ingress liar := by
  decide +kernel

theorem liars_orderly : (officeService (liars ++ officeExits)).Orderly := ⟨by decide, rfl⟩

/-- A run returns and leaves them all, though each lets in more than is wanted. -/
theorem liars_stand : ∃ after, (officeAccount.reconcile Pass.officeRequest officeGroup).Returns
    (Site.handler Service.handler) (officeSite (liars ++ officeExits)) () after ∧
      (officeService (liars ++ officeExits)).Orderly ∧
      ((officeService (liars ++ officeExits)).firewalls.map (·.id)).Nodup ∧
      anchorIn? (officeService (liars ++ officeExits)).firewalls officeGroup = some officeAnchor ∧
      ∀ liar ∈ liars, liar ∈ after.world.firewalls ∧
        isRuleOf officeAnchor .ingress liar = true ∧ liar.allowed ≠ [] ∧
        ¬OnlySsh Pass.officeRequest.ingress liar := by
  have egress : Rule.keySet (rulesOf officeAnchor .egress (liars ++ officeExits)) =
      Rule.keySet officeEgress := by
    have none : liars.filter (isRuleOf officeAnchor .egress) = [] := by decide
    rw [rulesOf_append, ← officeExits_egress]
    unfold rulesOf
    rw [none, List.filterMap_nil, List.nil_append]
  obtain ⟨after, returned, left⟩ := office_run liars_orderly rulesOf_liars egress
  refine ⟨after, returned, liars_orderly, by decide, office_held _, fun liar member =>
    ⟨?_, liars_open liar member⟩⟩
  have inside : liar ∈ officeAnchor :: officeWorkload :: (liars ++ officeExits) :=
    List.mem_cons_of_mem _ (List.mem_cons_of_mem _ (List.mem_append_left _ member))
  rw [Service.firewalls_of_stock left]
  exact inside

/-- The same, set up by hand for the office alone. -/
def honest : Firewall := handMade "honest" 25 ["203.0.113.0/24"] [⟨"tcp", ["22-22"]⟩]

theorem ingress_left_office : ∃ after,
    (officeAccount.reconcile Pass.officeRequest officeGroup).Returns (Site.handler Service.handler)
      (officeSite (honest :: officeExits)) () after ∧
    honest ∈ after.world.firewalls ∧ OnlySsh Pass.officeRequest.ingress honest := by
  have orderly : (officeService (honest :: officeExits)).Orderly := ⟨by decide, rfl⟩
  have ingress : Rule.keySet (rulesOf officeAnchor .ingress (honest :: officeExits)) =
      Rule.keySet (Rule.wantedIngress Pass.officeRequest.ingress) := by
    have read : (rulesOf officeAnchor .ingress [honest]).map Rule.key =
        (Rule.wantedIngress Pass.officeRequest.ingress).map Rule.key := by decide
    rw [← List.singleton_append, rulesOf_append, officeExits_ingress, List.append_nil]
    unfold Rule.keySet
    rw [read]
  have egress : Rule.keySet (rulesOf officeAnchor .egress (honest :: officeExits)) =
      Rule.keySet officeEgress := officeExits_egress
  obtain ⟨after, returned, left⟩ := office_run orderly ingress egress
  have stands : honest ∈ after.world.firewalls := by
    rw [Service.firewalls_of_stock left]
    decide
  have plain : Plain honest := ⟨by decide, by decide, by decide, by decide, by decide⟩
  exact ⟨after, returned, stands, (ingress_left officeAccount Pass.officeRequest orderly
    (office_held _) returned honest stands (by decide)).2 (.inr (.inr plain))⟩

end Account

end Bastion.Compute
