import TunnelLease.Proofs.CommandLine.Output
import TunnelLease.Proofs.CommandLine.Reading
import TunnelLease.Proofs.Config.Reservation
import TunnelLease.Proofs.Registry.Arrival

/-!
# What a simulation prints

The peers of a simulation come one after the other to a new registry, so what it prints
is known beforehand.  Every peer gets the addresses at its turn among those that are free
in each subnet, until the subnet with the fewest of them has no more.  The next peer is
rejected for the first such subnet, and it is the last one that is tried.
-/

namespace TunnelLease

namespace CommandLine

/-- The key under which a simulation registers a peer; peers are counted from zero. -/
def simulatedKey (index : Nat) : PeerKey :=
  .text s!"peer-{index + 1}"

theorem simulatedKey_injective : Function.Injective simulatedKey := by
  intro first second same
  have names := congrArg String.toList (PeerKey.text.inj same)
  have digits : Nat.toDigits 10 (first + 1) = Nat.toDigits 10 (second + 1) := by
    simpa [String.toList_append, ← Nat.toList_repr] using names
  have numbers := congrArg (Nat.ofDigitChars 10 · 0) digits
  simpa [Nat.ofDigitChars_ten_toDigits] using numbers

theorem simulatedKey_named (index : Nat) : (simulatedKey index).isVoid = false := by
  rw [simulatedKey, PeerKey.isVoid, beq_eq_false_iff_ne]
  intro same
  have letters := congrArg String.toList same
  simp [String.toList_append] at letters

theorem simulatedKey_new (served : Nat) :
    simulatedKey served ∉ (List.range served).map simulatedKey := by
  intro member
  obtain ⟨earlier, below, same⟩ := List.mem_map.mp member
  rw [simulatedKey_injective same, List.mem_range] at below
  exact Nat.lt_irrefl _ below

theorem rejection_eq (name : String) (block : Block) :
    s!"{name} rejected: {(Error.exhausted block).message}" =
      s!"{name} rejected: Address pool {block.label} is exhausted" := by
  have message : (Error.exhausted block).message =
      "Address pool " ++ block.label ++ " is exhausted" := rfl
  have joined : " rejected: Address pool " = " rejected: " ++ "Address pool " := by decide
  simp only [message, joined, String.append_assoc, toString]

section Turn

variable {count : Nat} {registry : Registry count} {served left : Nat}

theorem simulatePeers_of_ok {addresses : List Address}
    (granted : (registry.acquire (simulatedKey served)).answer = .ok addresses) :
    simulatePeers registry (served + (left + 1)) (left + 1) =
      (simulatePeers (registry.acquire (simulatedKey served)).state (served + 1 + left) left).after
        (s!"peer-{served + 1} " ++ ",".intercalate (addresses.map Address.hostRoute)) := by
  have turn : served + (left + 1) - left = served + 1 := by omega
  have total : served + (left + 1) = served + 1 + left := by omega
  rw [simulatedKey] at granted ⊢
  simp only [simulatePeers, turn, granted]
  rw [total]
  rfl

theorem simulatePeers_of_exhausted {block : Block}
    (refused : (registry.acquire (simulatedKey served)).answer =
      .error (.refused (.exhausted block)))
    (unchanged : (registry.acquire (simulatedKey served)).state.peers = registry.peers) :
    simulatePeers registry (served + (left + 1)) (left + 1) =
      ⟨1, [s!"peer-{served + 1} rejected: Address pool {block.label} is exhausted",
        registeredLine registry (served + (left + 1))], []⟩ := by
  have turn : served + (left + 1) - left = served + 1 := by omega
  rw [simulatedKey] at refused unchanged
  simp only [simulatePeers, turn, refused, registeredLine, Registry.size, unchanged,
    rejection_eq]
  rfl

end Turn

/-- The line for a peer that is served: the addresses at its turn in every subnet. -/
def servedLine (subnets : List Subnet) (reserved : List Address) (index : Nat) : String :=
  s!"peer-{index + 1} " ++ ",".intercalate
    ((subnets.filterMap fun subnet => (subnet.free reserved)[index]?).map Address.hostRoute)

/-- The last lines, when `room` of the peers fit and `full` is the first subnet without a
free address for one more. -/
def closingLines (full : Subnet) (room peers : Nat) : List String :=
  if peers ≤ room then [s!"Registered {peers} of {peers} peers"]
  else [s!"peer-{room + 1} rejected: Address pool {full.text} is exhausted",
    s!"Registered {room} of {peers} peers"]

/-- What simulating peers comes to. -/
def prediction (subnets : List Subnet) (reserved : List Address) (full : Subnet)
    (room peers : Nat) : Outcome where
  code := if peers ≤ room then 0 else 1
  output := (List.range (min peers room)).map (servedLine subnets reserved) ++
    closingLines full room peers
  errors := []

section Run

variable {config : Config} {subnets : List Subnet} {reserved : List Address}
  (means : config.Means subnets reserved)

/-- The addresses at a turn are those of the subnets at that turn. -/
theorem servedLine_eq {registry : Registry means.pools.toArray.size} {keys : List PeerKey}
    (arrived : Registry.Arrived means.registry.pools (List.finRange _) keys registry)
    {key : PeerKey} {addresses : List Address}
    (granted : (registry.acquire key).answer = .ok addresses) :
    servedLine subnets reserved keys.length =
      s!"peer-{keys.length + 1} " ++ ",".intercalate (addresses.map Address.hostRoute) := by
  have turns := arrived.addresses (List.nodup_finRange _) granted
  have gave : addresses.map some =
      subnets.map fun subnet => (subnet.free reserved)[keys.length]? := by
    rw [turns, means.map_subnets]
    apply List.map_congr_left
    intro index _
    rw [means.pool_future (means.getElem?_subnets index), Subnet.free_eq_leasable]
  have all : subnets.filterMap (fun subnet => (subnet.free reserved)[keys.length]?) =
      addresses := by
    calc
      _ = (subnets.map fun subnet => (subnet.free reserved)[keys.length]?).filterMap id := by
        rw [List.filterMap_map]
        rfl
      _ = addresses := by
        rw [← gave, List.filterMap_map]
        exact List.filterMap_some
  rw [servedLine, all]

variable {room : Nat} {full : Subnet}
  (isRoom : (subnets.map fun subnet => (subnet.leasable reserved).length).min? = some room)
  (isFull : subnets.find? (fun subnet => (subnet.leasable reserved).length = room) = some full)

include isRoom in
theorem acquire_served {registry : Registry means.pools.toArray.size} {keys : List PeerKey}
    (arrived : Registry.Arrived means.registry.pools (List.finRange _) keys registry)
    (fits : keys.length < room) {key : PeerKey} (named : key.isVoid = false) (new : key ∉ keys) :
    (∃ addresses, (registry.acquire key).answer = .ok addresses) ∧
      Registry.Arrived means.registry.pools (List.finRange _) (keys ++ [key])
        (registry.acquire key).state := by
  refine arrived.acquire named new ?_
  intro position isNamed
  rw [List.count_eq_one_of_mem (List.nodup_finRange _) isNamed, Nat.mul_one]
  exact Nat.le_trans fits (means.room_le isRoom position)

include isRoom in
/-- When as many peers have been served as there is room for, the spent pools are those of
the subnets with the fewest free addresses. -/
theorem spent_iff_shortest {registry : Registry means.pools.toArray.size} {keys : List PeerKey}
    (arrived : Registry.Arrived means.registry.pools (List.finRange _) keys registry)
    (all : keys.length = room) (position : Fin means.pools.toArray.size) :
    (registry.pools.get position).future.isEmpty =
      decide (((means.subnetAt position).leasable reserved).length = room) := by
  have enough := means.room_le isRoom position
  have order := means.pool_future (means.getElem?_subnets position)
  rw [order] at enough
  rw [(arrived.drawn position).future, order, Nat.mul_comm,
    List.count_eq_one_of_mem (List.nodup_finRange _) (List.mem_finRange position), Nat.one_mul,
    all, Bool.eq_iff_iff, List.isEmpty_iff, List.drop_eq_nil_iff, decide_eq_true_eq]
  omega

include isRoom isFull in
theorem acquire_rejected {registry : Registry means.pools.toArray.size} {keys : List PeerKey}
    (arrived : Registry.Arrived means.registry.pools (List.finRange _) keys registry)
    (all : keys.length = room) {key : PeerKey} (named : key.isVoid = false) (new : key ∉ keys) :
    (registry.acquire key).answer =
        .error (.refused (.exhausted ⟨some full, config.limit⟩)) ∧
      (registry.acquire key).state.peers = registry.peers := by
  obtain ⟨index, isFirst, isAt⟩ := means.exists_first_position isFull
  have first : registry.positions.find?
      (fun position => (registry.pools.get position).future.isEmpty) = some index := by
    rw [arrived.samePositions]
    simp only [spent_iff_shortest means isRoom arrived all]
    exact isFirst
  have distinct : registry.positions.Nodup := by
    rw [arrived.samePositions]
    exact List.nodup_finRange _
  obtain ⟨subnet, isSubnet, isPool⟩ := means.pool_get index
  cases isSubnet.symm.trans (means.getElem?_subnets index)
  have block : (registry.pools.get index).block = ⟨some full, config.limit⟩ := by
    rw [arrived.balanced.block, isPool, Pool.provisioned_block, isAt]
  rw [← block]
  exact Registry.acquire_exhausted_first arrived.balanced.invariant distinct named
    (arrived.unregistered new) first

theorem registeredLine_eq {registry : Registry means.pools.toArray.size} {served : Nat}
    (arrived : Registry.Arrived means.registry.pools (List.finRange _)
      ((List.range served).map simulatedKey) registry) (peers : Nat) :
    registeredLine registry peers = s!"Registered {served} of {peers} peers" := by
  rw [registeredLine, arrived.size_eq, List.length_map, List.length_range]

include isRoom isFull in
/-- When some peers have been served, the rest of the simulation goes on as predicted. -/
theorem simulatePeers_eq {registry : Registry means.pools.toArray.size} {served left : Nat}
    (arrived : Registry.Arrived means.registry.pools (List.finRange _)
      ((List.range served).map simulatedKey) registry) (fits : served ≤ room) :
    simulatePeers registry (served + left) left =
      ⟨if served + left ≤ room then 0 else 1,
        (List.range' served (min left (room - served))).map (servedLine subnets reserved) ++
          closingLines full room (served + left), []⟩ := by
  -- The induction is on the peers still to come: that those before them have arrived is all
  -- that the next acquisition depends on.
  induction left generalizing registry served with
  | zero =>
      simp only [simulatePeers, Nat.add_zero, Nat.zero_min, List.range'_zero, List.map_nil,
        List.nil_append, if_pos fits, closingLines, registeredLine_eq means arrived]
      rfl
  | succ left ih =>
      have named := simulatedKey_named served
      have new := simulatedKey_new served
      have count : ((List.range served).map simulatedKey).length = served := by simp
      rcases Nat.lt_or_eq_of_le fits with further | allServed
      · obtain ⟨⟨addresses, granted⟩, next⟩ :=
          acquire_served means isRoom arrived (by rwa [count]) named new
        have line := servedLine_eq means arrived granted
        have keys : (List.range served).map simulatedKey ++ [simulatedKey served] =
            (List.range (served + 1)).map simulatedKey := by
          rw [List.range_succ, List.map_append]
          rfl
        rw [keys] at next
        rw [count] at line
        have turns : min (left + 1) (room - served) = min left (room - (served + 1)) + 1 := by
          omega
        have total : served + (left + 1) = served + 1 + left := by omega
        rw [simulatePeers_of_ok granted, ih next further, turns, List.range'_succ, List.map_cons,
          line, total]
        rfl
      · have refused := acquire_rejected means isRoom isFull arrived (by rwa [count]) named new
        have beyond : ¬ served + (left + 1) ≤ room := by omega
        have noTurn : min (left + 1) (room - served) = 0 := by omega
        rw [simulatePeers_of_exhausted refused.1 refused.2, if_neg beyond, noTurn,
          List.range'_zero, List.map_nil, List.nil_append, closingLines, if_neg beyond,
          registeredLine_eq means arrived, allServed]
        rfl

end Run

theorem isPlain_servedLine (subnets : List Subnet) (reserved : List Address) (index : Nat) :
    IsPlain (servedLine subnets reserved index) := by
  have start : IsPlain s!"peer-{index + 1} " :=
    .append (.append (by decide) (.number _)) (by decide)
  refine .append start (.commas ?_)
  intro route isRoute
  obtain ⟨given, isGiven, rfl⟩ := List.mem_map.mp isRoute
  obtain ⟨subnet, _, atTurn⟩ := List.mem_filterMap.mp isGiven
  have member := (List.mem_filter.mp (List.mem_of_getElem? atTurn)).1
  have plain : IsPlain given.text := .address ((subnet.mem_members given).mp member).2
  exact .append (.append plain (by decide)) (.number _)

theorem isPlain_closingLines (full : Subnet) (room peers : Nat) :
    ∀ line ∈ closingLines full room peers, IsPlain line := by
  have registered (served : Nat) : IsPlain s!"Registered {served} of {peers} peers" := by
    refine .append (.append (.append (.append ?_ (.number served)) ?_) (.number peers)) ?_
    all_goals decide
  have block : IsPlain full.text := .append (.append (.address rfl) (by decide)) (.number _)
  have rejected :
      IsPlain s!"peer-{room + 1} rejected: Address pool {full.text} is exhausted" := by
    refine .append (.append (.append (.append ?_ (.number (room + 1))) ?_) block) ?_
    all_goals decide
  intro line member
  unfold closingLines at member
  split at member
  · rw [List.mem_singleton.mp member]
    exact registered peers
  · rcases List.mem_pair.mp member with rfl | rfl
    · exact rejected
    · exact registered room

theorem runSimulate_eq {source : Config.Source} {path : Option String} {config : Config}
    (loaded : Config.load source path = .ok config) (fit : config.check = .ok ())
    {subnets : List Subnet} {reserved : List Address} (means : config.Means subnets reserved)
    {room : Nat} (isRoom : (subnets.map fun subnet => (subnet.free reserved).length).min? =
      some room)
    {full : Subnet} (isFull : subnets.find? (fun subnet => (subnet.free reserved).length = room) =
      some full) (peers : Nat) :
    runSimulate source peers path = prediction subnets reserved full room peers := by
  simp only [Subnet.free_eq_leasable] at isRoom isFull
  have opened : Registry.Arrived means.registry.pools (List.finRange _)
      ((List.range 0).map simulatedKey) means.registry :=
    Registry.opened_arrived means.pools_invariant (List.finRange _)
  have run : simulatePeers means.registry (0 + peers) peers = _ :=
    simulatePeers_eq means isRoom isFull opened (Nat.zero_le room)
  rw [Nat.zero_add, Nat.sub_zero, ← List.range_eq_range'] at run
  rw [runSimulate, loaded]
  dsimp only
  rw [means.buildRegistry_eq fit]
  exact run

/-- The peer that comes as the n-th gets the n-th free address of every subnet, and as many
peers fit as the subnet with the fewest free addresses has. -/
theorem simulate_predicted {source : Config.Source} {path : Option String} {config : Config}
    {peers : Nat} (loaded : Config.load source path = .ok config) (fit : config.check = .ok ())
    (nameable : ∀ given ∈ path, given.contains '\x00' = false) (positive : 1 ≤ peers)
    (short : peers < 10 ^ Text.numeralLimit) :
    ∃ (subnets : List Subnet) (reserved : List Address) (room : Nat) (full : Subnet),
      List.Forall₂ Block.Denotes config.blockTexts subnets ∧
      List.Forall₂ (fun text address => Address.ofLiteral (.text text) = .ok address)
        config.reserved reserved ∧
      (∀ subnet ∈ subnets, Ascending (subnet.free reserved)) ∧
      (subnets.map fun subnet => (subnet.free reserved).length).min? = some room ∧
      subnets.find? (fun subnet => (subnet.free reserved).length = room) = some full ∧
      ∃ outcome, (Command.read? (simulateArguments peers path)).map (Command.run source) =
          some outcome ∧
        outcome.errors = [] ∧
        outcome.code = (if peers ≤ room then 0 else 1) ∧
        outcome.output = (List.range (min peers room)).map (servedLine subnets reserved) ++
          closingLines full room peers ∧
        ∀ terminal, Outcome.joinLines terminal outcome.output =
          String.join (outcome.output.map (· ++ "\n")) := by
  obtain ⟨subnets, reserved, means⟩ := Config.exists_means_of_check fit
  obtain ⟨room, isRoom⟩ : ∃ room,
      (subnets.map fun subnet => (subnet.free reserved).length).min? = some room := by
    apply Option.ne_none_iff_exists'.mp
    simp [means.configured]
  obtain ⟨full, isFull⟩ : ∃ full,
      subnets.find? (fun subnet => (subnet.free reserved).length = room) = some full := by
    obtain ⟨subnet, member, length⟩ := List.mem_map.mp (List.min?_mem isRoom)
    apply Option.isSome_iff_exists.mp
    rw [List.find?_isSome]
    exact ⟨subnet, member, decide_eq_true length⟩
  have run : (Command.read? (simulateArguments peers path)).map (Command.run source) =
      some (prediction subnets reserved full room peers) := by
    rw [read?_simulateArguments positive nameable, if_pos short]
    exact congrArg some (runSimulate_eq loaded fit means isRoom isFull peers)
  refine ⟨subnets, reserved, room, full, means.denoted, means.spelled_ok, ?_, isRoom, isFull,
    prediction subnets reserved full room peers, run, rfl, rfl, rfl, ?_⟩
  · exact fun subnet _ => subnet.members_ascending.filter _
  · refine joinLines_of_plain ?_
    intro line member
    rcases List.mem_append.mp member with served | closing
    · obtain ⟨index, _, rfl⟩ := List.mem_map.mp served
      exact isPlain_servedLine subnets reserved index
    · exact isPlain_closingLines full room peers line closing

/-- A settings file with a block of one free address. -/
def smallSource : Config.Source where
  lookup := fun _ => .file "[ipam]\nipv4_addr = 10.0.0.1/30\n".toUTF8.toList
  environment := none
  standard := "/etc/vpn-ipam/ipam.conf"

def smallConfig : Config :=
  ⟨"10.0.0.1/30", "", [], 65536⟩

theorem simulate_predicted_small :
    Config.load smallSource (some "default.conf") = .ok smallConfig ∧
      smallConfig.check = .ok () ∧
      ∃ outcome, (Command.read? (simulateArguments 2 (some "default.conf"))).map
        (Command.run smallSource) = some outcome ∧ outcome.errors = [] := by
  have loaded : Config.load smallSource (some "default.conf") = .ok smallConfig := by
    decide +kernel
  have fit : smallConfig.check = .ok () := by decide +kernel
  have short : 2 < 10 ^ Text.numeralLimit :=
    Nat.lt_of_lt_of_le (by decide : 2 < 10 ^ 1) (Nat.pow_le_pow_right (by decide) (by decide))
  obtain ⟨_, _, _, _, _, _, _, _, _, outcome, run, quiet, _⟩ :=
    simulate_predicted loaded fit (by simp) (by decide) short
  exact ⟨loaded, fit, outcome, run, quiet⟩

/-- The arguments that ask for a number of peers with one digit too many are misused, so
nothing is simulated. -/
theorem simulate_misused :
    Config.load smallSource (some "default.conf") = .ok smallConfig ∧
      smallConfig.check = .ok () ∧ 1 ≤ 10 ^ Text.numeralLimit ∧
      (Command.read? (simulateArguments (10 ^ Text.numeralLimit) (some "default.conf"))).map
        (Command.run smallSource) = none := by
  have positive : 1 ≤ 10 ^ Text.numeralLimit := Nat.one_le_pow _ _ (by decide)
  refine ⟨by decide +kernel, by decide +kernel, positive, ?_⟩
  rw [read?_simulateArguments positive (by simp), if_neg (Nat.lt_irrefl _)]
  rfl

end CommandLine

end TunnelLease
