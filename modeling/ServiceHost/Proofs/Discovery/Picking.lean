import ServiceHost.Discovery.Channel
import ServiceHost.Proofs.Table

set_option autoImplicit false

namespace ServiceHost

theorem Rotation.next_turn {α : Type} (rotation : Rotation) (items : List α) (filled : items ≠ []) :
    ∃ item, items[rotation.turn.toNat % items.length]? = some item ∧
      rotation.next items = (some item, { turn := rotation.turn + 1 }) := by
  have inside : rotation.turn.toNat % items.length < items.length := Nat.mod_lt _ (List.length_pos_iff.mpr filled)
  refine ⟨_, List.getElem?_eq_getElem inside, ?_⟩
  rw [next, if_neg (by rwa [List.isEmpty_iff]), List.getElem?_eq_getElem inside]

namespace Channel

theorem mem_snapshot (channel : Channel) (name : String) (endpoint : Endpoint)
    (found : channel.targets.get? name = some endpoint) : Target.ofEndpoint name endpoint ∈ channel.snapshot :=
  List.mem_map.mpr ⟨(name, endpoint), (Table.lookup_some_iff channel.targets name endpoint).mp found, rfl⟩

theorem snapshot_origin (channel : Channel) (target : Target) (member : target ∈ channel.snapshot) :
    ∃ endpoint, channel.targets.get? target.key = some endpoint ∧ target = Target.ofEndpoint target.key endpoint := by
  obtain ⟨⟨name, endpoint⟩, present, rfl⟩ := List.mem_map.mp member
  exact ⟨endpoint, (Table.lookup_some_iff channel.targets name endpoint).mpr present, rfl⟩

theorem snapshot_address (channel : Channel) (target : Target) (member : target ∈ channel.snapshot) :
    target.address ∈ channel.endpoints := by
  obtain ⟨pair, present, rfl⟩ := List.mem_map.mp member
  exact List.mem_map_of_mem (List.mem_map_of_mem present)

theorem pick_some (channel : Channel) (isOpen : channel.closed = false) (filled : channel.targets.entries ≠ []) :
    ∃ target ∈ channel.snapshot, ∃ after, channel.pick = (.ok target, after) := by
  have shown : channel.snapshot ≠ [] := fun empty => filled (List.map_eq_nil_iff.mp empty)
  obtain ⟨target, inside, turned⟩ := channel.rotation.next_turn channel.snapshot shown
  refine ⟨target, List.mem_of_getElem? inside, { channel with rotation := { turn := channel.rotation.turn + 1 } }, ?_⟩
  rw [pick, isOpen, turned]
  rfl

end Channel

end ServiceHost
