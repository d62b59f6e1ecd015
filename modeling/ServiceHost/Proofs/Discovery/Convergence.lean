import ServiceHost.Discovery.Follower
import ServiceHost.Proofs.Endpoint
import ServiceHost.Proofs.Store.Watching

set_option autoImplicit false

namespace ServiceHost.Follower

open Store (Operation Reply Watch Seen under restrict values replay amend changesMade)

-- What a follower holds between two of its steps. Without a watch it is idle: it has not begun, it
-- pauses, or it was refused.
inductive Stage where
  | idle
  | watching (watch : Watch)
  | listed (watch : Watch) (listing : List (String × List UInt8))
  | following (watch : Watch)

structure Discovery where
  store : Store := {}
  channel : Channel
  stage : Stage := .idle

-- The three parts of a subscription are moves of their own. `receive` takes one change from the buffer,
-- `observe` as many as it needs to see something, `lose` is a stream that ends for any other reason.
inductive Move where
  | perform (now : Nat) (operation : Operation)
  | subscribe
  | list (now : Nat)
  | install
  | receive
  | observe (now : Nat)
  | lose

namespace Discovery

def heed (discovery : Discovery) : Option Seen × Watch → Discovery
  | (none, watch) => { discovery with stage := .following watch }
  | (some (.change change), watch) =>
      { discovery with channel := apply discovery.channel change, stage := .following watch }
  | (some .pending, watch) => { discovery with stage := .following watch }
  | (some (.failed _), _) => { discovery with stage := .idle }
  | (some .ended, _) => { discovery with stage := .idle }

def step (root : String) (discovery : Discovery) (move : Move) : Discovery :=
  match move, discovery.stage with
  | .perform now operation, _ => { discovery with store := (Store.perform now operation discovery.store).2 }
  | .subscribe, .idle =>
      match discovery.store.watch root with
      | .ok watch => { discovery with stage := .watching watch }
      | .error _ => discovery
  | .list now, .watching watch =>
      match discovery.store.list now root with
      | (.ok listing, store) => { discovery with store, stage := .listed watch listing }
      | (.error _, store) => { discovery with store, stage := .idle }
  | .install, .listed watch listing =>
      { discovery with channel := discovery.channel.replaceAll (targetsOf listing), stage := .following watch }
  | .receive, .following watch => discovery.heed (watch.receive discovery.store.changes true)
  | .observe now, .following watch =>
      match Follower.observe now discovery.store { root, phase := .following watch } discovery.channel with
      | ({ phase := .following watch, .. }, channel) => { discovery with channel, stage := .following watch }
      | (_, channel) => { discovery with channel, stage := .idle }
  | .lose, .following _ => { discovery with stage := .idle }
  | _, _ => discovery

def run (root : String) (discovery : Discovery) (moves : List Move) : Discovery := moves.foldl (step root) discovery

end Discovery

theorem subscribe_steps (root : String) (now : Nat) (discovery : Discovery) (idle : discovery.stage = .idle) :
    discovery.run root [.subscribe, .list now, .install] =
      match subscribe now root discovery.store discovery.channel with
      | (.ok watch, store, channel) => { store, channel, stage := .following watch }
      | (.error _, store, channel) => { store, channel, stage := .idle } := by
  obtain ⟨store, channel, stage⟩ := discovery
  cases idle
  simp only [Discovery.run, List.foldl_cons, List.foldl_nil, subscribe, Discovery.step]
  cases store.watch root with
  | error => rfl
  | ok watch =>
      dsimp only
      cases store.list now root with
      | mk result after =>
          cases result <;> rfl

theorem observe_heeds (root : String) (now : Nat) (discovery : Discovery) (watch : Watch)
    (following : discovery.stage = .following watch) :
    discovery.step root (.observe now) =
      discovery.heed (some (watch.read discovery.store.changes true).1, (watch.read discovery.store.changes true).2) := by
  obtain ⟨store, channel, stage⟩ := discovery
  cases following
  simp only [Discovery.step, Follower.observe]
  cases watch.read store.changes true with
  | mk seen next => cases seen <;> rfl

def pending (root : String) (store : Store) (watch : Watch) : List Change :=
  (store.changes.toList.drop watch.position).filter (under root)

def described (root : String) (store : Store) : Table Endpoint :=
  Store.decoded Endpoint.decode? (restrict root (values store))

-- The targets come out right as soon as the watch has been read to its end.
structure Awaits (root : String) (store : Store) (watch : Watch) (targets : Table Endpoint) : Prop where
  about : watch.root = root
  within : watch.position ≤ store.changes.size
  converging : replay Endpoint.decode? (pending root store watch) targets = described root store

def Encodes (value : List UInt8) : Prop := ∃ endpoint, Endpoint.decode? value = some endpoint

-- While a follower has subscribed but not listed, the targets that it would need are those at the time of
-- its subscription, which nobody has.
structure Sound (root : String) (discovery : Discovery) : Prop where
  encoded : ∀ key value, (values discovery.store).get? key = some value → Encodes value
  ready : match discovery.stage with
    | .idle => True
    | .watching watch => ∃ targets, Awaits root discovery.store watch targets
    | .listed watch listing => Awaits root discovery.store watch (.ofList (targetsOf listing))
    | .following watch => Awaits root discovery.store watch discovery.channel.targets

def Registers : Operation → Prop
  | .put _ value _ => ∃ endpoint : Endpoint, value = endpoint.encode
  | _ => True

theorem made_readable (now : Nat) (operation : Operation) (store : Store) (registers : Registers operation) :
    ∀ change ∈ changesMade now operation store, Store.Readable Endpoint.decode? change := by
  intro change made
  cases change with
  | put key value =>
      obtain ⟨lease, rfl⟩ := Store.put_made now operation store key value made
      obtain ⟨endpoint, encoded⟩ := registers
      exact ⟨endpoint, encoded ▸ Endpoint.decode_encode endpoint⟩
  | delete key => trivial

theorem described_perform (root : String) (now : Nat) (operation : Operation) (store : Store)
    (registers : Registers operation) :
    described root (Store.perform now operation store).2 =
      replay Endpoint.decode? ((changesMade now operation store).filter (under root)) (described root store) := by
  have readable : ∀ change ∈ (changesMade now operation store).filter (under root),
      Store.Readable Endpoint.decode? change :=
    fun change member => made_readable now operation store registers change (List.mem_filter.mp member).1
  rw [described, ← Store.perform_replays, Store.restrict_replay, Store.decode_replay _ _ readable]
  rfl

theorem pending_perform (root : String) (now : Nat) (operation : Operation) (store : Store) (watch : Watch)
    (within : watch.position ≤ store.changes.size) :
    pending root (Store.perform now operation store).2 watch =
      pending root store watch ++ (changesMade now operation store).filter (under root) := by
  rw [pending, Store.perform_changes, List.drop_append_of_le_length (by simpa using within), List.filter_append]
  rfl

theorem awaits_perform (root : String) (now : Nat) (operation : Operation) (store : Store) (watch : Watch)
    (targets : Table Endpoint) (registers : Registers operation) (awaits : Awaits root store watch targets) :
    Awaits root (Store.perform now operation store).2 watch targets := by
  refine ⟨awaits.about, Nat.le_trans awaits.within (Store.perform_grows now operation store), ?_⟩
  rw [pending_perform root now operation store watch awaits.within, Store.replay_append, awaits.converging,
    described_perform root now operation store registers]

theorem encoded_perform (now : Nat) (operation : Operation) (store : Store) (registers : Registers operation)
    (encoded : ∀ key value, (values store).get? key = some value → Encodes value) :
    ∀ key value, (values (Store.perform now operation store).2).get? key = some value → Encodes value := by
  intro key value found
  rw [← Store.perform_replays] at found
  rcases Store.replay_origin _ _ key value found with before | put
  · exact encoded key value before
  · exact made_readable now operation store registers _ put

theorem sound_perform (root : String) (now : Nat) (operation : Operation) (discovery : Discovery)
    (registers : Registers operation) (sound : Sound root discovery) :
    Sound root (discovery.step root (.perform now operation)) := by
  have ready := sound.ready
  refine ⟨encoded_perform now operation discovery.store registers sound.encoded, ?_⟩
  simp only [Discovery.step]
  cases stage : discovery.stage with
  | idle => trivial
  | watching watch =>
      rw [stage] at ready
      exact ready.imp fun targets => awaits_perform root now operation _ watch targets registers
  | listed watch listing =>
      rw [stage] at ready
      exact awaits_perform root now operation _ watch _ registers ready
  | following watch =>
      rw [stage] at ready
      exact awaits_perform root now operation _ watch _ registers ready

theorem awaits_subscribe (root : String) (store : Store) (watch : Watch) (subscribed : store.watch root = .ok watch) :
    Awaits root store watch (described root store) := by
  cases Store.watch_granted root store watch subscribed
  refine ⟨rfl, Nat.le_refl _, ?_⟩
  have nothing : pending root store { root, position := store.changes.size } = [] := by
    rw [pending, List.drop_eq_nil_of_le (by simp), List.filter_nil]
  rw [nothing]
  rfl

theorem described_entries (root : String) (store : Store) :
    (described root store).entries = (store.table.entries.filter fun pair => Table.liesUnder root pair.1).filterMap
      fun pair => (Endpoint.decode? pair.2.value).map (pair.1, ·) := by
  change (((store.table.entries.map fun pair => (pair.1, pair.2.value)).filter
    fun pair => Table.liesUnder root pair.1).filterMap fun pair => (Endpoint.decode? pair.2).map (pair.1, ·)) = _
  rw [List.filter_map, List.filterMap_map]
  rfl

theorem list_targets (now : Nat) (root : String) (store after : Store) (listing : List (String × List UInt8))
    (listed : store.list now root = (.ok listing, after)) :
    Table.ofList (targetsOf listing) = described root after := by
  unfold Store.list at listed
  split at listed
  · cases listed
  · cases listed
    rw [← Table.of_list_entries (described root _), described_entries, Table.under_filter, targetsOf, List.filterMap_map]
    rfl

-- What has been listed already shows the changes that came between the subscription and the listing.
-- Replaying them once more does no harm.
theorem awaits_list (root : String) (store : Store) (watch : Watch) (targets : Table Endpoint)
    (awaits : Awaits root store watch targets) : Awaits root store watch (described root store) := by
  refine ⟨awaits.about, awaits.within, ?_⟩
  rw [← awaits.converging, Store.replay_twice]

theorem sound_subscribe (root : String) (discovery : Discovery) (sound : Sound root discovery) :
    Sound root (discovery.step root .subscribe) := by
  obtain ⟨store, channel, stage⟩ := discovery
  cases stage with
  | idle =>
      simp only [Discovery.step]
      cases subscribed : store.watch root with
      | error => exact sound
      | ok watch => exact ⟨sound.encoded, described root store, awaits_subscribe root store watch subscribed⟩
  | _ => exact sound

theorem sound_list (root : String) (now : Nat) (discovery : Discovery) (sound : Sound root discovery) :
    Sound root (discovery.step root (.list now)) := by
  obtain ⟨store, channel, stage⟩ := discovery
  cases stage with
  | watching watch =>
      -- A listing sweeps the store, as the operation of that name does.
      have swept := sound_perform root now (.list root) _ trivial sound
      have same : (Store.perform now (.list root) store).2 = (store.list now root).2 := rfl
      simp only [Discovery.step, same] at swept ⊢
      cases listed : store.list now root with
      | mk result after =>
          rw [listed] at swept
          cases result with
          | error => exact ⟨swept.encoded, trivial⟩
          | ok listing =>
              obtain ⟨targets, awaits⟩ := swept.ready
              refine ⟨swept.encoded, ?_⟩
              have complete := awaits_list root after watch targets awaits
              rw [← list_targets now root store after listing listed] at complete
              exact complete
  | _ => exact sound

theorem sound_install (root : String) (discovery : Discovery) (sound : Sound root discovery) :
    Sound root (discovery.step root .install) := by
  obtain ⟨store, channel, stage⟩ := discovery
  cases stage with
  | listed watch listing => exact ⟨sound.encoded, sound.ready⟩
  | _ => exact sound

theorem apply_amends (channel : Channel) (change : Change) :
    (apply channel change).targets = amend Endpoint.decode? channel.targets change := by
  cases change with
  | put key value =>
      simp only [apply, amend]
      cases Endpoint.decode? value <;> rfl
  | delete key => rfl

theorem pending_next (root : String) (store : Store) (watch : Watch) (change : Change)
    (next : store.changes[watch.position]? = some change) :
    pending root store watch =
      (if under root change then [change] else []) ++ pending root store { watch with position := watch.position + 1 } := by
  rw [pending, Store.unread_next store.changes watch.position change next, List.filter_cons]
  split <;> rfl

theorem sound_receive (root : String) (discovery : Discovery) (watch : Watch)
    (following : discovery.stage = .following watch) (sound : Sound root discovery) :
    Sound root (discovery.heed (watch.receive discovery.store.changes true)) := by
  obtain ⟨store, channel, stage⟩ := discovery
  cases following
  have awaits : Awaits root store watch channel.targets := sound.ready
  have received := Store.receive_received store.changes watch
  cases taken : watch.receive store.changes true with
  | mk seen next =>
      simp only [taken] at received ⊢
      cases received with
      | ended => exact ⟨sound.encoded, trivial⟩
      | behind => exact ⟨sound.encoded, trivial⟩
      | pending => exact ⟨sound.encoded, awaits⟩
      | change change _ _ found =>
          have bound := (Array.getElem?_eq_some_iff.mp found).1
          have converging := awaits.converging
          rw [pending_next root store watch change found, Store.replay_append] at converging
          rw [awaits.about]
          cases inside : under root change with
          | true =>
              rw [inside, if_pos rfl] at converging
              refine ⟨sound.encoded, rfl, bound, ?_⟩
              rw [if_pos rfl, Discovery.heed, apply_amends]
              exact converging
          | false =>
              rw [inside, if_neg Bool.false_ne_true] at converging
              exact ⟨sound.encoded, rfl, bound, converging⟩

-- A read is repeated taking of single changes, so the induction is on how many are unread.
theorem sound_read (root : String) (unread : Nat) (discovery : Discovery) (watch : Watch)
    (size : discovery.store.changes.size - watch.position = unread)
    (following : discovery.stage = .following watch) (sound : Sound root discovery) :
    Sound root (discovery.heed (some (watch.read discovery.store.changes true).1,
      (watch.read discovery.store.changes true).2)) := by
  induction unread using Nat.strongRecOn generalizing discovery watch with
  | ind unread ih =>
      have within : watch.position ≤ discovery.store.changes.size := by
        have ready := sound.ready
        rw [following] at ready
        exact ready.within
      have received := sound_receive root discovery watch following sound
      rw [Store.read_receive _ _ within]
      cases taken : watch.receive discovery.store.changes true with
      | mk seen next =>
          rw [taken] at received
          cases seen with
          | some seen => exact received
          | none =>
              obtain ⟨later, bound⟩ := Store.receive_silent _ _ _ taken
              exact ih (unread - 1) (by omega) { discovery with stage := .following next } next
                (by dsimp only; omega) rfl received

def Move.Registers : Move → Prop
  | .perform _ operation => Follower.Registers operation
  | _ => True

theorem sound_step (root : String) (discovery : Discovery) (move : Move) (registers : move.Registers)
    (sound : Sound root discovery) : Sound root (discovery.step root move) := by
  cases move with
  | perform now operation => exact sound_perform root now operation discovery registers sound
  | subscribe => exact sound_subscribe root discovery sound
  | list now => exact sound_list root now discovery sound
  | install => exact sound_install root discovery sound
  | receive =>
      cases stage : discovery.stage with
      | following watch =>
          have received := sound_receive root discovery watch stage sound
          simpa only [Discovery.step, stage] using received
      | _ => simpa only [Discovery.step, stage] using sound
  | observe now =>
      cases stage : discovery.stage with
      | following watch =>
          rw [observe_heeds root now discovery watch stage]
          exact sound_read root _ discovery watch rfl stage sound
      | _ => simpa only [Discovery.step, stage] using sound
  | lose =>
      cases stage : discovery.stage with
      | following watch =>
          simp only [Discovery.step, stage]
          exact ⟨sound.encoded, trivial⟩
      | _ => simpa only [Discovery.step, stage] using sound

theorem sound_run (root : String) (moves : List Move) (discovery : Discovery)
    (registers : ∀ move ∈ moves, move.Registers) (sound : Sound root discovery) :
    Sound root (discovery.run root moves) := by
  induction moves generalizing discovery with
  | nil => exact sound
  | cons move rest ih =>
      exact ih _ (fun other member => registers other (.tail _ member))
        (sound_step root discovery move (registers move List.mem_cons_self) sound)

theorem map_all {α β : Type} (f : α → Option β) (items : List α) (all : ∀ item ∈ items, (f item).isSome) :
    (items.filterMap f).map some = items.map f := by
  induction items with
  | nil => rfl
  | cons item rest ih =>
      obtain ⟨value, found⟩ := Option.isSome_iff_exists.mp (all item List.mem_cons_self)
      rw [List.filterMap_cons_some found, List.map_cons, List.map_cons, found,
        ih fun other member => all other (.tail _ member)]

theorem snapshot_described (root : String) (store : Store) (channel : Channel)
    (encoded : ∀ key value, (values store).get? key = some value → Encodes value)
    (targets : channel.targets = described root store) :
    channel.snapshot.map some =
      (store.table.entries.filter fun pair => Table.liesUnder root pair.1).map fun pair =>
        (Endpoint.decode? pair.2.value).map (Target.ofEndpoint pair.1) := by
  have all : ∀ pair ∈ store.table.entries.filter fun pair => Table.liesUnder root pair.1,
      ((Endpoint.decode? pair.2.value).map (pair.1, ·)).isSome := by
    intro pair member
    have found := (Table.lookup_some_iff store.table pair.1 pair.2).mpr (List.mem_filter.mp member).1
    obtain ⟨endpoint, decodes⟩ := encoded pair.1 pair.2.value (by rw [Store.lookup_values, found]; rfl)
    simp [decodes]
  have mapped := congrArg (List.map (Option.map fun pair : String × Endpoint => Target.ofEndpoint pair.1 pair.2))
    (map_all _ _ all)
  rw [Channel.snapshot, targets, described_entries]
  simpa [List.map_map, Function.comp_def] using mapped

theorem caught_up_described (root : String) (channel : Channel) (moves : List Move) (watch : Watch)
    (registers : ∀ move ∈ moves, move.Registers)
    (following : (Discovery.run root { channel } moves).stage = .following watch)
    (caughtUp : ∀ change ∈ (Discovery.run root { channel } moves).store.changes.toList.drop watch.position,
      under root change = false) :
    Sound root (Discovery.run root { channel } moves) ∧
      (Discovery.run root { channel } moves).channel.targets = described root (Discovery.run root { channel } moves).store := by
  have initial : Sound root { channel } := ⟨fun _ _ found => (nomatch found), trivial⟩
  have sound := sound_run root moves { channel } registers initial
  have awaits := sound.ready
  rw [following] at awaits
  have nothing : pending root (Discovery.run root { channel } moves).store watch = [] :=
    List.filter_eq_nil_iff.mpr fun change member => by simp [caughtUp change member]
  have converging := awaits.converging
  rw [nothing] at converging
  exact ⟨sound, converging⟩

-- Whenever a follower has read everything under its root, the targets of its channel are those of the store.
theorem discovery_converges (root : String) (channel : Channel) (moves : List Move) (watch : Watch)
    (registers : ∀ move ∈ moves, move.Registers)
    (following : (Discovery.run root { channel } moves).stage = .following watch)
    (caughtUp : ∀ change ∈ (Discovery.run root { channel } moves).store.changes.toList.drop watch.position,
      under root change = false) :
    (Discovery.run root { channel } moves).channel.snapshot.map some =
      ((Discovery.run root { channel } moves).store.table.entries.filter fun pair => Table.liesUnder root pair.1).map
        fun pair => (Endpoint.decode? pair.2.value).map (Target.ofEndpoint pair.1) := by
  obtain ⟨sound, targets⟩ := caught_up_described root channel moves watch registers following caughtUp
  exact snapshot_described root _ _ sound.encoded targets

-- Both changes come between the subscription and the installing, one of them before the listing.
def overtaken : List Move :=
  [.perform 0 (.put "a/1" (Endpoint.encode { address := "h:1" }) none), .subscribe,
    .perform 1 (.put "a/2" (Endpoint.encode { address := "h:2" }) none), .list 2, .perform 3 (.delete "a/1"),
    .install, .receive, .receive]

theorem discovery_converges_overtaken :
    (Discovery.run "a/" { channel := { name := "s" } } overtaken).channel.snapshot.map some =
      [some { key := "a/2", address := "h:2" }] := by
  have registers : ∀ move ∈ overtaken, move.Registers := by
    intro move member
    simp only [overtaken, List.mem_cons, List.not_mem_nil, or_false] at member
    rcases member with rfl | rfl | rfl | rfl | rfl | rfl | rfl | rfl
    · exact ⟨_, rfl⟩
    · trivial
    · exact ⟨_, rfl⟩
    all_goals trivial
  have following : (Discovery.run "a/" { channel := { name := "s" } } overtaken).stage =
      .following { root := "a/", position := 3 } := rfl
  have read : (Discovery.run "a/" { channel := { name := "s" } } overtaken).store.changes.toList.drop 3 = [] := rfl
  have caughtUp : ∀ change ∈ (Discovery.run "a/" { channel := { name := "s" } } overtaken).store.changes.toList.drop 3,
      under "a/" change = false := by
    rw [read]
    exact fun _ member => nomatch member
  have stored : (Discovery.run "a/" { channel := { name := "s" } } overtaken).store.table.entries.filter
      (fun pair => Table.liesUnder "a/" pair.1) =
        [("a/2", { value := Endpoint.encode { address := "h:2" }, lease := none })] := rfl
  rw [discovery_converges "a/" _ overtaken _ registers following caughtUp, stored, List.map_singleton,
    Endpoint.decode_encode]
  rfl

end ServiceHost.Follower
