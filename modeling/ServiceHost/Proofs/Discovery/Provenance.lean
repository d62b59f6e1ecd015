import ServiceHost.Discovery.Neighbourhood
import ServiceHost.Proofs.Discovery.Convergence
import ServiceHost.Proofs.Discovery.Picking
import ServiceHost.Proofs.Registration.Naming

set_option autoImplicit false

namespace ServiceHost.Follower

open Store (Watch Seen under values changesMade)
open Registration (serviceRoot key)

theorem read_root (changes : Array Change) (open? : Bool) (watch : Watch) :
    (watch.read changes open?).2.root = watch.root := by
  unfold Watch.read
  split
  · rfl
  · dsimp only
    split
    · rfl
    · split
      · rfl
      · split <;> rfl

theorem read_shows (changes : Array Change) (watch : Watch) (change : Change)
    (shown : (watch.read changes true).1 = .change change) : change ∈ changes ∧ under watch.root change = true := by
  unfold Watch.read at shown
  split at shown
  next => cases shown
  next =>
    dsimp only at shown
    split at shown
    next => cases shown
    next =>
      split at shown
      next found position first =>
        cases shown
        have finds := Store.first_under_find watch.root watch.position (changes.toList.drop watch.position)
        rw [first] at finds
        have member := List.mem_of_mem_drop (List.mem_of_find?_eq_some finds.symm)
        exact ⟨Array.mem_toList_iff.mp member, List.find?_some finds.symm⟩
      next => cases shown

theorem received_shows (changes : Array Change) (watch next : Watch) (seen : Option Seen)
    (received : Store.Received changes watch seen next) :
    next.root = watch.root ∧ ∀ change, seen = some (.change change) → change ∈ changes ∧ under watch.root change = true := by
  cases received with
  | change change _ _ found =>
      refine ⟨rfl, fun other shown => ?_⟩
      split at shown
      next inside =>
        cases shown
        exact ⟨Array.mem_of_getElem? found, inside⟩
      next => cases shown
  | _ => exact ⟨rfl, nofun⟩

section Sourced

-- `registered` says what has been put into the store, at any time of the run.
variable (registered : String → List UInt8 → Prop) (root : String)

def Change.IsSourced : Change → Prop
  | .put name value => registered name value
  | .delete _ => True

structure Sourced (discovery : Discovery) : Prop where
  stored : ∀ name value, (values discovery.store).get? name = some value → registered name value
  changes : ∀ change ∈ discovery.store.changes, Change.IsSourced registered change
  stage : match discovery.stage with
    | .idle => True
    | .watching watch => watch.root = root
    | .listed watch listing =>
        watch.root = root ∧ ∀ pair ∈ listing, Table.liesUnder root pair.1 = true ∧ registered pair.1 pair.2
    | .following watch => watch.root = root
  targets : ∀ name endpoint, discovery.channel.targets.get? name = some endpoint →
    Table.liesUnder root name = true ∧ ∃ value, registered name value ∧ Endpoint.decode? value = some endpoint

variable {registered root}

theorem sourced_apply (channel : Channel) (change : Change) (sourced : Change.IsSourced registered change)
    (inside : under root change = true)
    (targets : ∀ name endpoint, channel.targets.get? name = some endpoint →
      Table.liesUnder root name = true ∧ ∃ value, registered name value ∧ Endpoint.decode? value = some endpoint) :
    ∀ name endpoint, (apply channel change).targets.get? name = some endpoint →
      Table.liesUnder root name = true ∧ ∃ value, registered name value ∧ Endpoint.decode? value = some endpoint := by
  intro name endpoint found
  cases change with
  | put other value =>
      simp only [apply] at found
      split at found
      next decoded decodes =>
        rw [Channel.upsert, Table.lookup_insert] at found
        split at found
        next same =>
          cases found
          cases same
          exact ⟨inside, value, sourced, decodes⟩
        next => exact targets name endpoint found
      next => exact targets name endpoint found
  | delete other =>
      rw [apply, Channel.remove, Table.lookup_erase] at found
      split at found
      next => cases found
      next => exact targets name endpoint found

theorem sourced_heed (discovery : Discovery) (result : Option Seen × Watch) (sourced : Sourced registered root discovery)
    (about : result.2.root = root)
    (shows : ∀ change, result.1 = some (.change change) → change ∈ discovery.store.changes ∧ under root change = true) :
    Sourced registered root (discovery.heed result) := by
  obtain ⟨seen, watch⟩ := result
  have kept : Sourced registered root { discovery with stage := .following watch } :=
    { sourced with stage := about }
  have ended : Sourced registered root { discovery with stage := .idle } := { sourced with stage := trivial }
  match seen with
  | none => exact kept
  | some .pending => exact kept
  | some (.failed _) => exact ended
  | some .ended => exact ended
  | some (.change change) =>
      obtain ⟨made, inside⟩ := shows change rfl
      exact { kept with targets := sourced_apply discovery.channel change (sourced.changes change made) inside sourced.targets }

theorem sourced_perform (now : Nat) (operation : Store.Operation) (discovery : Discovery)
    (registers : ∀ name value lease, operation = .put name value lease → registered name value)
    (sourced : Sourced registered root discovery) :
    Sourced registered root (discovery.step root (.perform now operation)) := by
  have made : ∀ change ∈ changesMade now operation discovery.store, Change.IsSourced registered change := by
    intro change member
    cases change with
    | put name value =>
        obtain ⟨lease, same⟩ := Store.put_made now operation discovery.store name value member
        exact registers name value lease same
    | delete name => trivial
  refine { sourced with stored := fun name value found => ?_, changes := fun change member => ?_ }
  · simp only [Discovery.step] at found
    rw [← Store.perform_replays] at found
    rcases Store.replay_origin _ _ name value found with before | put
    · exact sourced.stored name value before
    · exact made _ put
  · simp only [Discovery.step] at member
    rw [← Array.mem_toList_iff, Store.perform_changes] at member
    rcases List.mem_append.mp member with before | new
    · exact sourced.changes change (Array.mem_toList_iff.mp before)
    · exact made change new

theorem listed_values (now : Nat) (store after : Store) (listing : List (String × List UInt8))
    (listed : store.list now root = (.ok listing, after)) (name : String) (value : List UInt8) (member : (name, value) ∈ listing) :
    Table.liesUnder root name = true ∧ (values after).get? name = some value := by
  unfold Store.list at listed
  split at listed
  · cases listed
  · cases listed
    obtain ⟨⟨other, entry⟩, inside, same⟩ := List.mem_map.mp member
    cases same
    rw [Table.under_filter] at inside
    obtain ⟨present, below⟩ := List.mem_filter.mp inside
    refine ⟨below, ?_⟩
    rw [Store.lookup_values, (Table.lookup_some_iff _ name entry).mpr present]
    rfl

theorem sourced_list (now : Nat) (discovery : Discovery) (sourced : Sourced registered root discovery) :
    Sourced registered root (discovery.step root (.list now)) := by
  obtain ⟨store, channel, stage⟩ := discovery
  cases stage with
  | watching watch =>
      -- A listing sweeps the store, as the operation of that name does.
      have swept := sourced_perform now (.list root) _ nofun sourced
      have same : (Store.perform now (.list root) store).2 = (store.list now root).2 := rfl
      simp only [Discovery.step, same] at swept ⊢
      cases listed : store.list now root with
      | mk result after =>
          rw [listed] at swept
          cases result with
          | error => exact { swept with stage := trivial }
          | ok listing =>
              refine { swept with stage := ⟨swept.stage, fun pair member => ?_⟩ }
              obtain ⟨below, found⟩ := listed_values now store after listing listed pair.1 pair.2 member
              exact ⟨below, swept.stored pair.1 pair.2 found⟩
  | _ => exact sourced

theorem sourced_install (discovery : Discovery) (sourced : Sourced registered root discovery) :
    Sourced registered root (discovery.step root .install) := by
  obtain ⟨store, channel, stage⟩ := discovery
  cases stage with
  | listed watch listing =>
      obtain ⟨about, listed⟩ := sourced.stage
      refine { sourced with stage := about, targets := fun name endpoint found => ?_ }
      obtain ⟨⟨other, value⟩, member, decoded⟩ := List.mem_filterMap.mp (Table.of_list_origin (targetsOf listing) name endpoint found)
      obtain ⟨_, decodes, same⟩ := Option.map_eq_some_iff.mp decoded
      cases same
      obtain ⟨below, put⟩ := listed _ member
      exact ⟨below, value, put, decodes⟩
  | _ => exact sourced

theorem sourced_step (discovery : Discovery) (move : Move)
    (registers : ∀ now name value lease, move = .perform now (.put name value lease) → registered name value)
    (sourced : Sourced registered root discovery) : Sourced registered root (discovery.step root move) := by
  cases move with
  | perform now operation =>
      exact sourced_perform now operation discovery (fun name value lease same => registers now name value lease (same ▸ rfl)) sourced
  | subscribe =>
      obtain ⟨store, channel, stage⟩ := discovery
      cases stage with
      | idle =>
          simp only [Discovery.step]
          cases subscribed : store.watch root with
          | error => exact sourced
          | ok watch => exact { sourced with stage := Store.watch_granted root store watch subscribed ▸ rfl }
      | _ => exact sourced
  | list now => exact sourced_list now discovery sourced
  | install => exact sourced_install discovery sourced
  | receive =>
      cases stage : discovery.stage with
      | following watch =>
          have about : watch.root = root := by simpa only [stage] using sourced.stage
          obtain ⟨same, shows⟩ := received_shows _ watch _ _ (Store.receive_received discovery.store.changes watch)
          simp only [Discovery.step, stage]
          exact sourced_heed discovery _ sourced (same.trans about) (about ▸ shows)
      | _ => simpa only [Discovery.step, stage] using sourced
  | observe now =>
      cases stage : discovery.stage with
      | following watch =>
          have about : watch.root = root := by simpa only [stage] using sourced.stage
          rw [observe_heeds root now discovery watch stage]
          refine sourced_heed discovery _ sourced ((read_root _ _ watch).trans about) fun change shown => ?_
          exact about ▸ read_shows discovery.store.changes watch change (Option.some.inj shown)
      | _ => simpa only [Discovery.step, stage] using sourced
  | lose =>
      cases stage : discovery.stage with
      | following watch =>
          simp only [Discovery.step, stage]
          exact { sourced with stage := trivial }
      | _ => simpa only [Discovery.step, stage] using sourced

theorem sourced_run (moves : List Move) (discovery : Discovery)
    (registers : ∀ now name value lease, .perform now (.put name value lease) ∈ moves → registered name value)
    (sourced : Sourced registered root discovery) : Sourced registered root (discovery.run root moves) := by
  induction moves generalizing discovery with
  | nil => exact sourced
  | cons move rest ih =>
      refine ih _ (fun now name value lease member => registers now name value lease (.tail _ member)) ?_
      exact sourced_step discovery move (fun now name value lease same => registers now name value lease (same ▸ .head _)) sourced

end Sourced

theorem follow_begins (neighbourhood next : Neighbourhood) (inquiry : Inquiry) (store : Store) (line : Line)
    (given : neighbourhood.store = some store) (followed : neighbourhood.follow inquiry = (.ok line, next)) :
    ∃ watch after, next.store = some after ∧
      line.follower = some
        { root := serviceRoot neighbourhood.cache.root inquiry.service inquiry.rpc, phase := .following watch } ∧
      Discovery.run (serviceRoot neighbourhood.cache.root inquiry.service inquiry.rpc)
          { store, channel := { name := inquiry.name } } [.subscribe, .list neighbourhood.now, .install] =
        { store := after, channel := line.channel, stage := .following watch } := by
  simp only [Neighbourhood.follow, given, begin] at followed
  rw [subscribe_steps _ _ _ rfl]
  dsimp only
  cases subscribed : subscribe neighbourhood.now (serviceRoot neighbourhood.cache.root inquiry.service inquiry.rpc) store
      { name := inquiry.name } with
  | mk result rest =>
      rw [subscribed] at followed
      cases result with
      | error => cases followed
      | ok watch =>
          cases followed
          exact ⟨watch, rest.1, rfl, rfl, rfl⟩

theorem discovered_origin (root : String) (channel : Channel) (moves : List Move) (empty : channel.targets = ∅) (target : Target)
    (member : target ∈ (Discovery.run root { channel } moves).channel.snapshot) :
    Table.liesUnder root target.key = true ∧ ∃ now value lease endpoint, .perform now (.put target.key value lease) ∈ moves ∧
      Endpoint.decode? value = some endpoint ∧ target = Target.ofEndpoint target.key endpoint := by
  have initial : Sourced (fun name value => ∃ now lease, .perform now (.put name value lease) ∈ moves) root { channel } :=
    ⟨fun _ _ found => (nomatch found), fun _ made => (nomatch made), trivial, by rw [empty]; exact fun _ _ found => (nomatch found)⟩
  have sourced := sourced_run moves { channel } (fun now name value lease put => ⟨now, lease, put⟩) initial
  obtain ⟨endpoint, found, same⟩ := Channel.snapshot_origin _ target member
  obtain ⟨below, value, ⟨now, lease, put⟩, decodes⟩ := sourced.targets target.key endpoint found
  exact ⟨below, now, value, lease, endpoint, put, decodes, same⟩

theorem caught_up_complete (root : String) (channel : Channel) (moves : List Move) (watch : Watch)
    (registers : ∀ move ∈ moves, move.Registers) (following : (Discovery.run root { channel } moves).stage = .following watch)
    (caughtUp : ∀ change ∈ (Discovery.run root { channel } moves).store.changes.toList.drop watch.position,
      under root change = false) (name : String) (value : List UInt8) (below : Table.liesUnder root name = true)
    (stored : (values (Discovery.run root { channel } moves).store).get? name = some value) :
    ∃ endpoint, Endpoint.decode? value = some endpoint ∧
      Target.ofEndpoint name endpoint ∈ (Discovery.run root { channel } moves).channel.snapshot := by
  obtain ⟨sound, targets⟩ := caught_up_described root channel moves watch registers following caughtUp
  obtain ⟨endpoint, decodes⟩ := sound.encoded name value stored
  refine ⟨endpoint, decodes, Channel.mem_snapshot _ name endpoint ?_⟩
  rw [targets, described, Store.lookup_decoded, Store.lookup_restrict, if_pos below, stored]
  exact decodes

def Discovery.seek (root service rpc : String) (moves : List Move) : Discovery :=
  Discovery.run (serviceRoot root service rpc) { channel := { name := Inquiry.name { service, rpc } } } moves

def past (history : Store.History) : List Move := history.map fun called => .perform called.1 called.2

theorem past_run (root : String) (history : Store.History) (discovery : Discovery) :
    discovery.run root (past history) = { discovery with store := Store.after history discovery.store } := by
  induction history generalizing discovery with
  | nil => rfl
  | cons called rest ih => exact ih _

theorem follow_seeks (service rpc : String) (history : Store.History) (neighbourhood next : Neighbourhood) (line : Line)
    (given : neighbourhood.store = some (Store.after history {}))
    (followed : neighbourhood.follow { service, rpc } = (.ok line, next)) :
    let sought := Discovery.seek neighbourhood.cache.root service rpc
      (past history ++ [.subscribe, .list neighbourhood.now, .install])
    next.store = some sought.store ∧ line.channel = sought.channel := by
  intro sought
  obtain ⟨watch, after, stored, _, begun⟩ := follow_begins neighbourhood next { service, rpc } _ line given followed
  have same : sought = { store := after, channel := line.channel, stage := .following watch } := by
    rw [← begun]
    simp only [sought, Discovery.seek]
    rw [Discovery.run, List.foldl_append]
    exact congrArg (Discovery.run _ · _) (past_run _ history _)
  rw [same]
  exact ⟨stored, rfl⟩

-- The root of an RPC service covers its own keys and those of the RPC services of the same service whose names begin with its
-- own, and the channel to it collects the endpoints of all of them; those of other services stay out. A channel that a cache
-- discovers comes about in this way.
theorem discovery_spans_longer_names (root service rpc : String) (validService : Name.isValid service = true)
    (validRpc : Name.isValid rpc = true) :
    (∀ other name identity, Name.isValid other = true → Name.isValid name = true →
      (Table.liesUnder (serviceRoot root service rpc) (key root other name identity) = true ↔
          other = service ∧ rpc.toList <+: name.toList) ∧
        ∀ mine, key root other name identity = key root service rpc mine ↔ other = service ∧ name = rpc ∧ identity = mine) ∧
      (∀ moves : List Move,
        (∀ target ∈ (Discovery.seek root service rpc moves).channel.snapshot,
          (∃ now value lease endpoint, .perform now (.put target.key value lease) ∈ moves ∧
              Endpoint.decode? value = some endpoint ∧ target = Target.ofEndpoint target.key endpoint) ∧
            ∀ other name identity, Name.isValid other = true → Name.isValid name = true →
              target.key = key root other name identity → other = service ∧ rpc.toList <+: name.toList) ∧
          ∀ watch, (∀ move ∈ moves, move.Registers) → (Discovery.seek root service rpc moves).stage = .following watch →
            (∀ change ∈ (Discovery.seek root service rpc moves).store.changes.toList.drop watch.position,
              under (serviceRoot root service rpc) change = false) →
            ∀ name identity value, rpc.toList <+: name.toList →
              (values (Discovery.seek root service rpc moves).store).get? (key root service name identity) = some value →
              ∃ endpoint, Endpoint.decode? value = some endpoint ∧
                Target.ofEndpoint (key root service name identity) endpoint ∈
                  (Discovery.seek root service rpc moves).channel.snapshot) ∧
      ∀ (history : Store.History) (neighbourhood next : Neighbourhood) (line : Line), neighbourhood.cache.root = root →
        neighbourhood.store = some (Store.after history {}) → neighbourhood.follow { service, rpc } = (.ok line, next) →
        let sought := Discovery.seek root service rpc (past history ++ [.subscribe, .list neighbourhood.now, .install])
        next.store = some sought.store ∧ line.channel = sought.channel := by
  have serviceFree := Registration.valid_slash_free service validService
  have rpcFree := Registration.valid_slash_free rpc validRpc
  refine ⟨fun other name identity validOther validName => ?_, fun moves => ⟨fun target member => ?_, ?_⟩,
    fun history neighbourhood next line rooted given followed => ?_⟩
  · have otherFree := Registration.valid_slash_free other validOther
    have nameFree := Registration.valid_slash_free name validName
    refine ⟨Registration.key_under_root root service rpc other name identity serviceFree rpcFree otherFree, fun mine => ⟨?_, ?_⟩⟩
    · exact Registration.key_determines root other name identity service rpc mine otherFree nameFree serviceFree rpcFree
    · rintro ⟨rfl, rfl, rfl⟩
      rfl
  · obtain ⟨below, put⟩ := discovered_origin _ _ moves rfl target member
    refine ⟨put, fun other name identity validOther _ same => ?_⟩
    have otherFree := Registration.valid_slash_free other validOther
    exact (Registration.key_under_root root service rpc other name identity serviceFree rpcFree otherFree).mp (same ▸ below)
  · intro watch registers following caughtUp name identity value begins stored
    have below := (Registration.key_under_root root service rpc service name identity serviceFree rpcFree serviceFree).mpr
      ⟨rfl, begins⟩
    exact caught_up_complete _ _ moves watch registers following caughtUp _ value below stored
  · exact rooted ▸ follow_seeks service rpc history neighbourhood next line given followed

def calculator : String := key "servicekit/register" "calc" "Calculator" "box-pid-1"

-- Only the calculator is registered, and it is the other RPC service that is looked for.
def calculatorFirst : List Move :=
  [.perform 0 (.put calculator (Endpoint.encode { address := "127.0.0.1:1" }) none), .subscribe, .list 1, .install]

theorem discovery_spans_longer_names_calculator :
    ∃ endpoint, Endpoint.decode? (Endpoint.encode { address := "127.0.0.1:1" }) = some endpoint ∧
      Target.ofEndpoint calculator endpoint ∈
        (Discovery.seek "servicekit/register" "calc" "Calc" calculatorFirst).channel.snapshot := by
  have registers : ∀ move ∈ calculatorFirst, move.Registers := by
    intro move member
    simp only [calculatorFirst, List.mem_cons, List.not_mem_nil, or_false] at member
    rcases member with rfl | rfl | rfl | rfl
    · exact ⟨_, rfl⟩
    all_goals trivial
  have following : (Discovery.seek "servicekit/register" "calc" "Calc" calculatorFirst).stage =
      .following { root := serviceRoot "servicekit/register" "calc" "Calc", position := 1 } := rfl
  have read : (Discovery.seek "servicekit/register" "calc" "Calc" calculatorFirst).store.changes.toList.drop 1 = [] := rfl
  have caughtUp : ∀ change ∈ (Discovery.seek "servicekit/register" "calc" "Calc" calculatorFirst).store.changes.toList.drop 1,
      under (serviceRoot "servicekit/register" "calc" "Calc") change = false := by
    rw [read]
    exact fun _ member => nomatch member
  exact ((discovery_spans_longer_names "servicekit/register" "calc" "Calc" (by decide) (by decide)).2.1 calculatorFirst).2 _
    registers following caughtUp "Calculator" "box-pid-1" _ (by decide) rfl

theorem roots_cover_other_names :
    ¬ ∀ root service rpc other name identity : String, Name.isValid service = true → Name.isValid rpc = true →
      Name.isValid other = true → Name.isValid name = true → '/' ∉ identity.toList →
      (Table.liesUnder (serviceRoot root service rpc) (key root other name identity) = true ↔ service = other ∧ rpc = name) := by
  intro isolated
  have covered : Table.liesUnder (serviceRoot "servicekit/register" "calc" "Calc") calculator = true :=
    (Registration.key_under_root _ "calc" "Calc" "calc" "Calculator" _ (by decide) (by decide) (by decide)).mpr ⟨rfl, by decide⟩
  have same := (isolated "servicekit/register" "calc" "Calc" "calc" "Calculator" "box-pid-1" (by decide) (by decide) (by decide)
    (by decide) (by decide)).mp covered
  exact absurd same.2 (by decide)

end ServiceHost.Follower
