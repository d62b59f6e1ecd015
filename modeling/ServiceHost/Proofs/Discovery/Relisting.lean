import Mathlib.Data.List.Induction
import ServiceHost.Proofs.Discovery.Convergence

set_option autoImplicit false

namespace ServiceHost.Follower

open Store (History Readable amend after changesMade decoded lookup_amend lookup_decoded lookup_restrict replay
  restrict restrict_replay under values)

def relisted (root : String) (table : Table (List UInt8)) (channel : Channel) : Channel :=
  channel.replaceAll (targetsOf (restrict root table).entries)

def followed (root : String) (changes : List Change) (channel : Channel) : Channel :=
  (changes.filter (under root)).foldl apply channel

def Concerns (root : String) : Change → Prop
  | .put key _ => Table.liesUnder root key = true
  | .delete _ => True

-- A value that is no endpoint takes the place of one that is.
def Spoils (table : Table (List UInt8)) : Change → Prop
  | .put key value => ¬ Encodes value ∧ ∃ earlier, table.get? key = some earlier ∧ Encodes earlier
  | .delete _ => False

theorem relisted_eq (root : String) (table : Table (List UInt8)) (channel : Channel) :
    relisted root table channel = { channel with targets := decoded Endpoint.decode? (restrict root table) } := by
  rw [relisted, Channel.replaceAll, ← Table.of_list_entries (decoded _ _)]
  rfl

theorem apply_eq (channel : Channel) (change : Change) :
    apply channel change = { channel with targets := amend Endpoint.decode? channel.targets change } := by
  rw [← apply_amends]
  cases change with
  | put key value =>
      rw [apply]
      cases Endpoint.decode? value <;> rfl
  | delete key => rfl

theorem apply_all (channel : Channel) (changes : List Change) :
    changes.foldl apply channel = { channel with targets := replay Endpoint.decode? changes channel.targets } := by
  induction changes generalizing channel with
  | nil => rfl
  | cons change rest ih => rw [List.foldl_cons, ih, apply_eq]; rfl

theorem not_encodes (value : List UInt8) (unreadable : ¬ Encodes value) : Endpoint.decode? value = none :=
  Option.eq_none_iff_forall_ne_some.mpr fun endpoint found => unreadable ⟨endpoint, found⟩

theorem endpoint_encodes (endpoint : Endpoint) : Encodes endpoint.encode := ⟨endpoint, Endpoint.decode_encode endpoint⟩

theorem subscribe_relists (now : Nat) (root : String) (store later : Store) (channel listed : Channel) (watch : Store.Watch)
    (subscribed : subscribe now root store channel = (.ok watch, later, listed)) :
    store.watch root = .ok watch ∧ later = (Store.perform now (.list root) store).2 ∧
      listed = relisted root (values later) channel := by
  rw [subscribe] at subscribed
  split at subscribed
  next => cases subscribed
  next granted watched =>
    split at subscribed
    next => cases subscribed
    next listing found shows =>
      cases subscribed
      refine ⟨watched, (congrArg Prod.snd shows).symm, ?_⟩
      rw [Channel.replaceAll, list_targets now root store later listing shows, relisted_eq]
      rfl

theorem subscribe_available (now : Nat) (root : String) (store : Store) (channel : Channel) (available : store.available = true) :
    ∃ listed, subscribe now root store channel =
      (.ok { root, position := store.changes.size }, (Store.perform now (.list root) store).2, listed) := by
  have watched : store.watch root = .ok { root, position := store.changes.size } := if_pos available
  obtain ⟨listing, listed⟩ : ∃ listing, store.list now root = (.ok listing, (Store.perform now (.list root) store).2) := by
    change ∃ listing, store.list now root = (.ok listing, (store.list now root).2)
    rw [Store.list, available]
    exact ⟨_, rfl⟩
  exact ⟨_, by rw [subscribe, watched, listed]⟩

theorem restrict_amend {α : Type} (decode : List UInt8 → Option α) (root : String) (table : Table α) (change : Change)
    (concerns : Concerns root change) :
    restrict root (amend decode table change) = amend decode (restrict root table) change := by
  apply Table.ext_lookup
  intro key
  rw [lookup_restrict, lookup_amend, lookup_amend, lookup_restrict]
  by_cases inside : Table.liesUnder root key = true
  · rw [if_pos inside, if_pos inside]
  · rw [if_neg inside, if_neg inside]
    cases change with
    | put other value =>
        have different : other ≠ key := fun same => inside (same ▸ concerns)
        rw [Store.effect_elsewhere decode key (.put other value) different]
        rfl
    | delete other => by_cases same : other = key <;> simp [Store.effectOn, same]

theorem apply_readable (root : String) (table : Table (List UInt8)) (channel : Channel) (change : Change)
    (concerns : Concerns root change) (readable : Readable Endpoint.decode? change) :
    apply (relisted root table channel) change = relisted root (amend some table change) channel := by
  rw [apply_eq, relisted_eq, relisted_eq, restrict_amend some root table change concerns,
    Store.decode_amend Endpoint.decode? _ change readable]

-- A value that is no endpoint is passed over when its change comes, and its key is passed over when the table is listed.
theorem apply_unreadable (root : String) (table : Table (List UInt8)) (channel : Channel) (key : String) (value : List UInt8)
    (unreadable : ¬ Encodes value) :
    apply (relisted root table channel) (.put key value) = relisted root table channel := by
  rw [apply, not_encodes value unreadable]

theorem relist_unreadable (root : String) (table : Table (List UInt8)) (channel : Channel) (key : String) (value : List UInt8)
    (unreadable : ¬ Encodes value) :
    relisted root (amend some table (.put key value)) channel = (relisted root table channel).remove key := by
  rw [relisted_eq, relisted_eq, Channel.remove]
  congr 1
  apply Table.ext_lookup
  intro query
  rw [Table.lookup_erase, lookup_decoded, lookup_decoded, lookup_restrict, lookup_restrict, amend, Table.lookup_insert]
  by_cases same : query = key
  · simp [same, not_encodes value unreadable]
  · rw [if_neg same, if_neg same]

theorem remove_unheld (root : String) (table : Table (List UInt8)) (channel : Channel) (key : String)
    (inside : Table.liesUnder root key = true) :
    (relisted root table channel).remove key = relisted root table channel ↔
      ¬ ∃ earlier, table.get? key = some earlier ∧ Encodes earlier := by
  have held : (relisted root table channel).targets.get? key = (table.get? key).bind Endpoint.decode? := by
    rw [relisted_eq, lookup_decoded, lookup_restrict, if_pos inside]
  constructor
  · intro same holds
    obtain ⟨earlier, found, endpoint, decodes⟩ := holds
    have gone := congrArg (fun channel => channel.targets.get? key) same
    rw [held, found, Option.bind_some, decodes, Channel.remove, Table.lookup_erase, if_pos rfl] at gone
    cases gone
  · intro unheld
    have absent : (relisted root table channel).targets.get? key = none := by
      rw [held, Option.bind_eq_none_iff]
      exact fun earlier found => not_encodes earlier fun encodes => unheld ⟨earlier, found, encodes⟩
    rw [Channel.remove, Table.erase_absent _ key absent]

theorem apply_relisted (root : String) (table : Table (List UInt8)) (channel : Channel) (change : Change)
    (concerns : Concerns root change) :
    apply (relisted root table channel) change = relisted root (amend some table change) channel ↔ ¬ Spoils table change := by
  cases change with
  | put key value =>
      by_cases encodes : Encodes value
      · exact ⟨fun _ spoils => spoils.1 encodes, fun _ => apply_readable root table channel _ concerns encodes⟩
      · rw [apply_unreadable root table channel key value encodes, relist_unreadable root table channel key value encodes,
          eq_comm, remove_unheld root table channel key concerns]
        exact not_congr ⟨fun holds => ⟨encodes, holds⟩, fun spoils => spoils.2⟩
  | delete key => exact ⟨fun _ => id, fun _ => apply_readable root table channel _ concerns trivial⟩

theorem followed_cons (root : String) (change : Change) (rest : List Change) (channel : Channel) :
    followed root (change :: rest) channel =
      followed root rest (if under root change then apply channel change else channel) := by
  rw [followed, List.filter_cons]
  split <;> rfl

theorem relisted_elsewhere (root : String) (table : Table (List UInt8)) (channel : Channel) (change : Change)
    (outside : under root change = false) : relisted root (amend some table change) channel = relisted root table channel := by
  have restricted := restrict_replay some root [change] table
  rw [List.filter_cons, outside] at restricted
  rw [relisted, relisted]
  exact congrArg (fun table => channel.replaceAll (targetsOf table.entries)) restricted

theorem under_concerns (root : String) (change : Change) (inside : under root change = true) : Concerns root change := by
  cases change with
  | put key value => exact inside
  | delete key => trivial

theorem followed_unspoilt (root : String) (changes : List Change) (table : Table (List UInt8)) (channel : Channel)
    (unspoilt : ∀ before change later, changes = before ++ change :: later → under root change = true →
      ¬ Spoils (replay some before table) change) :
    followed root changes (relisted root table channel) = relisted root (replay some changes table) channel := by
  induction changes generalizing table with
  | nil => rfl
  | cons change rest ih =>
      have others := ih (amend some table change) fun before other later split =>
        unspoilt (change :: before) other later (congrArg (change :: ·) split)
      rw [followed_cons]
      by_cases inside : under root change = true
      · have first := unspoilt [] change rest rfl inside
        rw [if_pos inside, (apply_relisted root table channel change (under_concerns root change inside)).mpr first]
        exact others
      · rw [if_neg inside, ← relisted_elsewhere root table channel change (Bool.eq_false_iff.mpr inside)]
        exact others

def isReadable : Change → Bool
  | .put _ value => (Endpoint.decode? value).isSome
  | .delete _ => true

theorem readable_of (change : Change) (readable : isReadable change = true) : Readable Endpoint.decode? change := by
  cases change with
  | put key value => exact Option.isSome_iff_exists.mp readable
  | delete key => trivial

theorem unreadable_put (change : Change) (unreadable : ¬ isReadable change = true) :
    ∃ key value, change = .put key value ∧ ¬ Encodes value := by
  cases change with
  | put key value => exact ⟨key, value, rfl, fun encodes => unreadable (Option.isSome_iff_exists.mpr encodes)⟩
  | delete key => exact absurd rfl unreadable

theorem followed_readable (root : String) (changes : List Change) (table : Table (List UInt8)) (channel : Channel) :
    followed root changes (relisted root table channel) =
      relisted root (replay some (changes.filter isReadable) table) channel := by
  induction changes generalizing table with
  | nil => rfl
  | cons change rest ih =>
      rw [followed_cons, List.filter_cons]
      by_cases readable : isReadable change = true
      · rw [if_pos readable, replay, List.foldl_cons]
        refine Eq.trans ?_ (ih (amend some table change))
        by_cases inside : under root change = true
        · have concerns := under_concerns root change inside
          rw [if_pos inside, apply_readable root table channel change concerns (readable_of change readable)]
        · rw [if_neg inside, relisted_elsewhere root table channel change (Bool.eq_false_iff.mpr inside)]
      · rw [if_neg readable]
        obtain ⟨key, value, rfl, unreadable⟩ := unreadable_put change readable
        rw [apply_unreadable root table channel key value unreadable, ite_self]
        exact ih table

theorem replay_readable (changes : List Change) (table : Table (List UInt8)) (key : String) :
    (replay some (changes.filter isReadable) table).get? key = (replay some changes table).get? key ∨
      ∃ value, (replay some changes table).get? key = some value ∧ ¬ Encodes value := by
  induction changes using List.reverseRecOn with
  | nil => exact .inl rfl
  | append_singleton changes change ih =>
      have last : (replay some (changes ++ [change]) table).get? key =
          (Store.effectOn some key change).getD ((replay some changes table).get? key) := by
        rw [Store.replay_append]
        exact lookup_amend some _ change key
      rw [List.filter_append, Store.replay_append, last]
      by_cases readable : isReadable change = true
      · rw [List.filter_cons_of_pos readable, List.filter_nil]
        have same := lookup_amend some (replay some (changes.filter isReadable) table) change key
        rw [show replay some [change] (replay some (changes.filter isReadable) table) = amend some _ change from rfl, same]
        cases Store.effectOn some key change with
        | none => exact ih
        | some state => exact .inl rfl
      · rw [List.filter_cons_of_neg readable, List.filter_nil]
        obtain ⟨other, value, rfl, unreadable⟩ := unreadable_put change readable
        by_cases same : other = key
        · exact .inr ⟨value, by rw [Store.effectOn, if_pos same]; rfl, unreadable⟩
        · rw [Store.effectOn, if_neg same]
          exact ih

theorem relisted_target (root : String) (table : Table (List UInt8)) (channel : Channel) (key : String) :
    (relisted root table channel).targets.get? key =
      if Table.liesUnder root key then (table.get? key).bind Endpoint.decode? else none := by
  rw [relisted_eq, lookup_decoded, lookup_restrict]
  split <;> rfl

-- Both paths end alike exactly if no key that now holds a value that is no endpoint still has a target.
theorem followed_iff (root : String) (changes : List Change) (table : Table (List UInt8)) (channel : Channel) :
    followed root changes (relisted root table channel) = relisted root (replay some changes table) channel ↔
      ∀ key value, (replay some changes table).get? key = some value → ¬ Encodes value →
        (followed root changes (relisted root table channel)).targets.get? key = none := by
  rw [followed_readable]
  constructor
  · intro same key value found unreadable
    rw [same, relisted_target, found, Option.bind_some, not_encodes value unreadable, ite_self]
  · intro dropped
    rw [relisted_eq, relisted_eq]
    congr 1
    apply Table.ext_lookup
    intro key
    rw [lookup_decoded, lookup_decoded, lookup_restrict, lookup_restrict]
    rcases replay_readable changes table key with same | ⟨value, found, unreadable⟩
    · rw [same]
    · have gone := dropped key value found unreadable
      rw [relisted_eq, lookup_decoded, lookup_restrict] at gone
      rw [gone, found]
      split
      · exact (not_encodes value unreadable).symm
      · rfl

theorem after_changes (history : History) (store : Store) :
    ∃ made, (after history store).changes.toList = store.changes.toList ++ made ∧
      values (after history store) = replay some made (values store) := by
  induction history generalizing store with
  | nil => exact ⟨[], (List.append_nil _).symm, rfl⟩
  | cons head rest ih =>
      obtain ⟨made, recorded, contents⟩ := ih (Store.perform head.1 head.2 store).2
      refine ⟨changesMade head.1 head.2 store ++ made, ?_, ?_⟩
      · rw [after, recorded, Store.perform_changes, List.append_assoc]
      · rw [after, contents, ← Store.perform_replays, Store.replay_append]

-- A watch that begins before its listing delivers what the listing already shows. That changes nothing.
theorem followed_listed (root : String) (now : Nat) (store start : Store) (channel listed : Channel) (watch : Store.Watch)
    (subscribed : subscribe now root store channel = (.ok watch, start, listed)) :
    followed root (start.changes.toList.drop watch.position) listed = listed := by
  obtain ⟨watched, rfl, rfl⟩ := subscribe_relists now root store start channel listed watch subscribed
  have begun := awaits_subscribe root store watch watched
  have swept := awaits_list root _ watch _ (awaits_perform root now (.list root) store watch _ trivial begun)
  rw [followed, apply_all, relisted_eq]
  exact congrArg (fun targets => { channel with targets }) swept.converging

theorem followed_append (root : String) (first second : List Change) (channel : Channel) :
    followed root (first ++ second) channel = followed root second (followed root first channel) := by
  rw [followed, List.filter_append, List.foldl_append]
  rfl

-- Over a whole store: operations of any kind come between two subscriptions, and sweeps with them.
theorem resubscribed_iff (root : String) (now later : Nat) (store start final : Store) (channel listed fresh : Channel)
    (watch again : Store.Watch) (history : History)
    (subscribed : subscribe now root store channel = (.ok watch, start, listed))
    (resubscribed : subscribe later root (after history start)
      (followed root (final.changes.toList.drop watch.position) listed) = (.ok again, final, fresh)) :
    fresh = followed root (final.changes.toList.drop watch.position) listed ↔
      ∀ key value, (values final).get? key = some value → ¬ Encodes value →
        (followed root (final.changes.toList.drop watch.position) listed).targets.get? key = none := by
  obtain ⟨watched, started, rfl⟩ := subscribe_relists now root store start channel listed watch subscribed
  obtain ⟨_, ended, relists⟩ := subscribe_relists later root _ final _ fresh again resubscribed
  obtain ⟨made, recorded, contents⟩ := after_changes (history ++ [(later, .list root)]) start
  rw [Store.after_append, show after [(later, .list root)] (after history start) = final from ended.symm] at recorded contents
  have within : watch.position ≤ start.changes.toList.length := by
    cases Store.watch_granted root store watch watched
    rw [started, Array.length_toList]
    exact Store.perform_grows now (.list root) store
  have delivered : followed root (final.changes.toList.drop watch.position) (relisted root (values start) channel) =
      followed root made (relisted root (values start) channel) := by
    rw [recorded, List.drop_append_of_le_length within, followed_append,
      followed_listed root now store start channel _ watch subscribed]
  rw [delivered] at relists ⊢
  rw [relists, contents, eq_comm]
  refine Iff.trans ?_ (followed_iff root made (values start) channel)
  rw [followed_readable, relisted_eq, relisted_eq, relisted_eq]

/--
Following agrees with listing afresh but for one kind of change, a value that is no endpoint over one that is. The channel then
keeps the endpoint that was there before, which a listing passes over. Over any changes the channel comes out as if no such
value had ever been put; it is that of a fresh listing if no change spoils the table that it meets, and exactly if no key that
now holds such a value still has a target. So it is between two subscriptions to a store, whatever is done to it meanwhile.
-/
theorem following_agrees_unless_spoilt (root : String) (table : Table (List UInt8)) (channel : Channel) :
    (∀ change, Concerns root change →
      (apply (relisted root table channel) change = relisted root (amend some table change) channel ↔ ¬ Spoils table change) ∧
      (Spoils table change →
        apply (relisted root table channel) change = relisted root table channel ∧
        relisted root (amend some table change) channel = (relisted root table channel).remove change.key)) ∧
    (∀ changes : List Change,
      followed root changes (relisted root table channel) =
        relisted root (replay some (changes.filter isReadable) table) channel ∧
      ((∀ before change later, changes = before ++ change :: later → under root change = true →
          ¬ Spoils (replay some before table) change) →
        followed root changes (relisted root table channel) = relisted root (replay some changes table) channel) ∧
      (followed root changes (relisted root table channel) = relisted root (replay some changes table) channel ↔
        ∀ key value, (replay some changes table).get? key = some value → ¬ Encodes value →
          (followed root changes (relisted root table channel)).targets.get? key = none)) ∧
    (∀ (now : Nat) (store : Store), store.available = true →
      ∃ watch start listed, subscribe now root store channel = (.ok watch, start, listed)) ∧
    ∀ (now : Nat) (store start : Store) (listed : Channel) (watch : Store.Watch),
      subscribe now root store channel = (.ok watch, start, listed) →
        listed = relisted root (values start) channel ∧
        ∀ (history : History) (later : Nat) (again : Store.Watch) (final : Store) (fresh : Channel),
          subscribe later root (after history start) (followed root (final.changes.toList.drop watch.position) listed) =
              (.ok again, final, fresh) →
            (fresh = followed root (final.changes.toList.drop watch.position) listed ↔
              ∀ key value, (values final).get? key = some value → ¬ Encodes value →
                (followed root (final.changes.toList.drop watch.position) listed).targets.get? key = none) := by
  refine ⟨fun change concerns => ⟨apply_relisted root table channel change concerns, fun spoils => ?_⟩, fun changes => ?_,
    fun now store available => ?_, ?_⟩
  · cases change with
    | put key value =>
        exact ⟨apply_unreadable root table channel key value spoils.1, relist_unreadable root table channel key value spoils.1⟩
    | delete key => exact spoils.elim
  · exact ⟨followed_readable root changes table channel, followed_unspoilt root changes table channel,
      followed_iff root changes table channel⟩
  · exact ⟨_, _, subscribe_available now root store channel available⟩
  · intro now store start listed watch subscribed
    refine ⟨(subscribe_relists now root store start channel listed watch subscribed).2.2, ?_⟩
    intro history later again final fresh resubscribed
    exact resubscribed_iff root now later store start final channel listed fresh watch again history subscribed resubscribed

def localEndpoint : Endpoint := { address := "127.0.0.1:7001" }

theorem letter_unreadable : ¬ Encodes [120] :=
  fun ⟨_, found⟩ => nomatch (show Endpoint.decode? [120] = none by decide).symm.trans found

-- The channel keeps an address that the key does not hold any more, while a listing of the same table finds none there.
theorem withdrawn_address_kept :
    Concerns "reg/calc/Svc" (.put "reg/calc/Svc/a" [120]) ∧
      (apply (relisted "reg/calc/Svc" (Table.empty.insert "reg/calc/Svc/a" localEndpoint.encode) { name := "calc/Svc" })
        (.put "reg/calc/Svc/a" [120])).targets.get? "reg/calc/Svc/a" = some localEndpoint ∧
      (relisted "reg/calc/Svc"
        (amend some (Table.empty.insert "reg/calc/Svc/a" localEndpoint.encode) (.put "reg/calc/Svc/a" [120]))
        { name := "calc/Svc" }).targets.get? "reg/calc/Svc/a" = none := by
  refine ⟨rfl, ?_, ?_⟩
  · rw [apply_unreadable _ _ _ _ _ letter_unreadable, relisted_target, Table.lookup_insert, if_pos rfl,
      Option.bind_some, Endpoint.decode_encode]
    rfl
  · rw [relist_unreadable _ _ _ _ _ letter_unreadable, Channel.remove, Table.lookup_erase, if_pos rfl]

-- A registered address meets an unreadable value, a deletion, and a readable value between two subscriptions.
theorem following_agrees_on_address :
    (∃ table : Table (List UInt8), Spoils table (.put "a/1" [120]) ∧
      apply (relisted "a/" table { name := "s" }) (.put "a/1" [120]) = relisted "a/" table { name := "s" }) ∧
    followed "a/" [.delete "a/1"] (relisted "a/" (Table.empty.insert "a/1" localEndpoint.encode) { name := "s" }) =
      relisted "a/" (replay some [.delete "a/1"] (Table.empty.insert "a/1" localEndpoint.encode)) { name := "s" } ∧
    ∃ watch start listed again final fresh,
      subscribe 0 "a/" {} { name := "s" } = (.ok watch, start, listed) ∧
      subscribe 2 "a/" (after [(1, .put "a/1" localEndpoint.encode none)] start)
        (followed "a/" (final.changes.toList.drop watch.position) listed) = (.ok again, final, fresh) ∧
      fresh = followed "a/" (final.changes.toList.drop watch.position) listed := by
  refine ⟨⟨Table.empty.insert "a/1" localEndpoint.encode, ?_⟩, ?_, ?_⟩
  · have spoils : Spoils (Table.empty.insert "a/1" localEndpoint.encode) (.put "a/1" [120]) :=
      ⟨letter_unreadable, localEndpoint.encode, by rw [Table.lookup_insert, if_pos rfl], endpoint_encodes localEndpoint⟩
    have concerns : Concerns "a/" (.put "a/1" [120]) := rfl
    have spoilt := ((following_agrees_unless_spoilt "a/" _ { name := "s" }).1 _ concerns).2 spoils
    exact ⟨spoils, spoilt.1⟩
  · refine ((following_agrees_unless_spoilt "a/" _ _).2.1 [.delete "a/1"]).2.1 fun before change later split _ => ?_
    cases before with
    | nil => cases split; exact id
    | cons _ before => cases before <;> cases split
  · have unread (value : List UInt8) :
        (Store.perform 2 (.list "a/") (after [(1, .put "a/1" value none)] (Store.perform 0 (.list "a/") {}).2)).2.table.entries =
          [("a/1", { value, lease := none })] := rfl
    obtain ⟨listed, first⟩ := subscribe_available 0 "a/" {} { name := "s" } rfl
    obtain ⟨fresh, second⟩ := subscribe_available 2 "a/"
      (after [(1, .put "a/1" localEndpoint.encode none)] (Store.perform 0 (.list "a/") {}).2) _ rfl
    refine ⟨_, _, listed, _, _, fresh, first, second, ?_⟩
    refine (((following_agrees_unless_spoilt "a/" ∅ _).2.2.2 0 {} _ listed _ first).2 _ 2 _ _ fresh second).mpr ?_
    intro key value found unreadable
    rw [Store.lookup_values] at found
    obtain ⟨entry, held, rfl⟩ := Option.map_eq_some_iff.mp found
    have member := (Table.lookup_some_iff _ _ _).mp held
    rw [unread] at member
    cases List.mem_singleton.mp member
    exact absurd (endpoint_encodes localEndpoint) unreadable

end ServiceHost.Follower
