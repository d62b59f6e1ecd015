import ServiceHost.Proofs.Store.Replay
import ServiceHost.Store.Watch

set_option autoImplicit false

namespace ServiceHost.Store

structure Reader where
  store : Store
  watch : Watch
  made : List Change := []
  yielded : List Seen := []

-- A read that has to wait yields nothing.
def yields : Seen → List Seen
  | .pending => []
  | seen => [seen]

def seenChange? : Seen → Option Change
  | .change change => some change
  | _ => none

-- `receive` takes one change from the buffer, `read` as many as it needs to yield something. Operations
-- may come between any two of either.
inductive Move where
  | perform (now : Nat) (operation : Operation)
  | receive
  | read

namespace Reader

def accept (reader : Reader) (result : Option Seen × Watch) : Reader :=
  { reader with watch := result.2, yielded := reader.yielded ++ result.1.toList.flatMap yields }

def receive (reader : Reader) : Reader := reader.accept (reader.watch.receive reader.store.changes true)

def read (reader : Reader) : Reader :=
  let (seen, watch) := reader.watch.read reader.store.changes true
  reader.accept (some seen, watch)

-- Nobody may read on who has been told of the end.
def step (reader : Reader) : Move → Reader
  | .perform now operation =>
      { reader with
        store := (Store.perform now operation reader.store).2
        made := reader.made ++ changesMade now operation reader.store }
  | .receive => if .ended ∈ reader.yielded then reader else reader.receive
  | .read => if .ended ∈ reader.yielded then reader else reader.read

def run (reader : Reader) (moves : List Move) : Reader := moves.foldl step reader

end Reader

-- The next unread change is no longer among the latest that the store remembers.
def Overwritten (store : Store) (watch : Watch) : Prop := watch.position + watchCapacity < store.changes.size

structure Follows (root : String) (start : Store) (reader : Reader) : Prop where
  about : reader.watch.root = root
  record : reader.store.changes.toList = start.changes.toList ++ reader.made
  contents : values reader.store = replay some reader.made (values start)
  begun : start.changes.size ≤ reader.watch.position
  within : reader.watch.position ≤ reader.store.changes.size
  whole : reader.watch.ended = false →
    reader.yielded = ((reader.made.take (reader.watch.position - start.changes.size)).filter (under root)).map .change
  broken : reader.watch.ended = true → Overwritten reader.store reader.watch ∧
    ∃ missed last, (last = [] ∨ last = [.ended]) ∧ reader.yielded =
      ((reader.made.take (reader.watch.position - start.changes.size)).filter (under root)).map .change ++
        .failed (.backend (lagMessage missed)) :: last

theorem follows_size (root : String) (start : Store) (reader : Reader) (follows : Follows root start reader) :
    reader.store.changes.size = start.changes.size + reader.made.length := by
  have lengths := congrArg List.length follows.record
  simpa using lengths

theorem watch_granted (root : String) (store : Store) (watch : Watch) (subscribed : store.watch root = .ok watch) :
    watch = { root, position := store.changes.size } := by
  unfold Store.watch at subscribed
  split at subscribed
  · exact (Except.ok.inj subscribed).symm
  · cases subscribed

theorem follows_initial (root : String) (start : Store) (watch : Watch) (subscribed : start.watch root = .ok watch) :
    Follows root start { store := start, watch } := by
  cases watch_granted root start watch subscribed
  refine ⟨rfl, (List.append_nil _).symm, rfl, Nat.le_refl _, Nat.le_refl _, fun _ => ?_, fun ended => ?_⟩
  · simp
  · cases ended

theorem follows_perform (root : String) (start : Store) (reader : Reader) (now : Nat) (operation : Operation)
    (follows : Follows root start reader) : Follows root start (reader.step (.perform now operation)) := by
  have size := follows_size root start reader follows
  have within := follows.within
  have grown := perform_grows now operation reader.store
  have earlier : (reader.made ++ changesMade now operation reader.store).take (reader.watch.position - start.changes.size) =
      reader.made.take (reader.watch.position - start.changes.size) :=
    List.take_append_of_le_length (by omega)
  have record : (perform now operation reader.store).2.changes.toList =
      start.changes.toList ++ (reader.made ++ changesMade now operation reader.store) := by
    rw [perform_changes, follows.record, List.append_assoc]
  refine ⟨follows.about, record, ?_, follows.begun, Nat.le_trans within grown, fun intact => ?_, fun ended => ?_⟩
  · change values (perform now operation reader.store).2 = _
    rw [← perform_replays, follows.contents]
    exact (replay_append some _ _ _).symm
  · exact (follows.whole intact).trans (congrArg (fun made => (made.filter (under root)).map Seen.change) earlier.symm)
  · obtain ⟨overwritten, missed, last, told, yielded⟩ := follows.broken ended
    refine ⟨Nat.lt_of_lt_of_le overwritten grown, missed, last, told, ?_⟩
    simpa only [Reader.step, earlier] using yielded

inductive Received (changes : Array Change) (watch : Watch) : Option Seen → Watch → Prop where
  | ended (ended : watch.ended = true) : Received changes watch (some .ended) watch
  | behind (intact : watch.ended = false) (behind : watchCapacity < changes.size - watch.position) :
      Received changes watch
        (some (.failed (.backend (lagMessage (changes.size - watch.position - watchCapacity)))))
        { watch with ended := true }
  | change (change : Change) (intact : watch.ended = false) (near : ¬ watchCapacity < changes.size - watch.position)
      (next : changes[watch.position]? = some change) :
      Received changes watch (if under watch.root change then some (.change change) else none)
        { watch with position := watch.position + 1 }
  | pending (intact : watch.ended = false) (near : ¬ watchCapacity < changes.size - watch.position)
      (nothing : changes[watch.position]? = none) : Received changes watch (some .pending) watch

theorem receive_received (changes : Array Change) (watch : Watch) :
    Received changes watch (watch.receive changes true).1 (watch.receive changes true).2 := by
  unfold Watch.receive
  split
  next ended => exact .ended ended
  next intact =>
    have open? : watch.ended = false := by simpa using intact
    dsimp only
    split
    next behind => exact .behind open? behind
    next near =>
      split
      next change next => exact .change change open? near next
      next nothing => exact .pending open? near nothing

theorem unread_next (changes : Array Change) (position : Nat) (change : Change)
    (next : changes[position]? = some change) :
    changes.toList.drop position = change :: changes.toList.drop (position + 1) := by
  obtain ⟨bound, found⟩ := Array.getElem?_eq_some_iff.mp next
  rw [List.drop_eq_getElem_cons (by simpa using bound), Array.getElem_toList, found]

theorem taken_next (root : String) (start : Store) (reader : Reader) (follows : Follows root start reader)
    (change : Change) (next : reader.store.changes[reader.watch.position]? = some change) :
    reader.made.take (reader.watch.position + 1 - start.changes.size) =
      reader.made.take (reader.watch.position - start.changes.size) ++ [change] := by
  have begun := follows.begun
  have found : reader.made[reader.watch.position - start.changes.size]? = some change := by
    rw [← Array.getElem?_toList, follows.record, List.getElem?_append_right (by simpa using begun)] at next
    simpa using next
  rw [show reader.watch.position + 1 - start.changes.size = reader.watch.position - start.changes.size + 1 by omega,
    List.take_add_one, found]
  rfl

theorem follows_receive (root : String) (start : Store) (reader : Reader) (listening : .ended ∉ reader.yielded)
    (follows : Follows root start reader) : Follows root start reader.receive := by
  have begun := follows.begun
  have within := follows.within
  have received := receive_received reader.store.changes reader.watch
  unfold Reader.receive Reader.accept
  generalize (reader.watch.receive reader.store.changes true).1 = seen at received ⊢
  generalize (reader.watch.receive reader.store.changes true).2 = watch at received ⊢
  cases received with
  | ended ended =>
      refine ⟨follows.about, follows.record, follows.contents, begun, within, fun intact => ?_, fun _ => ?_⟩
      · rw [ended] at intact
        cases intact
      · obtain ⟨overwritten, missed, last, told, yielded⟩ := follows.broken ended
        have untold : last = [] := told.resolve_right fun last => listening (by simp [yielded, last])
        refine ⟨overwritten, missed, [.ended], .inr rfl, ?_⟩
        simp [yielded, yields, untold]
  | behind intact behind =>
      refine ⟨follows.about, follows.record, follows.contents, begun, within, fun wrong => ?_, fun _ => ?_⟩
      · cases wrong
      · have overwritten : Overwritten reader.store reader.watch := by
          unfold Overwritten
          omega
        refine ⟨overwritten, reader.store.changes.size - reader.watch.position - watchCapacity, [], .inl rfl, ?_⟩
        simp [follows.whole intact, yields]
  | change change intact near next =>
      have bound : reader.watch.position < reader.store.changes.size := (Array.getElem?_eq_some_iff.mp next).1
      refine ⟨follows.about, follows.record, follows.contents, Nat.le_succ_of_le begun, bound, fun _ => ?_, fun wrong => ?_⟩
      · simp only [taken_next root start reader follows change next, List.filter_append, List.map_append,
          follows.whole intact, follows.about]
        cases inside : under root change <;> simp [inside, yields]
      · rw [intact] at wrong
        cases wrong
  | pending intact near nothing =>
      refine ⟨follows.about, follows.record, follows.contents, begun, within, fun _ => ?_, fun wrong => ?_⟩
      · simpa [yields] using follows.whole intact
      · rw [intact] at wrong
        cases wrong

theorem first_under_find (root : String) (position : Nat) (changes : List Change) :
    (firstUnder root position changes).map (·.1) = changes.find? (under root) := by
  induction changes generalizing position with
  | nil => rfl
  | cons change rest ih =>
      rw [firstUnder, List.find?_cons]
      cases inside : under root change with
      | true => rw [if_pos (show Table.liesUnder root change.key = true from inside)]; rfl
      | false => rw [if_neg (show ¬ Table.liesUnder root change.key = true by simpa [under] using inside), ih]

-- A read is nothing but repeated taking of single changes.
theorem read_receive (changes : Array Change) (watch : Watch) (within : watch.position ≤ changes.size) :
    watch.read changes true =
      match watch.receive changes true with
      | (some seen, next) => (seen, next)
      | (none, next) => next.read changes true := by
  by_cases ended : watch.ended = true
  · simp only [Watch.receive, Watch.read, ended, if_true]
  · by_cases behind : watchCapacity < changes.size - watch.position
    · simp only [Watch.receive, Watch.read, if_neg ended, if_pos behind]
    · cases next : changes[watch.position]? with
      | some change =>
          have bound := (Array.getElem?_eq_some_iff.mp next).1
          have unread := unread_next changes watch.position change next
          have nearer : ¬ watchCapacity < changes.size - (watch.position + 1) := by omega
          cases inside : Table.liesUnder watch.root change.key with
          | true =>
              simp only [Watch.receive, Watch.read, if_neg ended, if_neg behind, next, unread, firstUnder, inside, if_true]
          | false =>
              simp only [Watch.receive, Watch.read, if_neg ended, if_neg behind, if_neg nearer, next, unread, firstUnder,
                inside, Bool.false_eq_true, if_false]
      | none =>
          have last : watch.position = changes.size :=
            Nat.le_antisymm within (Array.getElem?_eq_none_iff.mp next)
          have unread : changes.toList.drop watch.position = [] := by
            rw [last]
            exact List.drop_eq_nil_of_le (by simp)
          simp only [Watch.receive, Watch.read, if_neg ended, if_neg behind, next, unread, firstUnder, if_true]
          rw [← last]

theorem receive_silent (changes : Array Change) (watch next : Watch) (silent : watch.receive changes true = (none, next)) :
    next.position = watch.position + 1 ∧ watch.position < changes.size := by
  have received := receive_received changes watch
  rw [silent] at received
  generalize seen : (none, next).1 = result at received
  cases received with
  | change change _ _ found => exact ⟨rfl, (Array.getElem?_eq_some_iff.mp found).1⟩
  | _ => cases seen

theorem follows_read (root : String) (start : Store) (unread : Nat) (reader : Reader)
    (size : reader.store.changes.size - reader.watch.position = unread) (listening : .ended ∉ reader.yielded)
    (follows : Follows root start reader) : Follows root start reader.read := by
  induction unread using Nat.strongRecOn generalizing reader with
  | ind unread ih =>
      have received := follows_receive root start reader listening follows
      have repeated := read_receive reader.store.changes reader.watch follows.within
      unfold Reader.receive at received
      unfold Reader.read
      dsimp only
      rw [repeated]
      cases taken : reader.watch.receive reader.store.changes true with
      | mk seen next =>
          rw [taken] at received
          cases seen with
          | some seen => exact received
          | none =>
              obtain ⟨later, bound⟩ := receive_silent _ _ _ taken
              have again := ih (unread - 1) (by omega) (reader.accept (none, next)) (by simp only [Reader.accept]; omega)
                (by simpa [Reader.accept] using listening) received
              simpa [Reader.read, Reader.accept] using again

theorem follows_run (root : String) (start : Store) (moves : List Move) (reader : Reader)
    (follows : Follows root start reader) : Follows root start (reader.run moves) := by
  induction moves generalizing reader with
  | nil => exact follows
  | cons move rest ih =>
      apply ih
      cases move with
      | perform now operation => exact follows_perform root start reader now operation follows
      | receive =>
          simp only [Reader.step]
          split
          next => exact follows
          next listening => exact follows_receive root start reader listening follows
      | read =>
          simp only [Reader.step]
          split
          next => exact follows
          next listening => exact follows_read root start _ reader rfl listening follows

theorem replay_taken (root : String) (start : Store) (reader : Reader) (taken : Nat) (follows : Follows root start reader)
    (caughtUp : ∀ change ∈ reader.made.drop taken, under root change = false) :
    replay some ((reader.made.take taken).filter (under root)) (restrict root (values start)) =
      restrict root (values reader.store) := by
  have nothing : (reader.made.drop taken).filter (under root) = [] :=
    List.filter_eq_nil_iff.mpr fun change member => by simp [caughtUp change member]
  have all : (reader.made.take taken).filter (under root) = reader.made.filter (under root) := by
    calc
      (reader.made.take taken).filter (under root) =
          (reader.made.take taken).filter (under root) ++ (reader.made.drop taken).filter (under root) := by
        rw [nothing, List.append_nil]
      _ = reader.made.filter (under root) := by rw [← List.filter_append, List.take_append_drop]
  rw [all, follows.contents, restrict_replay]

theorem seen_changes (changes : List Change) : (changes.map Seen.change).filterMap seenChange? = changes := by
  rw [List.filterMap_map]
  exact List.filterMap_some

theorem read_ended (changes : Array Change) (watch : Watch) (ended : watch.ended = true) :
    watch.read changes true = (.ended, watch) := by
  simp only [Watch.read, ended, if_true]

theorem read_overwritten (store : Store) (watch : Watch) (intact : watch.ended = false)
    (overwritten : Overwritten store watch) :
    watch.read store.changes true =
      (.failed (.backend (lagMessage (store.changes.size - watch.position - watchCapacity))), { watch with ended := true }) := by
  have behind : watchCapacity < store.changes.size - watch.position := by
    unfold Overwritten at overwritten
    omega
  simp only [Watch.read, intact, Bool.false_eq_true, if_false, if_pos behind]

theorem read_near (store : Store) (watch : Watch) (intact : watch.ended = false)
    (near : ¬ Overwritten store watch) :
    (watch.read store.changes true).1 =
      match (store.changes.toList.drop watch.position).find? (under watch.root) with
      | some change => .change change
      | none => .pending := by
  have notBehind : ¬ watchCapacity < store.changes.size - watch.position := by
    unfold Overwritten at near
    omega
  rw [← first_under_find watch.root watch.position]
  simp only [Watch.read, intact, Bool.false_eq_true, if_false, if_neg notBehind, if_true]
  cases firstUnder watch.root watch.position (store.changes.toList.drop watch.position) <;> rfl

theorem watch_follows_root (history : History) (root : String) (watch : Watch) (moves : List Move)
    (subscribed : (after history {}).watch root = .ok watch) :
    let start := after history {}
    let reader := Reader.run { store := start, watch } moves
    let taken := reader.watch.position - start.changes.size
    let next := reader.watch.read reader.store.changes true
    (reader.watch.ended = false →
      reader.yielded = ((reader.made.take taken).filter (under root)).map .change) ∧
    (reader.watch.ended = true →
      Overwritten reader.store reader.watch ∧ ∃ missed last, (last = [] ∨ last = [.ended]) ∧ reader.yielded =
        ((reader.made.take taken).filter (under root)).map .change ++ .failed (.backend (lagMessage missed)) :: last) ∧
    (reader.watch.ended = true → .ended ∉ reader.yielded → next = (.ended, reader.watch)) ∧
    (reader.watch.ended = false → Overwritten reader.store reader.watch →
      ∃ missed, next = (.failed (.backend (lagMessage missed)), { reader.watch with ended := true })) ∧
    (reader.watch.ended = false → ¬ Overwritten reader.store reader.watch →
      next.1 =
        match (reader.made.drop taken).find? (under root) with
        | some change => .change change
        | none => .pending) ∧
    (reader.watch.ended = false → (∀ change ∈ reader.made.drop taken, under root change = false) →
      replay some (reader.yielded.filterMap seenChange?) (restrict root (values start)) =
        restrict root (values reader.store)) := by
  intro start reader taken next
  have follows : Follows root start reader :=
    follows_run root start moves _ (follows_initial root start watch subscribed)
  have unread : reader.store.changes.toList.drop reader.watch.position = reader.made.drop taken := by
    have begun := follows.begun
    rw [follows.record, List.drop_append, List.drop_eq_nil_of_le (by simpa using begun), List.nil_append,
      Array.length_toList]
  refine ⟨follows.whole, follows.broken, fun ended _ => read_ended _ _ ended, fun intact overwritten => ?_, fun intact near => ?_,
    fun intact caughtUp => ?_⟩
  · exact ⟨_, read_overwritten reader.store reader.watch intact overwritten⟩
  · rw [← unread, ← follows.about]
    exact read_near reader.store reader.watch intact near
  · rw [follows.whole intact, seen_changes]
    exact replay_taken root start reader taken follows caughtUp

theorem watch_follows_root_past_others :
    (Reader.run { store := after [(0, .put "a/1" [1] none)] {}, watch := { root := "a/", position := 1 } }
      [.perform 1 (.put "b" [2] none), .perform 2 (.delete "a/1"), .read]).yielded = [.change (.delete "a/1")] :=
  (watch_follows_root [(0, .put "a/1" [1] none)] "a/" { root := "a/", position := 1 }
    [.perform 1 (.put "b" [2] none), .perform 2 (.delete "a/1"), .read] rfl).1 rfl

end ServiceHost.Store
