import Mathlib.Data.Int.ModEq
import ServiceHost.Proofs.Discovery.Picking
import ServiceHost.Proofs.Shares

set_option autoImplicit false

namespace ServiceHost

-- A pick on its way: whether the channel is open, what its targets are, and whose turn it is are asked one after the other.
inductive Picker where
  | entered
  | admitted
  | looking (targets : List Target)
  | returned (result : Except DialError Target)

namespace Picker

def step? (channel : Channel) : Picker → Option (Picker × Channel)
  | .entered => if channel.closed then some (.returned (.error .closed), channel) else some (.admitted, channel)
  | .admitted => some (.looking channel.snapshot, channel)
  | .looking targets =>
      match channel.rotation.next targets with
      | (some target, rotation) => some (.returned (.ok target), { channel with rotation })
      | (none, rotation) => some (.returned (.error (.noEndpoints channel.name)), { channel with rotation })
  | .returned _ => none

def given : Picker → List Target
  | .returned (.ok target) => [target]
  | _ => []

end Picker

structure Crowd where
  channel : Channel
  pickers : List Picker := []

namespace Crowd

inductive Move where
  | call
  | step (index : Nat)
  | upsert (key : String) (endpoint : Endpoint)
  | remove (key : String)
  | replaceAll (targets : List (String × Endpoint))
  | close

def Move.update (channel : Channel) : Move → Channel
  | .upsert key endpoint => channel.upsert key endpoint
  | .remove key => channel.remove key
  | .replaceAll targets => channel.replaceAll targets
  | .close => channel.close
  | _ => channel

def step (crowd : Crowd) : Move → Crowd
  | .call => { crowd with pickers := crowd.pickers ++ [.entered] }
  | .step index =>
      match crowd.pickers[index]?.bind (Picker.step? crowd.channel) with
      | some (picker, channel) => { channel, pickers := crowd.pickers.set index picker }
      | none => crowd
  | move => { crowd with channel := move.update crowd.channel }

def run (crowd : Crowd) (moves : List Move) : Crowd := moves.foldl step crowd

def picked (crowd : Crowd) : Move → List Target
  | .step index =>
      match crowd.pickers[index]?.bind (Picker.step? crowd.channel) with
      | some (picker, _) => picker.given
      | none => []
  | _ => []

def picks (crowd : Crowd) : List Move → List Target
  | [] => []
  | move :: rest => crowd.picked move ++ (crowd.step move).picks rest

def given (crowd : Crowd) : List Target := crowd.pickers.flatMap Picker.given

end Crowd

theorem turns_counted (turns start places first : Nat) (inside : first < places) :
    ((List.range turns).countP fun turn => decide ((start + turn) % places = (start + first) % places)) =
      (turns + (places - 1) - first) / places := by
  induction turns with
  | zero => exact (Nat.div_eq_of_lt (by omega)).symm
  | succ turns ih =>
      have next : turns + 1 + (places - 1) - first = turns + (places - 1) - first + 1 := by omega
      have meets : (start + turns) % places = (start + first) % places ↔ places ∣ turns + (places - 1) - first + 1 := by
        have whole : turns + (places - 1) - first + 1 = turns + places - first := by omega
        rw [whole, ← Nat.modEq_iff_dvd' (by omega)]
        constructor
        · intro same
          exact (Nat.ModEq.add_left_cancel' start same).symm.trans (Nat.add_modEq_right).symm
        · intro same
          exact (Nat.ModEq.add_left start (same.trans Nat.add_modEq_right)).symm
      rw [List.range_succ, List.countP_append, ih, next, Nat.succ_div]
      by_cases met : (start + turns) % places = (start + first) % places
      · simp [met, meets.mp met]
      · simp [met, mt meets.mpr met]

theorem turns_even (turns start places place : Nat) (inside : place < places) :
    let count := (List.range turns).countP fun turn => decide ((start + turn) % places = place)
    count = turns / places ∨ count = (turns + places - 1) / places := by
  intro count
  have reached : (start + (place + places - start % places) % places) % places = place := by
    have part : start % places < places := Nat.mod_lt start (by omega)
    rw [Nat.add_mod_mod, ← Nat.mod_add_mod, show start % places + (place + places - start % places) = place + places by omega,
      Nat.add_mod_right, Nat.mod_eq_of_lt inside]
  have early : (place + places - start % places) % places < places := Nat.mod_lt _ (by omega)
  generalize (place + places - start % places) % places = first at reached early
  have counted : count = (turns + (places - 1) - first) / places := by
    rw [← turns_counted turns start places first early, reached]
  have least : turns / places ≤ count := counted ▸ Nat.div_le_div_right (by omega)
  have most : count ≤ (turns + places - 1) / places := counted ▸ Nat.div_le_div_right (by omega)
  have near : (turns + places - 1) / places ≤ turns / places + 1 := by
    rw [← Nat.add_div_right turns (by omega)]
    exact Nat.div_le_div_right (by omega)
  omega

namespace Picker

inductive Step (channel : Channel) : Picker → Picker → Channel → Prop where
  | refuses (closed : channel.closed = true) : Step channel .entered (.returned (.error .closed)) channel
  | admits (isOpen : channel.closed = false) : Step channel .entered .admitted channel
  | looks : Step channel .admitted (.looking channel.snapshot) channel
  | takes (targets : List Target) (target : Target)
      (turn : targets[channel.rotation.turn.toNat % targets.length]? = some target) :
      Step channel (.looking targets) (.returned (.ok target))
        { channel with rotation := { turn := channel.rotation.turn + 1 } }
  | misses : Step channel (.looking []) (.returned (.error (.noEndpoints channel.name))) channel

theorem step_cases (channel after : Channel) (picker later : Picker) (stepped : picker.step? channel = some (later, after)) :
    Step channel picker later after := by
  cases picker with
  | entered =>
      simp only [step?] at stepped
      split at stepped <;> cases stepped
      · exact .refuses ‹_›
      · exact .admits (Bool.eq_false_iff.mpr ‹_›)
  | admitted =>
      cases stepped
      exact .looks
  | looking targets =>
      rcases List.eq_nil_or_concat targets with rfl | ⟨front, last, rfl⟩
      · cases stepped
        exact .misses
      · obtain ⟨target, turn, next⟩ := channel.rotation.next_turn (front.concat last) (by simp)
        rw [step?, next] at stepped
        cases stepped
        exact .takes _ target turn
  | returned result => cases stepped

variable {channel after : Channel} {picker later : Picker} (stepped : Step channel picker later after)

include stepped

theorem step_turn : after.rotation.turn.toNat =
    (channel.rotation.turn.toNat + later.given.length) % 0x10000000000000000 := by
  have word : channel.rotation.turn.toNat % 0x10000000000000000 = channel.rotation.turn.toNat :=
    Nat.mod_eq_of_lt channel.rotation.turn.toNat_lt
  cases stepped with
  | takes => exact UInt64.toNat_add channel.rotation.turn 1
  | _ => exact word.symm

theorem step_targets : after.targets = channel.targets := by cases stepped <;> rfl

theorem step_ungiven : picker.given = [] := by cases stepped <;> rfl

end Picker

namespace Crowd

theorem step_cases (crowd : Crowd) (index : Nat) :
    crowd.step (.step index) = crowd ∧ crowd.picked (.step index) = [] ∨
      ∃ picker later channel, crowd.pickers[index]? = some picker ∧ Picker.Step crowd.channel picker later channel ∧
        crowd.step (.step index) = { channel, pickers := crowd.pickers.set index later } ∧
        crowd.picked (.step index) = later.given := by
  cases stepped : crowd.pickers[index]?.bind (Picker.step? crowd.channel) with
  | none => exact .inl ⟨by simp only [step, stepped], by simp only [picked, stepped]⟩
  | some both =>
      obtain ⟨later, channel⟩ := both
      obtain ⟨picker, found, does⟩ := Option.bind_eq_some_iff.mp stepped
      exact .inr ⟨picker, later, channel, found, Picker.step_cases crowd.channel channel picker later does,
        by simp only [step, stepped], by simp only [picked, stepped]⟩

theorem step_turn (crowd : Crowd) (move : Move) : (crowd.step move).channel.rotation.turn.toNat =
    (crowd.channel.rotation.turn.toNat + (crowd.picked move).length) % 0x10000000000000000 := by
  have word : crowd.channel.rotation.turn.toNat % 0x10000000000000000 = crowd.channel.rotation.turn.toNat :=
    Nat.mod_eq_of_lt crowd.channel.rotation.turn.toNat_lt
  cases move with
  | step index =>
      rcases crowd.step_cases index with ⟨same, none⟩ | ⟨picker, later, channel, -, stepped, same, given⟩
      · rw [same, none]
        exact word.symm
      · rw [same, given]
        exact Picker.step_turn stepped
  | _ => exact word.symm

theorem step_given (crowd : Crowd) (move : Move) : (crowd.step move).given.Perm (crowd.given ++ crowd.picked move) := by
  cases move with
  | step index =>
      rcases crowd.step_cases index with ⟨same, none⟩ | ⟨picker, later, channel, found, stepped, same, given⟩
      · rw [same, none, List.append_nil]
      · rw [same, given]
        obtain ⟨others, before, after⟩ := flat_map_set crowd.pickers index picker later found Picker.given
        rw [Picker.step_ungiven stepped, List.nil_append] at before
        exact after.trans (List.perm_append_comm.trans (before.symm.append_right _))
  | call =>
      rw [given, step, List.flatMap_append]
      exact .refl _
  | _ => exact .of_eq (List.append_nil _).symm

theorem run_turn (crowd : Crowd) (moves : List Move) : (crowd.run moves).channel.rotation.turn.toNat =
    (crowd.channel.rotation.turn.toNat + (crowd.picks moves).length) % 0x10000000000000000 := by
  induction moves generalizing crowd with
  | nil => exact (Nat.mod_eq_of_lt crowd.channel.rotation.turn.toNat_lt).symm
  | cons move rest ih =>
      have later := ih (crowd.step move)
      rw [step_turn, Nat.mod_add_mod, Nat.add_assoc, ← List.length_append] at later
      exact later

theorem run_given (crowd : Crowd) (moves : List Move) : (crowd.run moves).given.Perm (crowd.given ++ crowd.picks moves) := by
  induction moves generalizing crowd with
  | nil => simp [run, picks]
  | cons move rest ih =>
      refine (ih (crowd.step move)).trans ?_
      rw [picks, ← List.append_assoc]
      exact (crowd.step_given move).append_right _

structure Shows {γ : Type} (look : Target → γ) (face : List γ) (crowd : Crowd) : Prop where
  channel : crowd.channel.snapshot.map look = face
  looked : ∀ targets, .looking targets ∈ crowd.pickers → targets.map look = face

def Move.Keeps {γ : Type} (look : Target → γ) (face : List γ) (move : Move) : Prop :=
  ∀ channel : Channel, channel.snapshot.map look = face → (move.update channel).snapshot.map look = face

section Shown

variable {γ : Type} (look : Target → γ) (face : List γ)

theorem shows_step (crowd : Crowd) (move : Move) (keeps : move.Keeps look face) (shown : Shows look face crowd) :
    Shows look face (crowd.step move) := by
  cases move with
  | step index =>
      rcases crowd.step_cases index with ⟨same, -⟩ | ⟨picker, later, channel, found, stepped, same, -⟩
      · rwa [same]
      · rw [same]
        have snapshot : channel.snapshot = crowd.channel.snapshot := by
          rw [Channel.snapshot, Picker.step_targets stepped]
          rfl
        refine ⟨by rw [snapshot]; exact shown.channel, fun targets member => ?_⟩
        rcases List.mem_or_eq_of_mem_set member with before | new
        · exact shown.looked targets before
        · cases stepped with
          | looks =>
              cases new
              exact shown.channel
          | _ => cases new
  | call =>
      refine ⟨shown.channel, fun targets member => ?_⟩
      rcases List.mem_append.mp member with before | new
      · exact shown.looked targets before
      · exact nomatch List.mem_singleton.mp new
  | _ => exact ⟨keeps crowd.channel shown.channel, shown.looked⟩

theorem shows_picked (crowd : Crowd) (move : Move) (shown : Shows look face crowd) :
    crowd.picked move = [] ∨ ∃ target, crowd.picked move = [target] ∧
      some (look target) = face[crowd.channel.rotation.turn.toNat % face.length]? := by
  cases move with
  | step index =>
      rcases crowd.step_cases index with ⟨-, none⟩ | ⟨picker, later, channel, found, stepped, -, given⟩
      · exact .inl none
      · rw [given]
        cases stepped with
        | takes targets target turn =>
            refine .inr ⟨target, rfl, ?_⟩
            rw [← shown.looked targets (List.mem_of_getElem? found), List.length_map, List.getElem?_map, turn]
            rfl
        | _ => exact .inl rfl
  | _ => exact .inl rfl

-- The turns go around, also where the count of them does.
theorem picks_rotate (crowd : Crowd) (moves : List Move) (keeps : ∀ move ∈ moves, move.Keeps look face)
    (shown : Shows look face crowd) (place : Nat) (inside : place < (crowd.picks moves).length) :
    ((crowd.picks moves)[place]?).map look =
      face[(crowd.channel.rotation.turn.toNat + place) % 0x10000000000000000 % face.length]? := by
  induction moves generalizing crowd place with
  | nil => exact absurd inside (Nat.not_lt_zero place)
  | cons move rest ih =>
      have kept := shows_step look face crowd move (keeps move List.mem_cons_self) shown
      have later := ih (crowd.step move) (fun other member => keeps other (List.mem_cons_of_mem move member)) kept
      rw [step_turn] at later
      rw [picks] at inside ⊢
      rcases shows_picked look face crowd move shown with none | ⟨target, one, turn⟩
      · rw [none] at inside later ⊢
        have := later place inside
        rwa [Nat.mod_add_mod] at this
      · rw [one] at inside later ⊢
        cases place with
        | zero =>
            rw [Nat.add_zero, Nat.mod_eq_of_lt crowd.channel.rotation.turn.toNat_lt, ← turn]
            rfl
        | succ place =>
            have next := later place (Nat.lt_of_succ_lt_succ inside)
            rw [Nat.mod_add_mod, Nat.add_assoc, Nat.add_comm [target].length] at next
            exact next

theorem window_rotates (crowd : Crowd) (moves : List Move) (keeps : ∀ move ∈ moves, move.Keeps look face)
    (shown : Shows look face crowd) (front window back : List Target) (stretch : crowd.picks moves = front ++ window ++ back)
    (room : (crowd.channel.rotation.turn.toNat + front.length) % 0x10000000000000000 + window.length ≤ 0x10000000000000000)
    (place : Nat) (inside : place < window.length) :
    (window[place]?).map look =
      face[((crowd.channel.rotation.turn.toNat + front.length) % 0x10000000000000000 + place) % face.length]? := by
  have turned := picks_rotate look face crowd moves keeps shown (front.length + place) (by simp [stretch]; omega)
  have there : (front ++ window ++ back)[front.length + place]? = window[place]? := by
    rw [List.append_assoc, List.getElem?_append_right (Nat.le_add_right _ _), Nat.add_sub_cancel_left,
      List.getElem?_append_left inside]
  have unwrapped : (crowd.channel.rotation.turn.toNat + (front.length + place)) % 0x10000000000000000 =
      (crowd.channel.rotation.turn.toNat + front.length) % 0x10000000000000000 + place := by
    rw [← Nat.add_assoc, ← Nat.mod_add_mod]
    exact Nat.mod_eq_of_lt (by omega)
  rwa [stretch, there, unwrapped] at turned

end Shown

theorem rotation_counts (keys shown : List String) (start : Nat) (distinct : keys.Nodup)
    (rotates : ∀ place < shown.length, shown[place]? = keys[(start + place) % keys.length]?) (key : String)
    (listed : key ∈ keys) :
    shown.count key = shown.length / keys.length ∨ shown.count key = (shown.length + keys.length - 1) / keys.length := by
  obtain ⟨index, inside, rfl⟩ := List.getElem_of_mem listed
  have some_key : 0 < keys.length := Nat.zero_lt_of_lt inside
  have around : shown.map some = (List.range shown.length).map fun place => keys[(start + place) % keys.length]? := by
    refine List.ext_getElem? fun place => ?_
    rcases Nat.lt_or_ge place shown.length with early | late
    · rw [List.getElem?_map, List.getElem?_map, List.getElem?_range early, Option.map_some, ← rotates place early,
        List.getElem?_eq_getElem early]
      rfl
    · rw [List.getElem?_eq_none (by simpa using late), List.getElem?_eq_none (by simpa using late)]
  have counted : shown.count keys[index] =
      (List.range shown.length).countP fun place => decide ((start + place) % keys.length = index) := by
    have options : shown.count keys[index] = (shown.map some).countP (· == some keys[index]) := by
      rw [List.countP_map]
      exact List.countP_congr fun key _ => by simp
    rw [options, around, List.countP_map]
    refine List.countP_congr fun place _ => ?_
    rw [Function.comp_apply, beq_iff_eq, decide_eq_true_eq, ← List.getElem?_eq_getElem inside]
    exact ⟨fun same => ((List.getElem?_inj inside distinct).mp same.symm).symm, fun same => by rw [same]⟩
  rw [counted]
  exact turns_even shown.length start keys.length index inside

def Move.Overwrites (keys : List String) : Move → Prop
  | .upsert key _ => key ∈ keys
  | .remove key => key ∉ keys
  | .replaceAll targets => (Table.ofList targets).keys = keys
  | _ => True

theorem snapshot_keys (channel : Channel) : channel.snapshot.map (·.key) = channel.targets.keys := by
  rw [Channel.snapshot, List.map_map]
  rfl

theorem overwrites_keeps (keys : List String) (move : Move) (overwrites : move.Overwrites keys) : move.Keeps (·.key) keys := by
  intro channel same
  rw [snapshot_keys] at same ⊢
  cases move with
  | upsert key endpoint => exact (Table.insert_known_keys channel.targets key _ (same ▸ overwrites)).trans same
  | remove key =>
      have absent : channel.targets.get? key = none := by
        refine Option.eq_none_iff_forall_ne_some.mpr fun endpoint found => ?_
        exact overwrites (same ▸ (Table.mem_keys_iff channel.targets key).mpr ⟨endpoint, found⟩)
      have untouched : (channel.targets.erase key).keys = channel.targets.keys := by rw [Table.erase_absent _ key absent]
      exact untouched.trans same
  | replaceAll targets => exact overwrites
  | _ => exact same

-- A stretch of picks from the start goes around the keys, so that none comes a second time more often than another.
structure GoesAround (keys : List String) (start : Nat) (window : List Target) : Prop where
  ordered : ∀ place < window.length, (window[place]?).map (·.key) = keys[(start + place) % keys.length]?
  evenly : ∀ key ∈ keys, (window.map (·.key)).count key = window.length / keys.length ∨
    (window.map (·.key)).count key = (window.length + keys.length - 1) / keys.length

theorem step_last (channel : Channel) (others : List Picker) (picker : Picker) :
    ({ channel, pickers := others ++ [picker] } : Crowd).step (.step others.length) =
      match picker.step? channel with
      | some (later, after) => { channel := after, pickers := others ++ [later] }
      | none => { channel, pickers := others ++ [picker] } := by
  rw [step, List.getElem?_concat_length, Option.bind_some]
  cases picker.step? channel with
  | none => rfl
  | some both => simp

theorem run_alone (crowd : Crowd) :
    crowd.run [.call, .step crowd.pickers.length, .step crowd.pickers.length, .step crowd.pickers.length] =
      { channel := crowd.channel.pick.2, pickers := crowd.pickers ++ [.returned crowd.channel.pick.1] } := by
  obtain ⟨channel, others⟩ := crowd
  have called : (Crowd.mk channel others).step .call = { channel, pickers := others ++ [.entered] } := rfl
  simp only [run, List.foldl_cons, List.foldl_nil, called]
  cases isClosed : channel.closed with
  | true => simp only [step_last, Picker.step?, isClosed, Channel.pick, if_true]
  | false =>
      rcases turned : channel.rotation.next channel.snapshot with ⟨_ | target, rotation⟩
      all_goals simp only [step_last, Picker.step?, isClosed, turned, Channel.pick, Bool.false_eq_true, if_false]

theorem looking_takes (crowd : Crowd) (index : Nat) (targets : List Target) (filled : targets ≠ [])
    (found : crowd.pickers[index]? = some (.looking targets)) :
    ∃ target, targets[crowd.channel.rotation.turn.toNat % targets.length]? = some target ∧
      crowd.picked (.step index) = [target] := by
  obtain ⟨target, turn, next⟩ := crowd.channel.rotation.next_turn targets filled
  refine ⟨target, turn, ?_⟩
  rw [picked, found, Option.bind_some, Picker.step?, next]
  rfl

theorem looking_misses (crowd : Crowd) (index : Nat) (found : crowd.pickers[index]? = some (.looking [])) :
    crowd.step (.step index) =
      { crowd with pickers := crowd.pickers.set index (.returned (.error (.noEndpoints crowd.channel.name))) } := by
  rw [step, found]
  rfl

theorem refused_unmoved (crowd : Crowd) (index : Nat) (error : DialError)
    (refused : (crowd.step (.step index)).pickers[index]? = some (.returned (.error error))) :
    (crowd.step (.step index)).channel = crowd.channel := by
  rcases crowd.step_cases index with ⟨same, -⟩ | ⟨picker, later, channel, found, stepped, same, -⟩
  · rw [same]
  · rw [same] at refused ⊢
    rw [List.getElem?_set_self (List.getElem?_eq_some_iff.mp found).1] at refused
    cases refused
    cases stepped <;> rfl

theorem goes_around (crowd : Crowd) (moves : List Move) (keys : List String) (held : crowd.channel.targets.keys = keys)
    (looked : ∀ targets, .looking targets ∈ crowd.pickers → targets.map (·.key) = keys)
    (overwrites : ∀ move ∈ moves, move.Overwrites keys) (front window back : List Target)
    (stretch : crowd.picks moves = front ++ window ++ back)
    (room : (crowd.channel.rotation.turn.toNat + front.length) % 0x10000000000000000 + window.length ≤ 0x10000000000000000) :
    GoesAround keys ((crowd.channel.rotation.turn.toNat + front.length) % 0x10000000000000000) window := by
  have shown : Shows (·.key) keys crowd := ⟨(snapshot_keys crowd.channel).trans held, looked⟩
  have keeps : ∀ move ∈ moves, move.Keeps (·.key) keys := fun move member => overwrites_keeps keys move (overwrites move member)
  have ordered := window_rotates (·.key) keys crowd moves keeps shown front window back stretch room
  refine ⟨ordered, fun key listed => ?_⟩
  have turns := rotation_counts keys (window.map (·.key)) _ (held ▸ Table.keys_distinct crowd.channel.targets)
    (fun place inside => by rw [List.getElem?_map]; exact ordered place (by simpa using inside)) key listed
  rwa [List.length_map] at turns

def Move.Leaves : Move → Prop
  | .call | .step _ | .close => True
  | _ => False

theorem leaves_keeps (crowd : Crowd) (move : Move) (leaves : move.Leaves) : move.Keeps id crowd.channel.snapshot := by
  intro channel same
  cases move with
  | call | step | close => exact same
  | _ => exact leaves.elim

-- However the steps of the callers and the updates are mixed. What callers are given are the picks, and the turn counts
-- these: no refusal and no update moves it. Whoever looks at targets picks the one whose turn it is, at every turn and
-- whatever became of the targets since. As long as the keys remain, the picks of any stretch in which the turn does not
-- start over go around them, and around the targets if these remain.
theorem rotation_fair (crowd : Crowd) (moves : List Move) :
    (crowd.run moves).given.Perm (crowd.given ++ crowd.picks moves) ∧
    (crowd.run moves).channel.rotation.turn.toNat =
      (crowd.channel.rotation.turn.toNat + (crowd.picks moves).length) % 0x10000000000000000 ∧
    (∀ index error, (crowd.step (.step index)).pickers[index]? = some (.returned (.error error)) →
      (crowd.step (.step index)).channel = crowd.channel) ∧
    (∀ index, crowd.pickers[index]? = some (.looking []) → crowd.step (.step index) =
      { crowd with pickers := crowd.pickers.set index (.returned (.error (.noEndpoints crowd.channel.name))) }) ∧
    (∀ index targets, targets ≠ [] → crowd.pickers[index]? = some (.looking targets) →
      ∃ target, targets[crowd.channel.rotation.turn.toNat % targets.length]? = some target ∧
        crowd.picked (.step index) = [target]) ∧
    (crowd.run [.call, .step crowd.pickers.length, .step crowd.pickers.length, .step crowd.pickers.length] =
      { channel := crowd.channel.pick.2, pickers := crowd.pickers ++ [.returned crowd.channel.pick.1] }) ∧
    ∀ front window back, crowd.picks moves = front ++ window ++ back →
      let start := (crowd.channel.rotation.turn.toNat + front.length) % 0x10000000000000000
      start + window.length ≤ 0x10000000000000000 →
      (∀ keys, crowd.channel.targets.keys = keys →
        (∀ targets, .looking targets ∈ crowd.pickers → targets.map (·.key) = keys) →
        (∀ move ∈ moves, move.Overwrites keys) → GoesAround keys start window) ∧
      ((∀ targets, .looking targets ∈ crowd.pickers → targets = crowd.channel.snapshot) → (∀ move ∈ moves, move.Leaves) →
        ∀ place < window.length, window[place]? = crowd.channel.snapshot[(start + place) % crowd.channel.snapshot.length]?) := by
  refine ⟨run_given crowd moves, run_turn crowd moves, refused_unmoved crowd, looking_misses crowd, looking_takes crowd,
    run_alone crowd, fun front window back stretch => ?_⟩
  intro start room
  constructor
  · intro keys held looked overwrites
    exact goes_around crowd moves keys held looked overwrites front window back stretch room
  · intro looked leaves place inside
    have shown : Shows id crowd.channel.snapshot crowd := by
      refine ⟨List.map_id _, fun targets member => ?_⟩
      rw [List.map_id, looked targets member]
    have turned := window_rotates id crowd.channel.snapshot crowd moves
      (fun move member => leaves_keeps crowd move (leaves move member)) shown front window back stretch room place inside
    rwa [Option.map_id, id] at turned

-- Two callers overtake each other, a target gets a new address between them, and a caller comes too late.
def rush : Crowd where
  channel := {
    name := "calc/Adder"
    targets := .ofList
      [("a", { address := "127.0.0.1:1" }), ("b", { address := "127.0.0.1:2" }), ("c", { address := "127.0.0.1:3" })]
    rotation := { turn := 0xFFFFFFFFFFFFFFFC } }
  pickers := [.admitted, .entered]

def rushing : List Move :=
  [.step 0, .step 1, .upsert "b" { address := "127.0.0.1:4" }, .step 1, .step 1, .step 0, .call, .step 2, .remove "d", .step 2,
    .close, .step 2, .call, .step 3]

theorem rotation_fair_rush : (rush.picks rushing).map (·.address) = ["127.0.0.1:1", "127.0.0.1:2", "127.0.0.1:3"] ∧
    GoesAround ["a", "b", "c"] 0xFFFFFFFFFFFFFFFC (rush.picks rushing) := by
  obtain ⟨-, -, -, -, -, -, fair⟩ := rotation_fair rush rushing
  have keys : rush.channel.targets.keys = ["a", "b", "c"] := by decide +kernel
  have looked : ∀ targets, Picker.looking targets ∉ rush.pickers := by simp [rush]
  have room : rush.channel.rotation.turn.toNat + (rush.picks rushing).length ≤ 0x10000000000000000 := by decide +kernel
  have around := (fair [] (rush.picks rushing) [] (List.append_nil _).symm room).1 ["a", "b", "c"] keys
    (fun targets member => absurd member (looked targets)) (by simp [rushing, Move.Overwrites])
  exact ⟨by decide +kernel, around⟩

end Crowd

end ServiceHost
