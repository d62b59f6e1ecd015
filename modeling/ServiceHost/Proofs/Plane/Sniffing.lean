import Mathlib.Data.List.Induction
import ServiceHost.Plane.Preface

set_option autoImplicit false

namespace ServiceHost

namespace Plane

-- What is decided on: the preface and everything that starts with it, and everything that has left it.
theorem classify_eq (bytes : List UInt8) :
    classify bytes =
      if preface <+: bytes then some .rpc else if bytes <+: preface then none else some .web := by
  rw [classify]
  rcases Nat.le_total bytes.length preface.length with short | long
  · rw [Nat.min_eq_left short, List.take_length]
    by_cases still : bytes <+: preface
    · rw [if_neg (not_not.mpr (List.prefix_iff_eq_take.mp still)), if_pos still]
      by_cases whole : preface <+: bytes
      · rw [if_pos whole, if_pos (Nat.le_antisymm short whole.length_le)]
      · rw [if_neg whole, if_neg fun same => whole (still.eq_of_length same ▸ List.prefix_rfl)]
    · rw [if_pos fun same => still (List.prefix_iff_eq_take.mpr same), if_neg still]
      rw [if_neg fun whole : preface <+: bytes =>
        still (whole.eq_of_length (Nat.le_antisymm whole.length_le short) ▸ List.prefix_rfl)]
  · rw [Nat.min_eq_right long, List.take_length, if_pos rfl]
    by_cases whole : preface <+: bytes
    · rw [if_pos whole, if_neg (not_not.mpr (List.prefix_iff_eq_take.mp whole).symm)]
    · rw [if_neg whole, if_pos fun same => whole (List.prefix_iff_eq_take.mpr same.symm)]
      rw [if_neg fun still : bytes <+: preface =>
        whole (still.eq_of_length (Nat.le_antisymm still.length_le long) ▸ List.prefix_rfl)]

theorem classify_rpc (bytes : List UInt8) : classify bytes = some .rpc ↔ preface <+: bytes := by
  rw [classify_eq]
  by_cases whole : preface <+: bytes
  · simp only [whole, if_true]
  · rw [if_neg whole]
    split <;> simp [whole]

theorem classify_none (bytes : List UInt8) : classify bytes = none ↔ bytes <+: preface ∧ bytes ≠ preface := by
  rw [classify_eq]
  by_cases whole : preface <+: bytes
  · rw [if_pos whole]
    refine ⟨nofun, fun proper => absurd (proper.1.eq_of_length ?_) proper.2⟩
    exact Nat.le_antisymm proper.1.length_le whole.length_le
  · rw [if_neg whole]
    by_cases still : bytes <+: preface
    · rw [if_pos still]
      exact ⟨fun _ => ⟨still, fun same => whole (same ▸ List.prefix_rfl)⟩, fun _ => rfl⟩
    · rw [if_neg still]
      exact ⟨nofun, fun proper => absurd proper.1 still⟩

theorem classify_append (bytes more : List UInt8) (plane : Plane) (decided : classify bytes = some plane) :
    classify (bytes ++ more) = some plane := by
  have extended : bytes <+: bytes ++ more := List.prefix_append bytes more
  rw [classify_eq] at decided ⊢
  by_cases whole : preface <+: bytes
  · rw [if_pos whole] at decided
    rw [if_pos (whole.trans extended), decided]
  · rw [if_neg whole] at decided
    by_cases still : bytes <+: preface
    · rw [if_pos still] at decided
      cases decided
    · rw [if_neg still] at decided
      have apart : ¬ preface <+: bytes ++ more := fun later =>
        (List.prefix_or_prefix_of_prefix later extended).elim whole still
      rw [if_neg apart, if_neg fun later => still (extended.trans later), decided]

theorem preface_length : preface.length = 24 := by decide

theorem sniff_cons (look : Look) (rest : List Look) : sniff (look :: rest) = look.decides.getD (sniff rest) := by
  cases look with
  | bytes received => cases received <;> rfl
  | ended | failed | timedOut => rfl

end Plane

namespace Sniffing

inductive Move where
  | arrive (chunk : List UInt8)
  | finish
  | look (count : Nat)
  | fail
  | expire
deriving DecidableEq

def move? (sniffing : Sniffing) : Move → Option Sniffing
  | .arrive chunk => sniffing.arrive chunk
  | .finish => some sniffing.finish
  | .look count => sniffing.look count
  | .fail => sniffing.see .failed
  | .expire => sniffing.see .timedOut

def follow (moves : List Move) : Option Sniffing := moves.foldlM move? {}

def sent (moves : List Move) : List UInt8 :=
  moves.flatMap fun move => match move with
    | .arrive chunk => chunk
    | _ => []

-- A look has shown the preface: it had come in full, as the start of the stream, and the look took in all of it.
def PrefaceSeen (moves : List Move) : Prop :=
  ∃ before count after, moves = before ++ .look count :: after ∧ Plane.preface.length ≤ count ∧ Plane.preface <+: sent before

def Undisturbed (moves : List Move) : Prop := .fail ∉ moves ∧ .expire ∉ moves

-- How a connection stands to the moves that have led to it.
structure Faithful (moves : List Move) (sniffing : Sniffing) : Prop where
  kept : sniffing.unread = sent moves
  told : ∀ rest, Plane.sniff (sniffing.looks ++ rest) = sniffing.plane.getD (Plane.sniff rest)
  seen : sniffing.plane = some .rpc ↔ PrefaceSeen moves
  grounded : ∀ plane, sniffing.plane = some plane → Undisturbed moves →
    (sniffing.unread = [] ∧ sniffing.ended = true) ∨ Plane.classify sniffing.unread = some plane

theorem sent_append (moves more : List Move) : sent (moves ++ more) = sent moves ++ sent more := List.flatMap_append

theorem preface_seen_append (moves : List Move) (move : Move) :
    PrefaceSeen (moves ++ [move]) ↔
      PrefaceSeen moves ∨ ∃ count, move = .look count ∧ Plane.preface.length ≤ count ∧ Plane.preface <+: sent moves := by
  constructor
  · intro ⟨before, count, after, split, wide, whole⟩
    rcases List.eq_nil_or_concat after with rfl | ⟨after, last, rfl⟩
    · obtain ⟨rfl, same⟩ := List.append_inj' split rfl
      cases same
      exact .inr ⟨count, rfl, wide, whole⟩
    · rw [List.concat_eq_append, ← List.cons_append, ← List.append_assoc] at split
      exact .inl ⟨before, count, after, (List.append_inj' split rfl).1, wide, whole⟩
  · intro seen
    rcases seen with ⟨before, count, after, rfl, wide, whole⟩ | ⟨count, rfl, wide, whole⟩
    · exact ⟨before, count, after ++ [move], by simp, wide, whole⟩
    · exact ⟨moves, count, [], rfl, wide, whole⟩

theorem undisturbed_append (moves more : List Move) (quiet : Undisturbed (moves ++ more)) : Undisturbed moves :=
  ⟨fun failed => quiet.1 (List.mem_append_left more failed), fun expired => quiet.2 (List.mem_append_left more expired)⟩

theorem see_cases (sniffing next : Sniffing) (look : Plane.Look) (seen : sniffing.see look = some next) :
    sniffing.plane = none ∧ next = { sniffing with looks := sniffing.looks ++ [look], plane := look.decides } := by
  by_cases undecided : sniffing.plane = none
  · rw [see, if_pos undecided] at seen
    exact ⟨undecided, (Option.some.inj seen).symm⟩
  · rw [see, if_neg undecided] at seen
    cases seen

theorem decides_bytes (received : List UInt8) (nonempty : received ≠ []) (fits : received.length ≤ 24) :
    (Plane.Look.bytes received).decides = Plane.classify received := by
  cases received with
  | nil => exact absurd rfl nonempty
  | cons first rest => rw [Plane.Look.decides, List.take_of_length_le fits]; exact nofun

theorem decides_shown (unread : List UInt8) (count : Nat) (nonempty : unread ≠ []) (positive : count ≠ 0) :
    (Plane.Look.bytes (unread.take (min count 24))).decides = Plane.classify (unread.take (min count 24)) := by
  refine decides_bytes _ ?_ (by rw [List.length_take]; omega)
  rw [Ne, List.take_eq_nil_iff]
  exact fun nothing => nothing.elim (by omega) nonempty

-- What a look can show: the end of a stream that has been read up, or the first bytes of what has come.
theorem shown_cases (sniffing : Sniffing) (count : Nat) (look : Plane.Look) (shown : sniffing.shown count = some look) :
    (sniffing.unread = [] ∧ sniffing.ended = true ∧ look = .ended) ∨
      (sniffing.unread ≠ [] ∧ count ≠ 0 ∧ look = .bytes (sniffing.unread.take (min count 24))) := by
  by_cases empty : sniffing.unread = []
  · by_cases ended : sniffing.ended = true
    · rw [Sniffing.shown, if_pos empty, if_pos ended] at shown
      exact .inl ⟨empty, ended, (Option.some.inj shown).symm⟩
    · rw [Sniffing.shown, if_pos empty, if_neg ended] at shown
      cases shown
  · by_cases zero : count = 0
    · rw [Sniffing.shown, if_neg empty, if_pos zero] at shown
      cases shown
    · rw [Sniffing.shown, if_neg empty, if_neg zero] at shown
      exact .inr ⟨empty, zero, (Option.some.inj shown).symm⟩

-- The buffer is just large enough for the preface.
theorem take_preface (bytes : List UInt8) (count : Nat) :
    Plane.preface <+: bytes.take (min count 24) ↔ Plane.preface.length ≤ count ∧ Plane.preface <+: bytes := by
  rw [List.prefix_take_iff, Plane.preface_length, and_comm]
  exact and_congr_left fun _ => by omega

theorem arrive_faithful (moves : List Move) (sniffing : Sniffing) (chunk : List UInt8) (opened : sniffing.ended = false)
    (faithful : Faithful moves sniffing) :
    Faithful (moves ++ [.arrive chunk]) { sniffing with unread := sniffing.unread ++ chunk } where
  kept := by rw [sent_append, ← faithful.kept]; simp [sent]
  told := faithful.told
  seen := by rw [preface_seen_append, faithful.seen]; simp
  grounded plane decided quiet := by
    rcases faithful.grounded plane decided (undisturbed_append moves _ quiet) with ended | classified
    · cases opened.symm.trans ended.2
    · exact .inr (Plane.classify_append _ chunk plane classified)

theorem finish_faithful (moves : List Move) (sniffing : Sniffing) (faithful : Faithful moves sniffing) :
    Faithful (moves ++ [.finish]) sniffing.finish where
  kept := by rw [sent_append, finish, faithful.kept]; simp [sent]
  told := faithful.told
  seen := by rw [preface_seen_append, finish, faithful.seen]; simp
  grounded plane decided quiet :=
    (faithful.grounded plane decided (undisturbed_append moves _ quiet)).imp_left fun ended => ⟨ended.1, rfl⟩

theorem faithful_undecided (moves : List Move) (sniffing : Sniffing) (faithful : Faithful moves sniffing)
    (undecided : sniffing.plane = none) : ¬ PrefaceSeen moves := by
  rw [← faithful.seen, undecided]
  exact nofun

-- A look keeps the stream as it is; what it has to answer for is the plane that it leads to.
theorem see_faithful (moves : List Move) (sniffing next : Sniffing) (move : Move) (look : Plane.Look) (silent : sent [move] = [])
    (seen : sniffing.see look = some next) (faithful : Faithful moves sniffing)
    (preface : look.decides = some .rpc ↔ PrefaceSeen (moves ++ [move]))
    (grounded : ∀ plane, look.decides = some plane → Undisturbed (moves ++ [move]) →
      (sniffing.unread = [] ∧ sniffing.ended = true) ∨ Plane.classify sniffing.unread = some plane) :
    Faithful (moves ++ [move]) next := by
  obtain ⟨undecided, rfl⟩ := see_cases sniffing next look seen
  refine ⟨?_, fun rest => ?_, preface, grounded⟩
  · rw [sent_append, silent, List.append_nil]
    exact faithful.kept
  · have told := faithful.told (look :: rest)
    rw [undecided, Option.getD_none, Plane.sniff_cons] at told
    rw [List.append_assoc]
    exact told

theorem look_faithful (moves : List Move) (sniffing next : Sniffing) (count : Nat) (looked : sniffing.look count = some next)
    (faithful : Faithful moves sniffing) : Faithful (moves ++ [.look count]) next := by
  obtain ⟨look, shown, seen⟩ := Option.bind_eq_some_iff.mp looked
  have unseen := faithful_undecided moves sniffing faithful (see_cases sniffing next look seen).1
  rcases shown_cases sniffing count look shown with ⟨empty, ended, rfl⟩ | ⟨nonempty, positive, rfl⟩
  · refine see_faithful moves sniffing next _ _ rfl seen faithful ?_ fun plane _ _ => .inl ⟨empty, ended⟩
    have absent : ¬ Plane.preface <+: [] := fun whole => by
      have long := whole.length_le
      rw [Plane.preface_length, List.length_nil] at long
      omega
    rw [preface_seen_append, ← faithful.kept, empty]
    exact ⟨nofun, fun preface => preface.elim (absurd · unseen) fun ⟨_, _, _, whole⟩ => absurd whole absent⟩
  · have decides := decides_shown sniffing.unread count nonempty positive
    refine see_faithful moves sniffing next _ _ rfl seen faithful ?_ fun plane decided _ => .inr ?_
    · rw [decides, Plane.classify_rpc, take_preface, preface_seen_append, ← faithful.kept]
      refine ⟨fun whole => .inr ⟨count, rfl, whole⟩, fun preface => ?_⟩
      rcases preface with earlier | ⟨_, same, whole⟩
      · exact absurd earlier unseen
      · cases same
        exact whole
    · rw [← List.take_append_drop (min count 24) sniffing.unread]
      exact Plane.classify_append _ _ plane (decides ▸ decided)

theorem disturbance_faithful (moves : List Move) (sniffing next : Sniffing) (move : Move) (look : Plane.Look)
    (disturbs : move = .fail ∨ move = .expire) (web : look.decides = some .web) (seen : sniffing.see look = some next)
    (faithful : Faithful moves sniffing) : Faithful (moves ++ [move]) next := by
  have unseen := faithful_undecided moves sniffing faithful (see_cases sniffing next look seen).1
  have silent : sent [move] = [] := by rcases disturbs with rfl | rfl <;> rfl
  refine see_faithful moves sniffing next move look silent seen faithful ?_ fun plane _ quiet => ?_
  · rw [web, preface_seen_append]
    refine ⟨nofun, fun preface => ?_⟩
    rcases preface with earlier | ⟨_, rfl, _⟩
    · exact absurd earlier unseen
    · simp at disturbs
  · have last : move ∈ moves ++ [move] := List.mem_append_right moves List.mem_cons_self
    rcases disturbs with rfl | rfl
    · exact absurd last quiet.1
    · exact absurd last quiet.2

theorem move_faithful (moves : List Move) (sniffing next : Sniffing) (move : Move) (moved : sniffing.move? move = some next)
    (faithful : Faithful moves sniffing) : Faithful (moves ++ [move]) next := by
  cases move with
  | arrive chunk =>
      rw [move?, arrive] at moved
      split at moved
      next => cases moved
      next opened =>
        cases moved
        exact arrive_faithful moves sniffing chunk (Bool.eq_false_iff.mpr opened) faithful
  | finish =>
      cases moved
      exact finish_faithful moves sniffing faithful
  | look count => exact look_faithful moves sniffing next count moved faithful
  | fail => exact disturbance_faithful moves sniffing next _ _ (.inl rfl) rfl moved faithful
  | expire => exact disturbance_faithful moves sniffing next _ _ (.inr rfl) rfl moved faithful

theorem follow_faithful (moves : List Move) (sniffing : Sniffing) (followed : follow moves = some sniffing) :
    Faithful moves sniffing := by
  induction moves using List.reverseRecOn generalizing sniffing with
  | nil =>
      cases followed
      refine ⟨rfl, fun _ => rfl, ⟨nofun, fun ⟨before, _, _, split, _⟩ => ?_⟩, nofun⟩
      cases before <;> cases split
  | append_singleton moves move ih =>
      rw [follow, List.foldlM_append] at followed
      obtain ⟨earlier, before, moved⟩ := Option.bind_eq_some_iff.mp followed
      rw [List.foldlM_cons] at moved
      obtain ⟨later, moved, same⟩ := Option.bind_eq_some_iff.mp moved
      cases same
      exact move_faithful moves earlier sniffing move moved (ih earlier before)

theorem see_undecided (sniffing : Sniffing) (undecided : sniffing.plane = none) (look : Plane.Look) :
    ∃ later, sniffing.see look = some later ∧ later.plane = look.decides :=
  ⟨_, if_pos undecided, rfl⟩

theorem undecided_looks (sniffing : Sniffing) (undecided : sniffing.plane = none) (count : Nat) (positive : count ≠ 0)
    (nonempty : sniffing.unread ≠ []) :
    ∃ later, sniffing.move? (.look count) = some later ∧
      later.plane = Plane.classify (sniffing.unread.take (min count 24)) := by
  rw [move?, look, shown, if_neg nonempty, if_neg positive, ← decides_shown _ _ nonempty positive]
  exact see_undecided sniffing undecided _

theorem undecided_ends (sniffing : Sniffing) (undecided : sniffing.plane = none) (move : Move)
    (last : move = .fail ∨ move = .expire ∨ (sniffing.unread = [] ∧ sniffing.ended = true ∧ ∃ count, move = .look count)) :
    ∃ later, sniffing.move? move = some later ∧ later.plane = some .web := by
  rcases last with rfl | rfl | ⟨empty, ended, count, rfl⟩
  · exact see_undecided sniffing undecided .failed
  · exact see_undecided sniffing undecided .timedOut
  · rw [move?, look, shown, if_pos empty, if_pos ended]
    exact see_undecided sniffing undecided .ended

/--
However the bytes of a connection arrive and whatever part of them each look shows: a decision is for the RPC plane exactly
if the preface had come in full at the start of the stream and a look had shown it by then, and else for the web plane. A
decision that no failure and no time-out has forced is the one that the whole stream asks for, and nothing that was sent is
missing for whoever reads the connection.
-/
theorem plane_independent_of_arrival :
    (∀ (moves : List Move) (sniffing : Sniffing), follow moves = some sniffing →
      sniffing.unread = sent moves ∧
      (∀ plane, sniffing.plane = some plane → Plane.sniff sniffing.looks = plane ∧
        (plane = .rpc ↔ PrefaceSeen moves) ∧ (plane = .web ↔ ¬ PrefaceSeen moves)) ∧
      (sniffing.plane = none → ¬ PrefaceSeen moves ∧
        (∀ count, count ≠ 0 → sent moves ≠ [] → ∃ later, sniffing.move? (.look count) = some later ∧
          later.plane = Plane.classify ((sent moves).take (min count 24))) ∧
        ∀ move, move = .fail ∨ move = .expire ∨ (sent moves = [] ∧ sniffing.ended = true ∧ ∃ count, move = .look count) →
          ∃ later, sniffing.move? move = some later ∧ later.plane = some .web) ∧
      (∀ plane, sniffing.plane = some plane → Undisturbed moves → sent moves ≠ [] →
        ∀ more, Plane.classify (sent moves ++ more) = some plane)) ∧
    (∀ (bytes more : List UInt8) (plane : Plane),
      Plane.classify bytes = some plane → Plane.classify (bytes ++ more) = some plane) ∧
    ∀ bytes : List UInt8, Plane.classify bytes = none ↔ bytes <+: Plane.preface ∧ bytes ≠ Plane.preface := by
  refine ⟨fun moves sniffing followed => ?_, Plane.classify_append, Plane.classify_none⟩
  have faithful := follow_faithful moves sniffing followed
  refine ⟨faithful.kept, fun plane decided => ⟨?_, ?_⟩, fun undecided => ⟨?_, ?_, ?_⟩,
    fun plane decided quiet nonempty more => ?_⟩
  · have told := faithful.told []
    rwa [List.append_nil, decided] at told
  · have seen := faithful.seen
    rw [decided, Option.some.injEq] at seen
    rw [← seen]
    cases plane <;> simp
  · exact faithful_undecided moves sniffing faithful undecided
  · rw [← faithful.kept]
    exact undecided_looks sniffing undecided
  · rw [← faithful.kept]
    exact undecided_ends sniffing undecided
  · refine Plane.classify_append _ more plane ?_
    rw [← faithful.kept] at nonempty ⊢
    exact (faithful.grounded plane decided quiet).resolve_left fun ended => nonempty ended.1

-- The preface in two pieces and bytes after it, with looks at a part of each piece; and a client that stops in the middle of it.
theorem preface_in_pieces :
    (let moves := [.arrive (Plane.preface.take 10), .look 3, .look 40, .arrive (Plane.preface.drop 10 ++ [0]), .look 23, .look 24,
        .arrive [1]]
      ∃ sniffing, follow moves = some sniffing ∧ sniffing.plane = some .rpc ∧ PrefaceSeen moves ∧
        Plane.sniff sniffing.looks = .rpc ∧ sniffing.unread = Plane.preface ++ [0, 1] ∧
        ∀ more, Plane.classify (Plane.preface ++ [0, 1] ++ more) = some .rpc) ∧
    (let moves := [.arrive (Plane.preface.take 10), .look 24, .finish, .look 24]
      ∃ sniffing later, follow moves = some sniffing ∧ sniffing.plane = none ∧ sniffing.move? .expire = some later ∧
        later.plane = some .web) ∧
    Plane.classify ([0x47] ++ Plane.preface) = some .web := by
  refine ⟨?_, ?_, plane_independent_of_arrival.2.1 [0x47] Plane.preface .web (by decide)⟩
  · intro moves
    have followed : follow moves = some
        { unread := Plane.preface ++ [0, 1]
          looks := [3, 10, 23, 24].map fun count => .bytes (Plane.preface.take count)
          plane := some .rpc } := by decide
    obtain ⟨-, returned, -, whole⟩ := plane_independent_of_arrival.1 moves _ followed
    have decided := returned .rpc rfl
    have quiet : Undisturbed moves := ⟨by simp [moves], by simp [moves]⟩
    exact ⟨_, followed, rfl, decided.2.1.mp rfl, decided.1, rfl, whole .rpc rfl quiet (by decide)⟩
  · intro moves
    have followed : follow moves = some
        { unread := Plane.preface.take 10
          ended := true
          looks := [.bytes (Plane.preface.take 10), .bytes (Plane.preface.take 10)] } := by decide
    obtain ⟨-, -, undecided, -⟩ := plane_independent_of_arrival.1 moves _ followed
    obtain ⟨later, expired, web⟩ := (undecided rfl).2.2 .expire (.inr (.inl rfl))
    exact ⟨_, later, followed, rfl, expired, web⟩

end Sniffing

end ServiceHost
