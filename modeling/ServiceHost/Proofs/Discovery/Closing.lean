import Mathlib.Data.List.Induction
import ServiceHost.Proofs.History
import ServiceHost.Proofs.Discovery.Traffic

set_option autoImplicit false

namespace ServiceHost

def Shutter.Owes (number : Nat) : Shutter → Prop
  | .closing line closer left => closer = .entered ∧ line = number ∨ number ∈ left
  | _ => False

def Shutter.isClosing : Shutter → Bool
  | .closing _ _ _ => true
  | _ => false

theorem Line.closer_closes (closer later : Line.Closer) (line closing : Line) (stepped : closer.step? line = some (later, closing))
    (closes : closer = .entered ∨ line.channel.closed = true) : closing.channel.closed = true := by
  cases closer with
  | entered =>
      simp only [Line.Closer.step?] at stepped
      split at stepped
      next closed =>
        cases stepped
        exact closed
      next =>
        cases stepped
        rfl
  | marked =>
      cases stepped
      exact closes.resolve_left nofun
  | signalled =>
      simp only [Line.Closer.step?] at stepped
      split at stepped <;> cases stepped <;> exact closes.resolve_left nofun
  | waiting =>
      simp only [Line.Closer.step?] at stepped
      split at stepped <;> cases stepped
      exact closes.resolve_left nofun
  | returned => cases stepped

namespace Cache

def IsClosed (cache : Cache) (number : Nat) : Prop :=
  ∃ line, cache.lines[number]? = some line ∧ line.channel.closed = true

-- The caller has looked whether the cache is open and has not yet had the lock.
def IsLate (cache : Cache) (index : Nat) : Prop :=
  cache.stage? index = some .admitted ∨ cache.stage? index = some .queued

theorem next_owes (lines : List Nat) (number : Nat) (member : number ∈ lines) : (nextToClose lines).Owes number := by
  cases lines with
  | nil => cases member
  | cons line left =>
      rcases List.mem_cons.mp member with rfl | other
      · exact Or.inl ⟨rfl, rfl⟩
      · exact Or.inr other

theorem closed_stays (cache next : Cache) (move : Move) (does : Does cache next move) (number : Nat)
    (closed : cache.IsClosed number) : next.IsClosed number := by
  obtain ⟨line, found, marked⟩ := closed
  have still : cache.lines[number]? = some line → cache.IsClosed number := fun found => ⟨line, found, marked⟩
  have closes (place : Nat) (closer later : Line.Closer) (known closing : Line) (present : cache.lines[place]? = some known)
      (stepped : closer.step? known = some (later, closing)) :
      ∃ line, (cache.lines.set place closing)[number]? = some line ∧ line.channel.closed = true := by
    by_cases same : place = number
    · subst same
      cases present.symm.trans found
      exact ⟨closing, List.getElem?_set_self (List.getElem?_eq_some_iff.mp found).1,
        Line.closer_closes closer later line closing stepped (Or.inr marked)⟩
    · exact ⟨line, by rw [List.getElem?_set_ne same]; exact found, marked⟩
  cases does with
  | entered => exact still found
  | turned _ after index act errand stage turned _ =>
      rw [IsClosed, turned_lines turned]
      obtain ⟨inquiry, before⟩ := errand
      cases turned.turn with
      | connected =>
          exact ⟨line, by rw [List.getElem?_append_left (List.getElem?_eq_some_iff.mp found).1]; exact found, marked⟩
      | hangs place closer later failure known closing present stepped => exact closes place closer later known closing present stepped
      | hungUp place closer failure known closing present stepped => exact closes place closer .returned known closing present stepped
      | _ => exact still found
  | worked _ place change calms =>
      refine ⟨if place = number then change line else line, ?_, ?_⟩
      · simp only [List.getElem?_modify, found, Option.map_eq_map, Option.map_some]
      · by_cases same : place = number
        · rw [if_pos same, (calms line).closed]
          exact marked
        · rw [if_neg same]
          exact marked
  | asked => exact still found
  | marked => exact still found
  | drained => exact still found
  | closes index place closer later left known closing waiting present stepped =>
      exact closes place closer later known closing present stepped

-- Some request to close has the channel before it, or the channel is closed.
def IsOwed (cache : Cache) (number : Nat) : Prop :=
  (∃ (place : Nat) (shutter : Shutter), cache.shutters[place]? = some shutter ∧ shutter.Owes number) ∨ cache.IsClosed number

theorem owed_set (cache next : Cache) (index number : Nat) (before after : Shutter) (found : cache.shutters[index]? = some before)
    (set : next.shutters = cache.shutters.set index after) (closed : cache.IsClosed number → next.IsClosed number)
    (goes : before.Owes number → after.Owes number ∨ next.IsClosed number) (owed : cache.IsOwed number) : next.IsOwed number := by
  rcases owed with ⟨place, shutter, there, owes⟩ | shut
  · by_cases same : place = index
    · subst same
      cases there.symm.trans found
      refine (goes owes).imp_left fun still => ⟨place, after, ?_, still⟩
      rw [set, List.getElem?_set_self (List.getElem?_eq_some_iff.mp found).1]
    · refine Or.inl ⟨place, shutter, ?_, owes⟩
      rw [set, List.getElem?_set_ne (Ne.symm same)]
      exact there
  · exact Or.inr (closed shut)

theorem owed_stays (cache next : Cache) (move : Move) (does : Does cache next move) (number : Nat) (owed : cache.IsOwed number) :
    next.IsOwed number := by
  have closed := closed_stays cache next move does number
  have still (same : next.shutters = cache.shutters) : next.IsOwed number := by
    rw [IsOwed, same]
    exact owed.imp_right closed
  cases does with
  | entered => exact still rfl
  | turned _ after index act errand stage turned _ =>
      exact still (turned_keeps turned).2
  | worked => exact still rfl
  | asked =>
      rcases owed with ⟨place, shutter, there, owes⟩ | shut
      · refine Or.inl ⟨place, shutter, ?_, owes⟩
        rw [shutDown, List.getElem?_append_left (List.getElem?_eq_some_iff.mp there).1]
        exact there
      · exact Or.inr (closed shut)
  | marked index entered => exact owed_set cache _ index number _ _ entered rfl closed (fun owes => owes.elim) owed
  | drained index waiting => exact owed_set cache _ index number _ _ waiting rfl closed (fun owes => owes.elim) owed
  | closes index place closer later left known closing waiting present stepped =>
      refine owed_set cache _ index number _ _ waiting rfl closed (fun owes => ?_) owed
      rcases owes with ⟨early, rfl⟩ | listed
      · exact Or.inr ⟨closing, List.getElem?_set_self (List.getElem?_eq_some_iff.mp present).1,
          Line.closer_closes closer later known closing stepped (Or.inl early)⟩
      · by_cases returned : later = .returned
        · rw [if_pos returned]
          exact Or.inl (next_owes left number listed)
        · rw [if_neg returned]
          exact Or.inl (Or.inr listed)

-- Whatever a caller has returned with is in the cache, or it is closed or going to be.
structure Owed (cache : Cache) : Prop where
  channels : ∀ (index number : Nat), cache.stage? index = some (.returned (.ok number)) →
    (∃ key, (key, number) ∈ cache.entries) ∨ cache.IsOwed number
  flagged : ∀ shutter ∈ cache.shutters, shutter ≠ .entered → cache.closed = true

theorem owed_fresh (root : String) (dialTimeout : Nat) : Owed { root, dialTimeout } where
  channels := fun _ _ returned => by cases returned
  flagged := fun _ member => by cases member

theorem owed_move (cache next : Cache) (move : Move) (does : Does cache next move) (owed : Owed cache) : Owed next := by
  have stays := owed_stays cache next move does
  obtain ⟨channels, flagged⟩ := owed
  cases does with
  | entered inquiry =>
      refine ⟨fun index number returned => ?_, flagged⟩
      rcases entered_stage cache inquiry index _ returned with before | ⟨_, new⟩
      · exact channels index number before
      · cases new
  | turned _ after index act errand stage turned _ =>
      obtain ⟨closed, shutters⟩ := turned_keeps turned
      refine ⟨fun other number returned => ?_, fun shutter member past => ?_⟩
      · rcases turned_stage turned other _ returned with ⟨_, mine⟩ | ⟨_, before⟩
        · exact Or.inl ⟨_, turned_files turned number mine.symm⟩
        · rcases channels other number before with ⟨key, present⟩ | owed
          · exact Or.inl ⟨key, (turned_grown turned).subset present⟩
          · exact Or.inr (stays number owed)
      · exact closed.trans (flagged shutter (shutters ▸ member) past)
  | worked => exact ⟨fun index number returned => (channels index number returned).imp_right (stays number), flagged⟩
  | asked =>
      refine ⟨fun index number returned => (channels index number returned).imp_right (stays number), fun shutter member past => ?_⟩
      rcases List.mem_append.mp member with before | new
      · exact flagged shutter before past
      · exact absurd (List.mem_singleton.mp new) past
  | marked => exact ⟨fun index number returned => (channels index number returned).imp_right (stays number), fun _ _ _ => rfl⟩
  | drained index waiting =>
      refine ⟨fun other number returned => Or.inr ?_, fun _ _ _ => flagged .shut (List.mem_of_getElem? waiting) nofun⟩
      rcases channels other number returned with ⟨key, present⟩ | owed
      · refine Or.inl ⟨index, _, List.getElem?_set_self (List.getElem?_eq_some_iff.mp waiting).1, ?_⟩
        exact next_owes _ number (List.mem_map.mpr ⟨(key, number), present, rfl⟩)
      · exact stays number owed
  | closes index _ _ _ _ _ _ waiting =>
      exact ⟨fun other number returned => (channels other number returned).imp_right (stays number),
        fun _ _ _ => flagged _ (List.mem_of_getElem? waiting) nofun⟩

-- What has become of a cache that was emptied when it was as `drained`: only the late callers have got any further, only
-- they have made entries, and the channels that had been handed out by then are closed or going to be.
structure Emptied (drained cache : Cache) : Prop where
  closed : cache.closed = true
  halted : ∀ index stage, cache.stage? index = some stage → ¬drained.IsLate index →
    stage = .entered ∨ stage = .returned (.error (.dial .closed)) ∨ stage.isOver = true ∧ drained.stage? index = some stage
  entries : ∀ entry ∈ cache.entries, ∃ (index : Nat) (errand : Errand), drained.IsLate index ∧
    cache.errands[index]? = some errand ∧ errand.inquiry.key = entry.1 ∧ errand.stage = .returned (.ok entry.2)
  owed : ∀ index number, drained.stage? index = some (.returned (.ok number)) → cache.IsOwed number

theorem emptied_drained (cache next : Cache) (index : Nat) (drains : cache.shutStep index = some next)
    (waiting : cache.shutters[index]? = some .shut) (free : cache.isFree = true) (owed : Owed cache) : Emptied cache next := by
  have after := owed_move cache next _ (shut_does cache next index drains) owed
  simp only [shutStep, waiting, free, if_true, Option.some.injEq] at drains
  subst drains
  refine ⟨owed.flagged .shut (List.mem_of_getElem? waiting) nofun, fun other stage stands early => ?_,
    fun entry member => (by cases member), fun other number returned => ?_⟩
  · obtain ⟨errand, found, rfl⟩ := Option.map_eq_some_iff.mp stands
    have aside := (is_free_iff cache).mp free errand (List.mem_of_getElem? found)
    unfold Errand.holdsLock at aside
    cases stage : errand.stage with
    | entered => exact Or.inl rfl
    | admitted => exact absurd (Or.inl (stage ▸ stands)) early
    | queued => exact absurd (Or.inr (stage ▸ stands)) early
    | returned result => exact Or.inr (Or.inr ⟨rfl, stage ▸ stands⟩)
    | dropped => exact Or.inr (Or.inr ⟨rfl, stage ▸ stands⟩)
    | locked => simp [stage] at aside
    | dialing line => simp [stage] at aside
    | hangingUp line closer failure => simp [stage] at aside
  · rcases after.channels other number returned with ⟨key, present⟩ | owed
    · cases present
    · exact owed

theorem emptied_newcomer (drained cache next after : Cache) (index : Nat) (errand : Errand) (stage : Errand.Stage)
    (turned : Turned cache next index errand stage after) (emptied : Emptied drained cache) (early : ¬drained.IsLate index) :
    stage = .returned (.error (.dial .closed)) := by
  have stands : cache.stage? index = some errand.stage := by
    rw [stage?, turned.found]
    rfl
  have turn := turned.turn
  rcases emptied.halted index errand.stage stands early with entered | away | ⟨ended, _⟩
  · rw [entered] at turn
    cases turn with
    | turnedAway => rfl
    | admitted unclosed => rw [emptied.closed] at unclosed; cases unclosed
    | dropped _ pending => cases pending
  · have going := turn_over cache after _ _ stage turn
    rw [away] at going
    cases going
  · cases (turn_over cache after _ _ stage turn).symm.trans ended

theorem emptied_turned (drained cache next after : Cache) (index : Nat) (act : Act) (errand : Errand) (stage : Errand.Stage)
    (turned : Turned cache next index errand stage after) (does : Does cache next (.act index act))
    (emptied : Emptied drained cache) : Emptied drained next := by
  have kept (entry : String × Nat) (member : entry ∈ cache.entries) :
      ∃ (place : Nat) (rival : Errand), drained.IsLate place ∧ next.errands[place]? = some rival ∧
        rival.inquiry.key = entry.1 ∧ rival.stage = .returned (.ok entry.2) := by
    obtain ⟨place, rival, late, found, key, returned⟩ := emptied.entries entry member
    exact ⟨place, rival, late, turned_over turned place rival found (by rw [returned]; rfl), key, returned⟩
  refine ⟨?_, fun other found stood early => ?_, fun entry member => ?_, fun other number returned => ?_⟩
  · exact (turned_keeps turned).1.trans emptied.closed
  · rcases turned_stage turned other found stood with ⟨rfl, rfl⟩ | ⟨_, before⟩
    · exact Or.inr (Or.inl (emptied_newcomer drained cache next after other errand found turned emptied early))
    · exact emptied.halted other found before early
  · rcases turned_entries turned with ⟨_, same, _⟩ | ⟨line, _, returned, added, _⟩
    · rw [same] at member
      exact kept entry member
    · rw [added] at member
      rcases List.mem_append.mp member with before | new
      · exact kept entry before
      · rw [List.mem_singleton.mp new]
        refine ⟨index, _, ?_, turned_own turned, rfl, returned⟩
        by_contra early
        cases returned.symm.trans (emptied_newcomer drained cache next after index errand stage turned emptied early)
  · exact owed_stays cache next _ does number (emptied.owed other number returned)

theorem emptied_move (drained cache next : Cache) (move : Move) (does : Does cache next move) (emptied : Emptied drained cache) :
    Emptied drained next := by
  have owed (index number : Nat) (returned : drained.stage? index = some (.returned (.ok number))) : next.IsOwed number :=
    owed_stays cache next move does number (emptied.owed index number returned)
  obtain ⟨closed, halted, entries, before⟩ := emptied
  cases does with
  | entered inquiry =>
      refine ⟨closed, fun index stage stands early => ?_, fun entry member => ?_, owed⟩
      · rcases entered_stage cache inquiry index stage stands with before | ⟨_, new⟩
        · exact halted index stage before early
        · exact Or.inl new
      · obtain ⟨index, errand, late, found, made⟩ := entries entry member
        refine ⟨index, errand, late, ?_, made⟩
        rw [enter, List.getElem?_append_left (List.getElem?_eq_some_iff.mp found).1]
        exact found
  | turned _ after index act errand stage turned drops =>
      exact emptied_turned drained cache next after index act errand stage turned
        (.turned next after index act errand stage turned drops) ⟨closed, halted, entries, before⟩
  | worked => exact ⟨closed, halted, entries, owed⟩
  | asked => exact ⟨closed, halted, entries, owed⟩
  | marked => exact ⟨rfl, halted, entries, owed⟩
  | drained => exact ⟨closed, halted, fun _ member => (by cases member), owed⟩
  | closes => exact ⟨closed, halted, entries, owed⟩

theorem shutter_does (cache next : Cache) (move : Move) (does : Does cache next move) (index : Nat) (shutter : Shutter)
    (found : next.shutters[index]? = some shutter) (past : shutter ≠ .entered ∧ shutter ≠ .shut) :
    (∃ before, cache.shutters[index]? = some before ∧ before ≠ .entered ∧ before ≠ .shut) ∨
      move = .shutStep index ∧ cache.shutters[index]? = some .shut ∧ cache.isFree = true := by
  have still (same : next.shutters = cache.shutters) :
      ∃ before, cache.shutters[index]? = some before ∧ before ≠ .entered ∧ before ≠ .shut :=
    ⟨shutter, same ▸ found, past⟩
  have apart (place : Nat) (after : Shutter) (differs : place ≠ index) (set : next.shutters = cache.shutters.set place after) :
      ∃ before, cache.shutters[index]? = some before ∧ before ≠ .entered ∧ before ≠ .shut := by
    rw [set, List.getElem?_set_ne differs] at found
    exact ⟨shutter, found, past⟩
  cases does with
  | entered => exact Or.inl (still rfl)
  | turned _ after place act errand stage turned _ =>
      exact Or.inl (still (turned_keeps turned).2)
  | worked => exact Or.inl (still rfl)
  | asked =>
      rw [shutDown, List.getElem?_append] at found
      split at found
      next => exact Or.inl ⟨shutter, found, past⟩
      next => exact absurd (List.mem_singleton.mp (List.mem_of_getElem? found)) past.1
  | marked place entered =>
      by_cases same : place = index
      · subst same
        rw [List.getElem?_set_self (List.getElem?_eq_some_iff.mp entered).1] at found
        exact absurd (Option.some.inj found).symm past.2
      · exact Or.inl (apart place _ same rfl)
  | drained place waiting free =>
      by_cases same : place = index
      · subst same
        exact Or.inr ⟨rfl, waiting, free⟩
      · exact Or.inl (apart place _ same rfl)
  | closes place line closer later left known closing waiting =>
      by_cases same : place = index
      · subst same
        exact Or.inl ⟨_, waiting, nofun, nofun⟩
      · exact Or.inl (apart place _ same rfl)

def Drained (start : Cache) (index : Nat) : List Move → Prop :=
  Happened (.shutStep index) fun earlier =>
    (start.run earlier).shutters[index]? = some .shut ∧ (start.run earlier).isFree = true

theorem past_drained (root : String) (dialTimeout : Nat) (moves : List Move) (index : Nat) (shutter : Shutter)
    (found : (({ root, dialTimeout } : Cache).run moves).shutters[index]? = some shutter)
    (past : shutter ≠ .entered ∧ shutter ≠ .shut) : Drained { root, dialTimeout } index moves := by
  induction moves using List.reverseRecOn generalizing shutter with
  | nil => cases found
  | append_singleton before move ih =>
      rw [Drained, happened_snoc]
      rw [run_append] at found
      change ((({ root, dialTimeout } : Cache).run before).step move).shutters[index]? = some shutter at found
      unfold step at found
      cases moved : (({ root, dialTimeout } : Cache).run before).move? move with
      | none =>
          rw [moved] at found
          exact Or.inl (ih shutter found past)
      | some next =>
          rw [moved] at found
          rcases shutter_does _ next move (move_does _ next move moved) index shutter found past with
            ⟨earlier, there, beyond⟩ | ⟨drains, waiting, free⟩
          · exact Or.inl (ih earlier there beyond)
          · exact Or.inr ⟨drains, waiting, free⟩

theorem late_queued (cache : Cache) (index : Nat) (late : cache.IsLate index) (free : cache.isFree = true)
    (empty : cache.entries = []) : ∃ inquiry, index < cache.errands.length ∧
      cache.step (.act index .lookUp) = cache.withErrand index inquiry .queued := by
  have missing (inquiry : Inquiry) : cache.find? inquiry.key = none := by
    rw [find?, empty]
    rfl
  rcases late with admitted | queued
  · obtain ⟨⟨inquiry, _⟩, found, rfl⟩ := Option.map_eq_some_iff.mp admitted
    have inside := (List.getElem?_eq_some_iff.mp found).1
    refine ⟨inquiry, inside, ?_⟩
    rw [← admitted_queued cache index inquiry inside free (missing inquiry), errand_set cache index inquiry .admitted found]
  · obtain ⟨⟨inquiry, _⟩, found, rfl⟩ := Option.map_eq_some_iff.mp queued
    refine ⟨inquiry, (List.getElem?_eq_some_iff.mp found).1, ?_⟩
    rw [errand_set cache index inquiry .queued found]
    simp only [step, move?, act?, lookUp, found, Option.getD_none]

def reopening (index : Nat) (targets : Table Endpoint) (watch : Store.Watch) : List Move :=
  [.act index .lookUp, .act index .lock, .act index .lookAgain, .act index (.connect targets watch), .act index .keep]

theorem late_reopens (cache : Cache) (index : Nat) (targets : Table Endpoint) (watch : Store.Watch) (late : cache.IsLate index)
    (free : cache.isFree = true) (empty : cache.entries = []) :
    let after := cache.run (reopening index targets watch)
    after.stage? index = some (.returned (.ok cache.lines.length)) ∧ after.entries.map (·.2) = [cache.lines.length] ∧
      ¬after.IsClosed cache.lines.length := by
  obtain ⟨inquiry, inside, looks⟩ := late_queued cache index late free empty
  have missing : cache.find? inquiry.key = none := by
    rw [find?, empty]
    rfl
  intro after
  let dialing : Cache := { cache with dials := cache.dials + 1 }
  let connected : Cache := { dialing with lines := cache.lines ++ [opening cache.root inquiry targets watch] }
  let kept : Cache :=
    { connected with
      entries := cache.entries ++ [(inquiry.key, cache.lines.length)]
      connected := cache.connected + 1 }
  have reached : after = kept.withErrand index inquiry (.returned (.ok cache.lines.length)) := by
    calc after
        = (((cache.step (.act index .lookUp)).run [.act index .lock, .act index .lookAgain]).step
            (.act index (.connect targets watch))).step (.act index .keep) := rfl
      _ = ((dialing.withErrand index inquiry (.dialing none)).step (.act index (.connect targets watch))).step
            (.act index .keep) := by rw [looks, queued_dialing cache index inquiry inside free missing]
      _ = (connected.withErrand index inquiry (.dialing (some cache.lines.length))).step (.act index .keep) :=
          congrArg (step · (.act index .keep)) (dialing_connected dialing index inquiry inside targets watch)
      _ = _ := connected_kept connected index inquiry inside cache.lines.length
  rw [reached]
  refine ⟨congrArg (Option.map Errand.stage) (errand_found _ index inquiry inside _), ?_, ?_⟩
  · change (cache.entries ++ [(inquiry.key, cache.lines.length)]).map (·.2) = [cache.lines.length]
    rw [empty]
    rfl
  · rintro ⟨line, found, closed⟩
    have opened : line = opening cache.root inquiry targets watch :=
      (Option.some.inj (List.getElem?_concat_length.symm.trans found)).symm
    rw [opened, opening_unclosed] at closed
    cases closed

-- What a cache comes to that was emptied when it was as `drained`. Were it not for the late callers, it would stay empty
-- and every channel that was ever handed out would be closed.
structure OnlyLate (drained cache : Cache) : Prop where
  results : ∀ index line, cache.stage? index = some (.returned (.ok line)) →
    drained.stage? index = some (.returned (.ok line)) ∨ drained.IsLate index
  entries : ∀ entry ∈ cache.entries, ∃ (index : Nat) (errand : Errand), drained.IsLate index ∧
    cache.errands[index]? = some errand ∧ errand.inquiry.key = entry.1 ∧ errand.stage = .returned (.ok entry.2)
  closed : (∀ shutter ∈ cache.shutters, shutter.isClosing = false) →
    ∀ index line, drained.stage? index = some (.returned (.ok line)) → cache.IsClosed line
  empty : (∀ index, ¬drained.IsLate index) → cache.entries = [] ∧
    ((∀ shutter ∈ cache.shutters, shutter.isClosing = false) →
      ∀ index line, cache.stage? index = some (.returned (.ok line)) → cache.IsClosed line)

theorem emptied_only_late (drained cache : Cache) (emptied : Emptied drained cache) : OnlyLate drained cache := by
  have results (index line : Nat) (returned : cache.stage? index = some (.returned (.ok line))) :
      drained.stage? index = some (.returned (.ok line)) ∨ drained.IsLate index := by
    by_cases late : drained.IsLate index
    · exact Or.inr late
    · rcases emptied.halted index _ returned late with entered | away | ⟨_, before⟩
      · cases entered
      · cases away
      · exact Or.inl before
  have closed (idle : ∀ shutter ∈ cache.shutters, shutter.isClosing = false) (index line : Nat)
      (returned : drained.stage? index = some (.returned (.ok line))) : cache.IsClosed line := by
    refine (emptied.owed index line returned).resolve_left ?_
    rintro ⟨place, shutter, there, owes⟩
    have none := idle shutter (List.mem_of_getElem? there)
    cases shutter with
    | closing number closer left => cases none
    | _ => exact owes
  refine ⟨results, emptied.entries, closed, fun punctual => ⟨?_, fun idle index line returned => ?_⟩⟩
  · refine List.eq_nil_iff_forall_not_mem.mpr fun entry member => ?_
    obtain ⟨index, _, late, _⟩ := emptied.entries entry member
    exact punctual index late
  · exact closed idle index line ((results index line returned).resolve_right (punctual index))

theorem owed_run (root : String) (dialTimeout : Nat) (moves : List Move) : Owed (({ root, dialTimeout } : Cache).run moves) :=
  run_keeps Owed moves (fun move _ cache next does => owed_move cache next move does) _ (owed_fresh root dialTimeout)

theorem drain_does (cache : Cache) (index : Nat) (waiting : cache.shutters[index]? = some .shut) (free : cache.isFree = true) :
    cache.shutStep index = some (cache.step (.shutStep index)) ∧ (cache.step (.shutStep index)).entries = [] ∧
      (cache.step (.shutStep index)).errands = cache.errands := by
  simp [step, move?, shutStep, waiting, free]

theorem emptied_run (root : String) (dialTimeout : Nat) (before rest : List Move) (index : Nat)
    (waiting : (({ root, dialTimeout } : Cache).run before).shutters[index]? = some .shut)
    (free : (({ root, dialTimeout } : Cache).run before).isFree = true) :
    Emptied (({ root, dialTimeout } : Cache).run before) (({ root, dialTimeout } : Cache).run (before ++ .shutStep index :: rest)) := by
  have drains := (drain_does (({ root, dialTimeout } : Cache).run before) index waiting free).1
  have emptied := emptied_drained _ _ index drains waiting free (owed_run root dialTimeout before)
  rw [run_append, run_cons]
  exact run_keeps _ rest (fun move _ cache next does => emptied_move _ cache next move does) _ emptied

-- A request to close that has returned has emptied the cache at some time. Whatever is handed out or entered afterwards
-- goes back to a caller that was late then, and every late caller can have a channel entered that nobody closes.
theorem closed_cache_admits_only_late_callers (root : String) (dialTimeout : Nat) (moves : List Move) (index : Nat)
    (returned : (({ root, dialTimeout } : Cache).run moves).shutters[index]? = some .returned) :
    let fresh : Cache := { root, dialTimeout }
    ∃ before later : List Move, moves = before ++ .shutStep index :: later ∧ (fresh.run before).shutters[index]? = some .shut ∧
      (fresh.run before).isFree = true ∧
      (∀ more, OnlyLate (fresh.run before) (fresh.run (moves ++ more))) ∧
      ∀ late, (fresh.run before).IsLate late → ∀ targets watch,
        let after := fresh.run (before ++ .shutStep index :: reopening late targets watch)
        ∃ line, after.stage? late = some (.returned (.ok line)) ∧ after.entries.map (·.2) = [line] ∧ ¬after.IsClosed line := by
  intro fresh
  obtain ⟨before, later, split, waiting, free⟩ := past_drained root dialTimeout moves index .returned returned ⟨nofun, nofun⟩
  obtain ⟨_, empty, errands⟩ := drain_does (fresh.run before) index waiting free
  refine ⟨before, later, split, waiting, free, fun more => ?_, fun late stood targets watch => ?_⟩
  · have reached : moves ++ more = before ++ .shutStep index :: (later ++ more) := by
      rw [split, List.append_assoc, List.cons_append]
    rw [reached]
    exact emptied_only_late _ _ (emptied_run root dialTimeout before (later ++ more) index waiting free)
  · have still : ((fresh.run before).step (.shutStep index)).IsLate late := by
      rw [IsLate, stage?, errands]
      exact stood
    have vacant : ((fresh.run before).step (.shutStep index)).isFree = true := by
      rw [isFree, errands]
      exact free
    have reopens := late_reopens ((fresh.run before).step (.shutStep index)) late targets watch still vacant empty
    rw [run_append, run_cons]
    exact ⟨((fresh.run before).step (.shutStep index)).lines.length, reopens⟩

def ledger : Inquiry := { service := "billing", rpc := "ledger", endpoint := some "10.0.0.7:7000" }

def served : List Move :=
  [.enter ledger, .act 0 .checkOpen, .act 0 .lookUp, .act 0 .lock, .act 0 .lookAgain, .act 0 (.connect ∅ ⟨"", 0, false⟩),
    .act 0 .keep]

def looking : List Move := [.enter ledger, .act 1 .checkOpen]

def closing : List Move := [.shutDown, .shutStep 0, .shutStep 0, .shutStep 0, .shutStep 0, .shutStep 0]

theorem closed_cache_admits_only_late_callers_after_service :
    let fresh : Cache := { root := "/svc", dialTimeout := 2000 }
    let moves := served ++ looking ++ closing
    (fresh.run moves).shutters[0]? = some .returned ∧ (fresh.run moves).entries = [] ∧
      ∃ before later : List Move, moves = before ++ .shutStep 0 :: later ∧ ∀ more, OnlyLate (fresh.run before) (fresh.run (moves ++ more)) := by
  intro fresh moves
  have returned : (fresh.run moves).shutters[0]? = some .returned := by decide +kernel
  have empty : (fresh.run moves).entries = [] := by decide +kernel
  obtain ⟨before, later, split, _, _, only, _⟩ := closed_cache_admits_only_late_callers "/svc" 2000 moves 0 returned
  exact ⟨returned, empty, before, later, split, only⟩

-- The caller has looked before the cache was marked as closed, and dials when it has been emptied.
def overtaking : List Move := [.enter ledger, .act 0 .checkOpen, .shutDown, .shutStep 0, .shutStep 0]

theorem closed_cache_takes_channel :
    ¬∀ (moves more : List Move) (index : Nat),
      (({ root := "/svc", dialTimeout := 2000 } : Cache).run moves).shutters[index]? = some .returned →
      let cache := ({ root := "/svc", dialTimeout := 2000 } : Cache).run (moves ++ more)
      cache.entries = [] ∧ ∀ place line, cache.stage? place = some (.returned (.ok line)) →
        (({ root := "/svc", dialTimeout := 2000 } : Cache).run moves).stage? place = some (.returned (.ok line)) ∧
          cache.IsClosed line := by
  intro empties
  have returned : (({ root := "/svc", dialTimeout := 2000 } : Cache).run overtaking).shutters[0]? = some .returned := by
    decide +kernel
  have taken : (({ root := "/svc", dialTimeout := 2000 } : Cache).run
      (overtaking ++ reopening 0 ∅ ⟨"", 0, false⟩)).entries ≠ [] := by decide +kernel
  exact taken (empties overtaking (reopening 0 ∅ ⟨"", 0, false⟩) 0 returned).1

end Cache

end ServiceHost
