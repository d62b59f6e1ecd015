import ServiceHost.Proofs.Discovery.Closing
import ServiceHost.Proofs.Discovery.Outcome
import ServiceHost.Proofs.Shares

set_option autoImplicit false

namespace ServiceHost

def Line.Closer.hasSignalled : Line.Closer → Bool
  | .entered => false
  | .marked => false
  | .signalled => true
  | .waiting => true
  | .returned => true

structure Line.Closer.Minds (closer : Line.Closer) (line : Line) : Prop where
  fits : closer.Fits line
  told : line.signalled = closer.hasSignalled

theorem Line.closer_minds (closer later : Line.Closer) (line closing : Line)
    (stepped : closer.step? line = some (later, closing)) (minds : closer.Minds line) : later.Minds closing := by
  refine ⟨(Line.closer_fits closer later line closing stepped minds.fits).1, ?_⟩
  have told := minds.told
  cases closer with
  | entered =>
      simp only [Line.Closer.step?, minds.fits.1, Bool.false_eq_true, if_false] at stepped
      cases stepped
      exact told
  | marked =>
      cases stepped
      rfl
  | signalled =>
      simp only [Line.Closer.step?] at stepped
      split at stepped <;> cases stepped <;> exact told
  | waiting =>
      simp only [Line.Closer.step?] at stepped
      split at stepped <;> cases stepped
      exact told
  | returned => cases stepped

theorem Line.closer_signals (closer later : Line.Closer) (line closing : Line) (stepped : closer.step? line = some (later, closing))
    (signalled : line.signalled = true) : closing.signalled = true := by
  cases closer with
  | entered =>
      simp only [Line.Closer.step?] at stepped
      split at stepped <;> cases stepped <;> exact signalled
  | marked =>
      cases stepped
      rfl
  | signalled =>
      simp only [Line.Closer.step?] at stepped
      split at stepped <;> cases stepped <;> exact signalled
  | waiting =>
      simp only [Line.Closer.step?] at stepped
      split at stepped <;> cases stepped
      exact signalled
  | returned => cases stepped

theorem Line.calms_minds (closer : Line.Closer) (line after : Line) (calms : line.Calms after) (minds : closer.Minds line) :
    closer.Minds after :=
  ⟨Line.calms_fits closer line after calms minds.fits, calms.signalled.trans minds.told⟩

-- The channels that a caller has in hand, with how far it has closed them.
def Errand.charges (errand : Errand) : List (Nat × Line.Closer) :=
  match errand.stage with
  | .dialing (some line) => [(line, .entered)]
  | .hangingUp line closer _ => [(line, closer)]
  | _ => []

def Shutter.lines : Shutter → List Nat
  | .closing line _ left => line :: left
  | _ => []

def Shutter.charges : Shutter → List (Nat × Line.Closer)
  | .closing line closer left => (line, closer) :: left.map (·, .entered)
  | _ => []

theorem Errand.mem_charges (errand : Errand) (number : Nat) :
    number ∈ errand.charges.map (·.1) ↔ errand.line? = some number := by
  unfold charges line?
  split
  next line stage => simp [stage, eq_comm]
  next line closer failure stage => simp [stage, eq_comm]
  next dialing hanging =>
    split
    next line stage => cases line with
      | none => simp
      | some line => exact absurd stage (dialing line)
    next line closer failure stage => exact absurd stage (hanging line closer failure)
    next => simp

theorem Shutter.charges_lines (shutter : Shutter) : shutter.charges.map (·.1) = shutter.lines := by
  cases shutter <;> simp [charges, lines, Function.comp_def]

namespace Cache

def filed (entries : List (String × Nat)) : List (Nat × Line.Closer) := entries.map fun entry => (entry.2, .entered)

def charges (cache : Cache) : List (Nat × Line.Closer) :=
  cache.errands.flatMap Errand.charges ++ filed cache.entries ++ cache.shutters.flatMap Shutter.charges

def Holds (cache : Cache) (index number : Nat) : Prop :=
  ∃ errand, cache.errands[index]? = some errand ∧ errand.line? = some number

-- The channel is being dialed, or it is in the cache, or a request to close has it in hand.
def IsTended (cache : Cache) (number : Nat) : Prop :=
  (∃ index, cache.Holds index number) ∨ (∃ key, (key, number) ∈ cache.entries) ∨
    ∃ shutter ∈ cache.shutters, number ∈ shutter.lines

theorem tended_iff (cache : Cache) (number : Nat) : number ∈ cache.charges.map (·.1) ↔ cache.IsTended number := by
  have dialed : number ∈ (cache.errands.flatMap Errand.charges).map (·.1) ↔ ∃ index, cache.Holds index number := by
    rw [List.map_flatMap, List.mem_flatMap]
    constructor
    · rintro ⟨errand, member, holds⟩
      obtain ⟨index, found⟩ := List.getElem?_of_mem member
      exact ⟨index, errand, found, (errand.mem_charges number).mp holds⟩
    · rintro ⟨index, errand, found, holds⟩
      exact ⟨errand, List.mem_of_getElem? found, (errand.mem_charges number).mpr holds⟩
  have entered : number ∈ (filed cache.entries).map (·.1) ↔ ∃ key, (key, number) ∈ cache.entries := by
    simp [filed, Function.comp_def]
  have closed : number ∈ (cache.shutters.flatMap Shutter.charges).map (·.1) ↔
      ∃ shutter ∈ cache.shutters, number ∈ shutter.lines := by
    rw [List.map_flatMap, List.mem_flatMap]
    simp only [Shutter.charges_lines]
  rw [charges, List.map_append, List.map_append, List.mem_append, List.mem_append, dialed, entered, closed, or_assoc]
  rfl

theorem next_charges (lines : List Nat) : (nextToClose lines).charges = lines.map (·, .entered) := by
  cases lines <;> rfl

-- What becomes of the channels and of who has them in hand: they change hands, one is opened, one is closed a step further,
-- a caller that is dropped lets go of one, or a follower works on one.
inductive Passes (cache : Cache) (move : Move) : List Line → List (Nat × Line.Closer) → Prop where
  | hands (after : List (Nat × Line.Closer)) : cache.charges.Perm after → Passes cache move cache.lines after
  | opens (line : Line) (after : List (Nat × Line.Closer)) : Line.Closer.Minds .entered line →
      after.Perm ((cache.lines.length, .entered) :: cache.charges) → Passes cache move (cache.lines ++ [line]) after
  | closes (number : Nat) (closer later : Line.Closer) (line closing : Line) (others after : List (Nat × Line.Closer)) :
      cache.charges.Perm ((number, closer) :: others) → cache.lines[number]? = some line →
      closer.step? line = some (later, closing) → after.Perm ((if later = .returned then [] else [(number, later)]) ++ others) →
      Passes cache move (cache.lines.set number closing) after
  | letsGo (index number : Nat) (closer : Line.Closer) (others after : List (Nat × Line.Closer)) : move = .act index .drop →
      cache.Holds index number → cache.charges.Perm ((number, closer) :: others) → after.Perm others →
      Passes cache move cache.lines after
  | works (number : Nat) (change : Line → Line) : (∀ line : Line, line.Calms (change line)) →
      (∀ line, cache.lines[number]? = some line → line.isFollowed = true → line.signalled = false →
        move ≠ .work number .quit → (change line).isFollowed = true) →
      Passes cache move (cache.lines.modify number change) cache.charges

theorem opening_minds (root : String) (inquiry : Inquiry) (targets : Table Endpoint) (watch : Store.Watch) :
    Line.Closer.Minds .entered (opening root inquiry targets watch) := by
  refine ⟨opening_fits root inquiry targets watch, ?_⟩
  unfold opening
  split <;> rfl

theorem turned_charges (cache next after : Cache) (index : Nat) (errand : Errand) (stage : Errand.Stage)
    (turned : Turned cache next index errand stage after) :
    ∃ others, cache.charges.Perm (errand.charges ++ (others ++ (filed cache.entries ++ cache.shutters.flatMap Shutter.charges))) ∧
      next.charges.Perm (Errand.charges { errand with stage } ++
        (others ++ (filed after.entries ++ after.shutters.flatMap Shutter.charges))) := by
  obtain ⟨others, before, set⟩ := flat_map_set cache.errands index errand { errand with stage } turned.found Errand.charges
  refine ⟨others, ?_, ?_⟩
  · rw [charges, List.append_assoc, ← List.append_assoc errand.charges]
    exact before.append_right _
  · rw [charges, turned.next, List.append_assoc, ← List.append_assoc (Errand.charges _)]
    exact set.append_right _

theorem turned_passes (cache next after : Cache) (index : Nat) (act : Act) (errand : Errand) (stage : Errand.Stage)
    (turned : Turned cache next index errand stage after) (undropped : stage = .dropped → act = .drop) :
    Passes cache (.act index act) next.lines next.charges := by
  obtain ⟨others, mine, theirs⟩ := turned_charges cache next after index errand stage turned
  have found := turned.found
  rw [turned_lines turned]
  obtain ⟨inquiry, stood⟩ := errand
  cases turned.turn with
  | connected targets watch =>
      exact .opens _ _ (opening_minds cache.root inquiry targets watch) (theirs.trans (mine.symm.cons _))
  | kept line =>
      refine .hands _ (mine.trans (.trans ?_ theirs.symm))
      simp only [Errand.charges, filed, List.map_append, List.map_cons, List.map_nil, List.append_assoc, List.singleton_append,
        List.nil_append]
      rw [← List.append_assoc, ← List.append_assoc]
      exact List.perm_middle.symm
  | gaveUp line failure => exact .hands _ (mine.trans theirs.symm)
  | hangs line closer later failure known closing present stepped going =>
      refine .closes line closer later known closing _ _ mine present stepped ?_
      rw [if_neg going]
      exact theirs
  | hungUp line closer failure known closing present stepped =>
      exact .closes line closer .returned known closing _ _ mine present stepped theirs
  | dropped _ pending =>
      have drops := undropped rfl
      cases stood with
      | dialing line =>
          cases line with
          | none => exact .hands _ (mine.trans theirs.symm)
          | some line => exact .letsGo index line .entered _ _ (drops ▸ rfl) ⟨_, found, rfl⟩ mine theirs
      | hangingUp line closer failure => exact .letsGo index line closer _ _ (drops ▸ rfl) ⟨_, found, rfl⟩ mine theirs
      | _ => exact .hands _ (mine.trans theirs.symm)
  | _ => exact .hands _ (mine.trans theirs.symm)

theorem does_passes (cache next : Cache) (move : Move) (does : Does cache next move) :
    Passes cache move next.lines next.charges := by
  have shuts (index : Nat) (before after : Shutter) (there : cache.shutters[index]? = some before) :
      ∃ others, cache.charges.Perm (before.charges ++ (cache.errands.flatMap Errand.charges ++ filed cache.entries ++ others)) ∧
        ∀ entries, (cache.errands.flatMap Errand.charges ++ filed entries ++
          (cache.shutters.set index after).flatMap Shutter.charges).Perm
            (after.charges ++ (cache.errands.flatMap Errand.charges ++ filed entries ++ others)) := by
    obtain ⟨others, old, new⟩ := flat_map_set cache.shutters index before after there Shutter.charges
    exact ⟨others, (old.append_left _).trans (List.perm_append_comm_assoc ..),
      fun entries => (new.append_left _).trans (List.perm_append_comm_assoc ..)⟩
  cases does with
  | entered inquiry =>
      refine .hands _ (.of_eq ?_)
      simp [charges, enter, Errand.charges]
  | turned _ after index act errand stage turned undropped =>
      exact turned_passes cache next after index act errand stage turned undropped
  | worked _ number change calms goesOn => exact .works number change calms goesOn
  | asked =>
      refine .hands _ (.of_eq ?_)
      simp [charges, shutDown, Shutter.charges]
  | marked index entered =>
      obtain ⟨others, before, after⟩ := shuts index .entered .shut entered
      exact .hands _ (before.trans (after cache.entries).symm)
  | drained index waiting =>
      obtain ⟨others, before, after⟩ := shuts index .shut (nextToClose (cache.entries.map (·.2))) waiting
      refine .hands _ (before.trans (.trans ?_ (after []).symm))
      have moved : (nextToClose (cache.entries.map (·.2))).charges = filed cache.entries := by
        rw [next_charges, List.map_map]
        rfl
      have idle : Shutter.shut.charges = [] := rfl
      have empty : filed [] = [] := rfl
      rw [moved, idle, empty, List.nil_append, List.append_nil, List.append_assoc]
      exact List.perm_append_comm_assoc ..
  | closes index line closer later left found closing there present stepped =>
      obtain ⟨others, before, after⟩ := shuts index (.closing line closer left)
        (if later = .returned then nextToClose left else .closing line later left) there
      refine .closes line closer later found closing _ _ before present stepped ((after cache.entries).trans (.of_eq ?_))
      split
      next =>
        rw [next_charges]
        rfl
      next => rfl

-- Nobody shares a channel, each is as whoever has it in hand left it, and a follower of which nobody has the channel in hand
-- does not run, unless somebody has let go of it.
structure Kept (lines : List Line) (charges : List (Nat × Line.Closer)) (left : Nat → Prop) : Prop where
  once : (charges.map (·.1)).Nodup
  minds : ∀ charge ∈ charges, ∃ line, lines[charge.1]? = some line ∧ charge.2.Minds line
  rest : ∀ number line, lines[number]? = some line → line.isFollowed = true → number ∈ charges.map (·.1) ∨ left number

theorem kept_perm (lines : List Line) (charges after : List (Nat × Line.Closer)) (left : Nat → Prop)
    (perm : charges.Perm after) (kept : Kept lines charges left) : Kept lines after left where
  once := (perm.map _).nodup_iff.mp kept.once
  minds := fun charge member => kept.minds charge (perm.mem_iff.mpr member)
  rest := fun number line found followed => (kept.rest number line found followed).imp_left (perm.map _).mem_iff.mp

theorem kept_more (lines : List Line) (charges : List (Nat × Line.Closer)) (left more : Nat → Prop)
    (includes : ∀ number, left number → more number) (kept : Kept lines charges left) : Kept lines charges more :=
  { kept with rest := fun number line found followed => (kept.rest number line found followed).imp_right (includes number) }

theorem kept_opens (lines : List Line) (charges : List (Nat × Line.Closer)) (left : Nat → Prop) (line : Line)
    (minds : Line.Closer.Minds .entered line) (kept : Kept lines charges left) :
    Kept (lines ++ [line]) ((lines.length, .entered) :: charges) left := by
  have inside (charge : Nat × Line.Closer) (member : charge ∈ charges) : charge.1 < lines.length := by
    obtain ⟨_, found, _⟩ := kept.minds charge member
    exact (List.getElem?_eq_some_iff.mp found).1
  refine ⟨List.nodup_cons.mpr ⟨fun member => ?_, kept.once⟩, fun charge member => ?_, fun number other found followed => ?_⟩
  · obtain ⟨charge, present, same⟩ := List.mem_map.mp member
    exact absurd (inside charge present) (same ▸ Nat.lt_irrefl _)
  · rcases List.mem_cons.mp member with rfl | before
    · exact ⟨line, List.getElem?_concat_length, minds⟩
    · obtain ⟨other, found, fits⟩ := kept.minds charge before
      exact ⟨other, by rw [List.getElem?_append_left (inside charge before)]; exact found, fits⟩
  · rw [List.getElem?_append] at found
    split at found
    next => exact (kept.rest number other found followed).imp_left (List.mem_cons_of_mem _)
    next beyond =>
      have place := (List.getElem?_eq_some_iff.mp found).1
      rw [List.length_singleton] at place
      have last : number = lines.length := by omega
      exact Or.inl (last ▸ List.mem_cons_self)

theorem kept_closes (lines : List Line) (others : List (Nat × Line.Closer)) (left : Nat → Prop) (number : Nat)
    (closer later : Line.Closer) (line closing : Line) (found : lines[number]? = some line)
    (stepped : closer.step? line = some (later, closing)) (kept : Kept lines ((number, closer) :: others) left) :
    Kept (lines.set number closing) ((if later = .returned then [] else [(number, later)]) ++ others) left := by
  obtain ⟨apart, once⟩ := List.nodup_cons.mp kept.once
  have inside := (List.getElem?_eq_some_iff.mp found).1
  obtain ⟨_, same, before⟩ := kept.minds _ List.mem_cons_self
  cases found.symm.trans same
  have minds := Line.closer_minds closer later line closing stepped before
  have other (place : Nat) (differs : place ≠ number) : (lines.set number closing)[place]? = lines[place]? :=
    List.getElem?_set_ne (Ne.symm differs)
  have elsewhere (charge : Nat × Line.Closer) (member : charge ∈ others) : charge.1 ≠ number :=
    fun same => apart (List.mem_map.mpr ⟨charge, member, same⟩)
  refine ⟨?_, fun charge member => ?_, fun place after present followed => ?_⟩
  · split
    next => exact once
    next => exact kept.once
  · rcases List.mem_append.mp member with mine | rest
    · split at mine
      next => cases mine
      next =>
        cases List.mem_singleton.mp mine
        exact ⟨closing, List.getElem?_set_self inside, minds⟩
    · rw [other _ (elsewhere charge rest)]
      exact kept.minds charge (List.mem_cons_of_mem _ rest)
  · rw [List.map_append, List.mem_append]
    by_cases same : place = number
    · subst same
      cases (List.getElem?_set_self inside).symm.trans present
      split
      next returned =>
        subst returned
        cases minds.fits.symm.trans followed
      next => exact Or.inl (Or.inl List.mem_cons_self)
    · rw [other place same] at present
      rcases kept.rest place after present followed with mine | gone
      · exact Or.inl (Or.inr ((List.mem_cons.mp mine).resolve_left same))
      · exact Or.inr gone

theorem kept_works (lines : List Line) (charges : List (Nat × Line.Closer)) (left : Nat → Prop) (number : Nat)
    (change : Line → Line) (calms : ∀ line : Line, line.Calms (change line)) (kept : Kept lines charges left) :
    Kept (lines.modify number change) charges left := by
  refine ⟨kept.once, fun charge member => ?_, fun place after present followed => ?_⟩
  · obtain ⟨line, found, minds⟩ := kept.minds charge member
    obtain ⟨after, present, calm⟩ := Line.worked_found lines number change calms charge.1 line found
    exact ⟨after, present, Line.calms_minds charge.2 line after calm minds⟩
  · obtain ⟨line, found, calm⟩ := Line.worked_before lines number change calms place after present
    exact kept.rest place line found (calm.followed followed)

def LeftBy (cache : Cache) (move : Move) (number : Nat) : Prop := ∃ index, move = .act index .drop ∧ cache.Holds index number

theorem kept_passes (cache : Cache) (move : Move) (lines : List Line) (after : List (Nat × Line.Closer)) (left : Nat → Prop)
    (passes : Passes cache move lines after) (kept : Kept cache.lines cache.charges left) :
    Kept lines after fun number => left number ∨ LeftBy cache move number := by
  have more := kept_more cache.lines cache.charges left (fun number => left number ∨ LeftBy cache move number)
    (fun _ => Or.inl) kept
  cases passes with
  | hands _ perm => exact kept_perm _ _ _ _ perm more
  | opens line _ minds perm => exact kept_perm _ _ _ _ perm.symm (kept_opens _ _ _ line minds more)
  | closes number closer later line closing others _ before found stepped perm =>
      exact kept_perm _ _ _ _ perm.symm
        (kept_closes _ others _ number closer later line closing found stepped (kept_perm _ _ _ _ before more))
  | letsGo index number closer others _ drops holds before perm =>
      refine kept_perm _ _ _ _ perm.symm ?_
      have held := kept_perm _ _ _ _ before more
      refine ⟨(List.nodup_cons.mp held.once).2, fun charge member => held.minds charge (List.mem_cons_of_mem _ member), ?_⟩
      intro place line found followed
      rcases held.rest place line found followed with mine | gone
      · rcases List.mem_cons.mp mine with rfl | rest
        · exact Or.inr (Or.inr ⟨index, drops, holds⟩)
        · exact Or.inl rest
      · exact Or.inr gone
  | works number change calms _ => exact kept_works _ _ _ number change calms more

def Abandoned (fresh : Cache) (moves : List Move) (number : Nat) : Prop :=
  ∃ index, Happened (.act index .drop) (fun earlier => (fresh.run earlier).Holds index number) moves

theorem kept_run (root : String) (dialTimeout : Nat) (moves : List Move) :
    Kept (({ root, dialTimeout } : Cache).run moves).lines (({ root, dialTimeout } : Cache).run moves).charges
      (Abandoned { root, dialTimeout } moves) := by
  induction moves using List.reverseRecOn with
  | nil => exact ⟨List.nodup_nil, fun _ member => (nomatch member), fun _ _ found => (nomatch found)⟩
  | append_singleton before move ih =>
      rw [run_append]
      change Kept ((({ root, dialTimeout } : Cache).run before).step move).lines
        ((({ root, dialTimeout } : Cache).run before).step move).charges _
      unfold step
      cases moved : (({ root, dialTimeout } : Cache).run before).move? move with
      | none =>
          refine kept_more _ _ _ _ (fun number left => ?_) ih
          obtain ⟨index, gone⟩ := left
          exact ⟨index, (happened_snoc _ _ _ _).mpr (Or.inl gone)⟩
      | some next =>
          have passes := does_passes _ next move (move_does _ next move moved)
          refine kept_more _ _ _ _ (fun number left => ?_) (kept_passes _ move _ _ _ passes ih)
          rcases left with ⟨index, gone⟩ | ⟨index, drops, holds⟩
          · exact ⟨index, (happened_snoc _ _ _ _).mpr (Or.inl gone)⟩
          · exact ⟨index, (happened_snoc _ _ _ _).mpr (Or.inr ⟨drops, holds⟩)⟩

theorem untended_passes (cache : Cache) (move : Move) (lines : List Line) (after : List (Nat × Line.Closer)) (number : Nat)
    (line : Line) (passes : Passes cache move lines after) (found : cache.lines[number]? = some line)
    (untended : number ∉ cache.charges.map (·.1)) :
    number ∉ after.map (·.1) ∧ ∃ later, lines[number]? = some later ∧ line.Calms later ∧
      (line.isFollowed = true → line.signalled = false → move ≠ .work number .quit → later.isFollowed = true) := by
  have inside := (List.getElem?_eq_some_iff.mp found).1
  have same := line.calms_refl
  cases passes with
  | hands _ perm =>
      exact ⟨fun member => untended ((perm.map _).mem_iff.mpr member), line, found, same, fun followed _ _ => followed⟩
  | opens opened _ _ perm =>
      refine ⟨fun member => ?_, line, ?_, same, fun followed _ _ => followed⟩
      · rcases List.mem_cons.mp ((perm.map _).mem_iff.mp member) with rfl | before
        · exact absurd inside (Nat.lt_irrefl _)
        · exact untended before
      · rw [List.getElem?_append_left inside]
        exact found
  | closes place closer later known closing others _ before present stepped perm =>
      have mine := untended ∘ (before.map _).mem_iff.mpr
      have differs : place ≠ number := fun same => mine (same ▸ List.mem_cons_self)
      refine ⟨fun member => mine ?_, line, ?_, same, fun followed _ _ => followed⟩
      · have there := (perm.map _).mem_iff.mp member
        rw [List.map_append, List.mem_append] at there
        rcases there with again | rest
        · split at again
          next => cases again
          next => exact absurd (List.mem_singleton.mp again).symm differs
        · exact List.mem_cons_of_mem _ rest
      · rw [List.getElem?_set_ne differs]
        exact found
  | letsGo _ place closer others _ _ _ before perm =>
      refine ⟨fun member => untended ((before.map _).mem_iff.mpr ?_), line, found, same, fun followed _ _ => followed⟩
      exact List.mem_cons_of_mem _ ((perm.map _).mem_iff.mp member)
  | works place change calms goesOn =>
      refine ⟨untended, ?_⟩
      by_cases here : place = number
      · subst here
        exact ⟨change line, by simp [found], calms line, goesOn line found⟩
      · exact ⟨line, by simp [here, found], same, fun followed _ _ => followed⟩

theorem untended_run (moves : List Move) (cache : Cache) (number : Nat) (line : Line) (found : cache.lines[number]? = some line)
    (untended : number ∉ cache.charges.map (·.1)) (unclosed : line.channel.closed = false) (unsignalled : line.signalled = false) :
    number ∉ (cache.run moves).charges.map (·.1) ∧ ∃ later, (cache.run moves).lines[number]? = some later ∧
      later.channel.closed = false ∧ later.signalled = false ∧
      (line.isFollowed = true → .work number .quit ∉ moves → later.isFollowed = true) := by
  induction moves generalizing cache line with
  | nil => exact ⟨untended, line, found, unclosed, unsignalled, fun followed _ => followed⟩
  | cons move rest ih =>
      rw [run_cons, step]
      cases moved : cache.move? move with
      | none =>
          obtain ⟨still, later, present, unshut, silent, goesOn⟩ := ih cache line found untended unclosed unsignalled
          exact ⟨still, later, present, unshut, silent, fun followed quits => goesOn followed fun member => quits (.tail _ member)⟩
      | some next =>
          have passes := does_passes cache next move (move_does cache next move moved)
          obtain ⟨apart, middle, there, calms, follows⟩ := untended_passes cache move _ _ number line passes found untended
          obtain ⟨still, later, present, unshut, silent, goesOn⟩ :=
            ih next middle there apart (calms.closed.trans unclosed) (calms.signalled.trans unsignalled)
          refine ⟨still, later, present, unshut, silent, fun followed quits => ?_⟩
          have running := follows followed unsignalled fun same => quits (same ▸ .head _)
          exact goesOn running fun member => quits (.tail _ member)

def IsFollowed (cache : Cache) (number : Nat) : Prop := ∃ line, cache.lines[number]? = some line ∧ line.isFollowed = true

def IsSignalled (cache : Cache) (number : Nat) : Prop := ∃ line, cache.lines[number]? = some line ∧ line.signalled = true

theorem signalled_stays (cache next : Cache) (move : Move) (does : Does cache next move) (number : Nat)
    (signalled : cache.IsSignalled number) : next.IsSignalled number := by
  obtain ⟨line, found, told⟩ := signalled
  have passes := does_passes cache next move does
  unfold IsSignalled
  generalize next.lines = lines, next.charges = after at passes
  cases passes with
  | hands => exact ⟨line, found, told⟩
  | opens =>
      refine ⟨line, ?_, told⟩
      rw [List.getElem?_append_left (List.getElem?_eq_some_iff.mp found).1]
      exact found
  | closes place closer later known closing _ _ _ present stepped =>
      by_cases same : place = number
      · subst same
        cases present.symm.trans found
        exact ⟨closing, List.getElem?_set_self (List.getElem?_eq_some_iff.mp found).1,
          Line.closer_signals closer later line closing stepped told⟩
      · exact ⟨line, by rw [List.getElem?_set_ne same]; exact found, told⟩
  | letsGo => exact ⟨line, found, told⟩
  | works place change calms =>
      obtain ⟨after, present, calm⟩ := Line.worked_found cache.lines place change calms number line found
      exact ⟨after, present, calm.signalled.trans told⟩

theorem signalled_run (moves : List Move) (cache : Cache) (number : Nat) (signalled : cache.IsSignalled number) :
    (cache.run moves).IsSignalled number :=
  run_keeps (IsSignalled · number) moves (fun move _ before next does => signalled_stays before next move does number) cache signalled

theorem dropped_waiting_signalled (root : String) (dialTimeout : Nat) (moves : List Move) (index number : Nat) (failure : Failure)
    (dropped : Happened (.act index .drop) (fun earlier =>
      (({ root, dialTimeout } : Cache).run earlier).stage? index = some (.hangingUp number .waiting failure)) moves) :
    (({ root, dialTimeout } : Cache).run moves).IsSignalled number := by
  obtain ⟨earlier, later, rfl, waiting⟩ := dropped
  obtain ⟨errand, found, stage⟩ := Option.map_eq_some_iff.mp waiting
  have charged : (number, Line.Closer.waiting) ∈ errand.charges := by simp [Errand.charges, stage]
  have member : (number, Line.Closer.waiting) ∈ (({ root, dialTimeout } : Cache).run earlier).charges :=
    List.mem_append_left _ (List.mem_append_left _ (List.mem_flatMap.mpr ⟨errand, List.mem_of_getElem? found, charged⟩))
  obtain ⟨line, present, minds⟩ := (kept_run root dialTimeout earlier).minds _ member
  rw [run_append]
  exact signalled_run _ _ number ⟨line, present, minds.told⟩

theorem dropped_dialing_untended (cache : Cache) (index number : Nat) (left : Nat → Prop)
    (kept : Kept cache.lines cache.charges left) (dialing : cache.stage? index = some (.dialing (some number))) :
    (cache.step (.act index .drop)).lines = cache.lines ∧ number ∉ (cache.step (.act index .drop)).charges.map (·.1) ∧
      ∃ line, cache.lines[number]? = some line ∧ line.channel.closed = false ∧ line.signalled = false := by
  obtain ⟨⟨inquiry, _⟩, found, rfl⟩ := Option.map_eq_some_iff.mp dialing
  have moved : cache.step (.act index .drop) = cache.moveErrand index .dropped := by
    simp only [step, move?, act?, drop, found, Option.getD_some]
  have turned : Turned cache (cache.step (.act index .drop)) index ⟨inquiry, .dialing (some number)⟩ .dropped cache :=
    ⟨found, .dropped _ rfl, moved.trans (move_errand cache index _ .dropped found)⟩
  obtain ⟨others, mine, theirs⟩ := turned_charges _ _ _ _ _ _ turned
  have held := kept_perm _ _ _ _ mine kept
  obtain ⟨line, present, minds⟩ := held.minds _ List.mem_cons_self
  refine ⟨turned_lines turned, fun member => ?_, line, present, minds.fits.1, minds.told⟩
  exact (List.nodup_cons.mp held.once).1 ((theirs.map _).mem_iff.mp member)

-- Who holds a channel in a cache that has been emptied was late then, or has returned with it since.
theorem emptied_holders (drained cache : Cache) (emptied : Emptied drained cache) (number : Nat) (tended : cache.IsTended number) :
    (∃ (late : Nat) (errand : Errand), drained.IsLate late ∧ cache.errands[late]? = some errand ∧
        (errand.line? = some number ∨ errand.stage = .returned (.ok number))) ∨
      ∃ shutter ∈ cache.shutters, number ∈ shutter.lines := by
  rcases tended with ⟨index, errand, found, holds⟩ | ⟨key, present⟩ | closing
  · refine Or.inl ⟨index, errand, ?_, found, Or.inl holds⟩
    by_contra early
    have stands : cache.stage? index = some errand.stage := by
      rw [stage?, found]
      rfl
    unfold Errand.line? at holds
    rcases emptied.halted index errand.stage stands early with entered | away | ⟨ended, _⟩
    · simp [entered] at holds
    · simp [away] at holds
    · split at holds
      next stage => simp [stage, Errand.Stage.isOver] at ended
      next stage => simp [stage, Errand.Stage.isOver] at ended
      next => cases holds
  · obtain ⟨index, errand, late, found, _, returned⟩ := emptied.entries _ present
    exact Or.inl ⟨index, errand, late, found, Or.inr returned⟩
  · exact Or.inr closing

theorem followed_answered (root : String) (dialTimeout : Nat) (moves : List Move) (number : Nat)
    (followed : (({ root, dialTimeout } : Cache).run moves).IsFollowed number) :
    (({ root, dialTimeout } : Cache).run moves).IsTended number ∨ Abandoned { root, dialTimeout } moves number := by
  obtain ⟨line, found, running⟩ := followed
  rw [← tended_iff]
  exact (kept_run root dialTimeout moves).rest number line found running

theorem dropped_dialing_left (root : String) (dialTimeout : Nat) (moves more : List Move) (index number : Nat)
    (dialing : (({ root, dialTimeout } : Cache).run moves).stage? index = some (.dialing (some number))) :
    let after := ({ root, dialTimeout } : Cache).run (moves ++ .act index .drop :: more)
    ¬after.IsTended number ∧ ¬after.IsClosed number ∧ ¬after.IsSignalled number ∧
      ((({ root, dialTimeout } : Cache).run moves).IsFollowed number → .work number .quit ∉ more → after.IsFollowed number) := by
  obtain ⟨lines, apart, line, found, unclosed, unsignalled⟩ :=
    dropped_dialing_untended _ index number _ (kept_run root dialTimeout moves) dialing
  obtain ⟨still, later, present, unshut, silent, goesOn⟩ :=
    untended_run more _ number line (lines ▸ found) apart unclosed unsignalled
  intro after
  have same : after = ((({ root, dialTimeout } : Cache).run moves).step (.act index .drop)).run more := by
    rw [← run_cons, ← run_append]
  rw [same]
  refine ⟨fun tended => still ((tended_iff _ _).mpr tended), ?_, ?_, ?_⟩
  · rintro ⟨other, there, closed⟩
    cases present.symm.trans there
    cases unshut.symm.trans closed
  · rintro ⟨other, there, signalled⟩
    cases present.symm.trans there
    cases silent.symm.trans signalled
  · rintro ⟨other, there, followed⟩ quits
    cases found.symm.trans there
    exact ⟨later, present, goesOn followed quits⟩

-- Every follower that runs is answered for, unless a caller was dropped that had its channel in hand. One that was dropped
-- while it waited for the end of the follower had told it to stop. One that was dropped while it dialed leaves a follower that
-- nobody can stop, not even who closes the cache. Otherwise what runs after that belongs to late callers or to other closings.
theorem followers_tended_unless_dropped (root : String) (dialTimeout : Nat) (moves : List Move) :
    let fresh : Cache := { root, dialTimeout }
    (∀ number, (fresh.run moves).IsFollowed number → (fresh.run moves).IsTended number ∨ Abandoned fresh moves number) ∧
      (∀ index number failure, Happened (.act index .drop)
          (fun earlier => (fresh.run earlier).stage? index = some (.hangingUp number .waiting failure)) moves →
        (fresh.run moves).IsSignalled number) ∧
      (∀ index number, (fresh.run moves).stage? index = some (.dialing (some number)) → ∀ more,
        let after := fresh.run (moves ++ .act index .drop :: more)
        ¬after.IsTended number ∧ ¬after.IsClosed number ∧ ¬after.IsSignalled number ∧
          ((fresh.run moves).IsFollowed number → .work number .quit ∉ more → after.IsFollowed number)) ∧
      ∀ index, (fresh.run moves).shutters[index]? = some .returned →
        ∃ before later : List Move, moves = before ++ .shutStep index :: later ∧
          (fresh.run before).shutters[index]? = some .shut ∧ (fresh.run before).isFree = true ∧
          ∀ more number, (fresh.run (moves ++ more)).IsFollowed number →
            (∃ (late : Nat) (errand : Errand), (fresh.run before).IsLate late ∧
                (fresh.run (moves ++ more)).errands[late]? = some errand ∧
                (errand.line? = some number ∨ errand.stage = .returned (.ok number))) ∨
              (∃ shutter ∈ (fresh.run (moves ++ more)).shutters, number ∈ shutter.lines) ∨
              Abandoned fresh (moves ++ more) number := by
  intro fresh
  refine ⟨followed_answered root dialTimeout moves,
    fun index number failure => dropped_waiting_signalled root dialTimeout moves index number failure,
    fun index number dialing more => dropped_dialing_left root dialTimeout moves more index number dialing,
    fun index returned => ?_⟩
  obtain ⟨before, later, split, waiting, free⟩ := past_drained root dialTimeout moves index .returned returned ⟨nofun, nofun⟩
  refine ⟨before, later, split, waiting, free, fun more number followed => ?_⟩
  have reached : moves ++ more = before ++ .shutStep index :: (later ++ more) := by
    rw [split, List.append_assoc, List.cons_append]
  rcases followed_answered root dialTimeout (moves ++ more) number followed with tended | gone
  · rw [reached] at tended ⊢
    have emptied := emptied_run root dialTimeout before (later ++ more) index waiting free
    exact (emptied_holders _ _ emptied number tended).imp_right Or.inl
  · exact Or.inr (Or.inr gone)

deriving instance DecidableEq for Errand.Stage

-- The caller is dropped while it waits for an endpoint of the service, and the cache is closed after that.
def ringing : List Move :=
  [.enter { service := "billing", rpc := "ledger" }, .act 0 .checkOpen, .act 0 .lookUp, .act 0 .lock, .act 0 .lookAgain,
    .act 0 (.connect ∅ ⟨"/svc/billing/ledger", 0, false⟩)]

def closingEmpty : List Move := [.shutDown, .shutStep 0, .shutStep 0]

-- No endpoint has been reached, and the caller waits for the follower to end.
def hangingUp : List Move :=
  ringing ++ [.act 0 (.giveUp (.dial (.noEndpoints "billing/ledger"))), .act 0 .hangUp, .act 0 .hangUp, .act 0 .hangUp]

theorem followers_tended_unless_dropped_ringing :
    let fresh : Cache := { root := "/svc", dialTimeout := 2000 }
    let after := fresh.run (ringing ++ .act 0 .drop :: closingEmpty)
    after.shutters[0]? = some .returned ∧ after.IsFollowed 0 ∧ ¬after.IsTended 0 ∧
      Abandoned fresh (ringing ++ .act 0 .drop :: closingEmpty) 0 ∧ (fresh.run (hangingUp ++ [.act 0 .drop])).IsSignalled 0 := by
  intro fresh after
  have waiting : (fresh.run hangingUp).stage? 0 = some (.hangingUp 0 .waiting (.dial (.noEndpoints "billing/ledger"))) := by
    decide +kernel
  have told := (followers_tended_unless_dropped "/svc" 2000 (hangingUp ++ [.act 0 .drop])).2.1 0 0 _
    ⟨hangingUp, [], rfl, waiting⟩
  have dialing : (fresh.run ringing).stage? 0 = some (.dialing (some 0)) := by decide +kernel
  have follows : ((fresh.run ringing).lines[0]?).map Line.isFollowed = some true := by decide +kernel
  have running : (fresh.run ringing).IsFollowed 0 := Option.map_eq_some_iff.mp follows
  have returned : after.shutters[0]? = some .returned := by decide +kernel
  obtain ⟨_, _, drops, _⟩ := followers_tended_unless_dropped "/svc" 2000 ringing
  obtain ⟨untended, _, _, goesOn⟩ := drops 0 0 dialing closingEmpty
  have followed := goesOn running (by simp [closingEmpty])
  have answered := (followers_tended_unless_dropped "/svc" 2000 (ringing ++ .act 0 .drop :: closingEmpty)).1 0 followed
  exact ⟨returned, followed, untended, answered.resolve_left untended, told⟩

theorem dropped_call_leaves_follower :
    ¬∀ (moves : List Move) (number : Nat),
      let cache := ({ root := "/svc", dialTimeout := 2000 } : Cache).run moves
      cache.IsFollowed number → cache.IsTended number ∨ cache.IsClosed number ∨ cache.IsSignalled number := by
  intro answered
  have running : (({ root := "/svc", dialTimeout := 2000 } : Cache).run (ringing ++ .act 0 .drop :: closingEmpty)).IsFollowed 0 :=
    ⟨_, rfl, rfl⟩
  rcases answered _ 0 running with tended | ⟨line, found, closed⟩ | ⟨line, found, signalled⟩
  · rw [← tended_iff] at tended
    exact absurd tended (by decide +kernel)
  · cases found
    cases closed
  · cases found
    cases signalled

end Cache

end ServiceHost
