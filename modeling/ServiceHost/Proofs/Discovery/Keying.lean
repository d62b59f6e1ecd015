import ServiceHost.Proofs.Discovery.Traffic
import ServiceHost.Proofs.Registration.Naming

set_option autoImplicit false

namespace ServiceHost

namespace Inquiry

-- Valid names are free of the characters that join them, but nobody checks the names of an inquiry.
structure IsSeparated (inquiry : Inquiry) : Prop where
  service : '/' ∉ inquiry.service.toList
  rpc : '@' ∉ inquiry.rpc.toList

theorem valid_separated (inquiry : Inquiry) (service : Name.isValid inquiry.service = true)
    (rpc : Name.isValid inquiry.rpc = true) : inquiry.IsSeparated where
  service := Registration.valid_slash_free _ service
  rpc := by
    intro sign
    cases List.all_eq_true.mp (Bool.and_eq_true_iff.mp rpc).2 '@' sign

def suffix : Option String → List Char
  | some endpoint => '@' :: endpoint.toList
  | none => []

theorem key_chars (inquiry : Inquiry) :
    inquiry.key.toList = inquiry.service.toList ++ '/' :: (inquiry.rpc.toList ++ suffix inquiry.endpoint) := by
  cases given : inquiry.endpoint <;> simp [key, name, given, suffix]

theorem key_eq_iff (inquiry other : Inquiry) : other.key = inquiry.key ↔
    other.service.toList ++ '/' :: (other.rpc.toList ++ suffix other.endpoint) =
      inquiry.service.toList ++ '/' :: (inquiry.rpc.toList ++ suffix inquiry.endpoint) := by
  rw [← String.toList_inj, key_chars, key_chars]

theorem suffix_split (rpc other : List Char) (endpoint given : Option String) (free : '@' ∉ rpc) (clear : '@' ∉ other)
    (same : rpc ++ suffix endpoint = other ++ suffix given) : rpc = other ∧ endpoint = given := by
  cases endpoint with
  | none =>
      cases given with
      | none => exact ⟨by simpa [suffix] using same, rfl⟩
      | some text =>
          have whole : rpc = other ++ '@' :: text.toList := by simpa [suffix] using same
          exact absurd (whole ▸ List.mem_append_right other List.mem_cons_self) free
  | some address =>
      cases given with
      | none =>
          have whole : rpc ++ '@' :: address.toList = other := by simpa [suffix] using same
          exact absurd (whole ▸ List.mem_append_right rpc List.mem_cons_self) clear
      | some text =>
          obtain ⟨names, addresses⟩ := Registration.separator_split _ _ _ _ free clear same
          exact ⟨names, congrArg some (String.toList_inj.mp addresses)⟩

theorem key_separated (inquiry other : Inquiry) (separated : inquiry.IsSeparated) (apart : other.IsSeparated)
    (same : other.key = inquiry.key) : other = inquiry := by
  obtain ⟨services, rest⟩ :=
    Registration.separator_split _ _ _ _ apart.service separated.service ((key_eq_iff inquiry other).mp same)
  obtain ⟨names, endpoints⟩ := suffix_split _ _ _ _ apart.rpc separated.rpc rest
  cases inquiry
  cases other
  simp only [String.toList_inj] at services names
  rw [mk.injEq]
  exact ⟨services, names, endpoints⟩

-- The inquiries that share their text with no other, whatever names the others have.
structure IsAlone (inquiry : Inquiry) : Prop where
  discovers : inquiry.endpoint = none
  service : '/' ∉ inquiry.service.toList
  slash : '/' ∉ inquiry.rpc.toList
  sign : '@' ∉ inquiry.rpc.toList

theorem alone_key (inquiry other : Inquiry) (alone : inquiry.IsAlone) (same : other.key = inquiry.key) : other = inquiry := by
  have chars := (key_eq_iff inquiry other).mp same
  -- There is one slash in the text, so that there is none in the name of the other service.
  have one := congrArg (List.count '/') chars
  rw [alone.discovers, suffix, List.append_nil] at chars one
  simp only [List.count_append, List.count_cons_self, List.count_eq_zero_of_not_mem alone.service,
    List.count_eq_zero_of_not_mem alone.slash] at one
  have free : '/' ∉ other.service.toList := List.count_eq_zero.mp (by omega)
  obtain ⟨_, rest⟩ := Registration.separator_split _ _ _ _ free alone.service chars
  have clear : '@' ∉ other.rpc.toList := fun sign => alone.sign (rest ▸ List.mem_append_left _ sign)
  exact key_separated inquiry other ⟨alone.service, alone.sign⟩ ⟨free, clear⟩ same

theorem shorter_apart (front back whole : List Char) (c : Char) (split : whole = front ++ c :: back) : front ≠ whole := by
  intro same
  have lengths := congrArg List.length split
  rw [same, List.length_append, List.length_cons] at lengths
  omega

theorem shared_key (inquiry : Inquiry) (shares : ¬ inquiry.IsAlone) : ∃ other, other ≠ inquiry ∧ other.key = inquiry.key := by
  obtain ⟨service, rpc, endpoint⟩ := inquiry
  by_cases slash : '/' ∈ service.toList
  · obtain ⟨front, back, split⟩ := List.append_of_mem slash
    refine ⟨⟨String.ofList front, String.ofList (back ++ '/' :: rpc.toList), endpoint⟩, fun same => ?_, ?_⟩
    · have services := congrArg (fun inquiry => inquiry.service.toList) same
      exact shorter_apart front back _ '/' split (by simpa using services)
    · rw [key_eq_iff]
      simp [split]
  · by_cases inside : '/' ∈ rpc.toList
    · obtain ⟨front, back, split⟩ := List.append_of_mem inside
      refine ⟨⟨String.ofList (service.toList ++ '/' :: front), String.ofList back, endpoint⟩, fun same => ?_, ?_⟩
      · have services := congrArg (fun inquiry => inquiry.service.toList) same
        exact slash (by simp at services)
      · rw [key_eq_iff]
        simp [split]
    · cases endpoint with
      | some endpoint =>
          refine ⟨⟨service, String.ofList (rpc.toList ++ '@' :: endpoint.toList), none⟩, fun same => ?_, ?_⟩
          · cases congrArg Inquiry.endpoint same
          · rw [key_eq_iff]
            simp [suffix]
      | none =>
          have sign : '@' ∈ rpc.toList := by
            refine Decidable.byContradiction fun clear => shares ⟨rfl, slash, inside, clear⟩
          obtain ⟨front, back, split⟩ := List.append_of_mem sign
          refine ⟨⟨service, String.ofList front, some (String.ofList back)⟩, fun same => ?_, ?_⟩
          · cases congrArg Inquiry.endpoint same
          · rw [key_eq_iff]
            simp [suffix, split]

theorem alone_iff (inquiry : Inquiry) : (∀ other : Inquiry, other.key = inquiry.key → other = inquiry) ↔ inquiry.IsAlone := by
  constructor
  · intro determined
    refine Classical.byContradiction fun shares => ?_
    obtain ⟨other, apart, same⟩ := shared_key inquiry shares
    exact apart (determined other same)
  · exact fun alone other => alone_key inquiry other alone

end Inquiry

namespace Line

structure Kindred (before after : Line) : Prop where
  name : after.channel.name = before.channel.name
  follower : after.follower.isSome = before.follower.isSome

theorem kindred_refl (line : Line) : line.Kindred line := ⟨rfl, rfl⟩

theorem kindred_stop (line : Line) : line.Kindred line.stopFollower := ⟨rfl, Option.isSome_map⟩

theorem closer_kindred (closer later : Closer) (line closing : Line) (stepped : closer.step? line = some (later, closing)) :
    line.Kindred closing := by
  cases closer with
  | entered =>
      simp only [Closer.step?] at stepped
      split at stepped <;> cases stepped <;> exact ⟨rfl, rfl⟩
  | marked =>
      cases stepped
      exact ⟨rfl, rfl⟩
  | signalled =>
      simp only [Closer.step?] at stepped
      split at stepped <;> cases stepped <;> exact ⟨rfl, rfl⟩
  | waiting =>
      simp only [Closer.step?] at stepped
      split at stepped <;> cases stepped
      exact kindred_refl line
  | returned => cases stepped

end Line

theorem Follower.apply_name (channel : Channel) (change : Change) : (apply channel change).name = channel.name := by
  unfold apply
  split
  · split <;> rfl
  · rfl

theorem Follower.observe_name (now : Nat) (store : Store) (follower : Follower) (channel : Channel) :
    (follower.observe now store channel).2.name = channel.name := by
  unfold observe
  split
  next =>
    split
    · exact apply_name channel _
    · rfl
    · rfl
  next => rfl

theorem Follower.resubscribe_name (now : Nat) (store : Store) (follower : Follower) (channel : Channel) :
    (follower.resubscribe now store channel).2.2.name = channel.name := by
  unfold resubscribe subscribe
  cases store.watch follower.root with
  | error => rfl
  | ok watch => cases listed : store.list now follower.root with
    | mk result after => cases result <;> rfl

theorem Channel.pick_name (channel : Channel) : channel.pick.2.name = channel.name := by
  unfold pick
  split
  · rfl
  · split <;> rfl

theorem Line.work_kindred (line : Line) (work : Work) : line.Kindred (line.work work) := by
  cases work with
  | observe now store =>
      cases held : line.follower with
      | none =>
          simp only [Line.work, held]
          exact line.kindred_refl
      | some follower =>
          simp only [Line.work, held]
          exact ⟨follower.observe_name now store line.channel, by rw [held]; rfl⟩
  | resubscribe now store =>
      cases held : line.follower with
      | none =>
          simp only [Line.work, held]
          exact line.kindred_refl
      | some follower =>
          simp only [Line.work, held]
          split
          · exact ⟨follower.resubscribe_name now store line.channel, by rw [held]; rfl⟩
          · exact line.kindred_refl
  | quit => exact line.kindred_stop
  | pick => exact ⟨line.channel.pick_name, rfl⟩

structure Line.Suits (inquiry : Inquiry) (line : Line) : Prop where
  name : line.channel.name = inquiry.name
  discovered : line.follower.isSome = inquiry.endpoint.isNone

theorem Line.suits_kindred (inquiry : Inquiry) (line after : Line) (suits : line.Suits inquiry) (kindred : line.Kindred after) :
    after.Suits inquiry :=
  ⟨kindred.name.trans suits.name, kindred.follower.trans suits.discovered⟩

def Errand.channel? (errand : Errand) : Option Nat :=
  match errand.stage with
  | .dialing line => line
  | .returned (.ok line) => some line
  | _ => none

namespace Cache

theorem opening_suits (root : String) (inquiry : Inquiry) (targets : Table Endpoint) (watch : Store.Watch) :
    (opening root inquiry targets watch).Suits inquiry := by
  unfold opening
  cases given : inquiry.endpoint with
  | some endpoint => exact ⟨rfl, by rw [given]; rfl⟩
  | none => exact ⟨rfl, by rw [given]; rfl⟩

structure Keeps (before after : List Line) : Prop where
  length : after.length = before.length
  kindred : ∀ (number : Nat) (line : Line), after[number]? = some line →
    ∃ earlier : Line, before[number]? = some earlier ∧ earlier.Kindred line

theorem keeps_refl (lines : List Line) : Keeps lines lines := ⟨rfl, fun _ line found => ⟨line, found, line.kindred_refl⟩⟩

theorem keeps_set (lines : List Line) (place : Nat) (before after : Line) (found : lines[place]? = some before)
    (kindred : before.Kindred after) : Keeps lines (lines.set place after) := by
  refine ⟨List.length_set, fun number line present => ?_⟩
  by_cases same : place = number
  · subst same
    rw [List.getElem?_set_self (List.getElem?_eq_some_iff.mp found).1] at present
    cases present
    exact ⟨before, found, kindred⟩
  · rw [List.getElem?_set_ne same] at present
    exact ⟨line, present, line.kindred_refl⟩

theorem keeps_work (lines : List Line) (place : Nat) (work : Line.Work) : Keeps lines (lines.modify place (·.work work)) := by
  rw [List.modify_eq_set_getElem?]
  cases found : lines[place]? with
  | none => exact keeps_refl lines
  | some line => exact keeps_set lines place line _ found (line.work_kindred work)

theorem turn_channel (cache after : Cache) (inquiry : Inquiry) (before stage : Errand.Stage)
    (turn : Turn cache inquiry before stage after) :
    (Keeps cache.lines after.lines ∧ ∀ number, Errand.channel? { inquiry, stage } = some number →
      Errand.channel? { inquiry, stage := before } = some number ∨ (inquiry.key, number) ∈ cache.entries) ∨
      ∃ targets watch, stage = .dialing (some cache.lines.length) ∧
        after.lines = cache.lines ++ [opening cache.root inquiry targets watch] := by
  have same := keeps_refl cache.lines
  cases turn with
  | connected targets watch => exact Or.inr ⟨targets, watch, rfl, rfl⟩
  | found line _ present => exact Or.inl ⟨same, fun number has => Or.inr (find_mem cache _ number (present.trans has))⟩
  | foundAgain line present => exact Or.inl ⟨same, fun number has => Or.inr (find_mem cache _ number (present.trans has))⟩
  | kept line => exact Or.inl ⟨same, fun number has => Or.inl has⟩
  | hangs line closer later failure held closing found stepped =>
      exact Or.inl ⟨keeps_set _ _ held closing found (Line.closer_kindred closer later held closing stepped), nofun⟩
  | hungUp line closer failure held closing found stepped =>
      exact Or.inl ⟨keeps_set _ _ held closing found (Line.closer_kindred closer _ held closing stepped), nofun⟩
  | _ => exact Or.inl ⟨same, nofun⟩

-- The inquiry for which the channel has been opened has this text.
def IsOwner (owners : List Inquiry) (number : Nat) (key : String) : Prop :=
  ∃ owner, owners[number]? = some owner ∧ owner.key = key

-- Each channel has been opened for the inquiry of some caller and suits it, and whoever has it, or finds it in the cache, does
-- so by the text of that inquiry.
structure Owned (owners : List Inquiry) (cache : Cache) : Prop where
  opened : owners.length = cache.lines.length
  suits : ∀ (number : Nat) (line : Line), cache.lines[number]? = some line →
    ∃ owner, owners[number]? = some owner ∧ line.Suits owner
  asked : ∀ owner ∈ owners, owner ∈ cache.errands.map (·.inquiry)
  entries : ∀ entry ∈ cache.entries, IsOwner owners entry.2 entry.1
  holders : ∀ errand ∈ cache.errands, ∀ number, errand.channel? = some number → IsOwner owners number errand.inquiry.key

theorem owned_fresh (root : String) (dialTimeout : Nat) : Owned [] { root, dialTimeout } where
  opened := rfl
  suits := fun _ _ found => by cases found
  asked := fun _ member => by cases member
  entries := fun _ member => by cases member
  holders := fun _ member => by cases member

variable {owners : List Inquiry} {cache next : Cache}

theorem owner_more (owners : List Inquiry) (inquiry : Inquiry) (number : Nat) (key : String) (owner : IsOwner owners number key) :
    IsOwner (owners ++ [inquiry]) number key := by
  obtain ⟨owner, found, same⟩ := owner
  exact ⟨owner, by rw [List.getElem?_append_left (List.getElem?_eq_some_iff.mp found).1, found], same⟩

theorem owned_kept (owned : Owned owners cache) (lines : Keeps cache.lines next.lines)
    (asked : ∀ errand ∈ cache.errands, errand.inquiry ∈ next.errands.map (·.inquiry))
    (entries : ∀ entry ∈ next.entries, IsOwner owners entry.2 entry.1)
    (holders : ∀ errand ∈ next.errands, ∀ number, errand.channel? = some number → IsOwner owners number errand.inquiry.key) :
    Owned owners next where
  opened := owned.opened.trans lines.length.symm
  suits := by
    intro number line found
    obtain ⟨earlier, before, kindred⟩ := lines.kindred number line found
    obtain ⟨owner, present, suits⟩ := owned.suits number earlier before
    exact ⟨owner, present, earlier.suits_kindred owner line suits kindred⟩
  asked := by
    intro owner member
    obtain ⟨errand, inside, rfl⟩ := List.mem_map.mp (owned.asked owner member)
    exact asked errand inside
  entries := entries
  holders := holders

theorem owned_enter (owned : Owned owners cache) (inquiry : Inquiry) : Owned owners (cache.enter inquiry) := by
  refine owned_kept owned (keeps_refl _) (fun errand member => List.mem_map_of_mem (List.mem_append_left _ member)) owned.entries
    fun errand member number has => ?_
  rcases List.mem_append.mp member with before | new
  · exact owned.holders errand before number has
  · rw [List.mem_singleton.mp new] at has
    cases has

section Turned

variable {after : Cache} {index : Nat} {errand : Errand} {stage : Errand.Stage}

theorem turned_asked (turned : Turned cache next index errand stage after) (asked : Errand) (member : asked ∈ cache.errands) :
    asked.inquiry ∈ next.errands.map (·.inquiry) := by
  obtain ⟨place, found⟩ := List.getElem?_of_mem member
  by_cases same : place = index
  · subst same
    cases found.symm.trans turned.found
    exact List.mem_map.mpr ⟨_, List.mem_of_getElem? (turned_own turned), rfl⟩
  · exact List.mem_map_of_mem (List.mem_of_getElem? ((turned_other turned place same).trans found))

theorem owned_turned (owned : Owned owners cache) (turned : Turned cache next index errand stage after) :
    ∃ more, Owned (owners ++ more) next := by
  have own := owned.holders errand (List.mem_of_getElem? turned.found)
  have entries : ∀ entry ∈ next.entries, IsOwner owners entry.2 entry.1 := by
    intro entry member
    rcases turned_entries turned with ⟨_, same, _⟩ | ⟨line, dialing, _, added, _⟩
    · exact owned.entries entry (same ▸ member)
    · rcases List.mem_append.mp (added ▸ member) with before | new
      · exact owned.entries entry before
      · rw [List.mem_singleton.mp new]
        exact own line (by rw [Errand.channel?, dialing])
  rcases turn_channel cache after errand.inquiry errand.stage stage turned.turn with
    ⟨lines, channels⟩ | ⟨targets, watch, dialing, added⟩
  · refine ⟨[], ?_⟩
    rw [List.append_nil]
    refine owned_kept owned (turned_lines turned ▸ lines) (turned_asked turned) entries fun rival member number has => ?_
    rcases turned_mem turned rival member with rfl | before
    · rcases channels number has with still | found
      · exact own number still
      · exact owned.entries _ found
    · exact owned.holders rival before number has
  · have grown : next.lines = cache.lines ++ [opening cache.root errand.inquiry targets watch] := (turned_lines turned).trans added
    have last : (owners ++ [errand.inquiry])[cache.lines.length]? = some errand.inquiry := by
      rw [← owned.opened, List.getElem?_concat_length]
    refine ⟨[errand.inquiry], by simp [grown, owned.opened], fun number line found => ?_, fun owner member => ?_,
      fun entry member => owner_more owners _ _ _ (entries entry member), fun rival member number has => ?_⟩
    · rw [grown, List.getElem?_append] at found
      split at found
      next =>
        obtain ⟨owner, present, suits⟩ := owned.suits number line found
        exact ⟨owner, by rw [List.getElem?_append_left (List.getElem?_eq_some_iff.mp present).1, present], suits⟩
      next beyond =>
        have place := (List.getElem?_eq_some_iff.mp found).1
        rw [List.length_singleton] at place
        have here : number = cache.lines.length := by omega
        rw [List.mem_singleton.mp (List.mem_of_getElem? found)]
        exact ⟨errand.inquiry, here ▸ last, opening_suits cache.root errand.inquiry targets watch⟩
    · rcases List.mem_append.mp member with before | new
      · obtain ⟨asker, inside, rfl⟩ := List.mem_map.mp (owned.asked owner before)
        exact turned_asked turned asker inside
      · rw [List.mem_singleton.mp new]
        exact turned_asked turned errand (List.mem_of_getElem? turned.found)
    · rcases turned_mem turned rival member with rfl | before
      · rw [Errand.channel?, dialing] at has
        cases has
        exact ⟨errand.inquiry, last, rfl⟩
      · exact owner_more owners _ _ _ (owned.holders rival before number has)

end Turned

theorem owned_shut (owned : Owned owners cache) (index : Nat) (shut : cache.shutStep index = some next) : Owned owners next := by
  have asked (errand : Errand) (member : errand ∈ cache.errands) : errand.inquiry ∈ cache.errands.map (·.inquiry) :=
    List.mem_map_of_mem member
  unfold shutStep at shut
  split at shut
  next =>
    cases shut
    exact owned_kept owned (keeps_refl _) asked owned.entries owned.holders
  next =>
    split at shut
    next =>
      cases shut
      exact owned_kept owned (keeps_refl _) asked nofun owned.holders
    next => cases shut
  next line closer left _ =>
    obtain ⟨held, found, rest⟩ := Option.bind_eq_some_iff.mp shut
    obtain ⟨⟨later, closing⟩, stepped, same⟩ := Option.bind_eq_some_iff.mp rest
    cases same
    exact owned_kept owned (keeps_set _ line held closing found (Line.closer_kindred closer later held closing stepped)) asked
      owned.entries owned.holders
  next => cases shut

theorem owned_move (owned : Owned owners cache) (move : Move) (moved : cache.move? move = some next) :
    ∃ more, Owned (owners ++ more) next := by
  have still (kept : Owned owners next) : ∃ more, Owned (owners ++ more) next := ⟨[], by rwa [List.append_nil]⟩
  have asked (errand : Errand) (member : errand ∈ cache.errands) : errand.inquiry ∈ cache.errands.map (·.inquiry) :=
    List.mem_map_of_mem member
  cases move with
  | enter inquiry =>
      cases moved
      exact still (owned_enter owned inquiry)
  | act index act =>
      obtain ⟨errand, stage, after, turned, _⟩ := act_turns cache next index act moved
      exact owned_turned owned turned
  | work line work =>
      cases moved
      exact still (owned_kept owned (keeps_work _ line work) asked owned.entries owned.holders)
  | endFollower line =>
      simp only [move?, endFollower] at moved
      split at moved
      next held found =>
        split at moved
        next =>
          cases moved
          exact still (owned_kept owned (keeps_set _ line held _ found held.kindred_stop) asked owned.entries owned.holders)
        next => cases moved
      next => cases moved
  | shutDown =>
      cases moved
      exact still (owned_kept owned (keeps_refl _) asked owned.entries owned.holders)
  | shutStep index => exact still (owned_shut owned index moved)

theorem owned_run (owned : Owned owners cache) (moves : List Move) : ∃ more, Owned (owners ++ more) (cache.run moves) := by
  induction moves generalizing owners cache with
  | nil => exact ⟨[], by rwa [List.append_nil]⟩
  | cons move rest ih =>
      rw [run_cons, step]
      cases moved : cache.move? move with
      | none => exact ih owned
      | some next =>
          obtain ⟨more, owns⟩ := owned_move owned move moved
          obtain ⟨others, ends⟩ := ih owns
          exact ⟨more ++ others, by rwa [← List.append_assoc]⟩

-- An inquiry shares its text with no other exactly if it has no endpoint and its names hold none of the joining characters. On
-- every schedule the callers that have returned with one channel share a text. If the names of all callers are separated, as
-- valid names are, they made the same inquiry, and the channel bears its name and has been discovered exactly if no endpoint
-- was given.
theorem keys_apart_unless_joined (root : String) (dialTimeout : Nat) (moves : List Move) :
    (∀ inquiry : Inquiry, (∀ other : Inquiry, other.key = inquiry.key → other = inquiry) ↔ inquiry.IsAlone) ∧
      (∀ inquiry : Inquiry, Name.isValid inquiry.service = true → Name.isValid inquiry.rpc = true → inquiry.IsSeparated) ∧
      let cache := ({ root, dialTimeout } : Cache).run moves
      ∀ errand ∈ cache.errands, ∀ number, errand.stage = .returned (.ok number) →
        (∀ rival ∈ cache.errands, rival.stage = .returned (.ok number) → rival.inquiry.key = errand.inquiry.key) ∧
          ((∀ rival ∈ cache.errands, rival.inquiry.IsSeparated) →
            (∀ rival ∈ cache.errands, rival.stage = .returned (.ok number) → rival.inquiry = errand.inquiry) ∧
              ∃ line, cache.lines[number]? = some line ∧ line.Suits errand.inquiry) := by
  refine ⟨Inquiry.alone_iff, Inquiry.valid_separated, ?_⟩
  intro cache errand member number returned
  obtain ⟨owners, owned⟩ := owned_run (owned_fresh root dialTimeout) moves
  obtain ⟨owner, found, key⟩ := owned.holders errand member number (by rw [Errand.channel?, returned])
  have shared (rival : Errand) (present : rival ∈ cache.errands) (same : rival.stage = .returned (.ok number)) :
      rival.inquiry.key = errand.inquiry.key := by
    obtain ⟨other, again, text⟩ := owned.holders rival present number (by rw [Errand.channel?, same])
    cases found.symm.trans again
    exact text.symm.trans key
  refine ⟨shared, fun separated => ⟨fun rival present same => ?_, ?_⟩⟩
  · exact Inquiry.key_separated _ _ (separated errand member) (separated rival present) (shared rival present same)
  · obtain ⟨asker, inside, asked⟩ := List.mem_map.mp (owned.asked owner (List.mem_of_getElem? found))
    have own : owner = errand.inquiry :=
      Inquiry.key_separated _ _ (separated errand member) (asked ▸ separated asker inside) key
    have bound : number < cache.lines.length := owned.opened ▸ (List.getElem?_eq_some_iff.mp found).1
    obtain ⟨other, again, suits⟩ := owned.suits number _ (List.getElem?_eq_getElem bound)
    cases found.symm.trans again
    exact ⟨_, List.getElem?_eq_getElem bound, own ▸ suits⟩

def sought : Inquiry := { service := "billing", rpc := "ledger" }

def soughtTwice : List Move :=
  [.enter sought, .act 0 .checkOpen, .act 0 .lookUp, .act 0 .lock, .act 0 .lookAgain, .act 0 (.connect ∅ ⟨"", 0, false⟩),
    .act 0 .keep, .enter sought, .act 1 .checkOpen, .act 1 .lookUp]

theorem keys_apart_unless_joined_twice :
    let cache := ({ root := "/svc", dialTimeout := 2000 } : Cache).run soughtTwice
    cache.errands = [⟨sought, .returned (.ok 0)⟩, ⟨sought, .returned (.ok 0)⟩] ∧ cache.dials = 1 ∧
      (∀ other : Inquiry, other.key = sought.key → other = sought) ∧
      ∃ line, cache.lines[0]? = some line ∧ line.Suits sought := by
  intro cache
  obtain ⟨alone, valid, shared⟩ := keys_apart_unless_joined "/svc" 2000 soughtTwice
  have errands : cache.errands = [⟨sought, .returned (.ok 0)⟩, ⟨sought, .returned (.ok 0)⟩] := rfl
  have separated : sought.IsSeparated := valid sought (by decide +kernel) (by decide +kernel)
  have everyone : ∀ rival ∈ cache.errands, rival.inquiry.IsSeparated := by simpa [errands] using separated
  obtain ⟨-, suits⟩ := shared ⟨sought, .returned (.ok 0)⟩ (by rw [errands]; exact List.mem_cons_self) 0 rfl
  exact ⟨errands, rfl, (alone sought).mpr ⟨rfl, by decide, by decide, by decide⟩, (suits everyone).2⟩

-- An endpoint of a service, and an RPC service under whose name the text says the same.
def pinned : Inquiry := { service := "billing", rpc := "ledger", endpoint := some "10.0.0.7:7000" }

def disguised : Inquiry := { service := "billing", rpc := "ledger@10.0.0.7:7000" }

def inTurn : List Move :=
  [.enter disguised, .act 0 .checkOpen, .act 0 .lookUp, .act 0 .lock, .act 0 .lookAgain, .act 0 (.connect ∅ ⟨"", 0, false⟩),
    .act 0 .keep, .enter pinned, .act 1 .checkOpen, .act 1 .lookUp]

theorem discovered_channel_for_given_endpoint :
    let cache := ({ root := "/svc", dialTimeout := 2000 } : Cache).run inTurn
    cache.errands = [⟨disguised, .returned (.ok 0)⟩, ⟨pinned, .returned (.ok 0)⟩] ∧ pinned ≠ disguised ∧ cache.dials = 1 ∧
      cache.lines.map (fun line => line.follower.isSome) = [true] ∧
      ({ service := "a/b", rpc := "c" } : Inquiry).key = ({ service := "a", rpc := "b/c" } : Inquiry).key := by
  exact ⟨rfl, by decide, rfl, rfl, by decide⟩

end Cache

end ServiceHost
