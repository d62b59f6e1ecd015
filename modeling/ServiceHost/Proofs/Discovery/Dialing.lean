import ServiceHost.Proofs.Discovery.Traffic

set_option autoImplicit false

namespace ServiceHost.Cache

-- What holds on every schedule: one caller at a time has the lock, the key for which it dials is missing, and no key is
-- entered twice.
structure Orderly (cache : Cache) : Prop where
  alone : ∀ (index other : Nat) (errand rival : Errand), cache.errands[index]? = some errand →
    cache.errands[other]? = some rival → errand.holdsLock = true → rival.holdsLock = true → index = other
  missing : ∀ errand ∈ cache.errands, errand.isDialing = true → ∀ line, (errand.inquiry.key, line) ∉ cache.entries
  keys : (cache.entries.map (·.1)).Nodup

theorem dialing_holds (errand : Errand) (dialing : errand.isDialing = true) : errand.holdsLock = true := by
  unfold Errand.isDialing at dialing
  split at dialing
  next line stage => simp [Errand.holdsLock, stage]
  next line closer failure stage => simp [Errand.holdsLock, stage]
  next => cases dialing

theorem turn_locks (cache after : Cache) (inquiry : Inquiry) (before stage : Errand.Stage)
    (turn : Turn cache inquiry before stage after) (holds : Errand.holdsLock { inquiry, stage } = true) :
    Errand.holdsLock { inquiry, stage := before } = true ∨ cache.isFree = true := by
  cases turn with
  | locked free => exact Or.inr free
  | dials => exact Or.inl rfl
  | connected => exact Or.inl rfl
  | gaveUp => exact Or.inl rfl
  | hangs => exact Or.inl rfl
  | _ => cases holds

theorem turn_dialing (cache after : Cache) (inquiry : Inquiry) (before stage : Errand.Stage)
    (turn : Turn cache inquiry before stage after) (dialing : Errand.isDialing { inquiry, stage } = true) :
    Errand.isDialing { inquiry, stage := before } = true ∨ ∀ line, (inquiry.key, line) ∉ cache.entries := by
  cases turn with
  | dials missing => exact Or.inr ((find_none cache _).mp missing)
  | connected => exact Or.inl rfl
  | gaveUp => exact Or.inl rfl
  | hangs => exact Or.inl rfl
  | _ => cases dialing

theorem keys_append (entries : List (String × Nat)) (key : String) (line : Nat) (keys : (entries.map (·.1)).Nodup)
    (missing : ∀ line, (key, line) ∉ entries) : ((entries ++ [(key, line)]).map (·.1)).Nodup := by
  rw [List.map_append, List.nodup_append]
  refine ⟨keys, by simp, fun present member own single same => ?_⟩
  have added : own = key := List.mem_singleton.mp single
  obtain ⟨⟨_, number⟩, entered, rfl⟩ := List.mem_map.mp member
  exact missing number (same.trans added ▸ entered)

theorem orderly_fresh (root : String) (dialTimeout : Nat) : Orderly { root, dialTimeout } where
  alone := fun _ _ _ _ found => by cases found
  missing := fun _ member => by cases member
  keys := List.nodup_nil

theorem orderly_enter (cache : Cache) (inquiry : Inquiry) (orderly : Orderly cache) : Orderly (cache.enter inquiry) := by
  have old (index : Nat) (errand : Errand) (found : (cache.enter inquiry).errands[index]? = some errand)
      (holds : errand.holdsLock = true) : cache.errands[index]? = some errand := by
    rw [enter, List.getElem?_append] at found
    split at found
    next => exact found
    next =>
      have member := List.mem_of_getElem? found
      rw [List.mem_singleton.mp member] at holds
      cases holds
  refine ⟨fun index other errand rival found present holds rivals => ?_, fun errand member dialing => ?_, orderly.keys⟩
  · exact orderly.alone index other errand rival (old index errand found holds) (old other rival present rivals) holds rivals
  · rcases List.mem_append.mp member with before | new
    · exact orderly.missing errand before dialing
    · rw [List.mem_singleton.mp new] at dialing
      cases dialing

theorem orderly_turned (cache next after : Cache) (index : Nat) (errand : Errand) (stage : Errand.Stage)
    (turned : Turned cache next index errand stage after) (orderly : Orderly cache) : Orderly next := by
  have apart (other : Nat) (rival : Errand) (differs : other ≠ index) (found : cache.errands[other]? = some rival)
      (holds : Errand.holdsLock { errand with stage } = true) : rival.holdsLock = false := by
    apply Bool.eq_false_iff.mpr
    intro rivals
    rcases turn_locks cache after errand.inquiry errand.stage stage turned.turn holds with held | free
    · exact differs (orderly.alone other index rival errand found turned.found rivals held)
    · rw [(is_free_iff cache).mp free rival (List.mem_of_getElem? found)] at rivals
      cases rivals
  refine ⟨fun left right first second found present holds rivals => ?_, fun rival member dialing line => ?_, ?_⟩
  · rcases turned_found turned left first found with ⟨rfl, rfl⟩ | ⟨differs, before⟩ <;>
      rcases turned_found turned right second present with ⟨rfl, rfl⟩ | ⟨differs', before'⟩
    · rfl
    · cases (apart right second differs' before' holds).symm.trans rivals
    · cases (apart left first differs before rivals).symm.trans holds
    · exact orderly.alone left right first second before before' holds rivals
  · obtain ⟨other, found⟩ := List.getElem?_of_mem member
    rcases turned_entries turned with ⟨_, same, _⟩ | ⟨kept, held, returned, _⟩
    · rw [same]
      rcases turned_found turned other rival found with ⟨_, rfl⟩ | ⟨_, before⟩
      · rcases turn_dialing cache after errand.inquiry errand.stage stage turned.turn dialing with dialed | missing
        · exact orderly.missing errand (List.mem_of_getElem? turned.found) dialed line
        · exact missing line
      · exact orderly.missing rival (List.mem_of_getElem? before) dialing line
    · -- Whoever adds an entry is alone in dialing, and has just ceased to.
      rcases turned_found turned other rival found with ⟨_, rfl⟩ | ⟨differs, before⟩
      · simp [Errand.isDialing, returned] at dialing
      · have locked : errand.holdsLock = true := by simp [Errand.holdsLock, held]
        exact absurd (orderly.alone other index rival errand before turned.found (dialing_holds rival dialing) locked) differs
  · rcases turned_entries turned with ⟨_, same, _⟩ | ⟨line, dialing, _, added, _⟩
    · rw [same]
      exact orderly.keys
    · rw [added]
      refine keys_append cache.entries _ line orderly.keys ?_
      exact orderly.missing errand (List.mem_of_getElem? turned.found) (by simp [Errand.isDialing, dialing])

theorem orderly_move (cache next : Cache) (move : Move) (does : Does cache next move) (orderly : Orderly cache) :
    Orderly next := by
  cases does with
  | entered inquiry => exact orderly_enter cache inquiry orderly
  | turned _ after index act errand stage turned _ => exact orderly_turned cache next after index errand stage turned orderly
  | drained => exact ⟨orderly.alone, fun _ _ _ _ => List.not_mem_nil, List.nodup_nil⟩
  | worked => exact ⟨orderly.alone, orderly.missing, orderly.keys⟩
  | asked => exact ⟨orderly.alone, orderly.missing, orderly.keys⟩
  | marked => exact ⟨orderly.alone, orderly.missing, orderly.keys⟩
  | closes => exact ⟨orderly.alone, orderly.missing, orderly.keys⟩

-- What holds as long as nobody has asked to close the cache: who has returned with a channel has returned with the one
-- that is entered for its key, and each entry is what the dial of some caller has brought.
structure Filed (cache : Cache) : Prop where
  orderly : Orderly cache
  unclosed : cache.closed = false
  unasked : cache.shutters = []
  results : ∀ errand ∈ cache.errands, ∀ line, errand.stage = .returned (.ok line) →
    (errand.inquiry.key, line) ∈ cache.entries
  sources : ∀ entry ∈ cache.entries, ∃ errand ∈ cache.errands, errand.inquiry.key = entry.1 ∧
    errand.stage = .returned (.ok entry.2)
  connected : cache.entries.length = cache.connected

theorem filed_fresh (root : String) (dialTimeout : Nat) : Filed { root, dialTimeout } where
  orderly := orderly_fresh root dialTimeout
  unclosed := rfl
  unasked := rfl
  results := fun _ member => by cases member
  sources := fun _ member => by cases member
  connected := rfl

theorem filed_enter (cache : Cache) (inquiry : Inquiry) (filed : Filed cache) : Filed (cache.enter inquiry) where
  orderly := orderly_enter cache inquiry filed.orderly
  unclosed := filed.unclosed
  unasked := filed.unasked
  results := by
    intro errand member line returned
    rcases List.mem_append.mp member with before | new
    · exact filed.results errand before line returned
    · rw [List.mem_singleton.mp new] at returned
      cases returned
  sources := by
    intro entry member
    obtain ⟨errand, present, brought⟩ := filed.sources entry member
    exact ⟨errand, List.mem_append_left _ present, brought⟩
  connected := filed.connected

theorem filed_turned (cache next after : Cache) (index : Nat) (errand : Errand) (stage : Errand.Stage)
    (turned : Turned cache next index errand stage after) (filed : Filed cache) : Filed next := by
  obtain ⟨closed, shutters⟩ := turned_keeps turned
  have sources (entry : String × Nat) (member : entry ∈ cache.entries) :
      ∃ rival ∈ next.errands, rival.inquiry.key = entry.1 ∧ rival.stage = .returned (.ok entry.2) := by
    obtain ⟨rival, present, key, returned⟩ := filed.sources entry member
    obtain ⟨other, found⟩ := List.getElem?_of_mem present
    have still := turned_over turned other rival found (by rw [returned]; rfl)
    exact ⟨rival, List.mem_of_getElem? still, key, returned⟩
  refine ⟨orderly_turned cache next after index errand stage turned filed.orderly, closed.trans filed.unclosed,
    shutters.trans filed.unasked, fun rival member line returned => ?_, fun entry member => ?_, ?_⟩
  · rcases turned_mem turned rival member with rfl | before
    · exact turned_files turned line returned
    · exact (turned_grown turned).subset (filed.results rival before line returned)
  · rcases turned_entries turned with ⟨_, same, _⟩ | ⟨line, _, kept, added, _⟩
    · exact sources entry (same ▸ member)
    · rw [added] at member
      rcases List.mem_append.mp member with before | new
      · exact sources entry before
      · rw [List.mem_singleton.mp new]
        exact ⟨_, List.mem_of_getElem? (turned_own turned), rfl, kept⟩
  · rcases turned_entries turned with ⟨_, same, still⟩ | ⟨line, _, _, added, more⟩
    · rw [same, still]
      exact filed.connected
    · rw [added, more, List.length_append, filed.connected]
      rfl

theorem filed_move (cache next : Cache) (move : Move) (does : Does cache next move) (other : move ≠ .shutDown)
    (filed : Filed cache) : Filed next := by
  have orderly := orderly_move cache next move does filed.orderly
  rcases unasked_does cache next move does filed.unasked other with
    ⟨inquiry, rfl⟩ | ⟨index, _, errand, stage, after, _, turned, _⟩ | ⟨number, change, _, rfl⟩
  · exact filed_enter cache inquiry filed
  · exact filed_turned cache next after index errand stage turned filed
  · exact ⟨orderly, filed.unclosed, filed.unasked, filed.results, filed.sources, filed.connected⟩

theorem filed_run (root : String) (dialTimeout : Nat) (moves : List Move) (unasked : .shutDown ∉ moves) :
    Filed (({ root, dialTimeout } : Cache).run moves) :=
  run_keeps Filed moves
    (fun move member cache next does => filed_move cache next move does fun same => unasked (same ▸ member)) _
    (filed_fresh root dialTimeout)

theorem filed_entries (cache next : Cache) (move : Move) (does : Does cache next move) (other : move ≠ .shutDown)
    (filed : Filed cache) : cache.entries <+: next.entries := by
  rcases unasked_does cache next move does filed.unasked other with
    ⟨inquiry, rfl⟩ | ⟨index, _, errand, stage, after, _, turned, _⟩ | ⟨number, change, _, rfl⟩
  · exact List.prefix_rfl
  · exact turned_grown turned
  · exact List.prefix_rfl

theorem later_entries (cache : Cache) (later : List Move) (unasked : .shutDown ∉ later) (filed : Filed cache) :
    Filed (cache.run later) ∧ cache.entries <+: (cache.run later).entries := by
  refine run_keeps (fun after => Filed after ∧ cache.entries <+: after.entries) later ?_ cache ⟨filed, List.prefix_rfl⟩
  intro move member before next does ⟨filed, grown⟩
  have other : move ≠ .shutDown := fun same => unasked (same ▸ member)
  exact ⟨filed_move before next move does other filed, grown.trans (filed_entries before next move does other filed)⟩

end ServiceHost.Cache
