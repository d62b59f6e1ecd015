import ServiceHost.Http.Router

set_option autoImplicit false

namespace ServiceHost.Http

namespace Pattern

theorem conflicts_self (pattern : Pattern) : conflicts pattern pattern = true := by
  induction pattern with
  | nil => rfl
  | cons segment rest ih => cases segment <;> simp [conflicts, ih]

theorem conflicts_comm (a b : Pattern) : conflicts a b = conflicts b a := by
  induction a generalizing b with
  | nil =>
      cases b with
      | nil => rfl
      | cons other more => cases other <;> rfl
  | cons segment rest ih =>
      cases b with
      | nil => cases segment <;> rfl
      | cons other more =>
          have same (x y : List Char) : decide (x = y) = decide (y = x) := decide_eq_decide.mpr eq_comm
          cases segment <;> cases other <;> simp [conflicts, ih more, same]

end Pattern

section

variable {α : Type}

def Route.taken? (route : Route α) (path : String) : Option Captures :=
  (segments? path.toList).bind route.pattern.captures?

namespace Router

theorem clashes_comm (a b : Route α) : clashes a b = clashes b a := by
  unfold clashes
  by_cases same : a.pattern = b.pattern
  · rw [if_pos same, if_pos same.symm]
    exact decide_eq_decide.mpr eq_comm
  · rw [if_neg same, if_neg (Ne.symm same), Pattern.conflicts_comm]

theorem alike_clash (a b : Route α) (alike : a.accepts = b.accepts) : clashes a b = a.pattern.conflicts b.pattern := by
  unfold clashes
  split
  · rename_i same
    rw [same, Pattern.conflicts_self, decide_eq_true alike]
  · rfl

theorem add_all_iff (router routes result : Router α) :
    addAll? router routes = some result ↔ result = router ++ routes ∧
      (∀ held ∈ router, ∀ route ∈ routes, clashes held route = false) ∧
        routes.Pairwise fun a b => clashes a b = false := by
  induction routes generalizing router with
  | nil => simp [addAll?, eq_comm (a := router)]
  | cons route rest ih =>
      by_cases clash : router.any (clashes route) = true
      · have refused : addAll? router (route :: rest) = none := by simp [addAll?, add?, clash]
        obtain ⟨held, inside, clashing⟩ := List.any_eq_true.mp clash
        refine ⟨fun built => ?_, fun built => ?_⟩
        · rw [refused] at built
          cases built
        · have clear := built.2.1 held inside route List.mem_cons_self
          rw [clashes_comm, clear] at clashing
          cases clashing
      · have added : addAll? router (route :: rest) = addAll? (router ++ [route]) rest := by simp [addAll?, add?, clash]
        have clear : ∀ held ∈ router, clashes held route = false := by
          intro held inside
          rw [clashes_comm]
          exact Bool.eq_false_iff.mpr fun clashing => clash (List.any_eq_true.mpr ⟨held, inside, clashing⟩)
        rw [added, ih, List.append_assoc, List.singleton_append, List.pairwise_cons]
        simp only [List.forall_mem_append, List.forall_mem_singleton, List.forall_mem_cons]
        constructor
        · rintro ⟨rfl, ⟨earlier, own⟩, later⟩
          exact ⟨rfl, fun held inside => ⟨clear held inside, earlier held inside⟩, own, later⟩
        · rintro ⟨rfl, earlier, own, later⟩
          exact ⟨rfl, ⟨fun held inside => (earlier held inside).2, own⟩, later⟩

theorem built_iff (routes router : Router α) :
    addAll? [] routes = some router ↔ router = routes ∧ routes.Pairwise fun a b => clashes a b = false := by
  simp [add_all_iff]

-- A scan that keeps its best find or takes the next one ends with one of them, if there were any.
theorem chosen_found {β : Type} (choose : Option β → β → Option β) (chooses : ∀ best next, choose best next = some next ∨
    best.isSome = true ∧ choose best next = best) (found : List β) (best : Option β) :
    (found = [] ∧ best = none ∧ found.foldl choose best = none) ∨
      ∃ chosen, (best = some chosen ∨ chosen ∈ found) ∧ found.foldl choose best = some chosen := by
  induction found generalizing best with
  | nil => cases best <;> simp
  | cons next rest ih =>
      refine .inr ?_
      rw [List.foldl_cons]
      rcases ih (choose best next) with ⟨rfl, none, -⟩ | ⟨chosen, origin, ended⟩
      · rcases chooses best next with taken | ⟨some_best, kept⟩
        · exact absurd (taken.symm.trans none) (by simp)
        · rw [kept] at none
          rw [none] at some_best
          cases some_best
      · refine ⟨chosen, ?_, ended⟩
        rcases origin with last | later
        · rcases chooses best next with taken | ⟨-, kept⟩
          · exact .inr (Option.some.inj (last.symm.trans taken) ▸ List.mem_cons_self)
          · exact .inl (kept.symm.trans last)
        · exact .inr (.tail _ later)

def better (best : Option (Pattern × Captures)) (found : Pattern × Captures) : Option (Pattern × Captures) :=
  best.elim (some found) fun chosen => if found.1.precedes chosen.1 then some found else some chosen

theorem preferred_scan (router : Router α) (parts : List (List Char)) : router.preferred? parts =
    (router.filterMap fun route => (route.pattern.captures? parts).map (route.pattern, ·)).foldl better none := by
  unfold preferred?
  congr 1
  funext best found
  cases best <;> rfl

theorem better_chooses (best : Option (Pattern × Captures)) (next : Pattern × Captures) :
    better best next = some next ∨ best.isSome = true ∧ better best next = best := by
  cases best with
  | none => exact .inl rfl
  | some chosen =>
      rw [better, Option.elim_some]
      split
      · exact .inl rfl
      · exact .inr ⟨rfl, rfl⟩

theorem preferred_cases (router : Router α) (parts : List (List Char)) :
    (router.preferred? parts = none ∧ ∀ route ∈ router, route.pattern.captures? parts = none) ∨
      ∃ route ∈ router, ∃ captures, route.pattern.captures? parts = some captures ∧
        router.preferred? parts = some (route.pattern, captures) := by
  have scan := chosen_found better better_chooses
    (router.filterMap fun route => (route.pattern.captures? parts).map (route.pattern, ·)) none
  rw [← preferred_scan] at scan
  rcases scan with ⟨nothing, -, ended⟩ | ⟨chosen, origin, ended⟩
  · refine .inl ⟨ended, fun route inside => ?_⟩
    simpa using List.filterMap_eq_nil_iff.mp nothing route inside
  · obtain ⟨route, inside, matched⟩ := List.mem_filterMap.mp (origin.resolve_left (by simp))
    obtain ⟨captures, taken, rfl⟩ := Option.map_eq_some_iff.mp matched
    exact .inr ⟨route, inside, captures, taken, ended⟩

theorem find_cases (router : Router α) (method : Method) (path : String) :
    (router.find method path = .unknown ∧ ∀ route ∈ router, route.taken? path = none) ∨
      ∃ chosen ∈ router, ∃ captures, chosen.taken? path = some captures ∧
        ((∃ route ∈ router, route.pattern = chosen.pattern ∧ route.accepts.serves method = true ∧
            router.find method path = .served route.handler captures) ∨
          (∀ route ∈ router, route.pattern = chosen.pattern → route.accepts.serves method = false) ∧
            router.find method path =
              .refused ((router.filter fun route => route.pattern = chosen.pattern).flatMap fun route => route.accepts.allowed)) := by
  unfold find Route.taken?
  cases segments? path.toList with
  | none => exact .inl ⟨rfl, fun _ _ => rfl⟩
  | some parts =>
      simp only [Option.bind_some]
      rcases preferred_cases router parts with ⟨preferred, free⟩ | ⟨chosen, inside, captures, taken, preferred⟩
      · exact .inl ⟨by rw [preferred], free⟩
      · refine .inr ⟨chosen, inside, captures, taken, ?_⟩
        simp only [preferred]
        split
        · rename_i route found
          rcases Option.or_eq_some_iff.mp found with exact_found | ⟨-, any_found⟩
          · have met := List.find?_some exact_found
            have here := List.mem_filter.mp (List.mem_of_find?_eq_some exact_found)
            refine .inl ⟨route, here.1, by simpa using here.2, ?_, rfl⟩
            simp only [Bool.and_eq_true] at met
            exact met.2
          · have met := List.find?_some any_found
            have here := List.mem_filter.mp (List.mem_of_find?_eq_some any_found)
            refine .inl ⟨route, here.1, by simpa using here.2, ?_, rfl⟩
            rw [of_decide_eq_true met]
            rfl
        · rename_i missed
          refine .inr ⟨fun route held same => ?_, rfl⟩
          have here : route ∈ router.filter fun route => route.pattern = chosen.pattern :=
            List.mem_filter.mpr ⟨held, decide_eq_true same⟩
          obtain ⟨exact_missed, any_missed⟩ := Option.or_eq_none_iff.mp missed
          have exacting := List.find?_eq_none.mp exact_missed route here
          have lenient := List.find?_eq_none.mp any_missed route here
          simp_all

theorem sole_of_pattern (router : Router α) (apart : router.Pairwise fun a b => a.pattern ≠ b.pattern) (chosen : Route α)
    (inside : chosen ∈ router) : router.filter (fun route => route.pattern = chosen.pattern) = [chosen] := by
  induction apart with
  | nil => cases inside
  | @cons head rest others _ ih =>
      rcases List.mem_cons.mp inside with rfl | later
      · have none_else : rest.filter (fun route => route.pattern = chosen.pattern) = [] :=
          List.filter_eq_nil_iff.mpr fun route held => by simpa using Ne.symm (others route held)
        rw [List.filter_cons, if_pos (decide_eq_true rfl), none_else]
      · rw [List.filter_cons, if_neg (by simpa using others chosen later), ih later]

theorem open_find (router : Router α) (everywhere : ∀ route ∈ router, route.accepts = .any)
    (apart : router.Pairwise fun a b => a.pattern ≠ b.pattern) (method : Method) (path : String) :
    (router.find method path = .unknown ∧ ∀ route ∈ router, route.taken? path = none) ∨
      ∃ route ∈ router, ∃ captures, route.taken? path = some captures ∧
        router.find method path = .served route.handler captures := by
  refine (find_cases router method path).imp_right ?_
  rintro ⟨chosen, inside, captures, taken, found⟩
  have sole := sole_of_pattern router apart chosen inside
  refine ⟨chosen, inside, captures, taken, ?_⟩
  rcases found with ⟨route, held, same, -, found⟩ | ⟨refusing, found⟩
  · have here : route ∈ router.filter fun route => route.pattern = chosen.pattern :=
      List.mem_filter.mpr ⟨held, decide_eq_true same⟩
    rw [sole, List.mem_singleton] at here
    subst here
    exact found
  · have missed := refusing chosen inside rfl
    rw [everywhere chosen inside] at missed
    cases missed

end Router

def Route.map {β : Type} (f : α → β) (route : Route α) : Route β :=
  { pattern := route.pattern, accepts := route.accepts, handler := f route.handler }

def Routed.map {β : Type} (f : α → β) : Routed α → Routed β
  | .served handler captures => .served (f handler) captures
  | .refused allow => .refused allow
  | .unknown => .unknown

namespace Router

variable {β : Type} (f : α → β)

end Router

end

end ServiceHost.Http
