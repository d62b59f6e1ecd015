import Mathlib.Data.List.Nodup
import ServiceHost.Proofs.Rpc.Descriptor

set_option autoImplicit false

namespace ServiceHost.Rpc.Services

open Http

def Refuses (services : Services) (descriptor : Descriptor) : Prop :=
  Name.isValid descriptor.name = false ∨ descriptor.name ∈ services.names ∨
    (∃ method ∈ descriptor.methods, method = "" ∨ '/' ∈ method.toList) ∨ ¬descriptor.methods.Nodup

theorem unrefused_iff (services : Services) (descriptor : Descriptor) :
    ¬services.Refuses descriptor ↔ descriptor.IsSound ∧ descriptor.name ∉ services.names := by
  unfold Refuses
  rw [not_or, not_or, not_or, not_not, Bool.not_eq_false]
  constructor
  · rintro ⟨named, unclaimed, listed, unrepeated⟩
    refine ⟨⟨named, fun method inside => ?_, unrepeated⟩, unclaimed⟩
    exact not_or.mp fun malformed => listed ⟨method, inside, malformed⟩
  · rintro ⟨sound, unclaimed⟩
    refine ⟨sound.named, unclaimed, ?_, sound.unrepeated⟩
    rintro ⟨method, inside, malformed⟩
    exact not_or.mpr (sound.listed method inside) malformed

theorem register_cases (services : Services) (service : Service) :
    (services.Refuses service.descriptor ∧ ∃ error, services.register service = .error (.config error)) ∨
      (¬services.Refuses service.descriptor ∧ ¬service.descriptor.IsRoutable ∧
        services.register service = .error .route) ∨
      (¬services.Refuses service.descriptor ∧ service.descriptor.IsRoutable ∧
        services.register service = .ok { registered := services.registered ++ [service] }) := by
  have faulty := Descriptor.fault_free_iff service.descriptor
  unfold register
  cases fault : service.descriptor.fault? with
  | some error =>
      refine .inl ⟨Classical.byContradiction fun unrefused => ?_, error, rfl⟩
      rw [faulty.mpr ((unrefused_iff services _).mp unrefused).1] at fault
      cases fault
  | none =>
      have sound := faulty.mp fault
      by_cases claimed : service.descriptor.name ∈ services.names
      · exact .inl ⟨.inr (.inl claimed), _, if_pos claimed⟩
      · have unrefused := (unrefused_iff services service.descriptor).mpr ⟨sound, claimed⟩
        have routable := service.routable_iff sound
        cases routed : service.routes? with
        | none =>
            refine .inr (.inl ⟨unrefused, fun can => ?_, by simp [claimed]⟩)
            rw [routed] at routable
            cases routable.mpr can
        | some routes => exact .inr (.inr ⟨unrefused, routable.mp (by rw [routed]; rfl), by simp [claimed]⟩)

inductive Takes (services : Services) (service : Service) : Option ConfigError → Services → Prop where
  | added (after : Services) (registered : services.register service = .ok after) : Takes services service none after
  | refused (error : ConfigError) (registered : services.register service = .error (.config error)) :
      Takes services service (some error) services

theorem register_all_step (services after : Services) (service : Service) (answer : Option ConfigError)
    (takes : Takes services service answer after) (rest : List Service) :
    services.registerAll (service :: rest) = (after.registerAll rest).map fun (told, last) => (answer :: told, last) := by
  cases takes with
  | added _ registered => rw [registerAll, registered]
  | refused _ registered => rw [registerAll, registered]

theorem register_all_cons (services last : Services) (service : Service) (rest : List Service)
    (told : List (Option ConfigError)) (made : services.registerAll (service :: rest) = some (told, last)) :
    ∃ answer after later, Takes services service answer after ∧ after.registerAll rest = some (later, last) ∧
      told = answer :: later := by
  have found : ∃ answer after, Takes services service answer after := by
    cases registered : services.register service with
    | ok after => exact ⟨none, after, .added after registered⟩
    | error error =>
        cases error with
        | config error => exact ⟨some error, services, .refused error registered⟩
        | route =>
            rw [registerAll, registered] at made
            cases made
  obtain ⟨answer, after, takes⟩ := found
  rw [register_all_step services after service answer takes] at made
  obtain ⟨⟨later, _⟩, continued, same⟩ := Option.map_eq_some_iff.mp made
  cases same
  exact ⟨answer, after, later, takes, continued, rfl⟩

theorem register_all_snoc (services last : Services) (calls : List Service) (next : Service)
    (told : List (Option ConfigError)) (made : services.registerAll calls = some (told, last)) :
    services.registerAll (calls ++ [next]) = (last.registerAll [next]).map fun (answer, after) => (told ++ answer, after) := by
  induction calls generalizing services told with
  | nil =>
      cases made
      simp
  | cons service rest ih =>
      obtain ⟨answer, after, later, takes, continued, rfl⟩ := register_all_cons services last service rest told made
      rw [List.cons_append, register_all_step services after service answer takes, ih after later continued, Option.map_map]
      rfl

-- What holds of the services whichever way they have been registered.
structure IsOrderly (services : Services) : Prop where
  distinct : services.names.Nodup
  sound : ∀ service ∈ services.registered, service.descriptor.IsSound
  routable : ∀ service ∈ services.registered, service.descriptor.IsRoutable

theorem call_keeps_order (services after : Services) (service : Service) (answer : Option ConfigError)
    (orderly : services.IsOrderly) (takes : Takes services service answer after) : after.IsOrderly := by
  cases takes with
  | refused => exact orderly
  | added _ registered =>
      rcases register_cases services service with ⟨-, error, refused⟩ | ⟨-, -, refused⟩ | ⟨unrefused, routable, taken⟩
      · rw [refused] at registered
        cases registered
      · rw [refused] at registered
        cases registered
      · rw [taken] at registered
        cases registered
        obtain ⟨sound, unclaimed⟩ := (unrefused_iff services _).mp unrefused
        have names : Services.names { registered := services.registered ++ [service] } =
            services.names ++ [service.descriptor.name] := by simp [names]
        refine ⟨?_, List.forall_mem_append.mpr ⟨orderly.sound, by simpa using sound⟩,
          List.forall_mem_append.mpr ⟨orderly.routable, by simpa using routable⟩⟩
        rw [names]
        exact List.Nodup.append orderly.distinct (List.nodup_singleton _) (by simpa using unclaimed)

theorem calls_keep_order (services last : Services) (calls : List Service) (told : List (Option ConfigError))
    (orderly : services.IsOrderly) (made : services.registerAll calls = some (told, last)) : last.IsOrderly := by
  induction calls generalizing services told with
  | nil =>
      cases made
      exact orderly
  | cons service rest ih =>
      obtain ⟨answer, after, later, takes, continued, -⟩ := register_all_cons services last service rest told made
      exact ih after later (call_keeps_order services after service answer orderly takes) continued

section

variable (services : Services) (orderly : services.IsOrderly)

include orderly

theorem same_name_same_service (a b : Service) (inside : a ∈ services.registered) (other : b ∈ services.registered)
    (same : a.descriptor.name = b.descriptor.name) : a = b :=
  List.inj_on_of_nodup_map orderly.distinct inside other same

theorem service_routes (service : Service) (inside : service ∈ services.registered) :
    ∃ segments, service.descriptor.readParts? = some segments ∧
      (segments.Pairwise fun a b => Pattern.conflicts [a] [b] = false) ∧
        service.routes?.getD [] = segments.map service.route := by
  obtain ⟨segments, read, apart⟩ := orderly.routable service inside
  refine ⟨segments, read, apart, ?_⟩
  rw [(service.routes_iff (orderly.sound service inside) _).mpr ⟨segments, read, apart, rfl⟩]
  rfl

theorem mem_router_iff (route : Route Handler) : route ∈ services.router ↔ ∃ service ∈ services.registered,
    ∃ part ∈ service.descriptor.parts, ∃ segment, Segment.ofChars? part.toList = some segment ∧
      route = service.route segment := by
  unfold router
  rw [List.mem_flatMap]
  refine exists_congr fun service => and_congr_right fun inside => ?_
  obtain ⟨segments, read, -, routes⟩ := service_routes services orderly service inside
  rw [routes, List.mem_map]
  constructor
  · rintro ⟨segment, held, rfl⟩
    obtain ⟨part, inside, read⟩ := (service.descriptor.segment_iff segments read segment).mp held
    exact ⟨part, inside, segment, read, rfl⟩
  · rintro ⟨part, inside, segment, reading, rfl⟩
    exact ⟨segment, (service.descriptor.segment_iff segments read segment).mpr ⟨part, inside, reading⟩, rfl⟩

theorem routes_apart : services.router.Pairwise fun a b => Router.clashes a b = false := by
  unfold router
  refine List.pairwise_flatMap.mpr ⟨fun service inside => ?_, ?_⟩
  · obtain ⟨segments, -, apart, routes⟩ := service_routes services orderly service inside
    rw [routes, List.pairwise_map]
    simpa only [Service.routes_clash] using apart
  · have distinct : services.registered.Pairwise fun a b => a.descriptor.name ≠ b.descriptor.name :=
      List.pairwise_map.mp orderly.distinct
    refine distinct.imp_of_mem fun {a b} inside other different route held more kept => ?_
    obtain ⟨_, -, -, routes⟩ := service_routes services orderly a inside
    obtain ⟨_, -, -, others⟩ := service_routes services orderly b other
    rw [routes] at held
    rw [others] at kept
    obtain ⟨segment, -, rfl⟩ := List.mem_map.mp held
    obtain ⟨behind, -, rfl⟩ := List.mem_map.mp kept
    rw [Router.alike_clash (a.route segment) (b.route behind) rfl]
    simpa [Service.route, Pattern.conflicts, String.toList_inj] using fun same => absurd same different

theorem routes_open (route : Route Handler) (inside : route ∈ services.router) : route.accepts = .any := by
  obtain ⟨_, _, _, _, _, _, rfl⟩ := (mem_router_iff services orderly route).mp inside
  rfl

theorem patterns_apart : services.router.Pairwise fun a b => a.pattern ≠ b.pattern := by
  refine (routes_apart services orderly).imp_of_mem fun {a b} inside other clear same => ?_
  have alike : a.accepts = b.accepts := by rw [routes_open services orderly a inside, routes_open services orderly b other]
  rw [Router.alike_clash a b alike, same, Pattern.conflicts_self] at clear
  cases clear

theorem served_iff (service : Service) (inside : service ∈ services.registered) (path : String) :
    service.descriptor.Serves path ↔ ∃ part ∈ service.descriptor.parts, ∃ segment,
      Segment.ofChars? part.toList = some segment ∧ ((service.route segment).taken? path).isSome = true := by
  have free := Registration.valid_slash_free _ (orderly.sound service inside).named
  refine exists_congr fun part => and_congr_right fun _ => exists_congr fun segment => and_congr_right fun _ => ?_
  rw [Route.taken?, Service.route, Pattern.name_captures _ _ _ free]
  simp only [Descriptor.under_name_iff]

theorem alone_at_path (a b : Service) (inside : a ∈ services.registered) (other : b ∈ services.registered) (path : String)
    (served : a.descriptor.Serves path) (too : b.descriptor.Serves path) : a = b := by
  obtain ⟨_, _, _, _, tail, under, _⟩ := served
  obtain ⟨_, _, _, _, more, below, _⟩ := too
  rw [Descriptor.under_name_iff] at under below
  have split := Registration.separator_split _ _ _ _
    (Registration.valid_slash_free _ (orderly.sound a inside).named)
    (Registration.valid_slash_free _ (orderly.sound b other).named) (List.cons.inj (under.symm.trans below)).2
  exact same_name_same_service services orderly a b inside other (String.toList_inj.mp split.1)

theorem router_merges : Router.addAll? [] services.router = some services.router :=
  (Router.built_iff _ _).mpr ⟨rfl, routes_apart services orderly⟩

end

-- Each path leads to the one service that serves it, and a path that none serves is unimplemented.
structure RoutesBy (services : Services) (serves : Descriptor → String → Prop) : Prop where
  sent : ∀ service ∈ services.registered, ∀ path, serves service.descriptor path → ∀ method, ∃ captures,
    services.router.find method path = .served service.handler captures
  alone : ∀ a ∈ services.registered, ∀ b ∈ services.registered, ∀ path, serves a.descriptor path →
    serves b.descriptor path → a = b
  unserved : ∀ request : Request, (∀ service ∈ services.registered, ¬serves service.descriptor request.path) →
    services.router.find request.method request.path = .unknown ∧
      services.plane request = Status.response { code := .unimplemented, message := "unknown method " ++ request.path }

theorem bodiless_trimmed (method : Method) (status : Status) : status.response.trim method = status.response := by
  cases method <;> simp [Response.trim, Status.response]

theorem orderly_routes (services : Services) (orderly : services.IsOrderly) : services.RoutesBy Descriptor.Serves := by
  have found := Router.open_find services.router (routes_open services orderly) (patterns_apart services orderly)
  refine ⟨fun service inside path served method => ?_, fun a inside b other path => ?_, fun request unserved => ?_⟩
  · rcases found method path with ⟨-, free⟩ | ⟨route, held, captures, taken, found⟩
    · obtain ⟨part, listed, segment, read, taken⟩ := (served_iff services orderly service inside path).mp served
      have held := (mem_router_iff services orderly _).mpr ⟨service, inside, part, listed, segment, read, rfl⟩
      rw [free _ held] at taken
      cases taken
    · obtain ⟨owner, owns, part, listed, segment, read, rfl⟩ := (mem_router_iff services orderly route).mp held
      have serving := (served_iff services orderly owner owns path).mpr
        ⟨part, listed, segment, read, Option.isSome_of_eq_some taken⟩
      cases alone_at_path services orderly service owner inside owns path served serving
      exact ⟨captures, found⟩
  · exact alone_at_path services orderly a b inside other path
  · have unknown : services.router.find request.method request.path = .unknown := by
      rcases found request.method request.path with ⟨unknown, -⟩ | ⟨route, held, captures, taken, -⟩
      · exact unknown
      · obtain ⟨owner, owns, part, listed, segment, read, rfl⟩ := (mem_router_iff services orderly route).mp held
        exact absurd ((served_iff services orderly owner owns request.path).mpr
          ⟨part, listed, segment, read, Option.isSome_of_eq_some taken⟩) (unserved owner owns)
    refine ⟨unknown, ?_⟩
    rw [plane, Router.dispatch, unknown]
    exact bodiless_trimmed request.method _

structure Answers (calls : List Service) (told : List (Option ConfigError)) (services : Services) (next : Service) : Prop where
  refused : services.Refuses next.descriptor → ∃ error,
    registerAll {} (calls ++ [next]) = some (told ++ [some error], services)
  added : ¬services.Refuses next.descriptor → next.descriptor.IsRoutable →
    registerAll {} (calls ++ [next]) = some (told ++ [none], { registered := services.registered ++ [next] })
  panics : ¬services.Refuses next.descriptor → ¬next.descriptor.IsRoutable → registerAll {} (calls ++ [next]) = none

theorem next_answered (calls : List Service) (told : List (Option ConfigError)) (services : Services) (next : Service)
    (made : registerAll {} calls = some (told, services)) : Answers calls told services next := by
  have continued := register_all_snoc {} services calls next told made
  simp only [registerAll] at continued
  rcases register_cases services next with ⟨refuses, error, refused⟩ | ⟨unrefused, unroutable, refused⟩ | ⟨unrefused, routable, taken⟩
  · rw [refused] at continued
    exact ⟨fun _ => ⟨error, continued⟩, fun unrefused => absurd refuses unrefused, fun unrefused => absurd refuses unrefused⟩
  · rw [refused] at continued
    exact ⟨fun refuses => absurd refuses unrefused, fun _ routable => absurd routable unroutable, fun _ _ => continued⟩
  · rw [taken] at continued
    exact ⟨fun refuses => absurd refuses unrefused, fun _ _ => continued, fun _ unroutable => absurd routable unroutable⟩

theorem declared_methods_routed_unless_patterns (calls : List Service) (told : List (Option ConfigError)) (services : Services)
    (made : registerAll {} calls = some (told, services)) :
    (∀ next, Answers calls told services next) ∧
      (∀ next : Service, ¬services.Refuses next.descriptor → next.descriptor.IsPlain → next.descriptor.IsRoutable) ∧
      Router.addAll? [] services.router = some services.router ∧ services.RoutesBy Descriptor.Serves ∧
      ∀ service ∈ services.registered, service.descriptor.IsPlain → ∀ path,
        service.descriptor.Serves path ↔ service.descriptor.Declares path := by
  have orderly := calls_keep_order {} services calls told ⟨List.nodup_nil, nofun, nofun⟩ made
  refine ⟨fun next => next_answered calls told services next made, fun next unrefused plain => ?_,
    router_merges services orderly, orderly_routes services orderly, fun service inside plain path => ?_⟩
  · exact next.descriptor.plain_routable ((unrefused_iff services _).mp unrefused).1 plain
  · exact service.descriptor.plain_serves_iff (orderly.sound service inside) plain path

def sum : Handler := fun _ => .answered (.ofText "sum")

def calculator (methods : List String) : Service := { descriptor := { name := "calc", methods }, handler := sum }

def echo : Service := { descriptor := { name := "echo" }, handler := sum }

theorem twice_refused : registerAll {} [calculator ["Add"], calculator ["Sub"], echo] =
    some ([none, some (.invalid "rpc service calc registered twice"), none], { registered := [calculator ["Add"], echo] }) := by
  have first : (calculator ["Add"]).descriptor.fault? = none ∧ (calculator ["Add"]).routes?.isNone = false := by decide +kernel
  have second : (calculator ["Sub"]).descriptor.fault? = none := by decide +kernel
  have third : echo.descriptor.fault? = none ∧ echo.routes?.isNone = false := by decide +kernel
  have names : (calculator ["Add"]).descriptor.name = "calc" ∧ (calculator ["Sub"]).descriptor.name = "calc" ∧
      echo.descriptor.name = "echo" := ⟨rfl, rfl, rfl⟩
  simp [registerAll, register, Services.names, first, second, third, names]

theorem calculator_and_echo_routed :
    registerAll {} [calculator ["Add"], calculator ["Sub"], echo] =
        some ([none, some (.invalid "rpc service calc registered twice"), none], { registered := [calculator ["Add"], echo] }) ∧
      RoutesBy { registered := [calculator ["Add"], echo] } Descriptor.Serves ∧
      ∀ path, (calculator ["Add"]).descriptor.Serves path ↔ (calculator ["Add"]).descriptor.Declares path := by
  obtain ⟨-, -, -, routed, plain⟩ := declared_methods_routed_unless_patterns _ _ _ twice_refused
  refine ⟨twice_refused, routed, plain (calculator ["Add"]) List.mem_cons_self fun method listed => ?_⟩
  rw [List.mem_singleton.mp listed]
  decide +kernel

def capturing : Service := calculator ["{any}"]

theorem capturing_registered : registerAll {} [capturing] = some ([none], { registered := [capturing] }) := by
  have fine : capturing.descriptor.fault? = none ∧ capturing.routes?.isNone = false := by decide +kernel
  simp [registerAll, register, Services.names, fine]

-- A method that begins with a colon is no segment, and one in braces takes the place of every other.
theorem patterns_pass_for_methods :
    (¬∀ (services : Services) (next : Service), services.register next = .error .route → services.Refuses next.descriptor) ∧
      ¬∀ (calls : List Service) (told : List (Option ConfigError)) (services : Services),
        registerAll {} calls = some (told, services) → services.RoutesBy Descriptor.Declares := by
  refine ⟨fun refuses => ?_, fun routes => ?_⟩
  · have fine : (calculator [":id"]).descriptor.fault? = none ∧ (calculator [":id"]).routes?.isNone = true := by decide +kernel
    have failed : register {} (calculator [":id"]) = .error .route := by simp [register, Services.names, fine]
    have sound := (Descriptor.fault_free_iff _).mp fine.1
    exact (unrefused_iff {} (calculator [":id"]).descriptor).mpr ⟨sound, List.not_mem_nil⟩ (refuses {} _ failed)
  · have routed := routes [capturing] [none] _ capturing_registered
    have undeclared : ¬capturing.descriptor.Declares "/calc/Sub" := by
      rintro ⟨method, same, listed | ⟨none, -⟩⟩
      · rw [List.mem_singleton.mp listed] at same
        exact absurd same (by decide +kernel)
      · cases none
    have told := (routed.unserved { method := .post, path := "/calc/Sub" } (by simpa using undeclared)).2
    have served : ({ registered := [capturing] } : Services).plane { method := .post, path := "/calc/Sub" } ≠
        Status.response { code := .unimplemented, message := "unknown method /calc/Sub" } := by decide +kernel
    exact served told

end ServiceHost.Rpc.Services
